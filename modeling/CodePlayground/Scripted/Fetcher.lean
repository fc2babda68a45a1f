import CodePlayground.Sample.Loads

/-!
A scripted fetcher. It serves texts and failures by path, lets gated paths wait until they are
released, and keeps a list of what it was asked for. Texts that are preloaded stand in front of it.
-/

namespace CodePlayground.Scripted

structure Fetcher where
  preloaded : List (String × String)
  texts : List (String × String)
  failures : List (String × FetchError)
  gated : List String
  /-- The requests that wait, by path and ticket, the oldest first. -/
  waiting : List (String × Nat)
  /-- The paths asked for, in order. -/
  calls : List String

namespace Fetcher

/-- What a path that is not gated is answered. -/
def answer (fetcher : Fetcher) (path : String) : Except FetchError String :=
  match fetcher.failures.lookup path, fetcher.texts.lookup path with
  | some failure, _ => .error failure
  | none, some text => .ok text
  | none, none => .error (.status path 404)

def ask (fetcher : Fetcher) (ticket : Nat) (path : String) :
    Fetcher × Option (Except FetchError String) :=
  match fetcher.preloaded.lookup path with
  | some text => (fetcher, some (.ok text))
  | none =>
    let asked := { fetcher with calls := fetcher.calls ++ [path] }
    if path ∈ fetcher.gated then
      ({ asked with waiting := fetcher.waiting ++ [(path, ticket)] }, none)
    else (asked, some (fetcher.answer path))

instance : TextService Fetcher := ⟨ask⟩

def serve (fetcher : Fetcher) (path text : String) : Fetcher :=
  { fetcher with
    texts := (path, text) :: fetcher.texts
    failures := fetcher.failures.filter (·.1 ≠ path) }

def fail (fetcher : Fetcher) (path : String) (failure : FetchError) : Fetcher :=
  { fetcher with failures := (path, failure) :: fetcher.failures }

/-- Gates a path, and tells whether it was open. -/
def gate (fetcher : Fetcher) (path : String) : Fetcher × Bool :=
  if path ∈ fetcher.gated then (fetcher, false)
  else ({ fetcher with gated := path :: fetcher.gated }, true)

/-- Opens a path, and tells whether it was gated; those that wait already go on waiting. -/
def ungate (fetcher : Fetcher) (path : String) : Fetcher × Bool :=
  ({ fetcher with gated := fetcher.gated.filter (· ≠ path) }, path ∈ fetcher.gated)

/-- Lets the first request that waits for a path go, and gives its ticket. -/
def release (fetcher : Fetcher) (path : String) : Fetcher × Option Nat :=
  match fetcher.waiting.find? (·.1 = path) with
  | some waiter => ({ fetcher with waiting := fetcher.waiting.erase waiter }, some waiter.2)
  | none => (fetcher, none)

end Fetcher

end CodePlayground.Scripted
