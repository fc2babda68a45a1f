import CodePlayground.Sample.Cache

/-!
The loads of one cache. Any number of loads may be under way; each is known by a ticket and carries
what it is for. Between its lookup and its completion a load waits for its text, and meanwhile others
begin and finish in any order.
-/

namespace CodePlayground

/-- A load that waits for the text of its entry. -/
structure WaitingLoad (τ : Type) where
  ticket : Nat
  purpose : τ
  entry : SampleEntry
  deriving DecidableEq, Repr

structure Loads (τ : Type) where
  cache : SampleCache
  waiting : List (WaitingLoad τ)
  /-- How many loads have begun; the next one's ticket. -/
  begun : Nat
  deriving DecidableEq, Repr

/-- How a load begins. -/
inductive LoadStart where
  /-- It is over at once. -/
  | over (result : Except SampleError Sample)
  /-- It waits for a text. -/
  | fetch (ticket : Nat) (path : String)

/-- The texts that a fetcher serves: a request is answered at once, or later under its ticket. -/
class TextService (φ : Type) where
  ask : φ → Nat → String → φ × Option (Except FetchError String)

namespace Loads

variable {τ φ : Type}

def ofManifest (manifest : Manifest) : Loads τ := ⟨.ofManifest manifest, [], 0⟩

/-- Begins a load: looks the sample up and starts the fetch if it is not stored. -/
def start (loads : Loads τ) (purpose : τ) (id : String) : Loads τ × LoadStart :=
  let ticket := loads.begun
  let after := { loads with begun := ticket + 1 }
  match loads.cache.lookup id with
  | .stored sample => (after, .over (.ok sample))
  | .unknown => (after, .over (.error (.notFound id)))
  | .fetch entry =>
    ({ after with waiting := loads.waiting ++ [⟨ticket, purpose, entry⟩] },
      .fetch ticket entry.path)

/-- Finishes the waiting load of a ticket with what was fetched for it. -/
def finish? (loads : Loads τ) (ticket : Nat) (fetched : Except FetchError String) :
    Option (Loads τ × τ × Except SampleError Sample) :=
  (loads.waiting.find? (·.ticket = ticket)).map fun load =>
    let (cache, result) := loads.cache.complete load.entry fetched
    ({ loads with cache, waiting := loads.waiting.filter (·.ticket ≠ ticket) },
      load.purpose, result)

/-- Begins a load and asks for its text; the result is there at once unless the text is not. -/
def ask [TextService φ] (loads : Loads τ) (texts : φ) (purpose : τ) (id : String) :
    Loads τ × φ × Option (Except SampleError Sample) :=
  match loads.start purpose id with
  | (loads, .over result) => (loads, texts, some result)
  | (loads, .fetch ticket path) =>
    match TextService.ask texts ticket path with
    | (texts, none) => (loads, texts, none)
    | (texts, some fetched) =>
      match loads.finish? ticket fetched with
      | some (loads, _, result) => (loads, texts, some result)
      | none => (loads, texts, none)

end Loads

end CodePlayground
