import CodePlayground.Proofs.Interpreter.Performance

/-!
How a context calls its interpreter. An interpreter can be watched: it goes on as before and keeps a
list of the calls that it has received. Each request that a context handles makes two calls, one to
execute and one to clean up, under one module name, and the names of different requests differ if
the random numbers do.
-/

namespace CodePlayground

namespace ModuleName

theorem hexDigit_inj {a b : Nat} (small : a < 16) (small_ : b < 16)
    (same : hexDigit a = hexDigit b) : a = b := by
  have values : ∀ a b : Fin 16, hexDigit a = hexDigit b → a = b := by decide
  exact congrArg Fin.val (values ⟨a, small⟩ ⟨b, small_⟩ same)

theorem length_hexDigits (count n : Nat) : (hexDigits count n).length = count := by
  induction count generalizing n with
  | zero => rfl
  | succ count ih => simp [hexDigits, ih]

/-- Numbers that the digits have room for are told apart by them. -/
theorem hexDigits_inj {count a b : Nat} (room : a < Nat.pow 16 count)
    (room_ : b < Nat.pow 16 count) (same : hexDigits count a = hexDigits count b) : a = b := by
  induction count generalizing a b with
  | zero =>
    simp only [Nat.pow_zero, Nat.pow_eq] at room room_
    omega
  | succ count ih =>
    simp only [Nat.pow_eq, Nat.pow_succ] at room room_ ih
    obtain ⟨high, low⟩ := List.append_inj same (by simp only [length_hexDigits])
    have highest := ih (by omega) (by omega) high
    have lowest := hexDigit_inj (Nat.mod_lt a (by decide)) (Nat.mod_lt b (by decide))
      (List.singleton_inj.mp low)
    omega

theorem ofRandom_inj {a b : BitVec 128} (same : ofRandom a = ofRandom b) : a = b := by
  have texts := congrArg (String.toList ∘ ModuleName.text) same
  simp only [ofRandom, Function.comp_apply, String.toList_ofList, List.cons.injEq, true_and]
    at texts
  have room : ∀ draw : BitVec 128, draw.toNat < Nat.pow 16 32 := fun draw => draw.isLt
  exact BitVec.eq_of_toNat_eq (hexDigits_inj (room a) (room b) texts)

/-- Names that are made of different random numbers differ. -/
theorem nodup_ofRandom {draws : List (BitVec 128)} (distinct : draws.Nodup) :
    (draws.map ofRandom).Nodup :=
  List.Pairwise.map _ (fun _ _ apart same => apart (ofRandom_inj same)) distinct

end ModuleName

namespace ModuleNamer

/-- The names that are handed out next. -/
def names (namer : ModuleNamer) : Nat → List ModuleName
  | 0 => []
  | count + 1 => namer.fresh.1 :: namer.fresh.2.names count

theorem names_eq (namer : ModuleNamer) (count : Nat) :
    namer.names count =
      ((List.range count).map fun index => namer.draw (namer.issued + index)).map
        ModuleName.ofRandom := by
  induction count generalizing namer with
  | zero => rfl
  | succ count ih =>
    rw [names, ih, List.range_succ_eq_map]
    simp [fresh, Function.comp_def, Nat.add_assoc, Nat.add_comm 1]

end ModuleNamer

namespace Interpreter

variable {σ : Type}

/-- A call that an interpreter has received, and how it ended. -/
inductive Invocation where
  | execute (name : ModuleName) (source : String) (outcome : Outcome Unit)
  | cleanup (name : ModuleName) (outcome : Outcome Unit)
  deriving DecidableEq, Repr

/-- Does what the interpreter does, and keeps the calls beside the state. -/
def watched (interpreter : Interpreter σ) : Interpreter (σ × List Invocation) where
  execute state name source :=
    let call := interpreter.execute state.1 name source
    ⟨call.actions, call.outcome, call.after, state.2 ++ [.execute name source call.outcome]⟩
  cleanup state name :=
    let call := interpreter.cleanup state.1 name
    ⟨call.actions, call.outcome, call.after, state.2 ++ [.cleanup name call.outcome]⟩

end Interpreter

namespace ExecutionContext

variable {σ : Type}

/-- The context with its interpreter watched, which has received some calls already. -/
def watched (context : ExecutionContext σ) (calls : List Interpreter.Invocation) :
    ExecutionContext (σ × List Interpreter.Invocation) :=
  { state := context.state
    loaded := context.loaded.map fun loaded =>
      ⟨loaded.interpreter.watched, loaded.state, calls⟩
    namer := context.namer
    mode := context.mode }

/-- The calls that the interpreter of a watched context has received. -/
def calls (context : ExecutionContext (σ × List Interpreter.Invocation)) :
    List Interpreter.Invocation :=
  context.loaded.elim [] (·.state.2)

end ExecutionContext

/-- The two calls of a performance, under one module name. -/
def Performance.invocations {σ : Type} (performance : Performance σ) (name : ModuleName) :
    List Interpreter.Invocation :=
  [.execute name performance.request.data performance.ran.outcome,
    .cleanup name performance.cleaned.outcome]

namespace ExecutionContext

variable {σ : Type}

theorem handle_watched {context : ExecutionContext σ} {loaded : Loaded σ}
    (isLoaded : context.loaded = some loaded) (calls : List Interpreter.Invocation)
    (request : HostMessage) :
    (context.watched calls).handle request =
      ((context.handle request).1.watched
          (calls ++ (context.perform loaded request).invocations context.namer.fresh.1),
        (context.handle request).2) := by
  cases request with
  | execute id source =>
    simp only [handle, watched, isLoaded, Option.map_some, execute, Interpreter.watched, perform,
      Performance.invocations, HostMessage.data, List.append_assoc, List.cons_append,
      List.nil_append]

theorem handle_namer {context : ExecutionContext σ} (isLoaded : context.loaded.isSome)
    (request : HostMessage) : (context.handle request).1.namer = context.namer.fresh.2 := by
  obtain ⟨loaded, same⟩ := Option.isSome_iff_exists.mp isLoaded
  cases request with
  | execute id source => simp only [handle, same, execute]

/-- A context whose interpreter is watched sends the same messages, and the calls that its
interpreter receives are those of the performances. -/
theorem serve_watched {context : ExecutionContext σ} (isLoaded : context.loaded.isSome)
    (calls : List Interpreter.Invocation) (requests : List HostMessage) :
    (context.watched calls).serve requests =
      ((context.serve requests).1.watched
          (calls ++ (List.zipWith Performance.invocations (context.performances requests)
            (context.namer.names requests.length)).flatten),
        (context.serve requests).2) := by
  induction requests generalizing context calls with
  | nil => simp [serve, performances]
  | cons request requests ih =>
    obtain ⟨loaded, same⟩ := Option.isSome_iff_exists.mp isLoaded
    have next := ih (handle_isLoaded isLoaded request)
      (calls ++ (context.perform loaded request).invocations context.namer.fresh.1)
    simp only [serve, handle_watched same, next, performances, same, List.length_cons,
      ModuleNamer.names, List.zipWith_cons_cons, List.flatten_cons, List.append_assoc,
      handle_namer isLoaded]

theorem calls_watched {context : ExecutionContext σ} (isLoaded : context.loaded.isSome)
    (calls : List Interpreter.Invocation) : (context.watched calls).calls = calls := by
  obtain ⟨loaded, same⟩ := Option.isSome_iff_exists.mp isLoaded
  simp [ExecutionContext.calls, watched, same]

end ExecutionContext

end CodePlayground
