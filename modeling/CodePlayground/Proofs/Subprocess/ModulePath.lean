import CodePlayground.Proofs.File.Resolution
import CodePlayground.Scripted.Child

/-!
Where a module file is written, and where the child looks for it. Both go by the same path, but the
host follows it from its own working directory and the child from the scratch directory.
-/

namespace CodePlayground

namespace ModuleName

theorem isHexDigit_hexDigits (count n : Nat) : ∀ c ∈ hexDigits count n, isHexDigit c = true := by
  have digits : ∀ digit : Fin 16, isHexDigit (hexDigit digit) = true := by decide
  induction count generalizing n with
  | zero => simp [hexDigits]
  | succ count ih =>
    simp only [hexDigits, List.mem_append, List.mem_singleton]
    rintro c (high | rfl)
    · exact ih _ c high
    · exact digits ⟨n % 16, Nat.mod_lt _ (by decide)⟩

theorem toList_fileName (draw : BitVec 128) :
    (ofRandom draw).fileName.toList = 'm' :: (hexDigits 32 draw.toNat ++ ['.', 'p', 'y']) := by
  rw [fileName, String.toList_append, ofRandom, String.toList_ofList]
  rfl

theorem names_fileName (draw : BitVec 128) :
    Path.names (ofRandom draw).fileName = [(ofRandom draw).fileName] := by
  have plain : ∀ c ∈ (ofRandom draw).fileName.toList, decide (c = '/') = false := by
    intro c among
    rw [toList_fileName, List.mem_cons, List.mem_append] at among
    rw [decide_eq_false_iff_not]
    rintro rfl
    rcases among with first | digit | last
    · cases first
    · exact absurd (isHexDigit_hexDigits _ _ _ digit) (by decide)
    · exact absurd last (by decide)
  have filled : (ofRandom draw).fileName.toList.isEmpty = false := by rw [toList_fileName]; rfl
  simp [Path.names, Text.parts_of_none plain, filled]

theorem head?_fileName (draw : BitVec 128) : (ofRandom draw).fileName.toList.head? = some 'm' := by
  rw [toList_fileName]
  rfl

theorem isAbsolute_fileName (draw : BitVec 128) :
    Path.isAbsolute (ofRandom draw).fileName = false := by
  rw [Bool.eq_false_iff, ne_eq, Path.isAbsolute_iff, head?_fileName]
  decide

theorem fileName_ne (draw : BitVec 128) {other : String} (differs : other.toList.head? ≠ some 'm') :
    (ofRandom draw).fileName ≠ other := by
  rintro rfl
  exact differs (head?_fileName draw)

/-- A module file lies in the directory from which its name is followed. -/
theorem resolve_fileName (draw : BitVec 128) (here : Place) :
    Path.resolve (ofRandom draw).fileName here = (ofRandom draw).fileName :: here := by
  have notSame : (ofRandom draw).fileName ≠ "." := fileName_ne draw (by decide)
  have notAbove : (ofRandom draw).fileName ≠ ".." := fileName_ne draw (by decide)
  simp only [Path.resolve, isAbsolute_fileName, Bool.false_eq_true, ↓reduceIte, names_fileName,
    List.foldl_cons, List.foldl_nil, Place.enter, notSame, notAbove]

end ModuleName

namespace Subprocess

/-- Where a child looks for its module file: at the place of its last argument, from the directory
that it is started in. -/
def Invocation.sought? (invocation : Invocation) (here : Place) : Option Place :=
  invocation.arguments.getLast?.map fun path =>
    Path.resolve path (invocation.directory.resolve here)

/-- An execution writes its module file and starts its child. -/
structure Starts {μ : Type} (settings : Settings) (machine : Machine μ) (host : Host μ)
    (name : ModuleName) (source : String) (files : FileTree) (child : Child) : Prop where
  written : writeModule host.files (machine.broken host.machine (settings.modulePath name))
    (settings.modulePath name) source = (files, .ok ())
  started : (machine.course host.machine files (settings.invocation name)).child = .ok child

section

variable {μ : Type} (settings : Settings) (machine : Machine μ) (host : Host μ)
  (name : ModuleName) (source : String)

/-- An execution starts its child, or it ends before it has done anything but write. -/
theorem execute_cases :
    let path := settings.modulePath name
    (∃ files child, Starts settings machine host name source files child ∧
      execute settings machine host name source = follow ⟨files, machine.next host.machine⟩ child) ∨
    ∃ fault, execute settings machine host name source =
      { actions := []
        outcome := .failure (.io fault)
        after :=
          { files := (writeModule host.files (machine.broken host.machine path) path source).1
            machine := machine.next host.machine } } := by
  rcases wrote : writeModule host.files (machine.broken host.machine (settings.modulePath name))
    (settings.modulePath name) source with ⟨files, result⟩
  simp only [execute, wrote]
  cases result with
  | error fault => exact .inr ⟨fault, rfl⟩
  | ok _ =>
    cases start : (machine.course host.machine files (settings.invocation name)).child with
    | error fault => exact .inr ⟨fault, rfl⟩
    | ok child => exact .inl ⟨files, child, ⟨wrote, start⟩, rfl⟩

variable {source}

theorem writeModule_ok {files after : FileTree} {broken : Option (Nat × Fault)} {path : Path}
    (written : writeModule files broken path source = (after, .ok ())) :
    files.write path (Text.Utf8.encode source) = .ok after := by
  simp only [writeModule] at written
  split at written
  · split at written
    · rename_i made
      cases written
      exact made
    · cases written
  · split at written <;> cases written

end

theorem resolve_modulePath (settings : Settings) (draw : BitVec 128) (here : Place) :
    (settings.modulePath (.ofRandom draw)).resolve here =
      (ModuleName.ofRandom draw).fileName :: settings.scratch.resolve here := by
  rw [Settings.modulePath, Path.resolve_join (ModuleName.isAbsolute_fileName draw),
    ModuleName.resolve_fileName]

/-- An execution that starts its child has put the source text at its place and changed nothing else.
The child looks for its module file at this place if and only if the scratch directory, followed from
the scratch directory, is the scratch directory again. So it is if the path of the scratch directory
is absolute; it is not if the path is relative and only leads down. -/
theorem module_found_iff {μ : Type} (settings : Settings) (machine : Machine μ) (host : Host μ)
    (draw : BitVec 128) (source : String) :
    let here := host.files.here
    let scratch := settings.scratch
    let written := (settings.modulePath (.ofRandom draw)).resolve here
    let found := (settings.invocation (.ofRandom draw)).sought? here = some written
    (∀ files child, Starts settings machine host (.ofRandom draw) source files child →
      files.get? written = some (.file (Text.Utf8.encode source)) ∧
        ∀ other ≠ written, files.get? other = host.files.get? other) ∧
      (found ↔ scratch.resolve (scratch.resolve here) = scratch.resolve here) ∧
      (scratch.isAbsolute = true → found) ∧
      (scratch.isAbsolute = false → (∀ name ∈ scratch.names, name ≠ "..") →
        (∃ name ∈ scratch.names, name ≠ ".") → ¬found) := by
  intro here scratch written found
  have fixed : found ↔ scratch.resolve (scratch.resolve here) = scratch.resolve here := by
    simp only [found, written, Invocation.sought?, Settings.invocation, List.getLast?_concat,
      Option.map_some, Option.some.injEq, resolve_modulePath, List.cons.injEq, true_and]
    rfl
  refine ⟨fun files child starts => ?_, fixed, fun absolute => ?_, fun relative down moves => ?_⟩
  · exact FileTree.write_ok (writeModule_ok starts.written)
  · exact fixed.mpr (Path.resolve_absolute absolute _ _)
  · rw [fixed]
    intro same
    have longer := Path.length_enter down (scratch.resolve here)
    obtain ⟨name, among, named⟩ := moves
    have positive : 0 < scratch.names.countP (· ≠ ".") :=
      List.countP_pos_iff.mpr ⟨name, among, by simpa using named⟩
    have again : scratch.resolve (scratch.resolve here) =
        scratch.names.foldl Place.enter (scratch.resolve here) := by
      rw [Path.resolve, relative]
      rfl
    rw [← again, same] at longer
    omega

/-- With an absolute path the child finds the module file from any directory, here from one beside the
scratch directory. -/
theorem absolute_scratch_found :
    let settings : Settings := ⟨Scripted.programName, [], "/tmp/pyplay"⟩
    let machine := Scripted.machine fun _ => .usual
    let host : Host Unit :=
      ⟨⟨[(["work"], .directory), (["tmp"], .directory), (["pyplay", "tmp"], .directory)], ["work"]⟩, ()⟩
    let name := ModuleName.ofRandom 0
    let written := (settings.modulePath name).resolve ["work"]
    (∃ files child, Starts settings machine host name "print a" files child ∧
      files.get? written = some (.file (Text.Utf8.encode "print a"))) ∧
      (settings.invocation name).sought? ["work"] = some written := by
  intro settings machine host name written
  have absolute : settings.scratch.isAbsolute = true := by decide
  obtain ⟨inPlace, -, found, -⟩ := module_found_iff settings machine host 0 "print a"
  have ran : (execute settings machine host name "print a").outcome = .result () := by
    decide +kernel
  obtain ⟨files, child, starts, -⟩ | ⟨fault, failed⟩ :=
    execute_cases settings machine host name "print a"
  · exact ⟨⟨files, child, starts, (inPlace files child starts).1⟩, found absolute⟩
  · rw [failed] at ran
    cases ran

/-- With a relative path the child looks in a directory of the same name below the scratch directory,
and the execution fails. -/
theorem relative_scratch_lost :
    let settings : Settings := ⟨Scripted.programName, [], "scratch"⟩
    let machine := Scripted.machine fun _ => .usual
    let host : Host Unit :=
      ⟨⟨[(["work"], .directory), (["scratch", "work"], .directory)], ["work"]⟩, ()⟩
    let name := ModuleName.ofRandom 0
    (settings.invocation name).sought? ["work"] =
        some [name.fileName, "scratch", "scratch", "work"] ∧
      (settings.modulePath name).resolve ["work"] = [name.fileName, "scratch", "work"] ∧
      (execute settings machine host name "print a").outcome =
        .failure (.raised "pyfake: can't open file") := by
  decide +kernel

end Subprocess

end CodePlayground
