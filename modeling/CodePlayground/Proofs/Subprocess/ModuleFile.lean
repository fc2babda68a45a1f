import CodePlayground.Proofs.File.Removal
import CodePlayground.Proofs.Interpreter.Performance
import CodePlayground.Proofs.Subprocess.ModulePath

/-!
What becomes of module files. However an execution goes, the cleanup after it finds the module file
gone, removes it, or fails, and a failed cleanup is an error of the run unless there is one already.
Apart from the module file, the host leaves the files alone.
-/

namespace CodePlayground

namespace ExecutionContext

theorem conclusion_of_failure (id : RequestId) (ran : Outcome Unit) (error : InterpreterError) :
    ∃ text, conclusion id ran.caught (Outcome.failure error).caught = .execError id text := by
  cases ran <;> exact ⟨_, rfl⟩

theorem conclusion_of_result (id : RequestId) (ran : Outcome Unit) :
    conclusion id ran.caught (Outcome.result ()).caught = .execFinished id ↔ ran = .result () := by
  cases ran <;> simp [conclusion, Outcome.caught]

end ExecutionContext

namespace Subprocess

open FileTree (SameBut)

theorem leadsDown_modulePath (settings : Settings) (draw : BitVec 128) :
    (settings.modulePath (.ofRandom draw)).LeadsDown (ModuleName.ofRandom draw).fileName := by
  have down : Path.LeadsDown (ModuleName.ofRandom draw).fileName (ModuleName.ofRandom draw).fileName :=
    { last := by rw [ModuleName.names_fileName, List.getLast?_singleton]
      notSame := ModuleName.fileName_ne draw (by decide)
      notAbove := ModuleName.fileName_ne draw (by decide)
      open_ := by
        rw [Path.endsWithSlash, ModuleName.toList_fileName, ← List.cons_append, List.getLast?_append]
        rfl }
  exact down.join (ModuleName.isAbsolute_fileName draw) settings.scratch

/-- Even a write that fails touches no other place. -/
theorem writeModule_sameBut (files : FileTree) (broken : Option (Nat × Fault)) (path : Path)
    (source : String) :
    SameBut (path.resolve files.here) files (writeModule files broken path source).1 := by
  unfold writeModule
  simp only
  split
  · split
    · rename_i written
      exact .of_write written
    · exact .refl _ _
  · split
    · rename_i written
      exact .of_write written
    · exact .refl _ _

section

variable {μ : Type} (settings : Settings) (machine : Machine μ) (host : Host μ)

/-- An execution ends with the files as the host has written them, or as its child has left those. -/
theorem execute_files (name : ModuleName) (source : String) :
    let path := settings.modulePath name
    let written := (writeModule host.files (machine.broken host.machine path) path source).1
    let settled := (execute settings machine host name source).after.files
    settled = written ∨
      ∃ child, Starts settings machine host name source written child ∧
        settled = child.effect written := by
  intro path written settled
  obtain ⟨files, child, starts, ran⟩ | ⟨fault, ran⟩ :=
    execute_cases settings machine host name source
  · have same : written = files := congrArg Prod.fst starts.written
    refine .inr ⟨child, same ▸ starts, ?_⟩
    simp only [settled, ran, follow, same]
  · refine .inl ?_
    simp only [settled, ran]
    rfl

/-- A cleanup removes the module file, finds it gone already, or fails. -/
theorem cleanup_cases {name : ModuleName}
    (down : (settings.modulePath name).LeadsDown name.fileName) :
    let path := settings.modulePath name
    let cleaned := cleanup settings host name
    SameBut (path.resolve host.files.here) host.files cleaned.after.files ∧
      (cleaned.outcome = .result () ∧ cleaned.after.files.Missing path ∧
          (host.files.HasFile path ∨ host.files.Missing path) ∨
        (∃ fault, cleaned.outcome = .failure (.io fault)) ∧
          ¬(host.files.HasFile path ∨ host.files.Missing path)) ∧
      (host.files.Missing path → cleaned.after = host) := by
  intro path cleaned
  obtain ⟨after, there, removed, gone, frame⟩ | ⟨there, failed⟩ | ⟨fault, missing, failed⟩ :=
    FileTree.unlink_cases host.files down
  · have done : cleaned = ⟨[], .result (), { host with files := after }⟩ := by
      simp only [cleaned, cleanup, removed]
    rw [done]
    refine ⟨frame, .inl ⟨rfl, gone, .inl there⟩, fun missing => ?_⟩
    exact absurd there (FileTree.not_hasFile_of_error missing)
  · have done : cleaned = ⟨[], .failure (.io .isDirectory), host⟩ := by
      simp only [cleaned, cleanup, failed]
      rfl
    rw [done]
    refine ⟨.refl _ _, .inr ⟨⟨_, rfl⟩, ?_⟩, fun _ => rfl⟩
    rw [not_or]
    exact ⟨FileTree.not_hasFile_of_isDirectory there, FileTree.not_missing_of_isDirectory there⟩
  · by_cases absent : fault = .noEntry
    · have done : cleaned = ⟨[], .result (), host⟩ := by
        simp only [cleaned, cleanup, failed, if_pos absent]
      have nothing : host.files.Missing path := by rw [FileTree.Missing, missing, absent]
      rw [done]
      exact ⟨.refl _ _, .inl ⟨rfl, nothing, .inr nothing⟩, fun _ => rfl⟩
    · have done : cleaned = ⟨[], .failure (.io fault), host⟩ := by
        simp only [cleaned, cleanup, failed, if_neg absent]
      rw [done]
      refine ⟨.refl _ _, .inr ⟨⟨_, rfl⟩, ?_⟩, fun _ => rfl⟩
      rw [not_or, FileTree.Missing, missing, Except.error.injEq]
      exact ⟨FileTree.not_hasFile_of_error missing, absent⟩

end

/-- The terminal message and the host that one execution leaves. -/
theorem handle_hosted {μ : Type} {settings : Settings} {machine : Machine μ} {host : Host μ}
    {context : ExecutionContext (Host μ)}
    (hosted : context.loaded = some ⟨interpreter settings machine, host⟩) (id : RequestId)
    (source : String) :
    let name := context.namer.fresh.1
    let ran := execute settings machine host name source
    let cleaned := cleanup settings ran.after name
    (context.handle (.execute id source)).2.getLast? =
        some (ExecutionContext.conclusion id ran.outcome.caught cleaned.outcome.caught) ∧
      (context.handle (.execute id source)).1.loaded =
        some ⟨interpreter settings machine, cleaned.after⟩ := by
  intro name ran cleaned
  simp only [ExecutionContext.handle, hosted, ExecutionContext.execute, interpreter,
    List.getLast?_concat]
  exact ⟨rfl, rfl⟩

/-- A context that runs child processes leaves no module file behind, however an execution goes and
whatever its child does to the files: when the terminal message is sent, nothing is found where the
module file was, or the message tells of an error. The cleanup is an error of its own only if there is
something else in place of the module file; that its child has removed it already is none. The host
itself changes the files at no other place. -/
theorem module_file_gone {μ : Type} {settings : Settings} {machine : Machine μ} {host : Host μ}
    {context : ExecutionContext (Host μ)}
    (hosted : context.loaded = some ⟨interpreter settings machine, host⟩) (id : RequestId)
    (source : String) :
    let name := context.namer.fresh.1
    let path := settings.modulePath name
    let written := (writeModule host.files (machine.broken host.machine path) path source).1
    let ran := execute settings machine host name source
    let settled := ran.after.files
    ∃ left terminal,
      (context.handle (.execute id source)).2.getLast? = some terminal ∧
      (context.handle (.execute id source)).1.loaded =
        some ⟨interpreter settings machine, left⟩ ∧
      (left.files.Missing path ∨ ∃ error, terminal = .execError id error) ∧
      (terminal = .execFinished id ↔
        ran.outcome = .result () ∧ (settled.HasFile path ∨ settled.Missing path)) ∧
      (settled.Missing path → left = ran.after) ∧
      SameBut (path.resolve host.files.here) host.files written ∧
      (settled = written ∨
        ∃ child, Starts settings machine host name source written child ∧
          settled = child.effect written) ∧
      SameBut (path.resolve settled.here) settled left.files := by
  -- The name is written out, since what it stands for would be computed.
  have down : (settings.modulePath context.namer.fresh.1).LeadsDown context.namer.fresh.1.fileName :=
    leadsDown_modulePath settings (context.namer.draw context.namer.issued)
  obtain ⟨ended, loaded⟩ := handle_hosted hosted id source
  obtain ⟨frame, cleaned, kept⟩ := cleanup_cases settings
    (execute settings machine host context.namer.fresh.1 source).after down
  have settles := execute_files settings machine host context.namer.fresh.1 source
  -- A cleanup without an error leaves the message to the run; one with an error is reported.
  rcases cleaned with ⟨fine, gone, clear⟩ | ⟨⟨fault, failed⟩, blocked⟩
  · refine ⟨_, _, ended, loaded, .inl gone, ?_, kept, writeModule_sameBut _ _ _ source, settles, frame⟩
    rw [fine, ExecutionContext.conclusion_of_result]
    exact ⟨fun result => ⟨result, clear⟩, And.left⟩
  · obtain ⟨error, told⟩ := ExecutionContext.conclusion_of_failure id
      (execute settings machine host context.namer.fresh.1 source).outcome (.io fault)
    rw [failed, told] at ended
    refine ⟨_, _, ended, loaded, .inr ⟨error, rfl⟩, ?_, kept, writeModule_sameBut _ _ _ source,
      settles, frame⟩
    exact ⟨nofun, fun result => absurd result.2 blocked⟩

/-- A program that removes its own module file finishes all the same. -/
theorem removed_by_child_gone :
    let settings : Settings := ⟨Scripted.programName, [], "/tmp"⟩
    let machine := Scripted.machine fun _ => .usual
    let host : Host Unit := ⟨⟨[(["tmp"], .directory)], []⟩, ()⟩
    let context : ExecutionContext (Host Unit) :=
      ⟨.ready, some ⟨interpreter settings machine, host⟩, .ofDraws fun _ => 0, .raw⟩
    let handled := context.handle (.execute ⟨0⟩ "print a\nrm")
    handled.2.getLast? = some (.execFinished ⟨0⟩) ∧
      ∃ left, handled.1.loaded = some ⟨interpreter settings machine, left⟩ ∧
        left.files.Missing (settings.modulePath context.namer.fresh.1) := by
  intro settings machine host context handled
  have missing : (execute settings machine host context.namer.fresh.1
      "print a\nrm").after.files.Missing (settings.modulePath context.namer.fresh.1) := by
    decide +kernel
  have fine : (execute settings machine host context.namer.fresh.1
      "print a\nrm").outcome = .result () := by
    decide +kernel
  have hosted : context.loaded = some ⟨interpreter settings machine, host⟩ := rfl
  obtain ⟨left, terminal, last, loaded, -, finished, kept, -⟩ :=
    module_file_gone hosted ⟨0⟩ "print a\nrm"
  rw [finished.mpr ⟨fine, .inr missing⟩] at last
  exact ⟨last, left, loaded, kept missing ▸ missing⟩

end Subprocess

end CodePlayground
