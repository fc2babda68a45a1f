import CodePlayground.Manifest.Builtin
import CodePlayground.Proofs.Playground.Account

/-!
The life of a run in the records. A run is pending, then running and then over; it stays in the
records until it is over, and its status does not change any more until its id is handed out again.
-/

namespace CodePlayground

/-- What may become of the status of a run for as long as its id is not handed out again. -/
inductive RunStatus.Course : Option RunStatus → Option RunStatus → Prop where
  | unchanged (status : Option RunStatus) : Course status status
  | begun : Course (some .pending) (some .running)
  | ended (status ending : RunStatus) (going : status.isTerminal = false)
      (terminal : ending.isTerminal = true) : Course (some status) (some ending)
  | forgotten (status : RunStatus) : Course (some status) none

theorem RunStatus.Course.step {first before after : Option RunStatus} {issued : Option RequestId}
    {id : RequestId} (course : Course first before) (step : Step issued id before after)
    (other : issued ≠ some id) : Course first after := by
  cases step with
  | kept status _ => exact course
  | issued before own _ => exact absurd own other
  | forgotten status terminal _ _ _ =>
    cases course with
    | unchanged => exact .forgotten status
    | begun => cases terminal
    | ended first _ _ _ => exact .forgotten first
  | started none =>
    cases course with
    | unchanged => exact .begun
    | ended _ _ _ terminal => cases terminal
  | finished none =>
    cases course with
    | unchanged => exact .ended .running .finished rfl rfl
    | begun => exact .ended .pending .finished rfl rfl
    | ended _ _ _ terminal => cases terminal
  | failed none status going error =>
    cases course with
    | unchanged => exact .ended status (.failed error) going rfl
    | begun => exact .ended .pending (.failed error) rfl rfl
    | ended _ _ _ terminal => rw [going] at terminal; cases terminal

namespace PlaygroundRun

variable {σ S : Type} {origin : Station σ} {record : Record} {run : PlaygroundRun σ S}

theorem Accounted.course [OutputSink S] (accounted : Accounted origin record run)
    {moves : List Move} {last : PlaygroundRun σ S} {answers : List Answer}
    (traced : run.trace? moves = some (last, answers)) {id : RequestId}
    (unissued : ∀ answer ∈ answers, answer.issued? ≠ some id) :
    RunStatus.Course (run.playground.status? id) (last.playground.status? id) := by
  rw [trace?_eq] at traced
  refine (traceOf?_induction
    (fun _ given current =>
      (∃ record, Accounted origin record current) ∧
        ((∀ answer ∈ given, answer.issued? ≠ some id) →
          RunStatus.Course (run.playground.status? id) (current.playground.status? id)))
    ⟨⟨record, accounted⟩, fun _ => .unchanged _⟩ ?_ traced).2 unissued
  rintro _ given current move next answer ⟨⟨record, accounted⟩, course⟩ step
  obtain ⟨after, steps⟩ := accounted.step step
  refine ⟨after, fun unissued => ?_⟩
  rw [List.forall_mem_append, List.forall_mem_singleton] at unissued
  exact (course unissued.1).step (steps id) unissued.2

/-- In every state that a playground can reach, each id has one record, and the records of the runs
that are not over are those of the outstanding runs. Every move takes the status of a run from
pending to running and from there to its end, or from pending to a failure, and never back; only a
new run of the same id starts again as pending, in the place of the old record. -/
theorem runs_recorded [OutputSink S] {start last : PlaygroundRun σ S} (fresh : start.Fresh)
    {moves : List Move} {answers : List Answer}
    (traced : start.trace? moves = some (last, answers)) :
    (last.playground.runs.map (·.id)).Nodup ∧
      RunRecord.live last.playground.runs = last.playground.proxy.outstanding ∧
      (∀ move next answer, last.step? move = some (next, answer) → ∀ id,
        RunStatus.Step answer.issued? id (last.playground.status? id)
          (next.playground.status? id)) ∧
      ∀ more final later, last.trace? more = some (final, later) → ∀ id,
        (∀ answer ∈ later, answer.issued? ≠ some id) →
          RunStatus.Course (last.playground.status? id) (final.playground.status? id) := by
  obtain ⟨record, accounted⟩ := fresh.accounted.after traced
  refine ⟨accounted.records.distinct, accounted.records.listed, ?_, ?_⟩
  · intro move next answer step
    exact (accounted.step step).2
  · intro more final later rest id unissued
    exact accounted.course rest unissued

/-- A playground whose interpreter echoes, with ids up to `max`. -/
def echoing (max : UInt64) : PlaygroundRun Unit OutputBuffer :=
  .new (.new (.new (.upTo max) none .empty) (.ofManifest .builtin none))
    (.new (.result ⟨.echo, ()⟩) (fun _ => 0) .line) .builtin

/-- Two runs, of which the second fails, and a third one with the id of the first. -/
theorem echoing_recorded :
    ∃ mid last answers later,
      (echoing 1).trace? [.runSource "one\n", .runSource "", .work, .work, .deliverMessage,
        .work, .work, .deliverMessage] = some (mid, answers) ∧
      mid.playground.runs = [⟨⟨1⟩, .running⟩, ⟨⟨0⟩, .pending⟩] ∧
      (mid.playground.runs.map (·.id)).Nodup ∧
      RunRecord.live mid.playground.runs = [⟨1⟩, ⟨0⟩] ∧
      mid.trace? [.work, .work, .deliverMessage, .deliverMessage, .work, .work, .work,
        .deliverMessage, .deliverMessage, .runSource "three"] = some (last, later) ∧
      last.playground.runs = [⟨⟨0⟩, .failed "no source"⟩, ⟨⟨1⟩, .pending⟩] ∧
      RunStatus.Course (mid.playground.status? ⟨0⟩) (last.playground.status? ⟨0⟩) := by
  have first : (echoing 1).trace? [.runSource "one\n", .runSource "", .work, .work,
      .deliverMessage, .work, .work, .deliverMessage] = some (_, _) := rfl
  obtain ⟨distinct, listed, _, course⟩ := runs_recorded (new_fresh _ _ _ _ _ _ _ _) first
  refine ⟨_, _, _, _, first, rfl, distinct, listed, rfl, rfl, ?_⟩
  exact course [.work, .work, .deliverMessage, .deliverMessage, .work, .work, .work,
    .deliverMessage, .deliverMessage, .runSource "three"] _ _ rfl ⟨0⟩ (by decide)

end PlaygroundRun

end CodePlayground
