import CodePlayground.Proofs.Playground.Growth
import CodePlayground.Proofs.Playground.Lifecycle
import CodePlayground.Session.Basic

/-!
Polling. A visitor asks for the output, or for the notifications, page by page. The lists only grow,
whatever the other visitors and the playground do between two polls, so the pages of a visitor who
always asks for what came since join up to the list as it was at the last poll.
-/

namespace CodePlayground

namespace Page

variable {α : Type}

/-- The items from an index on, which must not lie past the end. -/
def slice? (all : List α) (start : Nat) : Option (List α) :=
  if start ≤ all.length then some (all.drop start) else none

/-- A page is a slice that exists, whatever index was asked for. -/
theorem slice?_since (all : List α) (start : Nat) :
    slice? all (min start all.length) = some (since all start).items := by
  rw [slice?, if_pos (Nat.min_le_right _ _), items_since]

end Page

/-- A poll: the index that was asked for, and the page that came back. -/
structure Poll (α : Type) where
  since : Nat
  page : Page α

namespace Poll

variable {α : Type}

/-- Each poll asks for what the one before it has named as next, the first one for `start`. -/
def FollowUp (start : Nat) : List (Poll α) → Prop
  | [] => True
  | poll :: polls => poll.since = start ∧ FollowUp poll.page.next polls

/-- What to ask for after the polls. -/
def due (start : Nat) : List (Poll α) → Nat
  | [] => start
  | poll :: polls => due poll.page.next polls

def joined (polls : List (Poll α)) : List α :=
  polls.flatMap (·.page.items)

theorem followUp_snoc {start : Nat} {polls : List (Poll α)} {poll : Poll α} :
    FollowUp start (polls ++ [poll]) ↔ FollowUp start polls ∧ poll.since = due start polls := by
  induction polls generalizing start with
  | nil => simp [FollowUp, due]
  | cons first polls ih => simp only [List.cons_append, FollowUp, due, ih, and_assoc]

theorem due_snoc (start : Nat) (polls : List (Poll α)) (poll : Poll α) :
    due start (polls ++ [poll]) = poll.page.next := by
  induction polls generalizing start with
  | nil => rfl
  | cons first polls ih => exact ih _

theorem joined_snoc (polls : List (Poll α)) (poll : Poll α) :
    joined (polls ++ [poll]) = joined polls ++ poll.page.items := by
  rw [joined, List.flatMap_append, List.flatMap_singleton, joined]

/-- The polls have brought the list up to what is due next. -/
structure Covers (polls : List (Poll α)) (all : List α) : Prop where
  start : joined polls <+: all
  size : (joined polls).length = due 0 polls

namespace Covers

variable {polls : List (Poll α)} {all more : List α}

theorem none (all : List α) : Covers [] all := ⟨List.nil_prefix, rfl⟩

theorem grow (covers : Covers polls all) (grown : all <+: more) : Covers polls more :=
  ⟨covers.start.trans grown, covers.size⟩

/-- The next poll brings the rest. -/
theorem rest (covers : Covers polls all) :
    joined polls ++ (Page.since all (due 0 polls)).items = all := by
  obtain ⟨left, split⟩ := covers.start
  rw [← covers.size, ← split]
  simp [Page.since]

theorem snoc (covers : Covers polls all) {poll : Poll α} (asked : poll.since = due 0 polls)
    (answered : poll.page = .since all poll.since) :
    joined (polls ++ [poll]) = all ∧ Covers (polls ++ [poll]) all := by
  have whole : joined (polls ++ [poll]) = all := by
    rw [joined_snoc, answered, asked, covers.rest]
  refine ⟨whole, ⟨whole ▸ List.prefix_rfl, ?_⟩⟩
  rw [whole, due_snoc, answered]
  rfl

end Covers

end Poll

/-- What happens in a session of several visitors. -/
inductive Turn (κ : Type) where
  | command (visitor : κ) (command : Command)
  | play (move : PlaygroundRun.Move)

def Turn.move {κ : Type} : Turn κ → PlaygroundRun.SessionMove
  | .command _ request => .command request
  | .play part => .play part

/-- A list of a playground that visitors poll. -/
structure Feed (σ α : Type) where
  shown : PlaygroundRun σ OutputBuffer → List α
  /-- The index that a command asks for, if it is a poll of the list. -/
  since? : Command → Option Nat
  page? : Reply → Option (Page α)
  /-- A poll changes nothing and is answered with a page. -/
  answered : ∀ (run : PlaygroundRun σ OutputBuffer) (command : Command) (since : Nat),
    since? command = some since →
      (run.obey command).1 = run ∧ page? (run.obey command).2 = some (.since (shown run) since)
  /-- Nothing that happens takes items away. -/
  grows : ∀ (run next : PlaygroundRun σ OutputBuffer) (move : PlaygroundRun.SessionMove)
    (reply : Option Reply), run.sessionStep? move = some (next, reply) → shown run <+: shown next

namespace PlaygroundRun

variable {σ : Type} {start last run next : PlaygroundRun σ OutputBuffer}

theorem sessionTrace?_eq (run : PlaygroundRun σ OutputBuffer) {κ : Type} (turns : List (Turn κ)) :
    run.sessionTrace? (turns.map Turn.move) =
      traceOf? (fun run turn => run.sessionStep? turn.move) run turns := by
  induction turns generalizing run with
  | nil => rfl
  | cons turn turns ih =>
    rw [List.map_cons, sessionTrace?, traceOf?]
    cases run.sessionStep? turn.move with
    | none => rfl
    | some pair => simp only [ih]

/-- A command does what one of the user's moves does, or nothing. -/
theorem obey_cases (run : PlaygroundRun σ OutputBuffer) (command : Command) :
    (run.obey command).1 = run ∨
      ∃ move answer, run.step? move = some ((run.obey command).1, answer) := by
  cases command with
  | select fragment => exact .inr ⟨.selectFragment fragment, _, rfl⟩
  | source => exact .inl rfl
  | edit text => exact .inr ⟨.edit text, _, rfl⟩
  | run source => exact .inr ⟨.runSource (source.getD run.playground.source.text), _, rfl⟩
  | output since => exact .inl rfl
  | notifications since => exact .inl rfl
  | runs => exact .inl rfl

/-- What every move of the playground leaves in place, every move of a session does. -/
theorem sessionStep?_grows {α : Type} {shown : PlaygroundRun σ OutputBuffer → List α}
    (grows : ∀ run next move answer, run.step? move = some (next, answer) →
      shown run <+: shown next) {move : SessionMove} {reply : Option Reply}
    (step : run.sessionStep? move = some (next, reply)) : shown run <+: shown next := by
  cases move with
  | command command =>
    have same : (run.obey command).1 = next := congrArg Prod.fst (Option.some.inj step)
    rw [← same]
    rcases run.obey_cases command with still | ⟨move, answer, moved⟩
    · rw [still]
    · exact grows _ _ _ _ moved
  | play move =>
    simp only [sessionStep?, Option.map_eq_some_iff] at step
    obtain ⟨⟨after, answer⟩, moved, same⟩ := step
    cases same
    exact grows _ _ _ _ moved

end PlaygroundRun

namespace Feed

variable {σ α κ : Type}

/-- The chunks of the output. -/
def output : Feed σ String where
  shown run := run.playground.proxy.sink.chunks
  since?
    | .output since => some since
    | _ => none
  page?
    | .output page => some page
    | _ => none
  answered run command since polls := by
    cases command <;> cases polls
    exact ⟨rfl, rfl⟩
  grows _ _ _ _ := PlaygroundRun.sessionStep?_grows fun _ _ _ _ => PlaygroundRun.step?_chunks

def notifications : Feed σ Notification where
  shown run := run.playground.notifications
  since?
    | .notifications since => some since
    | _ => none
  page?
    | .notifications page => some page
    | _ => none
  answered run command since polls := by
    cases command <;> cases polls
    exact ⟨rfl, rfl⟩
  grows _ _ _ _ :=
    PlaygroundRun.sessionStep?_grows fun _ _ _ _ => PlaygroundRun.step?_notifications

variable {start last run next : PlaygroundRun σ OutputBuffer} (feed : Feed σ α)

theorem grown {turns : List (Turn κ)} {replies : List (Option Reply)}
    (traced : traceOf? (fun run turn => run.sessionStep? turn.move) start turns =
      some (last, replies)) : feed.shown start <+: feed.shown last := by
  refine traceOf?_induction (fun _ _ run => feed.shown start <+: feed.shown run) List.prefix_rfl ?_
    traced
  intro _ _ _ _ _ _ before step
  exact before.trans (feed.grows _ _ _ _ step)

variable [DecidableEq κ] (visitor : κ)

/-- The index that a turn asks for, if it is the visitor's poll of the list. -/
def asked? : Turn κ → Option Nat
  | .command other command => if other = visitor then feed.since? command else none
  | .play _ => none

/-- The visitor's poll in a turn with its reply. -/
def poll? (turn : Turn κ) (reply : Option Reply) : Option (Poll α) :=
  (feed.asked? visitor turn).bind fun since =>
    (reply.bind feed.page?).map fun page => ⟨since, page⟩

/-- The polls of a visitor, in order. -/
def polls (turns : List (Turn κ)) (replies : List (Option Reply)) : List (Poll α) :=
  (turns.zip replies).filterMap fun (turn, reply) => feed.poll? visitor turn reply

variable {feed visitor}

/-- A poll is answered with a page of what is shown and changes nothing. -/
theorem poll?_asked {turn : Turn κ} {reply : Option Reply} {since : Nat}
    (step : run.sessionStep? turn.move = some (next, reply))
    (asked : feed.asked? visitor turn = some since) :
    next = run ∧
      feed.poll? visitor turn reply = some ⟨since, .since (feed.shown run) since⟩ := by
  cases turn with
  | command other command =>
    have after : (run.obey command).1 = next := congrArg Prod.fst (Option.some.inj step)
    have replied : some (run.obey command).2 = reply := congrArg Prod.snd (Option.some.inj step)
    have polls : feed.since? command = some since := by
      simp only [asked?] at asked
      split at asked
      · exact asked
      · cases asked
    obtain ⟨same, page⟩ := feed.answered run command since polls
    refine ⟨after.symm.trans same, ?_⟩
    rw [poll?, asked, ← replied, Option.bind_some, Option.bind_some, page, Option.map_some]
  | play move => cases asked

theorem poll?_unasked {turn : Turn κ} (reply : Option Reply)
    (unasked : feed.asked? visitor turn = none) : feed.poll? visitor turn reply = none := by
  rw [poll?, unasked, Option.bind_none]

theorem polls_cons (turn : Turn κ) (reply : Option Reply) (turns : List (Turn κ))
    (replies : List (Option Reply)) :
    feed.polls visitor (turn :: turns) (reply :: replies) =
      (feed.poll? visitor turn reply).toList ++ feed.polls visitor turns replies := by
  rw [polls, List.zip_cons_cons, List.filterMap_cons]
  cases polled : feed.poll? visitor turn reply <;> simp [polls, polled]

theorem polls_append {before after : List (Turn κ)} {replies others : List (Option Reply)}
    (same : before.length = replies.length) :
    feed.polls visitor (before ++ after) (replies ++ others) =
      feed.polls visitor before replies ++ feed.polls visitor after others := by
  rw [polls, List.zip_append same, List.filterMap_append, polls, polls]

theorem polls_unasked {turns : List (Turn κ)} (replies : List (Option Reply))
    (unasked : ∀ turn ∈ turns, feed.asked? visitor turn = none) :
    feed.polls visitor turns replies = [] := by
  rw [polls, List.filterMap_eq_nil_iff]
  rintro ⟨turn, reply⟩ member
  exact poll?_unasked reply (unasked turn (List.of_mem_zip member).1)

/-- Every trace keeps what a visitor has been given a part of what is shown, up to where the next
poll goes on. -/
theorem covers {turns : List (Turn κ)} {replies : List (Option Reply)}
    (traced : traceOf? (fun run turn => run.sessionStep? turn.move) start turns =
      some (last, replies)) :
    Poll.FollowUp 0 (feed.polls visitor turns replies) →
      Poll.Covers (feed.polls visitor turns replies) (feed.shown last) := by
  refine (traceOf?_induction (fun turns replies run => turns.length = replies.length ∧
    (Poll.FollowUp 0 (feed.polls visitor turns replies) →
      Poll.Covers (feed.polls visitor turns replies) (feed.shown run)))
    ⟨rfl, fun _ => .none _⟩ ?_ traced).2
  rintro turns replies run turn next reply ⟨same, covers⟩ step
  refine ⟨by simp [same], ?_⟩
  have one : feed.polls visitor [turn] [reply] = (feed.poll? visitor turn reply).toList :=
    (polls_cons turn reply [] []).trans (List.append_nil _)
  rw [polls_append same, one]
  cases asked : feed.asked? visitor turn with
  | none =>
    rw [poll?_unasked reply asked, Option.toList_none, List.append_nil]
    exact fun follows => (covers follows).grow (feed.grows _ _ _ _ step)
  | some since =>
    obtain ⟨rfl, polled⟩ := poll?_asked step asked
    rw [polled, Option.toList_some, Poll.followUp_snoc]
    rintro ⟨follows, due⟩
    exact ((covers follows).snoc due rfl).2

/-- In every part of a session that ends with the visitor's last poll, the pages of the visitor join
up to the list as it was then. -/
def JoinsUp (feed : Feed σ α) (visitor : κ) (start last : PlaygroundRun σ OutputBuffer)
    (turns : List (Turn κ)) (replies : List (Option Reply)) : Prop :=
  ∀ earlier turn later since, turns = earlier ++ turn :: later →
    feed.asked? visitor turn = some since →
    (∀ other ∈ later, feed.asked? visitor other = none) →
    Poll.FollowUp 0 (feed.polls visitor turns replies) →
      ∃ mid before, start.sessionTrace? (earlier.map Turn.move) = some (mid, before) ∧
        Poll.joined (feed.polls visitor turns replies) = feed.shown mid ∧
        feed.shown mid <+: feed.shown last

theorem joinsUp {turns : List (Turn κ)} {replies : List (Option Reply)}
    (traced : start.sessionTrace? (turns.map Turn.move) = some (last, replies)) :
    feed.JoinsUp visitor start last turns replies := by
  rintro earlier turn later since rfl asked unasked follows
  rw [PlaygroundRun.sessionTrace?_eq] at traced
  obtain ⟨mid, before, after, first, rest, rfl⟩ := traceOf?_split traced
  refine ⟨mid, before, by rw [PlaygroundRun.sessionTrace?_eq, first], ?_, feed.grown rest⟩
  have same := traceOf?_length first
  rw [traceOf?] at rest
  cases step : mid.sessionStep? turn.move with
  | none => simp [step] at rest
  | some pair =>
    obtain ⟨next, reply⟩ := pair
    simp only [step, Option.map_eq_some_iff] at rest
    obtain ⟨⟨final, others⟩, _, split⟩ := rest
    cases split
    obtain ⟨_, polled⟩ := poll?_asked step asked
    have last : feed.polls visitor (turn :: later) (reply :: others) =
        [⟨since, .since (feed.shown mid) since⟩] := by
      rw [polls_cons, polled, polls_unasked others unasked]
      rfl
    rw [polls_append same, last] at follows ⊢
    rw [Poll.followUp_snoc] at follows
    exact ((covers first follows.1).snoc follows.2 rfl).1

end Feed

namespace PlaygroundRun

variable {σ κ : Type} [DecidableEq κ] {start last : PlaygroundRun σ OutputBuffer}

/-- In every run of a session, whatever several visitors and the playground do in whatever order, a
visitor who polls the output from the start on and always asks for what came since gets pages that
join up to all chunks that there were at the last poll; and likewise for the notifications. A page
that is asked for from any index is a slice that exists, and polling changes nothing. -/
theorem polls_join_up {turns : List (Turn κ)} {replies : List (Option Reply)}
    (traced : start.sessionTrace? (turns.map Turn.move) = some (last, replies)) (visitor : κ) :
    Feed.output.JoinsUp visitor start last turns replies ∧
      Feed.notifications.JoinsUp visitor start last turns replies ∧
      ∀ (run : PlaygroundRun σ OutputBuffer) (since : Nat),
        let chunks := run.playground.proxy.sink.chunks
        let notices := run.playground.notifications
        (∃ items, Page.slice? chunks (min since chunks.length) = some items ∧
          run.obey (.output since) = (run, .output ⟨items, chunks.length⟩)) ∧
        ∃ items, Page.slice? notices (min since notices.length) = some items ∧
          run.obey (.notifications since) = (run, .notifications ⟨items, notices.length⟩) := by
  refine ⟨Feed.joinsUp traced, Feed.joinsUp traced, fun run since => ⟨?_, ?_⟩⟩
  · exact ⟨_, Page.slice?_since _ since, rfl⟩
  · exact ⟨_, Page.slice?_since _ since, rfl⟩

/-- A visitor polls the output while another one runs a program and looks at all of it. -/
def pollingWhileRunning : List (Turn Nat) :=
  [.command 0 (.output 0), .command 1 (.run (some "one\ntwo")), .play .work, .play .work,
    .play .deliverMessage, .play .work, .play .work, .play .work, .play .deliverMessage,
    .play .deliverMessage, .command 0 (.output 0), .play .work, .play .work,
    .command 1 (.output 9), .play .deliverMessage, .command 0 (.output 1), .play .deliverMessage]

theorem pollingWhileRunning_joins :
    ∃ mid last before replies,
      let feed : Feed Unit String := .output
      let polls := feed.polls 0 pollingWhileRunning replies
      (echoing 7).sessionTrace? (pollingWhileRunning.map Turn.move) = some (last, replies) ∧
        polls = [⟨0, [], 0⟩, ⟨0, ["one\n"], 1⟩, ⟨1, ["two"], 2⟩] ∧
        (echoing 7).sessionTrace? ((pollingWhileRunning.take 15).map Turn.move) =
          some (mid, before) ∧
        Poll.joined polls = mid.playground.proxy.sink.chunks := by
  have traced : (echoing 7).sessionTrace? (pollingWhileRunning.map Turn.move) = some (_, _) := rfl
  obtain ⟨output, _, _⟩ := polls_join_up traced 0
  obtain ⟨mid, before, earlier, joined, _⟩ := output (pollingWhileRunning.take 15)
    (.command 0 (.output 1)) [.play .deliverMessage] 1 rfl rfl (by decide) ⟨rfl, rfl, rfl, trivial⟩
  exact ⟨mid, _, before, _, traced, rfl, earlier, joined⟩

end PlaygroundRun

end CodePlayground
