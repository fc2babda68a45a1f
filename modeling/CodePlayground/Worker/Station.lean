import CodePlayground.Proxy.Basic
import CodePlayground.Worker.Link

/-!
The worker's side of a session as the proxy meets it: no worker at first, then the link to one. The
station carries out what the proxy does to the link.
-/

namespace CodePlayground

structure Station (σ : Type) where
  factory : Outcome (Loaded σ)
  draw : Nat → BitVec 128
  mode : OutputMode
  /-- Why no worker can be started, if none can. -/
  refusal : Option Fault
  link : Option (Link σ)

namespace Station

variable {σ : Type}

def new (factory : Outcome (Loaded σ)) (draw : Nat → BitVec 128) (mode : OutputMode) : Station σ :=
  ⟨factory, draw, mode, none, none⟩

def reach (station : Station σ) : Reach :=
  ⟨station.refusal, station.link.any Link.receiving⟩

def apply (station : Station σ) : LinkEffect → Station σ
  | .spawn => { station with link := some (.new station.factory station.draw station.mode) }
  | .send message => { station with link := station.link.map (·.send message) }
  | .hangUp => { station with link := station.link.map Link.hangUp }

def applyAll (station : Station σ) (effects : List LinkEffect) : Station σ :=
  effects.foldl apply station

/-- The worker's next step. -/
def advance? (station : Station σ) : Option (Station σ) :=
  (station.link.bind Link.advance?).map fun link => { station with link := some link }

/-- Lets the worker step until it rests. -/
def rest (station : Station σ) : Station σ :=
  { station with link := station.link.map Link.rest }

def receive? (station : Station σ) : Option (Received × Station σ) :=
  (station.link.bind Link.receive?).map fun (received, link) =>
    (received, { station with link := some link })

/-- What the worker is left to do, apart from sending. -/
def work (station : Station σ) : Nat :=
  station.link.elim 0 Link.work

def inTransit (station : Station σ) : Nat :=
  station.link.elim 0 Link.inTransit

theorem rest_measure (station : Station σ) :
    station.rest.work < station.work ∨
      station.rest.work = station.work ∧ station.rest.inTransit ≤ station.inTransit := by
  cases h : station.link with
  | none => exact .inr (by simp [rest, work, inTransit, h])
  | some link => simpa [rest, work, inTransit, h] using link.rest_measure

theorem receive?_message {station after : Station σ} {message : ContextMessage}
    (h : station.receive? = some (.message message, after)) :
    after.work = station.work ∧ after.inTransit + 1 = station.inTransit := by
  simp only [receive?, Option.map_eq_some_iff, Option.bind_eq_some_iff] at h
  obtain ⟨⟨received, next⟩, ⟨link, linked, taken⟩, same⟩ := h
  cases same
  simpa [work, inTransit, linked] using Link.receive?_message taken

theorem work_sendAll (station : Station σ) (messages : List HostMessage) :
    (station.applyAll (messages.map .send)).work ≤ station.work + messages.length := by
  induction messages generalizing station with
  | nil => simp [applyAll]
  | cons message messages ih =>
    have first : (station.apply (.send message)).work ≤ station.work + 1 := by
      cases h : station.link <;> simp [apply, work, h, Link.work, Link.send]
      omega
    have others := ih (station.apply (.send message))
    simp only [applyAll, List.map_cons, List.foldl_cons, List.length_cons] at others ⊢
    omega

theorem inTransit_sendAll (station : Station σ) (messages : List HostMessage) :
    (station.applyAll (messages.map .send)).inTransit = station.inTransit := by
  induction messages generalizing station with
  | nil => simp [applyAll]
  | cons message messages ih =>
    have first : (station.apply (.send message)).inTransit = station.inTransit := by
      cases h : station.link <;> simp [apply, inTransit, h, Link.inTransit, Link.send]
    have others := ih (station.apply (.send message))
    simp only [applyAll, List.map_cons, List.foldl_cons] at others ⊢
    omega

end Station

end CodePlayground
