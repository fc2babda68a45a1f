import CodePlayground.Request.Id

/-!
Run records: what became of the recent runs, the oldest first. Each id has one record; a run that is
over may be forgotten when the history is full, a live one is kept until it ends.
-/

namespace CodePlayground

inductive RunStatus where
  /-- Issued, but not started. -/
  | pending
  | running
  | finished
  | failed (error : String)
  deriving DecidableEq, Repr

/-- Whether the run is over. -/
def RunStatus.isTerminal : RunStatus → Bool
  | .pending | .running => false
  | .finished | .failed _ => true

structure RunRecord where
  id : RequestId
  status : RunStatus
  deriving DecidableEq, Repr

namespace RunRecord

/-- From this many records on, a new one displaces the oldest run that is over. -/
def historySize : Nat := 64

def forgetOldest : List RunRecord → List RunRecord
  | [] => []
  | record :: records =>
    if record.status.isTerminal then records else record :: forgetOldest records

def add (records : List RunRecord) (record : RunRecord) : List RunRecord :=
  (if records.length < historySize then records else forgetOldest records) ++ [record]

def update (records : List RunRecord) (id : RequestId) (status : RunStatus) : List RunRecord :=
  records.map fun record => if record.id = id then { record with status } else record

/-- The status of a run changes. A pending run is a new one: an earlier record of its id goes. -/
def note (records : List RunRecord) (id : RequestId) (status : RunStatus) : List RunRecord :=
  let kept := if status = .pending then records.filter (·.id ≠ id) else records
  if kept.any (·.id = id) then update kept id status else add kept ⟨id, status⟩

def status? (records : List RunRecord) (id : RequestId) : Option RunStatus :=
  (records.find? (·.id = id)).map (·.status)

end RunRecord

end CodePlayground
