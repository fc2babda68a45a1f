import CodePlayground.File.Fault
import CodePlayground.Request.Id

/-!
What is reported about the context and its runs: events to whoever processes the context's messages,
and errors to whoever issues a run.
-/

namespace CodePlayground

inductive LifecycleEvent where
  /-- The interpreter is loaded and the runs that waited for it have been sent. -/
  | ready
  /-- The context cannot run anything for the rest of the session. -/
  | unavailable (error : String)
  | started (id : RequestId)
  | finished (id : RequestId)
  | failed (id : RequestId) (error : String)
  deriving DecidableEq, Repr

namespace LifecycleEvent

def requestId? : LifecycleEvent → Option RequestId
  | ready | unavailable _ => none
  | started id | finished id | failed id _ => some id

/-- Whether the event ends a run. -/
def isTerminal : LifecycleEvent → Bool
  | finished _ | failed _ _ => true
  | _ => false

end LifecycleEvent

/-- Why a run was not issued. -/
inductive ProxyError where
  | contextUnavailable (reason : String)
  /-- The worker could not be started. -/
  | spawn (fault : Fault)
  | requestIdInUse (id : RequestId)
  | channelClosed
  deriving DecidableEq, Repr

def ProxyError.message : ProxyError → String
  | .contextUnavailable reason => "Execution context unavailable: " ++ reason
  | .spawn fault => "Failed to start execution context: " ++ fault.message
  | .requestIdInUse id => "Request id " ++ id.text ++ " is still outstanding"
  | .channelClosed => "Execution context channel closed"

end CodePlayground
