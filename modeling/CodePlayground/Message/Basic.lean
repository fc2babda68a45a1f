import CodePlayground.Request.Id

/-!
The messages between the user's side and the execution context, one closed type for each direction.
-/

namespace CodePlayground

/-- What the context is asked to do. -/
inductive HostMessage where
  /-- Run `data` as request `id`. -/
  | execute (id : RequestId) (data : String)
  deriving DecidableEq, Repr

namespace HostMessage

def id : HostMessage → RequestId
  | execute id _ => id

def data : HostMessage → String
  | execute _ data => data

end HostMessage

/-- What the context reports. -/
inductive ContextMessage where
  /-- The interpreter is loaded and the context takes requests. -/
  | initialized
  /-- The interpreter could not be loaded; the context ends. -/
  | initFailed (error : String)
  /-- A chunk of captured output. -/
  | output (text : String)
  | execStart (id : RequestId)
  | execFinished (id : RequestId)
  | execError (id : RequestId) (error : String)
  deriving DecidableEq, Repr

namespace ContextMessage

/-- The request that a message belongs to; output belongs to none. -/
def requestId? : ContextMessage → Option RequestId
  | initialized | initFailed _ | output _ => none
  | execStart id | execFinished id | execError id _ => some id

/-- Whether the message ends a request. -/
def isTerminal : ContextMessage → Bool
  | execFinished _ | execError _ _ => true
  | _ => false

def outputText? : ContextMessage → Option String
  | output text => some text
  | _ => none

end ContextMessage

end CodePlayground
