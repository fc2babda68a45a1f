import CodePlayground.Api.Body
import CodePlayground.Api.Media
import CodePlayground.Api.Route
import CodePlayground.Api.View
import CodePlayground.Version

/-!
The server: every request goes to one session. A request that is not understood is refused before
the session hears of it.
-/

namespace CodePlayground.Api

structure Request where
  method : Method
  target : Target
  contentType : Option String
  body : List UInt8

inductive Content where
  | text (text : String)
  | json (value : Json)

/-- A response; `head` leaves out the content and keeps its kind. -/
structure Response where
  status : Nat
  content : Content
  head : Bool

/-- Pages of any origin may ask. -/
def allowedOrigin : String := "*"

namespace Response

def ok (value : Json) : Response := ⟨200, .json value, false⟩

/-- A status with a text to explain it. -/
def plain (status : Nat) (text : String) : Response := ⟨status, .text text, false⟩

def bare (status : Nat) : Response := plain status ""

def isJson (response : Response) : Bool :=
  match response.content with
  | .json _ => true
  | .text _ => false

def body (response : Response) : String :=
  match response.head, response.content with
  | true, _ => ""
  | false, .text text => text
  | false, .json value => value.render

def ofSessionError (error : SessionError) : Response :=
  match error with
  | .proxy (.requestIdInUse _) => plain 409 error.message
  | _ => plain 503 error.message

def ofSampleError (error : SampleError) : Response :=
  match error with
  | .notFound _ => plain 404 error.message
  | .fetchFailed _ _ => plain 502 error.message

/-- Every reply is shown with status 200, but a run that has only been issued with 202. -/
def ofReply : Except SessionError Reply → Response
  | .error error => ofSessionError error
  | .ok (.selection selection) => ok (View.selection selection)
  | .ok (.source view) => ok (View.source view)
  | .ok (.issued (.ok id)) => ⟨202, .json (.object [("id", View.idJson id)]), false⟩
  | .ok (.issued (.error error)) => ofSessionError (.proxy error)
  | .ok (.output page) => ok (View.page .text page)
  | .ok (.notifications page) => ok (View.page View.notification page)
  | .ok (.runs records) => ok (.array (records.map View.record))

end Response

def selectForm : Form String := ⟨"fragment", readText, some ""⟩

def editForm : Form String := ⟨"text", readText, none⟩

def runForm : Form (Option String) := ⟨"source", readOptional, some none⟩

/-- Reads a body that has to be declared as JSON. -/
def declared {α : Type} (form : Form α) (request : Request) : Except Response α :=
  match request.contentType.bind Media.parse? with
  | none => .error (.bare 415)
  | some media =>
    if media.isJson then
      (form.read request.body).mapError fun fault =>
        match fault with
        | .malformed => .bare 400
        | .mismatched => .bare 422
    else .error (.bare 415)

/-- Reads the body of a run, whatever it is declared as; an empty one runs the text in the editor. -/
def runSource (request : Request) : Except Response (Option String) :=
  if request.body.isEmpty then .ok none
  else (runForm.read request.body).mapError fun _ => .bare 400

/-- The place where a page begins. -/
def pageStart (request : Request) : Except Response Nat :=
  match since? request.target.query with
  | some start => .ok start
  | none => .error (.bare 400)

/-- The command of a request to a route, if it is one for the session. -/
def command? (request : Request) : Route → Option (Except Response Command)
  | .health | .samples | .sample _ => none
  | .select => some ((declared selectForm request).map .select)
  | .source =>
    if request.method = .put then some ((declared editForm request).map .edit)
    else some (.ok .source)
  | .run => some ((runSource request).map .run)
  | .runs => some (.ok .runs)
  | .output => some ((pageStart request).map .output)
  | .notifications => some ((pageStart request).map .notifications)

section

variable {σ φ : Type} [TextService φ]

def health (session : Session σ φ) : Response :=
  .ok (.object [("status", .text "healthy"), ("version", .text version),
    ("samples", Json.nat session.manifest.size)])

def samples (session : Session σ φ) : Response :=
  .ok (.object [("groups", .array (session.manifest.groups.map View.group))])

/-- One sample through the cache; there is no response while its text is waited for. -/
def sample (session : Session σ φ) (segment : List Char) :
    Session σ φ × Option Response :=
  match sampleId? segment with
  | none => (session, some (.bare 400))
  | some id =>
    match session.load id with
    | (session, none) => (session, none)
    | (session, some (.ok sample)) => (session, some (.ok (View.sample sample)))
    | (session, some (.error error)) => (session, some (.ofSampleError error))

/-- Answers a request to a route that takes its method. -/
def serve (session : Session σ φ) (request : Request) (route : Route) :
    Session σ φ × Option Response :=
  match command? request route, route with
  | some (.ok command), _ =>
    let (session, reply) := session.request command
    (session, some (.ofReply reply))
  | some (.error refusal), _ => (session, some refusal)
  | none, .sample segment => sample session segment
  | none, .samples => (session, some (samples session))
  | none, _ => (session, some (health session))

/-- Answers any request. What may be asked from where can be asked of every path. -/
def answer (session : Session σ φ) (request : Request) : Session σ φ × Option Response :=
  if request.method = .options then (session, some (.bare 200))
  else
    match Route.ofPath? request.target.path with
    | none => (session, some (.bare 404))
    | some route =>
      if route.takes request.method then
        let (session, response) := serve session request route
        (session, response.map fun response =>
          { response with head := request.method = .head })
      else (session, some (.bare 405))

end

end CodePlayground.Api
