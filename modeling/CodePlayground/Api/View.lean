import CodePlayground.Json.Value
import CodePlayground.Session.Basic

/-!
How things are shown as JSON, to visitors and to those who observe a playground.
-/

namespace CodePlayground.Api.View

def idJson (id : RequestId) : Json :=
  Json.nat id.value.toNat

def optional {α : Type} (view : α → Json) : Option α → Json
  | some value => view value
  | none => .null

def entryFields (entry : SampleEntry) : List (String × Json) :=
  [("group", .text entry.group), ("name", .text entry.name), ("id", .text entry.id),
    ("path", .text entry.path)]

def group (group : SampleGroup) : Json :=
  .object [("label", .text group.label),
    ("entries", .array (group.entries.map fun entry => .object (entryFields entry)))]

/-- A sample is shown as its entry, with its text. -/
def sample (sample : Sample) : Json :=
  .object (entryFields ⟨sample.group, sample.displayName, sample.id, sample.sourcePath⟩ ++
    [("text", .text sample.sourceText)])

def selection (selection : Selection) : Json :=
  .object [("id", .text selection.id),
    ("generation", Json.nat selection.generation.value.toNat)]

def source (view : SourceView) : Json :=
  .object [("text", .text view.text), ("version", Json.nat view.version),
    ("selected", optional .text view.selected),
    ("generation", Json.nat view.generation.value.toNat), ("loading", .bool view.loading)]

def status : RunStatus → List (String × Json)
  | .pending => [("status", .text "pending")]
  | .running => [("status", .text "running")]
  | .finished => [("status", .text "finished")]
  | .failed error => [("status", .text "failed"), ("error", .text error)]

def record (record : RunRecord) : Json :=
  .object (("id", idJson record.id) :: status record.status)

def notification (notification : Notification) : Json :=
  .object [("severity", .text (match notification.severity with
      | .info => "info"
      | .error => "error")),
    ("message", .text notification.message)]

def event : LifecycleEvent → Json
  | .ready => .object [("event", .text "ready")]
  | .unavailable error => .object [("event", .text "unavailable"), ("error", .text error)]
  | .started id => .object [("event", .text "started"), ("id", idJson id)]
  | .finished id => .object [("event", .text "finished"), ("id", idJson id)]
  | .failed id error =>
    .object [("event", .text "failed"), ("id", idJson id), ("error", .text error)]

def playgroundEvent : PlaygroundEvent → Json
  | .lifecycle lifecycle => event lifecycle
  | .sampleLoaded sample =>
    .object [("event", .text "sample_loaded"), ("id", .text sample.id)]
  | .sampleFailed id error =>
    .object [("event", .text "sample_failed"), ("id", .text id), ("error", .text error)]
  | .staleLoadDiscarded id => .object [("event", .text "stale"), ("id", .text id)]

def page {α : Type} (view : α → Json) (page : Page α) : Json :=
  .object [("items", .array (page.items.map view)), ("next", Json.nat page.next)]

end CodePlayground.Api.View
