import CodePlayground.File.Text
import CodePlayground.Manifest.Basic
import CodePlayground.Toml.Document
import CodePlayground.Toml.Field

/-!
Manifests in TOML: a list of tables under `sample`, each with the four fields of an entry.
-/

namespace CodePlayground.Manifest

def entryOf? (value : Toml.Value) : Option SampleEntry := do
  let record ← Toml.Record.ofValue? value
  let group ← record.required? ⟨0, ["group"]⟩ Toml.Value.string?
  let name ← record.required? ⟨1, ["name", "display_name"]⟩ Toml.Value.string?
  let id ← record.required? ⟨2, ["id"]⟩ Toml.Value.string?
  let path ← record.required? ⟨3, ["path"]⟩ Toml.Value.string?
  return { group, name, id, path }

def entriesOf? : Toml.Value → Option (List SampleEntry)
  | .array items => items.mapM entryOf?
  | _ => none

def parseEntries? (text : String) : Option (List SampleEntry) := do
  let fields ← Toml.parse? text
  (Toml.Record.named fields).withDefault? ⟨0, ["sample"]⟩ [] entriesOf?

def parse (text : String) : Except ManifestError Manifest :=
  match parseEntries? text with
  | some entries => ofEntries entries
  | none => .error .malformed

def load (tree : FileTree) (path : Path) : Except ManifestError Manifest :=
  match tree.readText path with
  | .ok text => parse text
  | .error fault => .error (.unreadable path fault)

end CodePlayground.Manifest
