import CodePlayground.CommandLine.Report
import CodePlayground.CommandLine.Style
import CodePlayground.Sample.Supply

/-!
Listing the samples of a manifest, and showing one of them.
-/

namespace CodePlayground.CommandLine

def entryLine (colored : Bool) (entry : SampleEntry) : String :=
  "  " ++ Style.cyan.column colored 20 entry.id ++ " " ++ entry.name ++ "\n"

def groupText (colored : Bool) (group : SampleGroup) : String :=
  Style.bold.paint colored group.label ++ "\n" ++
    String.join (group.entries.map (entryLine colored))

def listing (colored : Bool) (manifest : Manifest) : String :=
  String.join (manifest.groups.map (groupText colored))

def loadManifest (config : Config) (files : FileTree) : Except Report Manifest :=
  (config.loadManifest files).mapError fun error =>
    (Report.ofConfigError error).under "Failed to load manifest"

/-- Loads one sample of the manifest. -/
def loadSample (config : Config) (files : FileTree) (web : Web) (id : String) :
    Except Report Sample := do
  let manifest ← loadManifest config files
  let fetcher ← config.fetcher.mapError Report.ofConfigError
  let loads : Loads Unit := .ofManifest manifest
  match (loads.ask (Supply.new fetcher files web) () id).2.2 with
  | some (.ok sample) => .ok sample
  | some (.error error) => .error (.ofSampleError error)
  | none => .error (.ofSampleError (.notFound id))

/-- The line above the text of a sample. -/
def heading (colored : Bool) (sample : Sample) : String :=
  Style.blue.paint colored "──" ++ " " ++ Style.bold.paint colored sample.displayName ++ " " ++
    Style.dimmed.paint colored ("(" ++ sample.sourcePath ++ ")") ++ "\n"

end CodePlayground.CommandLine
