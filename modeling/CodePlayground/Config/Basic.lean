import CodePlayground.Manifest.Builtin
import CodePlayground.Output.Stream
import CodePlayground.Sample.Fetch

/-!
The configuration of a playground, read from TOML. Every setting has a default.
-/

namespace CodePlayground

structure SampleSource where
  root : Path := "samples"
  baseUrl : Option String := none
  /-- Whether the built-in texts are supplied in advance. -/
  preloadBuiltin : Bool := true
  deriving DecidableEq, Repr

inductive Backend where
  /-- A child process for each execution. -/
  | process
  /-- An interpreter inside the program, which this build does not have. -/
  | embedded
  deriving DecidableEq, Repr

structure InterpreterConfig where
  backend : Backend := .process
  program : String := "python3"
  args : List String := ["-u"]
  scratchDir : Option Path := none
  setup : Option String := none
  cleanupHook : Option String := none
  output : OutputMode := .line
  deriving DecidableEq, Repr

/-- Module files are written below the system's directory for temporary files by default. -/
def InterpreterConfig.scratch (config : InterpreterConfig) (temporary : Path) : Path :=
  config.scratchDir.getD (Path.join temporary "pyplay")

structure ServerConfig where
  bind : String := "127.0.0.1:8080"
  deriving DecidableEq, Repr

structure Config where
  manifest : Option Path := none
  samples : SampleSource := {}
  interpreter : InterpreterConfig := {}
  /-- Request ids start over after this one. -/
  maxRequestId : UInt64 := 9007199254740990
  /-- Selected by an empty fragment in place of the first entry. -/
  defaultSample : Option String := none
  server : ServerConfig := {}
  deriving DecidableEq, Repr

inductive ConfigError where
  | unreadable (path : String) (fault : Fault)
  | malformed
  | manifest (error : ManifestError)
  | fetcher (error : FetchError)
  | unknownDefaultSample (id : String)
  deriving DecidableEq, Repr

def ConfigError.message : ConfigError → String
  | .unreadable path fault => "Failed to read config " ++ path ++ ": " ++ fault.message
  | .malformed => "Invalid config: TOML parse error"
  | .manifest error => error.message
  | .fetcher error => "Invalid sample source: " ++ error.message
  | .unknownDefaultSample id => "Default sample '" ++ id ++ "' is not in the manifest"

namespace Config

open Toml (Record Value)

def sampleSource? (value : Value) : Option SampleSource := do
  let record ← Record.ofValue? value
  let defaults : SampleSource := {}
  let root ← record.withDefault? ⟨0, ["root"]⟩ defaults.root Value.string?
  let baseUrl ← record.optional? ⟨1, ["base_url"]⟩ Value.string?
  let preloadBuiltin ←
    record.withDefault? ⟨2, ["preload_builtin"]⟩ defaults.preloadBuiltin Value.bool?
  return { root, baseUrl, preloadBuiltin }

def backend? : Value → Option Backend :=
  Value.choice? [("process", .process), ("embedded", .embedded)]

def outputMode? : Value → Option OutputMode :=
  Value.choice? [("line", .line), ("raw", .raw)]

def interpreter? (value : Value) : Option InterpreterConfig := do
  let record ← Record.ofValue? value
  let defaults : InterpreterConfig := {}
  let backend ← record.withDefault? ⟨0, ["backend"]⟩ defaults.backend backend?
  let program ← record.withDefault? ⟨1, ["program"]⟩ defaults.program Value.string?
  let args ← record.withDefault? ⟨2, ["args"]⟩ defaults.args Value.strings?
  let scratchDir ← record.optional? ⟨3, ["scratch_dir"]⟩ Value.string?
  let setup ← record.optional? ⟨4, ["setup"]⟩ Value.string?
  let cleanupHook ← record.optional? ⟨5, ["cleanup_hook"]⟩ Value.string?
  let output ← record.withDefault? ⟨6, ["output"]⟩ defaults.output outputMode?
  return { backend, program, args, scratchDir, setup, cleanupHook, output }

def server? (value : Value) : Option ServerConfig := do
  let record ← Record.ofValue? value
  let bind ← record.withDefault? ⟨0, ["bind"]⟩ ({} : ServerConfig).bind Value.string?
  return { bind }

def ofRecord? (record : Record) : Option Config := do
  let defaults : Config := {}
  let manifest ← record.optional? ⟨0, ["manifest"]⟩ Value.string?
  let samples ← record.withDefault? ⟨1, ["samples"]⟩ defaults.samples sampleSource?
  let interpreter ← record.withDefault? ⟨2, ["interpreter"]⟩ defaults.interpreter interpreter?
  let maxRequestId ← record.withDefault? ⟨3, ["max_request_id"]⟩ defaults.maxRequestId Value.word?
  let defaultSample ← record.optional? ⟨4, ["default_sample"]⟩ Value.string?
  let server ← record.withDefault? ⟨5, ["server"]⟩ defaults.server server?
  return { manifest, samples, interpreter, maxRequestId, defaultSample, server }

def parse (text : String) : Except ConfigError Config :=
  match (Toml.parse? text).bind fun fields => ofRecord? (.named fields) with
  | some config => .ok config
  | none => .error .malformed

def load (tree : FileTree) (path : Path) : Except ConfigError Config :=
  match tree.readText path with
  | .ok text => parse text
  | .error fault => .error (.unreadable path fault)

/-- The manifest of a configuration, which has to contain the default sample. -/
def loadManifest (config : Config) (tree : FileTree) : Except ConfigError Manifest := do
  let manifest ←
    match config.manifest with
    | some path =>
      match Manifest.load tree path with
      | .ok manifest => .ok manifest
      | .error error => .error (.manifest error)
    | none => .ok Manifest.builtin
  match config.defaultSample with
  | some id => if manifest.contains id then .ok manifest else .error (.unknownDefaultSample id)
  | none => .ok manifest

def fetcher (config : Config) : Except ConfigError Fetcher := do
  let inner ←
    match config.samples.baseUrl with
    | some base =>
      match Fetcher.ofBase base with
      | .ok fetcher => .ok fetcher
      | .error error => .error (.fetcher error)
    | none => .ok (.directory config.samples.root)
  return if config.samples.preloadBuiltin then .preloaded builtinTexts inner else inner

end Config

end CodePlayground
