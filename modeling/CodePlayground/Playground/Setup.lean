import CodePlayground.Playground.Stage
import CodePlayground.Subprocess.Interpreter
import CodePlayground.Sample.Supply

/-!
Setting a playground up from its configuration: with the manifest and the fetcher that the
configuration names, and with no banner unless the output goes to a panel. Its programs run as child
processes.
-/

namespace CodePlayground

structure Setup (S : Type) where
  playground : Playground S
  manifest : Manifest
  fetcher : Fetcher

/-- What a playground finds around it. -/
structure Surroundings (μ : Type) where
  host : Subprocess.Host μ
  machine : Subprocess.Machine μ
  web : Web
  /-- The system's directory for temporary files. -/
  temporary : Path
  /-- Random numbers for module names. -/
  draw : Nat → BitVec 128

/-- A playground that writes to a given sink. -/
def Config.setUp {S : Type} (config : Config) (files : FileTree) (sink : S) :
    Except ConfigError (Setup S) := do
  let manifest ← config.loadManifest files
  let fetcher ← config.fetcher
  let proxy := Proxy.new (.upTo config.maxRequestId) none sink
  return ⟨.new proxy (.ofManifest manifest config.defaultSample), manifest, fetcher⟩

/-- Puts the playground on a stage whose gate is open from the start. -/
def Setup.stage {μ S : Type} (setup : Setup S) (config : InterpreterConfig)
    (around : Surroundings μ) : Stage (Subprocess.Host μ) S Supply :=
  let factory := Subprocess.factoryOf config around.temporary around.machine around.host
  let station := Station.new factory around.draw config.output
  ⟨.new setup.playground station setup.manifest,
    .new setup.fetcher around.host.files around.web, true⟩

/-- A playground on its stage. -/
def Config.stage {μ S : Type} (config : Config) (around : Surroundings μ) (sink : S) :
    Except ConfigError (Stage (Subprocess.Host μ) S Supply) :=
  (config.setUp around.host.files sink).map (·.stage config.interpreter around)

/-- A playground with an output panel, which greets when the interpreter is ready. -/
def Config.panelStage {μ : Type} (config : Config) (around : Surroundings μ) :
    Except ConfigError (Stage (Subprocess.Host μ) OutputBuffer Supply) := do
  let setup ← config.setUp around.host.files OutputBuffer.empty
  let proxy := { setup.playground.proxy with banner := some Playground.readyBanner }
  let playground := { setup.playground with proxy }
  return { setup with playground }.stage config.interpreter around

end CodePlayground
