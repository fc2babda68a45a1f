import CodePlayground.Api.Server
import CodePlayground.Main
import CodePlayground.Message.Wire
import CodePlayground.Proofs.Editor.View
import CodePlayground.Proofs.File.Removal
import CodePlayground.Proofs.Interpreter.Loading
import CodePlayground.Proofs.Json.Decimal
import CodePlayground.Proofs.Json.Lexing
import CodePlayground.Proofs.Json.Parsing
import CodePlayground.Proofs.Json.Reading
import CodePlayground.Proofs.Json.Writing
import CodePlayground.Proofs.Manifest.Validation
import CodePlayground.Proofs.Message.Wire
import CodePlayground.Proofs.Output.Framing
import CodePlayground.Proofs.Playground.Deliveries
import CodePlayground.Proofs.Playground.Growth
import CodePlayground.Proofs.Playground.History
import CodePlayground.Proofs.Playground.Lifecycle
import CodePlayground.Proofs.Playground.Quiescence
import CodePlayground.Proofs.Playground.Setup
import CodePlayground.Proofs.Proxy.Delivery
import CodePlayground.Proofs.Proxy.Lifecycle
import CodePlayground.Proofs.Proxy.Outstanding
import CodePlayground.Proofs.Sample.Calls
import CodePlayground.Proofs.Selection.Address
import CodePlayground.Proofs.Selection.Latest
import CodePlayground.Proofs.Session.Requests
import CodePlayground.Proofs.Subprocess.Failure
import CodePlayground.Proofs.Subprocess.ModuleFile
import CodePlayground.Proofs.Subprocess.ModulePath
import CodePlayground.Proofs.Subprocess.Pumping
import CodePlayground.Proofs.Worker.Blocks
import CodePlayground.Scripted.Fetcher
import CodePlayground.Selection.Run
