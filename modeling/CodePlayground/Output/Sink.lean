import CodePlayground.Output.Buffer
import CodePlayground.Output.Terminal

/-!
Output sinks: what receives the output chunks in their order of arrival.
-/

namespace CodePlayground

class OutputSink (S : Type) where
  append : S → String → S

instance : OutputSink OutputBuffer := ⟨OutputBuffer.append⟩

instance : OutputSink Terminal := ⟨Terminal.append⟩

end CodePlayground
