import CodePlayground.File.Tree
import CodePlayground.Text.Utf8

/-!
Files that hold text in UTF-8.
-/

namespace CodePlayground.FileTree

/-- Reads a file that has to be UTF-8. -/
def readText (tree : FileTree) (path : Path) : Except Fault String := do
  let octets ← tree.read path
  match Text.Utf8.decode? octets with
  | some text => .ok text
  | none => .error .notUtf8

end CodePlayground.FileTree
