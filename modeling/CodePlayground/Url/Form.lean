import CodePlayground.Text.Split
import CodePlayground.Url.Percent

/-!
Form fields in a query: pairs of a name and a value, joined by `&` and split at the first `=`. A
field without `=` has an empty value, and an empty piece is no field.
-/

namespace CodePlayground.Url.Form

def field (piece : List Char) : String × String :=
  (formDecode (piece.takeWhile (· ≠ '=')), formDecode ((piece.dropWhile (· ≠ '=')).drop 1))

def fields (query : List Char) : List (String × String) :=
  ((Text.parts (· = '&') query).filter (!·.isEmpty)).map field

end CodePlayground.Url.Form
