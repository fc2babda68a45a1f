import CodePlayground.Text.Blank

/-!
Address fragments. A fragment such as `#test-add` names a sample id; a fragment of blanks and hash
signs alone names none.
-/

namespace CodePlayground.Fragment

def idChars (cs : List Char) : List Char :=
  Text.trimChars ((Text.trimChars cs).dropWhile (· == '#'))

/-- The sample id that a fragment names, if it names one. -/
def id? (fragment : String) : Option String :=
  match idChars fragment.toList with
  | [] => none
  | cs => some (String.ofList cs)

end CodePlayground.Fragment
