/-!
TOML values. Of floats and dates only their kind is kept.
-/

namespace CodePlayground.Toml

inductive Value where
  | string (text : String)
  | integer (n : Int)
  | float
  | bool (b : Bool)
  | datetime
  | array (items : List Value)
  | table (fields : List (String × Value))
  deriving Repr, Inhabited

end CodePlayground.Toml
