/-!
Doubles, as far as their range goes.
-/

namespace CodePlayground.Double

/-- The least number that does not round to a finite double. -/
def limit : Nat := Nat.pow 2 1024 - Nat.pow 2 970

end CodePlayground.Double
