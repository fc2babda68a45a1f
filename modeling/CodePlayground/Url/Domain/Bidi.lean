import CodePlayground.Unicode.Direction

/-!
Labels in names that hold characters written from right to left. Each label of such a name has one
direction, which its first letter gives, and ends in a letter or a number of that direction, so that
names do not run into each other where they are shown.
-/

namespace CodePlayground.Url.Domain

open Unicode (Direction direction)

/-- The directions that may stand anywhere in a label but at its end. -/
def isNeutral (d : Direction) : Bool :=
  [.europeanSeparator, .commonSeparator, .europeanTerminator, .otherNeutral, .boundaryNeutral,
    .nonspacingMark].contains d

/-- A label from left to right; the marks at its end do not count. -/
def runsRight (label : List Direction) : Bool :=
  label.all (fun d => d = .leftToRight || d = .europeanNumber || isNeutral d) &&
    match label.reverse.dropWhile (· = .nonspacingMark) with
    | last :: _ => last = .leftToRight || last = .europeanNumber
    | [] => true

/-- A label from right to left; its numbers are of one kind. -/
def runsLeft (label : List Direction) : Bool :=
  let letter (d : Direction) : Bool := d = .rightToLeft || d = .arabicLetter
  let number (d : Direction) : Bool := d = .europeanNumber || d = .arabicNumber
  label.all (fun d => letter d || number d || isNeutral d) &&
    !(label.contains .europeanNumber && label.contains .arabicNumber) &&
    match label.reverse.dropWhile (· = .nonspacingMark) with
    | last :: _ => letter last || number last
    | [] => true

/-- Whether the label keeps to the direction of its first character. -/
def keepsDirection (label : List Char) : Bool :=
  let directions := label.map direction
  match directions with
  | [] => true
  | .leftToRight :: _ => runsRight directions
  | .rightToLeft :: _ | .arabicLetter :: _ => runsLeft directions
  | _ => false

/-- Whether the labels of a name may stand together. -/
def directionsFit (labels : List (List Char)) : Bool :=
  labels.all (·.all (!Unicode.isRightToLeft ·)) || labels.all keepsDirection

end CodePlayground.Url.Domain
