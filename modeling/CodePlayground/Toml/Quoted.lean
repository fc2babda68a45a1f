import CodePlayground.Text.Hex
import CodePlayground.Toml.Trivia

/-!
TOML strings: basic ones with escapes and literal ones without, each in a one-line form and in a
form of several lines that is delimited by three quotes.
-/

namespace CodePlayground.Toml

/-- The character of a scalar value; surrogates and values beyond Unicode have none. -/
def scalar? (n : Nat) : Option Char :=
  if n.isValidChar then some (Char.ofNat n) else none

def hexChar? (digits : List Char) : Option Char :=
  (digits.foldlM (fun n c => (Text.hexValue? c).map (n * 16 + ·)) 0).bind scalar?

/-- The character that a one-letter escape stands for. -/
def escaped? (c : Char) : Option Char :=
  match c with
  | 'b' => some '\x08'
  | 't' => some '\t'
  | 'n' => some '\n'
  | 'f' => some '\x0c'
  | 'r' => some '\r'
  | '"' => some '"'
  | '\\' => some '\\'
  | _ => none

def cons (c : Char) (found : Option (List Char × List Char)) :
    Option (List Char × List Char) :=
  found.map fun (text, rest) => (c :: text, rest)

/-- The rest of a one-line basic string, after its first quote. -/
def basicRest : Reader (List Char)
  | [] => none
  | '"' :: rest => some ([], rest)
  | '\\' :: 'u' :: a :: b :: c :: d :: rest =>
    (hexChar? [a, b, c, d]).bind (cons · (basicRest rest))
  | '\\' :: 'U' :: a :: b :: c :: d :: e :: f :: g :: h :: rest =>
    (hexChar? [a, b, c, d, e, f, g, h]).bind (cons · (basicRest rest))
  | '\\' :: c :: rest => (escaped? c).bind (cons · (basicRest rest))
  | c :: rest => if isPlain c then cons c (basicRest rest) else none

def literalRest : Reader (List Char)
  | [] => none
  | '\'' :: rest => some ([], rest)
  | c :: rest => if isPlain c then cons c (literalRest rest) else none

/-- Whether white space is being skipped in a string of several lines. -/
inductive Folding where
  | off
  /-- After a backslash and blanks; the line has to end. -/
  | lineMustEnd
  /-- After a backslash at a line's end, up to the next visible character. -/
  | on
  deriving DecidableEq, Repr

/-- The rest of a basic string of several lines, after its first three quotes. A run of quotes that
is longer than three ends with the delimiter, and at most two of its quotes belong to the text. -/
def basicLinesRest (folding : Folding) : Reader (List Char)
  | [] => none
  | '\n' :: rest =>
    if folding = .off then cons '\n' (basicLinesRest .off rest) else basicLinesRest .on rest
  | '\r' :: '\n' :: rest =>
    if folding = .off then cons '\n' (basicLinesRest .off rest) else basicLinesRest .on rest
  | c :: rest =>
    if folding ≠ .off ∧ isBlank c then basicLinesRest folding rest
    else if folding = .lineMustEnd then none
    else
      match c, rest with
      | '"', '"' :: '"' :: '"' :: '"' :: after => some (['"', '"'], after)
      | '"', '"' :: '"' :: '"' :: after => some (['"'], after)
      | '"', '"' :: '"' :: after => some ([], after)
      | '\\', 'u' :: a :: b :: c :: d :: after =>
        (hexChar? [a, b, c, d]).bind (cons · (basicLinesRest .off after))
      | '\\', 'U' :: a :: b :: c :: d :: e :: f :: g :: h :: after =>
        (hexChar? [a, b, c, d, e, f, g, h]).bind (cons · (basicLinesRest .off after))
      | '\\', ' ' :: after => basicLinesRest .lineMustEnd after
      | '\\', '\t' :: after => basicLinesRest .lineMustEnd after
      | '\\', '\n' :: after => basicLinesRest .on after
      | '\\', '\r' :: '\n' :: after => basicLinesRest .on after
      | '\\', c :: after => (escaped? c).bind (cons · (basicLinesRest .off after))
      | c, rest => if isPlain c && c ≠ '\\' then cons c (basicLinesRest .off rest) else none

def literalLinesRest : Reader (List Char)
  | [] => none
  | '\'' :: '\'' :: '\'' :: '\'' :: '\'' :: rest => some (['\'', '\''], rest)
  | '\'' :: '\'' :: '\'' :: '\'' :: rest => some (['\''], rest)
  | '\'' :: '\'' :: '\'' :: rest => some ([], rest)
  | '\n' :: rest => cons '\n' (literalLinesRest rest)
  | '\r' :: '\n' :: rest => cons '\n' (literalLinesRest rest)
  | c :: rest => if isPlain c then cons c (literalLinesRest rest) else none

/-- A line end right after the opening delimiter does not belong to the text. -/
def dropFirstLineEnd (cs : List Char) : List Char :=
  match cs with
  | '\n' :: rest => rest
  | '\r' :: '\n' :: rest => rest
  | cs => cs

def ofChars (found : Option (List Char × List Char)) : Option (String × List Char) :=
  found.map fun (text, rest) => (String.ofList text, rest)

/-- A one-line string of either kind. -/
def quoted? : Reader String
  | '"' :: rest => ofChars (basicRest rest)
  | '\'' :: rest => ofChars (literalRest rest)
  | _ => none

/-- A string of any of the four kinds. -/
def string? : Reader String
  | '"' :: '"' :: '"' :: rest => ofChars (basicLinesRest .off (dropFirstLineEnd rest))
  | '\'' :: '\'' :: '\'' :: rest => ofChars (literalLinesRest (dropFirstLineEnd rest))
  | cs => quoted? cs

end CodePlayground.Toml
