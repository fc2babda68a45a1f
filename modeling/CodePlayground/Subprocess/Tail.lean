/-!
The tail of a text. Of all that a program has written only the last octets are kept, from a character
boundary on. Offsets count octets of the UTF-8 form.
-/

namespace CodePlayground.Subprocess

def octetCount : List Char → Nat
  | [] => 0
  | c :: cs => c.utf8Size + octetCount cs

/-- The first character boundary at an offset or after it; there is none past the end. -/
def boundaryFrom? (cs : List Char) (offset : Nat) : Option Nat :=
  if offset = 0 then some 0
  else
    match cs with
    | [] => none
    | c :: cs => (boundaryFrom? cs (offset - c.utf8Size)).map (c.utf8Size + ·)

/-- What follows an offset, which has to be a character boundary. -/
def dropOctets? (cs : List Char) (offset : Nat) : Option (List Char) :=
  if offset = 0 then some cs
  else
    match cs with
    | [] => none
    | c :: cs => if c.utf8Size ≤ offset then dropOctets? cs (offset - c.utf8Size) else none

/-- Cuts a text down to its last `keep` octets, or a few less where a character would be split. -/
def cutTail? (keep : Nat) (cs : List Char) : Option (List Char) :=
  if octetCount cs ≤ keep then some cs
  else (boundaryFrom? cs (octetCount cs - keep)).bind (dropOctets? cs)

/-- Adds a text to the tail. -/
def keepTail (keep : Nat) (tail text : List Char) : List Char :=
  (cutTail? keep (tail ++ text)).getD []

theorem boundaryFrom?_isSome (cs : List Char) (offset : Nat) (within : offset ≤ octetCount cs) :
    ∃ boundary, boundaryFrom? cs offset = some boundary ∧ offset ≤ boundary := by
  induction cs generalizing offset with
  | nil =>
    have : offset = 0 := by simpa [octetCount] using within
    exact ⟨0, by simp [boundaryFrom?, this], by omega⟩
  | cons c cs ih =>
    by_cases start : offset = 0
    · exact ⟨0, by simp [boundaryFrom?, start], by omega⟩
    · have rest : offset - c.utf8Size ≤ octetCount cs := by
        simp only [octetCount] at within ⊢
        omega
      obtain ⟨boundary, found, above⟩ := ih _ rest
      exact ⟨c.utf8Size + boundary, by rw [boundaryFrom?, if_neg start, found]; rfl, by omega⟩

theorem dropOctets?_boundaryFrom? (cs : List Char) (offset boundary : Nat)
    (found : boundaryFrom? cs offset = some boundary) :
    ∃ rest, dropOctets? cs boundary = some rest ∧ ∃ front, front ++ rest = cs ∧
      octetCount front = boundary := by
  induction cs generalizing offset boundary with
  | nil =>
    rw [boundaryFrom?] at found
    split at found
    · cases found
      exact ⟨[], rfl, [], rfl, rfl⟩
    · cases found
  | cons c cs ih =>
    rw [boundaryFrom?] at found
    split at found
    · cases found
      exact ⟨c :: cs, by simp [dropOctets?], [], rfl, rfl⟩
    · obtain ⟨inner, eq, rfl⟩ := Option.map_eq_some_iff.1 found
      obtain ⟨rest, dropped, front, joined, size⟩ := ih _ _ eq
      have positive := c.utf8Size_pos
      refine ⟨rest, ?_, c :: front, by simp [joined], ?_⟩
      · rw [dropOctets?, if_neg (by omega), if_pos (by omega), Nat.add_sub_cancel_left]
        exact dropped
      · simp only [octetCount] at size ⊢
        omega

end CodePlayground.Subprocess
