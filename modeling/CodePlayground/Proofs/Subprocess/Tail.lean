import CodePlayground.Subprocess.Pump

/-!
The tail that is kept of a text. It is the longest end of the text that begins at a character and is
small enough, however the text comes in. Boundaries and lengths are those of the UTF-8 octets.
-/

namespace CodePlayground.Subprocess

/-- A character of the text begins at the offset, or the text ends there. -/
def IsBoundary (text : String) (offset : Nat) : Prop :=
  String.Pos.Raw.IsValid text ⟨offset⟩

/-- The octets of a text from a boundary on are those of another text. -/
def EndFrom (text : String) (offset : Nat) (rest : String) : Prop :=
  IsBoundary text offset ∧ rest.toByteArray = text.toByteArray.extract offset text.utf8ByteSize

/-- The search for a boundary, octet by octet. Past the end there is none, so it would not stop. -/
inductive Search (text : String) : Nat → Nat → Prop where
  | stop {offset : Nat} (boundary : IsBoundary text offset) : Search text offset offset
  | next {offset boundary : Nat} (inside : ¬IsBoundary text offset)
      (onward : Search text (offset + 1) boundary) : Search text offset boundary

/-- A text that is longer than `keep` octets loses what is in front of the boundary that is found by
a search from where its last `keep` octets begin. -/
inductive CutDown (keep : Nat) (text : String) : String → Prop where
  | short (small : text.utf8ByteSize ≤ keep) : CutDown keep text text
  | long {boundary : Nat} {rest : String} (large : keep < text.utf8ByteSize)
      (search : Search text (text.utf8ByteSize - keep) boundary)
      (left : EndFrom text boundary rest) : CutDown keep text rest

/-- The longest end of a text, from a boundary on, that has at most `keep` octets. -/
structure LongestSuffix (keep : Nat) (text tail : String) : Prop where
  ends : ∃ offset, EndFrom text offset tail
  small : tail.utf8ByteSize ≤ keep
  longest : ∀ offset, IsBoundary text offset → text.utf8ByteSize - offset ≤ keep →
    text.utf8ByteSize - offset ≤ tail.utf8ByteSize

/-- The longest end of a text, from a character on, that has at most `keep` octets. -/
structure LongestEnd (keep : Nat) (text tail : List Char) : Prop where
  ends : tail <:+ text
  small : octetCount tail ≤ keep
  longest : ∀ other, other <:+ text → octetCount other ≤ keep → other.length ≤ tail.length

/-- Adds texts to the tail, one after the other. -/
def keepTails (keep : Nat) (tail : List Char) (texts : List String) : List Char :=
  texts.foldl (fun tail text => keepTail keep tail text.toList) tail

variable {keep : Nat} {text tail more last cs : List Char}

theorem octetCount_append (left right : List Char) :
    octetCount (left ++ right) = octetCount left + octetCount right := by
  induction left with
  | nil => simp [octetCount]
  | cons c left ih => simp only [List.cons_append, octetCount, ih, Nat.add_assoc]

theorem octetCount_le_of_suffix (ends : tail <:+ text) : octetCount tail ≤ octetCount text := by
  obtain ⟨front, rfl⟩ := ends
  rw [octetCount_append]
  omega

theorem octetCount_pos (filled : cs ≠ []) : 0 < octetCount cs := by
  obtain ⟨c, rest, rfl⟩ := List.exists_cons_of_ne_nil filled
  have positive := c.utf8Size_pos
  rw [octetCount]
  omega

/-- No character boundary at the offset or after it comes earlier. -/
theorem boundaryFrom?_le {offset boundary : Nat} (found : boundaryFrom? cs offset = some boundary)
    {front rest : List Char} (joined : front ++ rest = cs) (after : offset ≤ octetCount front) :
    boundary ≤ octetCount front := by
  induction cs generalizing offset boundary front with
  | nil =>
    rw [boundaryFrom?] at found
    split at found
    · cases found
      exact Nat.zero_le _
    · cases found
  | cons c cs ih =>
    rw [boundaryFrom?] at found
    split at found
    · cases found
      exact Nat.zero_le _
    · rename_i inside
      obtain ⟨inner, eq, rfl⟩ := Option.map_eq_some_iff.mp found
      cases front with
      | nil =>
        rw [octetCount] at after
        omega
      | cons d front =>
        obtain ⟨rfl, rests⟩ := List.cons.inj joined
        rw [octetCount] at after ⊢
        have earlier := ih eq rests (by omega)
        omega

theorem length_le_of_octetCount {other : List Char} (ends : tail <:+ text) (ends_ : other <:+ text)
    (fewer : octetCount other ≤ octetCount tail) : other.length ≤ tail.length := by
  refine Nat.not_lt.mp fun longer => ?_
  obtain ⟨front, rfl⟩ := List.suffix_of_suffix_length_le ends ends_ (by omega)
  have filled : front ≠ [] := by
    rintro rfl
    simp at longer
  have positive := octetCount_pos filled
  rw [octetCount_append] at fewer
  omega

theorem utf8ByteSize_ofList (cs : List Char) :
    (String.ofList cs).utf8ByteSize = octetCount cs := by
  induction cs with
  | nil => rfl
  | cons c cs ih =>
    rw [String.ofList_cons, String.utf8ByteSize_append, String.utf8ByteSize_singleton, ih, octetCount]

theorem octetCount_toList (text : String) : octetCount text.toList = text.utf8ByteSize := by
  rw [← utf8ByteSize_ofList, String.ofList_toList]

theorem isBoundary_iff {text : String} {offset : Nat} :
    IsBoundary text offset ↔
      ∃ front rest : String, front ++ rest = text ∧ front.utf8ByteSize = offset := by
  rw [IsBoundary, String.Pos.Raw.isValid_iff_exists_append]
  constructor
  · rintro ⟨front, rest, joined, start⟩
    exact ⟨front, rest, joined.symm, (congrArg String.Pos.Raw.byteIdx start).symm⟩
  · rintro ⟨front, rest, joined, rfl⟩
    exact ⟨front, rest, joined.symm, rfl⟩

theorem extract_append (front rest : String) :
    (front ++ rest).toByteArray.extract front.utf8ByteSize (front ++ rest).utf8ByteSize =
      rest.toByteArray := by
  rw [String.toByteArray_append, String.utf8ByteSize_append]
  exact ByteArray.extract_append_eq_right rfl rfl

theorem endFrom_iff {text rest : String} {offset : Nat} :
    EndFrom text offset rest ↔ ∃ front, front ++ rest = text ∧ front.utf8ByteSize = offset := by
  constructor
  · rintro ⟨boundary, octets⟩
    obtain ⟨front, back, rfl, rfl⟩ := isBoundary_iff.mp boundary
    rw [extract_append] at octets
    exact ⟨front, by rw [String.toByteArray_inj.mp octets], rfl⟩
  · rintro ⟨front, rfl, rfl⟩
    exact ⟨isBoundary_iff.mpr ⟨front, rest, rfl, rfl⟩, (extract_append front rest).symm⟩

theorem EndFrom.ofList {front rest cs : List Char} {offset : Nat} (joined : front ++ rest = cs)
    (size : octetCount front = offset) : EndFrom (String.ofList cs) offset (String.ofList rest) := by
  refine endFrom_iff.mpr ⟨String.ofList front, ?_, ?_⟩
  · rw [← String.ofList_append, joined]
  · rw [utf8ByteSize_ofList, size]

/-- A search stops at the first boundary there is, at its start or after it. -/
theorem Search.of_first {text : String} {offset last : Nat} (boundary : IsBoundary text last)
    (above : offset ≤ last)
    (first : ∀ between, IsBoundary text between → offset ≤ between → last ≤ between) :
    Search text offset last := by
  by_cases here : offset = last
  · subst here
    exact .stop boundary
  · have inside : ¬IsBoundary text offset := by
      intro early
      have least := first offset early (Nat.le_refl offset)
      omega
    have later : ∀ between, IsBoundary text between → offset + 1 ≤ between → last ≤ between := by
      intro between is beyond
      exact first between is (by omega)
    exact .next inside (of_first boundary (by omega) later)
termination_by last - offset

theorem boundaryFrom?_search {offset boundary : Nat} (within : offset ≤ octetCount cs)
    (found : boundaryFrom? cs offset = some boundary) :
    Search (String.ofList cs) offset boundary := by
  obtain ⟨last, found_, above⟩ := boundaryFrom?_isSome cs offset within
  rw [found] at found_
  cases found_
  obtain ⟨rest, -, front, joined, size⟩ := dropOctets?_boundaryFrom? cs offset boundary found
  refine .of_first (EndFrom.ofList joined size).1 above ?_
  intro between is beyond
  obtain ⟨early, back, same, rfl⟩ := isBoundary_iff.mp is
  have split : early.toList ++ back.toList = cs := by
    rw [← String.toList_append, same, String.toList_ofList]
  rw [← octetCount_toList] at beyond ⊢
  exact boundaryFrom?_le found split beyond

/-- Cutting a text down is searching for a boundary in its octets and removing what is in front. -/
theorem cutTail?_cutDown (found : cutTail? keep cs = some tail) :
    CutDown keep (String.ofList cs) (String.ofList tail) := by
  unfold cutTail? at found
  split at found
  · rename_i small
    cases found
    exact .short (by rw [utf8ByteSize_ofList]; exact small)
  · rename_i large
    obtain ⟨boundary, first, dropped⟩ := Option.bind_eq_some_iff.mp found
    obtain ⟨rest, dropped_, front, joined, size⟩ := dropOctets?_boundaryFrom? cs _ _ first
    rw [dropped] at dropped_
    cases dropped_
    have search := boundaryFrom?_search (Nat.sub_le _ _) first
    rw [← utf8ByteSize_ofList] at large search
    exact .long (by omega) search (.ofList joined size)

theorem cutTail?_longestEnd (keep : Nat) (cs : List Char) :
    ∃ tail, cutTail? keep cs = some tail ∧ LongestEnd keep cs tail := by
  unfold cutTail?
  split
  · rename_i small
    exact ⟨cs, rfl, List.suffix_refl cs, small, fun other ends _ => ends.length_le⟩
  · rename_i large
    obtain ⟨boundary, found, above⟩ :=
      boundaryFrom?_isSome cs (octetCount cs - keep) (Nat.sub_le _ _)
    obtain ⟨rest, dropped, front, joined, size⟩ := dropOctets?_boundaryFrom? cs _ _ found
    have total := congrArg octetCount joined
    rw [octetCount_append] at total
    have ends : rest <:+ cs := ⟨front, joined⟩
    refine ⟨rest, by rw [found]; exact dropped, ends, by omega, fun other ends_ small => ?_⟩
    obtain ⟨before, joined_⟩ := ends_
    have total_ := congrArg octetCount joined_
    rw [octetCount_append] at total_
    have least := boundaryFrom?_le found joined_ (by omega)
    exact length_le_of_octetCount ends ⟨before, joined_⟩ (by omega)

theorem keepTail_longestEnd (keep : Nat) (tail text : List Char) :
    LongestEnd keep (tail ++ text) (keepTail keep tail text) := by
  obtain ⟨cut, same, longest⟩ := cutTail?_longestEnd keep (tail ++ text)
  rw [keepTail, same]
  exact longest

namespace LongestEnd

theorem unique {other : List Char} (longest : LongestEnd keep text tail)
    (longest_ : LongestEnd keep text other) : tail = other := by
  have least := longest_.longest tail longest.ends longest.small
  have most := longest.longest other longest_.ends longest_.small
  exact (List.suffix_of_suffix_length_le longest.ends longest_.ends least).eq_of_length_le most

theorem of_small (small : octetCount text ≤ keep) : LongestEnd keep text text :=
  ⟨List.suffix_refl text, small, fun _ ends _ => ends.length_le⟩

theorem suffix {other : List Char} (longest : LongestEnd keep text tail) (ends : other <:+ text)
    (small : octetCount other ≤ keep) : other <:+ tail :=
  List.suffix_of_suffix_length_le ends longest.ends (longest.longest other ends small)

/-- What has been cut off before does not come back: the tail may be kept piece by piece. -/
theorem append (longest : LongestEnd keep text tail)
    (longest_ : LongestEnd keep (tail ++ more) last) : LongestEnd keep (text ++ more) last where
  ends := longest_.ends.trans (by
    obtain ⟨front, joined⟩ := longest.ends
    exact ⟨front, by rw [← List.append_assoc, joined]⟩)
  small := longest_.small
  longest other ends small := by
    refine longest_.longest other ?_ small
    obtain ⟨front, joined⟩ := ends
    -- The other end begins in the old text or in what is new.
    rcases List.append_eq_append_iff.mp joined with ⟨begun, split, rfl⟩ | ⟨skipped, -, split⟩
    · rw [octetCount_append] at small
      obtain ⟨before, joined⟩ := longest.suffix ⟨front, split.symm⟩ (by omega)
      exact ⟨before, by rw [← List.append_assoc, joined]⟩
    · exact ⟨tail ++ skipped, by rw [List.append_assoc, ← split]⟩

end LongestEnd

theorem longestSuffix_iff {text tail : String} :
    LongestSuffix keep text tail ↔ LongestEnd keep text.toList tail.toList := by
  constructor
  · rintro ⟨⟨offset, ends⟩, small, longest⟩
    obtain ⟨front, rfl, -⟩ := endFrom_iff.mp ends
    refine ⟨⟨front.toList, String.toList_append.symm⟩, by rwa [octetCount_toList], ?_⟩
    rintro other ⟨before, joined⟩ few
    have start := EndFrom.ofList joined rfl
    have size := congrArg octetCount joined
    rw [octetCount_append, octetCount_toList] at size
    rw [String.ofList_toList] at start
    -- Of two ends of a text, the one with fewer octets has fewer characters.
    have most := longest _ start.1 (by omega)
    refine length_le_of_octetCount ⟨front.toList, String.toList_append.symm⟩ ⟨before, joined⟩ ?_
    rw [octetCount_toList]
    omega
  · intro longest
    obtain ⟨front, joined⟩ := longest.ends
    have start := EndFrom.ofList joined rfl
    rw [String.ofList_toList, String.ofList_toList] at start
    refine ⟨⟨_, start⟩, by rw [← octetCount_toList]; exact longest.small, ?_⟩
    intro offset boundary few
    obtain ⟨before, rest, rfl, rfl⟩ := isBoundary_iff.mp boundary
    rw [String.utf8ByteSize_append, Nat.add_sub_cancel_left, ← octetCount_toList] at few ⊢
    have ends := longest.suffix ⟨before.toList, String.toList_append.symm⟩ few
    rw [← octetCount_toList]
    exact octetCount_le_of_suffix ends

theorem keepTails_append (keep : Nat) (tail : List Char) (texts more : List String) :
    keepTails keep tail (texts ++ more) = keepTails keep (keepTails keep tail texts) more := by
  simp only [keepTails, List.foldl_append]

theorem keepTails_longestEnd (longest : LongestEnd keep text tail) (texts : List String) :
    LongestEnd keep (text ++ (String.join texts).toList) (keepTails keep tail texts) := by
  induction texts generalizing text tail with
  | nil => simpa [keepTails] using longest
  | cons piece texts ih =>
    rw [String.join_cons, String.toList_append, ← List.append_assoc]
    exact ih (longest.append (keepTail_longestEnd keep tail piece.toList))

theorem cutTail?_keepTails (keep : Nat) (tail : List Char) (texts : List String) (text : String) :
    cutTail? keep (keepTails keep tail texts ++ text.toList) =
      some (keepTails keep tail (texts ++ [text])) := by
  obtain ⟨cut, same, -⟩ := cutTail?_longestEnd keep (keepTails keep tail texts ++ text.toList)
  have added : keepTails keep tail (texts ++ [text]) = cut := by
    rw [keepTails_append]
    simp only [keepTails, List.foldl_cons, List.foldl_nil] at same ⊢
    rw [keepTail, same, Option.getD_some]
  rw [same, added]

namespace Pump

variable {pump : Pump}

theorem pass_tail (pump : Pump) (keep : Nat) (piece : List Char) :
    (pump.pass keep piece).1.tail = keepTails keep pump.tail (pump.pass keep piece).2 := by
  unfold pass
  split
  · rfl
  · simp only [keepTails, List.foldl_cons, List.foldl_nil, String.toList_ofList]

theorem receive_tail (pump : Pump) (keep : Nat) (octets : List UInt8) :
    (pump.receive keep octets).1.tail = keepTails keep pump.tail (pump.receive keep octets).2 :=
  pass_tail ⟨(takeUtf8 (pump.waiting ++ octets)).2, pump.tail⟩ keep _

theorem finish_tail (pump : Pump) (keep : Nat) :
    (pump.finish keep).1.tail = keepTails keep pump.tail (pump.finish keep).2 :=
  pass_tail ⟨[], pump.tail⟩ keep _

/-- What a pump keeps is the tail of the texts that it passes on. -/
theorem run_tail {reads : List PipeRead} (unfailed : ∀ fault, .failed fault ∉ reads) :
    (pump.run keep reads).2 = .ok (keepTails keep pump.tail (pump.run keep reads).1) := by
  induction reads generalizing pump with
  | nil => exact congrArg Except.ok (finish_tail pump keep)
  | cons read reads ih =>
    have later : ∀ fault, .failed fault ∉ reads := fun fault among =>
      unfailed fault (List.mem_cons_of_mem _ among)
    cases read with
    | interrupted => exact ih later
    | failed fault => exact absurd List.mem_cons_self (unfailed fault)
    | octets octets =>
      cases octets with
      | nil => exact congrArg Except.ok (finish_tail pump keep)
      | cons octet octets =>
        let next := (pump.receive keep (octet :: octets)).1
        have rest : (next.run keep reads).2 =
            .ok (keepTails keep next.tail (next.run keep reads).1) := ih later
        rw [receive_tail, ← keepTails_append] at rest
        exact rest

end Pump

/-- Texts that come in one after the other can always be added to the tail: a search for a boundary
stops, and no character is cut in two. The tail is the longest end of all of them that begins at a
boundary and has at most `keep` octets, so it does not matter how they have been divided. -/
theorem tail_of_pieces (keep : Nat) (texts : List String) :
    let tail := keepTails keep [] texts
    (∀ text, cutTail? keep (tail ++ text.toList) = some (keepTails keep [] (texts ++ [text])) ∧
        CutDown keep (String.ofList tail ++ text)
          (String.ofList (keepTails keep [] (texts ++ [text])))) ∧
      (∀ other, LongestSuffix keep (String.join texts) other ↔ other = String.ofList tail) ∧
      ∀ others, String.join others = String.join texts → keepTails keep [] others = tail := by
  intro tail
  have empty : LongestEnd keep [] [] := .of_small (Nat.zero_le keep)
  have longest : LongestEnd keep (String.join texts).toList tail := keepTails_longestEnd empty texts
  refine ⟨fun text => ?_, fun other => ?_, fun others same => ?_⟩
  · have added := cutTail?_keepTails keep [] texts text
    have cut := cutTail?_cutDown added
    rw [String.ofList_append, String.ofList_toList] at cut
    exact ⟨added, cut⟩
  · rw [longestSuffix_iff]
    constructor
    · intro longest_
      rw [← longest_.unique longest, String.ofList_toList]
    · rintro rfl
      rwa [String.toList_ofList]
  · have longest_ : LongestEnd keep (String.join others).toList (keepTails keep [] others) :=
      keepTails_longestEnd empty others
    rw [same] at longest_
    exact longest_.unique longest

/-- A cut that would fall into a character is made behind it, wherever the pieces end. -/
theorem straddling_character_dropped :
    CutDown 6 "a€€é" "€é" ∧ LongestSuffix 6 "a€€é" "€é" ∧
      keepTails 6 [] ["a", "€€é"] = keepTails 6 [] ["a€", "€é"] := by
  obtain ⟨added, -, -⟩ := tail_of_pieces 6 ["a€"]
  obtain ⟨-, longest, only⟩ := tail_of_pieces 6 ["a€", "€é"]
  have before : keepTails 6 [] ["a€"] = ['a', '€'] := by decide
  have after : keepTails 6 [] ["a€", "€é"] = ['€', 'é'] := by decide
  have cut := (added "€é").2
  rw [List.singleton_append, before, after] at cut
  rw [after] at longest
  exact ⟨cut, (longest "€é").mpr rfl, only ["a", "€€é"] (by decide)⟩

end CodePlayground.Subprocess
