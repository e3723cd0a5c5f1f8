import Mathlib.Data.List.Chain
import Mathlib.Data.List.Lex
import Mathlib.Data.String.Basic
import Mathlib.Order.Fin.Basic

/-!
# Python strings

A Python string is a sequence of code points, surrogates included, where a
Lean string has none.  A text without surrogates can be encoded, and two texts
with the same 16-bit units differ at most in how they write the characters
beyond `U+FFFF`: as themselves, or as pairs of surrogates.
-/

/-- A code point. -/
abbrev CodePoint :=
  Fin 0x110000

namespace CodePoint

/-- The code point of a character. -/
def ofChar (char : Char) : CodePoint :=
  ⟨char.toNat, by
    have valid : char.toNat < 0xD800 ∨
        0xDFFF < char.toNat ∧ char.toNat < 0x110000 := char.valid
    omega⟩

/-- The first half of a surrogate pair. -/
def IsHigh (point : CodePoint) : Prop :=
  0xD800 ≤ point.val ∧ point.val < 0xDC00

/-- The second half of a surrogate pair. -/
def IsLow (point : CodePoint) : Prop :=
  0xDC00 ≤ point.val ∧ point.val < 0xE000

instance decidableIsHigh (point : CodePoint) : Decidable point.IsHigh :=
  inferInstanceAs (Decidable (_ ∧ _))

instance decidableIsLow (point : CodePoint) : Decidable point.IsLow :=
  inferInstanceAs (Decidable (_ ∧ _))

/-- Half of a pair that stands for one character. -/
def IsSurrogate (point : CodePoint) : Prop :=
  point.IsHigh ∨ point.IsLow

instance decidableIsSurrogate (point : CodePoint) :
    Decidable point.IsSurrogate :=
  inferInstanceAs (Decidable (_ ∨ _))

/-- The character of a code point; surrogates have none. -/
def char? (point : CodePoint) : Option Char :=
  if point.IsSurrogate then none else some (Char.ofNat point.val)

/-- The 16-bit units of a code point. -/
def utf16 (point : CodePoint) : List Nat :=
  if point.val < 0x10000 then
    [point.val]
  else
    [0xD800 + (point.val - 0x10000) / 0x400,
      0xDC00 + (point.val - 0x10000) % 0x400]

/-- A character has a code point that is no surrogate. -/
theorem ofChar_not_surrogate (char : Char) :
    ¬ (ofChar char).IsSurrogate := by
  have valid : char.toNat < 0xD800 ∨
      0xDFFF < char.toNat ∧ char.toNat < 0x110000 := char.valid
  simp only [IsSurrogate, IsHigh, IsLow, ofChar]
  omega

@[simp] theorem char?_ofChar (char : Char) :
    (ofChar char).char? = some char := by
  rw [char?, if_neg (ofChar_not_surrogate char)]
  exact congrArg some (Char.ofNat_toNat char)

theorem ofChar_injective : Function.Injective ofChar := by
  intro first second same
  have sameChar := congrArg char? same
  rw [char?_ofChar, char?_ofChar] at sameChar
  exact Option.some.inj sameChar

/-- The first unit of a code point. -/
theorem utf16_eq_cons (point : CodePoint) :
    ∃ unit others, point.utf16 = unit :: others := by
  unfold utf16
  split
  · exact ⟨_, _, rfl⟩
  · exact ⟨_, _, rfl⟩

theorem utf16_lt
    {point : CodePoint}
    {unit : Nat}
    (member : unit ∈ point.utf16) :
    unit < 0x10000 := by
  have bounded := point.isLt
  unfold utf16 at member
  split at member
  · next short =>
      rw [List.mem_singleton.mp member]
      exact short
  · simp only [List.mem_cons, List.not_mem_nil, or_false] at member
    omega

/-- Only a second half has a unit of a second half in front. -/
theorem isLow_of_units
    {point : CodePoint}
    {unit : Nat}
    {others : List Nat}
    (units : point.utf16 = unit :: others)
    (low : 0xDC00 ≤ unit ∧ unit < 0xE000) :
    point.IsLow := by
  unfold utf16 at units
  split at units
  · obtain ⟨isUnit, _⟩ := List.cons.inj units
    rw [IsLow, isUnit]
    exact low
  · obtain ⟨isUnit, _⟩ := List.cons.inj units
    have bounded := point.isLt
    omega

section Units

variable {first second : CodePoint}
variable {rest others : List CodePoint}

/-- No two neighbours are the halves of one character. -/
abbrev ApartHalves (points : List CodePoint) : Prop :=
  points.IsChain fun point next => ¬ (point.IsHigh ∧ next.IsLow)

/-- A first half is not followed by the unit of a second half. -/
theorem not_low_of_apart
    (apart : ApartHalves (first :: rest))
    (high : first.IsHigh)
    {unit : Nat}
    {units : List Nat}
    (low : 0xDC00 ≤ unit ∧ unit < 0xE000) :
    rest.flatMap utf16 ≠ unit :: units := by
  intro follows
  cases rest with
  | nil => cases follows
  | cons next rest =>
      obtain ⟨nextUnit, nextUnits, isNext⟩ := next.utf16_eq_cons
      rw [List.flatMap_cons, isNext, List.cons_append] at follows
      rw [(List.cons.inj follows).1] at isNext
      exact (List.isChain_cons_cons.mp apart).1
        ⟨high, isLow_of_units isNext low⟩

/-- A code point of two units does not read like one of a single unit. -/
theorem short_units_ne_long
    (apart : ApartHalves (first :: rest))
    (short : first.val < 0x10000)
    (long : ¬ second.val < 0x10000)
    (tail : List Nat) :
    first.utf16 ++ rest.flatMap utf16 ≠ second.utf16 ++ tail := by
  intro same
  rw [utf16, utf16, if_pos short, if_neg long] at same
  obtain ⟨isHigh, follows⟩ := List.cons.inj same
  have bounded := second.isLt
  exact not_low_of_apart apart
    ⟨by omega, by omega⟩ ⟨by omega, by omega⟩ follows

/-- Where halves stand apart, the units of a text start with its first one. -/
theorem utf16_append_inj
    (firstApart : ApartHalves (first :: rest))
    (secondApart : ApartHalves (second :: others))
    (same : first.utf16 ++ rest.flatMap utf16 =
      second.utf16 ++ others.flatMap utf16) :
    first = second ∧ rest.flatMap utf16 = others.flatMap utf16 := by
  by_cases firstShort : first.val < 0x10000
  · by_cases secondShort : second.val < 0x10000
    · rw [utf16, utf16, if_pos firstShort, if_pos secondShort] at same
      obtain ⟨sameUnit, sameRest⟩ := List.cons.inj same
      exact ⟨Fin.ext sameUnit, sameRest⟩
    · exact absurd same
        (short_units_ne_long firstApart firstShort secondShort _)
  · by_cases secondShort : second.val < 0x10000
    · exact absurd same.symm
        (short_units_ne_long secondApart secondShort firstShort _)
    · rw [utf16, utf16, if_neg firstShort, if_neg secondShort] at same
      obtain ⟨sameHigh, sameTail⟩ := List.cons.inj same
      obtain ⟨sameLow, sameRest⟩ := List.cons.inj sameTail
      refine ⟨Fin.ext ?_, sameRest⟩
      have firstBounded := first.isLt
      have secondBounded := second.isLt
      omega

end Units

end CodePoint

/-- A Python string. -/
structure PyString where
  codePoints : List CodePoint
  deriving Repr, DecidableEq

namespace PyString

@[ext] theorem ext
    {first second : PyString}
    (same : first.codePoints = second.codePoints) :
    first = second := by
  cases first
  cases second
  cases same
  rfl

/-- The Python string of a text without surrogates. -/
def ofString (text : String) : PyString :=
  ⟨text.toList.map CodePoint.ofChar⟩

instance : Coe String PyString :=
  ⟨ofString⟩

instance : Append PyString :=
  ⟨fun first second => ⟨first.codePoints ++ second.codePoints⟩⟩

/-- Strings are ordered by their code points. -/
instance : LinearOrder PyString :=
  LinearOrder.lift' codePoints fun _ _ same => PyString.ext same

@[simp] theorem codePoints_append (first second : PyString) :
    (first ++ second).codePoints = first.codePoints ++ second.codePoints :=
  rfl

@[simp] theorem codePoints_ofString (text : String) :
    (ofString text).codePoints = text.toList.map CodePoint.ofChar :=
  rfl

theorem ofString_injective : Function.Injective ofString := by
  intro first second same
  exact String.toList_inj.mp
    (List.map_injective_iff.mpr CodePoint.ofChar_injective
      (congrArg codePoints same))

/-- No code point of the text is a surrogate. -/
def Encodable (text : PyString) : Prop :=
  ∀ point ∈ text.codePoints, ¬ point.IsSurrogate

instance decidableEncodable (text : PyString) : Decidable text.Encodable :=
  List.decidableBAll (fun point : CodePoint => ¬ point.IsSurrogate) _

/-- The text with a replacement character for every surrogate. -/
def replaced (text : PyString) : String :=
  String.ofList
    (text.codePoints.map fun point => point.char?.getD '\uFFFD')

/-- What `encode("utf-8")` writes out; a surrogate cannot be encoded. -/
def encode? (text : PyString) : Option String :=
  if text.Encodable then some text.replaced else none

@[simp] theorem replaced_ofString (text : String) :
    (ofString text).replaced = text := by
  have same :
      (fun point : CodePoint => point.char?.getD '\uFFFD') ∘
          CodePoint.ofChar = id := by
    funext char
    simp
  rw [replaced, codePoints_ofString, List.map_map, same, List.map_id,
    String.ofList_toList]

theorem encodable_ofString (text : String) : (ofString text).Encodable := by
  intro point member
  obtain ⟨char, _, rfl⟩ := List.mem_map.mp member
  exact CodePoint.ofChar_not_surrogate char

@[simp] theorem encode?_ofString (text : String) :
    (ofString text).encode? = some text := by
  rw [encode?, if_pos (encodable_ofString text), replaced_ofString]

/-- A text can be encoded exactly if it is free of surrogates. -/
theorem encode?_eq_none_iff {text : PyString} :
    text.encode? = none ↔ ¬ text.Encodable := by
  unfold encode?
  split
  · next encodable => simp [encodable]
  · next surrogates => simp [surrogates]

/-- The 16-bit units of a text. -/
def utf16 (text : PyString) : List Nat :=
  text.codePoints.flatMap CodePoint.utf16

theorem utf16_lt (text : PyString) : ∀ unit ∈ text.utf16, unit < 0x10000 := by
  intro unit member
  obtain ⟨point, _, inPoint⟩ := List.mem_flatMap.mp member
  exact CodePoint.utf16_lt inPoint

/-- No two surrogates of the text stand for one character. -/
def Unpaired (text : PyString) : Prop :=
  CodePoint.ApartHalves text.codePoints

/-- The units of a text without paired surrogates determine it. -/
theorem codePoints_eq_of_units
    {first second : List CodePoint}
    (firstApart : CodePoint.ApartHalves first)
    (secondApart : CodePoint.ApartHalves second)
    (same : first.flatMap CodePoint.utf16 =
      second.flatMap CodePoint.utf16) :
    first = second := by
  induction first generalizing second with
  | nil =>
      cases second with
      | nil => rfl
      | cons point rest =>
          obtain ⟨unit, units, isPoint⟩ := point.utf16_eq_cons
          rw [List.flatMap_nil, List.flatMap_cons, isPoint] at same
          cases same
  | cons point rest inductionHypothesis =>
      cases second with
      | nil =>
          obtain ⟨unit, units, isPoint⟩ := point.utf16_eq_cons
          rw [List.flatMap_nil, List.flatMap_cons, isPoint] at same
          cases same
      | cons other others =>
          rw [List.flatMap_cons, List.flatMap_cons] at same
          obtain ⟨rfl, sameRest⟩ :=
            CodePoint.utf16_append_inj firstApart secondApart same
          rw [inductionHypothesis firstApart.of_cons secondApart.of_cons
            sameRest]

theorem eq_of_utf16_eq
    {first second : PyString}
    (firstUnpaired : first.Unpaired)
    (secondUnpaired : second.Unpaired)
    (same : first.utf16 = second.utf16) :
    first = second :=
  ext (codePoints_eq_of_units firstUnpaired secondUnpaired same)

theorem unpaired_of_encodable
    {text : PyString}
    (encodable : text.Encodable) :
    text.Unpaired := by
  apply List.Pairwise.isChain
  apply List.pairwise_of_forall_mem_list
  intro point member _ _ paired
  exact encodable point member (Or.inl paired.1)

/-- The units of a text without surrogates determine it. -/
theorem eq_of_utf16_ofString
    {first second : String}
    (same : (ofString first).utf16 = (ofString second).utf16) :
    first = second :=
  ofString_injective
    (eq_of_utf16_eq (unpaired_of_encodable (encodable_ofString first))
      (unpaired_of_encodable (encodable_ofString second)) same)

end PyString
