import SafeSignalTrader.EntryPlanner
import SafeSignalTrader.HexLiterals

/-!
# The text of a UUID

`str(uuid)` and `UUID(text)`.  The constructor is lenient: it drops the words
`urn:` and `uuid:`, braces and all hyphens before it reads the digits.  `repr`
of a text is a parameter.
-/

namespace SafeSignalTrader

open HexLiterals
open PositionalNumerals
open TextRemoval

/-- `str(uuid)`. -/
def UUID.text (uuid : UUID) : String :=
  let hex := uuid.hex.toList
  String.ofList (hex.take 8 ++ '-' :: ((hex.drop 8).take 4 ++
    '-' :: ((hex.drop 12).take 4 ++
      '-' :: ((hex.drop 16).take 4 ++ '-' :: hex.drop 20))))

/-- The digits that `UUID(text)` reads. -/
def uuidDigits (text : String) : List Char :=
  let bare :=
    removeAll ['u', 'u', 'i', 'd', ':']
      (removeAll ['u', 'r', 'n', ':'] text.toList)
  removeAll ['-'] (stripEnds (fun char => char == '{' || char == '}') bare)

/-- `UUID(text)`. -/
def UUID.ofText
    (repr : String → String)
    (text : String) : Except PyException UUID :=
  let hex := uuidDigits text
  if hex.length ≠ 32 then
    .error (.valueError "badly formed hexadecimal UUID string")
  else
    match intBase16? hex with
    | none =>
        .error (.valueError
          ("invalid literal for int() with base 16: " ++
            repr (String.ofList hex)))
    | some value =>
        if 0 ≤ value ∧ value < (2 : Int) ^ 128 then
          .ok (BitVec.ofInt 128 value)
        else
          .error (.valueError "int is out of range (need a 128-bit value)")

namespace UuidText

/-- The characters of a written UUID. -/
theorem isDigit_or_hyphen
    {uuid : UUID}
    {char : Char}
    (member : char ∈ uuid.text.toList) :
    IsDigit char ∨ char = '-' := by
  have ofPiece :
      ∀ {piece : List Char}, piece ⊆ uuid.hex.toList → char ∈ piece →
        IsDigit char := by
    intro piece included inPiece
    have inHex := included inPiece
    rw [UUID.hex, String.toList_ofList] at inHex
    exact isDigit_of_mem_fixedDigits inHex
  have ofSlice :
      ∀ start count, char ∈ (uuid.hex.toList.drop start).take count →
        IsDigit char := by
    intro start count inSlice
    exact ofPiece (List.drop_subset _ _) (List.mem_of_mem_take inSlice)
  rw [UUID.text, String.toList_ofList] at member
  simp only [List.mem_append, List.mem_cons] at member
  rcases member with inFirst | isHyphen | inSecond | isHyphen | inThird |
    isHyphen | inFourth | isHyphen | inLast
  · exact .inl (ofPiece (List.take_subset _ _) inFirst)
  · exact .inr isHyphen
  · exact .inl (ofSlice 8 4 inSecond)
  · exact .inr isHyphen
  · exact .inl (ofSlice 12 4 inThird)
  · exact .inr isHyphen
  · exact .inl (ofSlice 16 4 inFourth)
  · exact .inr isHyphen
  · exact .inl (ofPiece (List.drop_subset _ _) inLast)

/-- No digit and no hyphen is one of the characters the constructor drops. -/
theorem not_dropped
    {char : Char}
    (plain : IsDigit char ∨ char = '-') :
    char ≠ 'u' ∧ (char == '{' || char == '}') = false := by
  rcases plain with ⟨digit, small, rfl⟩ | rfl
  · have checked :
        ∀ digit < 16,
          Nat.digitChar digit ≠ 'u' ∧
            (Nat.digitChar digit == '{' || Nat.digitChar digit == '}') =
              false := by
      decide
    exact checked digit small
  · decide

/-- A slice of a list in front of what follows it. -/
theorem slice_append
    (digits : List Char)
    (start count : Nat) :
    (digits.drop start).take count ++ digits.drop (start + count) =
      digits.drop start := by
  rw [← List.drop_drop, List.take_append_drop]

/-- The digits of a written UUID are its hexadecimal digits. -/
theorem uuidDigits_text (uuid : UUID) :
    uuidDigits uuid.text = uuid.hex.toList := by
  have noMarker : 'u' ∉ uuid.text.toList := fun member =>
    (not_dropped (isDigit_or_hyphen member)).1 rfl
  have noBrace :
      ∀ char ∈ uuid.text.toList, (char == '{' || char == '}') = false :=
    fun char member => (not_dropped (isDigit_or_hyphen member)).2
  have noHyphen : ∀ char ∈ uuid.hex.toList, char ≠ '-' := by
    intro char member
    rw [UUID.hex, String.toList_ofList] at member
    exact (plain_of_isDigit (isDigit_of_mem_fixedDigits member)).2.2.1.2
  have kept :
      ∀ piece, piece ⊆ uuid.hex.toList →
        piece.filter (fun char => char ≠ '-') = piece := by
    intro piece included
    rw [List.filter_eq_self]
    intro char member
    exact decide_eq_true (noHyphen char (included member))
  have keptSlice :
      ∀ start count,
        ((uuid.hex.toList.drop start).take count).filter
            (fun char => char ≠ '-') =
          (uuid.hex.toList.drop start).take count := by
    intro start count
    apply kept
    intro char member
    exact List.mem_of_mem_drop (List.mem_of_mem_take member)
  unfold uuidDigits
  rw [removeAll_of_notMem noMarker, removeAll_of_notMem noMarker]
  simp only [stripEnds_of_none noBrace]
  rw [removeAll_singleton, UUID.text, String.toList_ofList]
  simp only [List.filter_append, List.filter_cons, keptSlice,
    kept _ (List.take_subset _ _), kept _ (List.drop_subset _ _),
    ne_eq, not_true_eq_false, decide_false, Bool.false_eq_true, ↓reduceIte]
  calc
    uuid.hex.toList.take 8 ++ ((uuid.hex.toList.drop 8).take 4 ++
        ((uuid.hex.toList.drop 12).take 4 ++
          ((uuid.hex.toList.drop 16).take 4 ++ uuid.hex.toList.drop 20))) =
        uuid.hex.toList.take 8 ++ uuid.hex.toList.drop 8 := by
      rw [slice_append _ 16 4, slice_append _ 12 4, slice_append _ 8 4]
    _ = uuid.hex.toList := List.take_append_drop 8 _

/-- A written UUID is read back. -/
theorem ofText_text
    (repr : String → String)
    (uuid : UUID) :
    UUID.ofText repr uuid.text = .ok uuid := by
  have length : uuid.hex.toList.length = 32 := by
    rw [UUID.hex, String.toList_ofList, length_fixedDigits]
  have read : intBase16? uuid.hex.toList = some (uuid.toNat : Int) := by
    rw [UUID.hex, String.toList_ofList]
    exact intBase16?_fixedDigits (by decide) uuid.isLt
  have inRange : 0 ≤ (uuid.toNat : Int) ∧ (uuid.toNat : Int) < 2 ^ 128 :=
    ⟨Int.natCast_nonneg _, by exact_mod_cast uuid.isLt⟩
  unfold UUID.ofText
  rw [uuidDigits_text]
  simp only [length, ne_eq, not_true_eq_false, ↓reduceIte, read, inRange,
    and_self]
  rw [BitVec.ofInt_natCast, BitVec.ofNat_toNat, BitVec.setWidth_eq]

end UuidText

end SafeSignalTrader
