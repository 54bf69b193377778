import Mathlib.Data.List.DropRight
import PoolPlanner.Capacity
import PoolPlanner.Proofs.DateTimeText

/-!
# The grammar of capacities

A capacity text is a number and the name of a unit, with blanks around them and none in between.
The number has decimal digits and at most one point; digits may be missing on either side of the
point, but not on both.  These texts are read, and all others are refused.
-/

namespace PoolPlanner

namespace Text

variable {before core after : List Char}

theorem trimChars_append (blankBefore : ∀ character ∈ before, isBlank character = true)
    (noBlank : ∀ character ∈ core, isBlank character = false)
    (blankAfter : ∀ character ∈ after, isBlank character = true) :
    trimChars (before ++ core ++ after) = core := by
  have fromFront : (before ++ (core ++ after)).dropWhile isBlank =
      (core ++ after).dropWhile isBlank := List.dropWhile_append_of_pos blankBefore
  have fromBack : (core ++ after).rdropWhile isBlank = core := by
    rw [List.rdropWhile, List.reverse_append,
      List.dropWhile_append_of_pos fun character member =>
        blankAfter character (List.mem_reverse.1 member),
      ← List.rdropWhile, List.rdropWhile_eq_self_iff]
    intro nonempty
    simpa using noBlank _ (List.getLast_mem nonempty)
  rw [trimChars, List.append_assoc, fromFront, ← List.rdropWhile]
  cases core with
  | nil =>
      have allBlank : after.dropWhile isBlank = [] := List.dropWhile_eq_nil_iff.2 blankAfter
      rw [List.nil_append, allBlank]
      rfl
  | cons first rest =>
      have stays : (first :: rest ++ after).dropWhile isBlank = first :: rest ++ after := by
        simp [noBlank first List.mem_cons_self]
      rw [stays]
      exact fromBack

theorem exists_trimmed (characters : List Char) :
    ∃ before after, characters = before ++ trimChars characters ++ after ∧
      (∀ character ∈ before, isBlank character = true) ∧
      ∀ character ∈ after, isBlank character = true := by
  refine ⟨characters.takeWhile isBlank, (characters.dropWhile isBlank).rtakeWhile isBlank, ?_,
    fun character => List.mem_takeWhile_imp, fun character => List.mem_rtakeWhile_imp⟩
  calc
    characters = characters.takeWhile isBlank ++ characters.dropWhile isBlank :=
      (List.takeWhile_append_dropWhile ..).symm
    _ = characters.takeWhile isBlank ++
        ((characters.dropWhile isBlank).rdropWhile isBlank ++
          (characters.dropWhile isBlank).rtakeWhile isBlank) := by
      rw [List.rdropWhile_append_rtakeWhile]
    _ = _ := (List.append_assoc ..).symm

end Text

namespace Capacity

/-- Decimal digits, at least one, and at most one point among them. -/
structure IsNumberText (characters : List Char) : Prop where
  digitOrPoint : ∀ character ∈ characters, character.isDigit = true ∨ character = '.'
  atMostOnePoint : characters.count '.' ≤ 1
  someDigit : ∃ character ∈ characters, character.isDigit = true

/-- The names that a unit can have; single bytes have the empty one. -/
def unitNames : List String :=
  ["", "Ki", "Mi", "Gi", "Ti", "Pi", "Ei", "k", "M", "G", "T", "P", "E"]

/-- A number and the name of a unit, with blanks around them. -/
def IsCapacityText (text : String) : Prop :=
  ∃ before number unit after : String, text = before ++ number ++ unit ++ after ∧
    Text.isBlankText before = true ∧ IsNumberText number.toList ∧ unit ∈ unitNames ∧
    Text.isBlankText after = true

section Numbers

variable {number : List Char}

theorem isNumberChar_iff {character : Char} :
    isNumberChar character = true ↔ character.isDigit = true ∨ character = '.' := by
  simp [isNumberChar]

theorem count_point_eq_zero (allDigits : ∀ character ∈ number, character.isDigit = true) :
    number.count '.' = 0 := by
  refine List.count_eq_zero.2 fun member => ?_
  have impossible := allDigits '.' member
  simp at impossible

theorem isNumberText_digits_iff (allDigits : ∀ character ∈ number, character.isDigit = true) :
    IsNumberText number ↔ number ≠ [] := by
  constructor
  · rintro ⟨-, -, character, member, -⟩
    exact List.ne_nil_of_mem member
  · intro nonempty
    obtain ⟨first, rest, rfl⟩ := List.exists_cons_of_ne_nil nonempty
    refine ⟨fun character member => .inl (allDigits character member), ?_, first,
      List.mem_cons_self, allDigits first List.mem_cons_self⟩
    rw [count_point_eq_zero allDigits]
    exact Nat.zero_le 1

theorem isNumberText_point_iff {whole fraction : List Char}
    (wholeDigits : ∀ character ∈ whole, character.isDigit = true)
    (numberChars : ∀ character ∈ fraction, isNumberChar character = true) :
    IsNumberText (whole ++ '.' :: fraction) ↔
      (∀ character ∈ fraction, character.isDigit = true) ∧ whole ++ fraction ≠ [] := by
  have points : (whole ++ '.' :: fraction).count '.' = fraction.count '.' + 1 := by
    rw [List.count_append, count_point_eq_zero wholeDigits, List.count_cons_self, Nat.zero_add]
  constructor
  · rintro ⟨-, atMostOnePoint, character, member, digit⟩
    have noPoint : '.' ∉ fraction := List.count_eq_zero.1 (by omega)
    constructor
    · intro other otherMem
      rcases isNumberChar_iff.1 (numberChars other otherMem) with isDigit | isPoint
      · exact isDigit
      · exact absurd (isPoint ▸ otherMem) noPoint
    · have notPoint : character ≠ '.' := by
        rintro rfl
        simp at digit
      have inParts : character ∈ whole ++ fraction := by simpa [notPoint] using member
      exact List.ne_nil_of_mem inParts
  · rintro ⟨fractionDigits, nonempty⟩
    obtain ⟨first, member⟩ := List.exists_mem_of_ne_nil _ nonempty
    have allDigits : ∀ character ∈ whole ++ fraction, character.isDigit = true :=
      List.forall_mem_append.2 ⟨wholeDigits, fractionDigits⟩
    refine ⟨fun character inNumber => ?_, ?_, first, ?_, allDigits first member⟩
    · by_cases isPoint : character = '.'
      · exact .inr isPoint
      · exact .inl (allDigits character (by simpa [isPoint] using inNumber))
    · rw [points, count_point_eq_zero fractionDigits]
    · rw [List.mem_append] at member ⊢
      exact member.imp_right (List.mem_cons_of_mem '.')

theorem isSome_readNumber?_digits (allDigits : ∀ character ∈ number, character.isDigit = true) :
    (readNumber? number).isSome = true ↔ number ≠ [] := by
  have noRest : number.dropWhile Char.isDigit = [] := List.dropWhile_eq_nil_iff.2 allDigits
  simp only [readNumber?, DateTime.takeWhile_isDigit_eq allDigits, noRest]
  split <;> simp_all

theorem isSome_readNumber?_point {whole fraction : List Char}
    (wholeDigits : ∀ character ∈ whole, character.isDigit = true) :
    (readNumber? (whole ++ '.' :: fraction)).isSome = true ↔
      (∀ character ∈ fraction, character.isDigit = true) ∧ whole ++ fraction ≠ [] := by
  have front : (whole ++ '.' :: fraction).takeWhile Char.isDigit = whole := by
    rw [List.takeWhile_append_of_pos wholeDigits]
    simp
  have rest : (whole ++ '.' :: fraction).dropWhile Char.isDigit = '.' :: fraction := by
    rw [List.dropWhile_append_of_pos wholeDigits]
    rfl
  simp only [readNumber?, front, rest]
  split <;> simp_all

/-- Digits and points are either digits only, or have a first point. -/
theorem digits_or_point (numberChars : ∀ character ∈ number, isNumberChar character = true) :
    (∀ character ∈ number, character.isDigit = true) ∨
      ∃ whole fraction, number = whole ++ '.' :: fraction ∧
        ∀ character ∈ whole, character.isDigit = true := by
  have parts : number.takeWhile Char.isDigit ++ number.dropWhile Char.isDigit = number :=
    List.takeWhile_append_dropWhile
  cases rest : number.dropWhile Char.isDigit with
  | nil => exact .inl (List.dropWhile_eq_nil_iff.1 rest)
  | cons first fraction =>
      rw [rest] at parts
      have noDigit : ¬ first.isDigit = true := by
        have remains : number.dropWhile Char.isDigit ≠ [] := by simp [rest]
        have stopped := List.head_dropWhile_not Char.isDigit remains
        simpa [rest] using stopped
      have inNumber : first ∈ number := parts ▸ List.mem_append_right _ List.mem_cons_self
      obtain rfl := (isNumberChar_iff.1 (numberChars first inNumber)).resolve_left noDigit
      exact .inr ⟨_, fraction, parts.symm, fun character => List.mem_takeWhile_imp⟩

/-- Of digits and points, exactly the number texts are read. -/
theorem isSome_readNumber?_iff (numberChars : ∀ character ∈ number, isNumberChar character = true) :
    (readNumber? number).isSome = true ↔ IsNumberText number := by
  rcases digits_or_point numberChars with allDigits | ⟨whole, fraction, rfl, wholeDigits⟩
  · rw [isSome_readNumber?_digits allDigits, isNumberText_digits_iff allDigits]
  · have fractionChars : ∀ character ∈ fraction, isNumberChar character = true :=
      fun character member => numberChars character
        (List.mem_append_right _ (List.mem_cons_of_mem '.' member))
    rw [isSome_readNumber?_point wholeDigits, isNumberText_point_iff wholeDigits fractionChars]

end Numbers

section Texts

variable {characters number unit : List Char}

theorem isSome_lookup_units_iff :
    (units.lookup unit).isSome = true ↔ String.ofList unit ∈ unitNames := by
  have names : unitNames = units.map fun entry => String.ofList entry.1 := by decide
  rw [List.lookup_isSome_iff, names, List.mem_map]
  refine exists_congr fun entry => and_congr_right fun _ => ?_
  rw [beq_iff_eq, ← String.toList_inj, String.toList_ofList, String.toList_ofList, eq_comm]

/-- The name of a unit has no blanks, and does not begin like a number. -/
theorem unit_apart (isUnit : String.ofList unit ∈ unitNames) :
    (∀ character ∈ unit, Text.isBlank character = false) ∧ unit.takeWhile isNumberChar = [] ∧
      unit.dropWhile isNumberChar = unit := by
  have each : ∀ name ∈ unitNames,
      name.toList.any Text.isBlank = false ∧
        name.toList.takeWhile isNumberChar = [] ∧
        name.toList.dropWhile isNumberChar = name.toList := by
    decide
  simpa [List.any_eq_false] using each _ isUnit

theorem IsNumberText.isNumberChar_of_mem (isNumber : IsNumberText number) :
    ∀ character ∈ number, isNumberChar character = true :=
  fun character member => isNumberChar_iff.2 (isNumber.digitOrPoint character member)

theorem isBlank_of_isNumberChar {character : Char} (numberChar : isNumberChar character = true) :
    Text.isBlank character = false := by
  rcases isNumberChar_iff.1 numberChar with digit | rfl
  · exact DateTime.isBlank_of_isDigit digit
  · rfl

/-- A text is read if the longest number in front is, and what follows it is a unit. -/
theorem exists_readTrimmed_iff :
    (∃ count, readTrimmed characters = .ok count) ↔
      (readNumber? (characters.takeWhile isNumberChar)).isSome = true ∧
        (units.lookup (characters.dropWhile isNumberChar)).isSome = true := by
  by_cases noNumber : characters.takeWhile isNumberChar = []
  · have unread : readNumber? [] = none := rfl
    by_cases empty : characters = [] <;> simp [readTrimmed, empty, noNumber, unread]
  · have nonempty : characters ≠ [] := by
      rintro rfl
      exact noNumber rfl
    cases size : readNumber? (characters.takeWhile isNumberChar) with
    | none => simp [readTrimmed, nonempty, noNumber, size]
    | some number =>
        cases found : units.lookup (characters.dropWhile isNumberChar) <;>
          simp [readTrimmed, nonempty, noNumber, size, found]

/-- A number ends where its unit begins, and that is where a reader finds the end. -/
theorem readTrimmed_isOk_iff :
    (∃ count, readTrimmed characters = .ok count) ↔
      ∃ number unit, characters = number ++ unit ∧ IsNumberText number ∧
        String.ofList unit ∈ unitNames := by
  rw [exists_readTrimmed_iff, isSome_lookup_units_iff,
    isSome_readNumber?_iff fun character => List.mem_takeWhile_imp]
  constructor
  · rintro ⟨isNumber, isUnit⟩
    exact ⟨_, _, List.takeWhile_append_dropWhile.symm, isNumber, isUnit⟩
  · rintro ⟨number, unit, rfl, isNumber, isUnit⟩
    have numberChars := isNumber.isNumberChar_of_mem
    obtain ⟨-, noNumber, allUnit⟩ := unit_apart isUnit
    have front : (number ++ unit).takeWhile isNumberChar = number := by
      rw [List.takeWhile_append_of_pos numberChars, noNumber, List.append_nil]
    have rest : (number ++ unit).dropWhile isNumberChar = unit := by
      rw [List.dropWhile_append_of_pos numberChars, allUnit]
    rw [front, rest]
    exact ⟨isNumber, isUnit⟩

theorem isBlankText_iff {text : String} :
    Text.isBlankText text = true ↔ ∀ character ∈ text.toList, Text.isBlank character = true := by
  simp [Text.isBlankText]

theorem isCapacityText_iff {text : String} :
    IsCapacityText text ↔
      ∃ number unit, Text.trimChars text.toList = number ++ unit ∧ IsNumberText number ∧
        String.ofList unit ∈ unitNames := by
  constructor
  · rintro ⟨before, number, unit, after, rfl, blankBefore, isNumber, isUnit, blankAfter⟩
    refine ⟨number.toList, unit.toList, ?_, isNumber, by simpa using isUnit⟩
    have noBlank : ∀ character ∈ number.toList ++ unit.toList, Text.isBlank character = false :=
      List.forall_mem_append.2
        ⟨fun character member =>
          isBlank_of_isNumberChar (isNumber.isNumberChar_of_mem character member),
        (unit_apart (by simpa using isUnit)).1⟩
    have trimmed := Text.trimChars_append (isBlankText_iff.1 blankBefore) noBlank
      (isBlankText_iff.1 blankAfter)
    simpa only [String.toList_append, List.append_assoc] using trimmed
  · rintro ⟨number, unit, trimmed, isNumber, isUnit⟩
    obtain ⟨before, after, parts, blankBefore, blankAfter⟩ := Text.exists_trimmed text.toList
    refine ⟨String.ofList before, String.ofList number, String.ofList unit, String.ofList after,
      ?_, ?_, by simpa using isNumber, isUnit, ?_⟩
    · rw [← String.toList_inj, parts, trimmed]
      simp
    · simpa [isBlankText_iff] using blankBefore
    · simpa [isBlankText_iff] using blankAfter

/-- Exactly the capacity texts are read, and every other text is refused as a capacity. -/
theorem bytes_answers_iff (text : String) :
    ((∃ count, bytes text = .ok count) ↔ IsCapacityText text) ∧
      ((∃ issue, bytes text = .error (.capacity issue)) ↔ ¬ IsCapacityText text) := by
  have isRead : (∃ count, read text = .ok count) ↔ IsCapacityText text :=
    readTrimmed_isOk_iff.trans isCapacityText_iff.symm
  cases answer : read text with
  | ok count =>
      have isCapacity : IsCapacityText text := isRead.1 ⟨count, answer⟩
      simp [bytes, answer, isCapacity, Except.mapError]
  | error issue =>
      have noCapacity : ¬ IsCapacityText text := fun isCapacity => by
        obtain ⟨count, found⟩ := isRead.2 isCapacity
        rw [answer] at found
        cases found
      simp [bytes, answer, noCapacity, Except.mapError]

end Texts
end Capacity
end PoolPlanner
