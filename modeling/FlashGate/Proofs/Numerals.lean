/-
How numbers are written in parameters and arguments: a mark of the base, at most one plus sign and
digits. Main statement: `readWord_eq_ok`, that the texts read as a 32-bit word are those that write
it.
-/
import FlashGate.Text.Number
import Mathlib.Data.List.Forall2
import Mathlib.Data.Nat.Digits.Defs
import Mathlib.Tactic.Ring
import Mathlib.Tactic.SplitIfs

namespace FlashGate.Text

/-! ## Digits -/

/-- A character is a digit of a base, letters in either case. -/
def IsDigit (base : Nat) (c : Char) (d : Nat) : Prop :=
  d < base ∧ (c = Nat.digitChar d ∨ c = (Nat.digitChar d).toUpper)

variable {radix : Radix}

theorem Radix.base_le (radix : Radix) : radix.base ≤ 16 := by cases radix <;> decide

theorem Radix.base_pos (radix : Radix) : 0 < radix.base := by cases radix <;> decide

/-- The characters of the digits, each found by its place in its range. -/
theorem digitChar_ranges (d : Nat) (small : d < 16) :
    (d < 10 → Char.ofNat (d + 48) = Nat.digitChar d) ∧
    (10 ≤ d → Char.ofNat (d + 87) = Nat.digitChar d ∧
      Char.ofNat (d + 55) = (Nat.digitChar d).toUpper) := by
  revert d
  decide

theorem digit?_digitChar (radix : Radix) (d : Nat) (small : d < radix.base) :
    digit? radix.base (Nat.digitChar d) = some d ∧
      digit? radix.base (Nat.digitChar d).toUpper = some d := by
  revert d
  cases radix <;> decide

theorem digit?_eq_some {c : Char} {d : Nat} :
    digit? radix.base c = some d ↔ IsDigit radix.base c d := by
  constructor
  · intro h
    have le := radix.base_le
    unfold digit? at h
    extract_lets value at h
    obtain ⟨small, same⟩ : value < radix.base ∧ value = d := by simpa using h
    rw [same] at small
    refine ⟨small, ?_⟩
    obtain ⟨digit, letter⟩ := digitChar_ranges d (by omega)
    -- the character is the one at its place in the range that it lies in
    have found {first : Nat} (place : c.toNat = d + first) : c = Char.ofNat (d + first) := by
      rw [← place, Char.ofNat_toNat]
    have le_iff (a b : Char) : a ≤ b ↔ a.toNat ≤ b.toNat := UInt32.le_iff_toNat_le
    simp only [value, le_iff, Char.reduceToNat] at same
    split_ifs at same
    · exact .inl ((found (by omega)).trans (digit (by omega)))
    · exact .inl ((found (by omega)).trans (letter (by omega)).1)
    · exact .inr ((found (by omega)).trans (letter (by omega)).2)
    · omega
  · rintro ⟨small, rfl | rfl⟩
    · exact (digit?_digitChar radix d small).1
    · exact (digit?_digitChar radix d small).2

/-! ## Numbers -/

/-- At most one plus sign, and at least one digit of the base, the most significant first. -/
def Unsigned (base : Nat) (text : List Char) (n : Nat) : Prop :=
  ∃ sign digits values, text = sign ++ digits ∧ (sign = [] ∨ sign = ['+']) ∧ digits ≠ [] ∧
    List.Forall₂ (IsDigit base) digits values ∧ n = Nat.ofDigits base values.reverse

/-- The marks of the bases: none for ten, and two for sixteen. -/
inductive Marks : List Char → Radix → Prop
  | decimal : Marks [] .decimal
  | lower : Marks ['0', 'x'] .hexadecimal
  | upper : Marks ['0', 'X'] .hexadecimal

/-- A text writes a 32-bit word, after the mark of its base. -/
def Writes (text : List Char) (w : UInt32) : Prop :=
  ∃ mark radix rest, text = mark ++ rest ∧ Marks mark radix ∧ Unsigned radix.base rest w.toNat

/-- Digits after a value that is already read make a number up to a bound of it. -/
def Continues (base bound value : Nat) (digits : List Char) (n : Nat) : Prop :=
  ∃ values, List.Forall₂ (IsDigit base) digits values ∧
    n = value * base ^ digits.length + Nat.ofDigits base values.reverse ∧ n ≤ bound

variable {base bound value n : Nat} {c : Char} {digits : List Char}

theorem continues_cons : Continues base bound value (c :: digits) n ↔
    ∃ d, IsDigit base c d ∧ Continues base bound (value * base + d) digits n := by
  have shifted (d : Nat) {values : List Nat} (size : digits.length = values.length) :
      value * base ^ (c :: digits).length + Nat.ofDigits base (d :: values).reverse =
        (value * base + d) * base ^ digits.length + Nat.ofDigits base values.reverse := by
    rw [Nat.ofDigits_reverse_cons, List.length_cons, size]
    ring
  constructor
  · rintro ⟨_, all, same, below⟩
    obtain ⟨d, values, first, others, rfl⟩ := List.forall₂_cons_left_iff.1 all
    exact ⟨d, first, values, others, same.trans (shifted d others.length_eq), below⟩
  · rintro ⟨d, first, values, others, same, below⟩
    exact ⟨d :: values, .cons first others, same.trans (shifted d others.length_eq).symm, below⟩

theorem Continues.value_le (h : Continues base bound value digits n) (positive : 0 < base) :
    value ≤ bound := by
  obtain ⟨values, -, rfl, below⟩ := h
  have := Nat.le_mul_of_pos_right value (Nat.pow_pos (n := digits.length) positive)
  omega

/-- Digits are read after a value up to the bound as long as the whole stays below it. -/
theorem readDigits_eq_ok (fits : value ≤ bound) :
    readDigits radix.base bound value digits = .ok n ↔
      Continues radix.base bound value digits n := by
  induction digits generalizing value with
  | nil =>
    rw [readDigits, Except.ok.injEq]
    constructor
    · rintro rfl
      exact ⟨[], .nil, by simp, fits⟩
    · rintro ⟨_, ⟨⟩, rfl, -⟩
      simp
  | cons c rest ih =>
    rw [continues_cons, readDigits]
    cases digit : digit? radix.base c with
    | none =>
      refine iff_of_false (by simp) ?_
      rintro ⟨d, first, -⟩
      cases digit.symm.trans (digit?_eq_some.2 first)
    | some d =>
      have only {d' : Nat} (first : IsDigit radix.base c d') : d' = d :=
        Option.some.inj ((digit?_eq_some.2 first).symm.trans digit)
      dsimp only
      split
      case isTrue next =>
        rw [ih next]
        refine ⟨fun h => ⟨d, digit?_eq_some.1 digit, h⟩, ?_⟩
        rintro ⟨d', first, h⟩
        exact only first ▸ h
      case isFalse past =>
        refine iff_of_false (by simp) ?_
        rintro ⟨d', first, h⟩
        exact past (only first ▸ h.value_le radix.base_pos)

theorem readDigits_zero_eq_ok : readDigits radix.base bound 0 digits = .ok n ↔
    ∃ values, List.Forall₂ (IsDigit radix.base) digits values ∧
      n = Nat.ofDigits radix.base values.reverse ∧ n ≤ bound := by
  rw [readDigits_eq_ok (Nat.zero_le bound), Continues]
  simp only [Nat.zero_mul, Nat.zero_add]

theorem not_isDigit_plus (radix : Radix) (d : Nat) : ¬ IsDigit radix.base '+' d := by
  rw [← digit?_eq_some]
  cases radix <;> exact fun h => by cases h

theorem readUnsigned_eq_ok {text : List Char} :
    readUnsigned radix.base bound text = .ok n ↔ Unsigned radix.base text n ∧ n ≤ bound := by
  constructor
  · intro h
    obtain ⟨sign, digits, rfl, signed, some, read⟩ : ∃ sign digits, text = sign ++ digits ∧
        (sign = [] ∨ sign = ['+']) ∧ digits ≠ [] ∧
        readDigits radix.base bound 0 digits = .ok n := by
      unfold readUnsigned at h
      split at h
      · cases h
      · cases h
      · exact ⟨['+'], _, rfl, .inr rfl, by simpa using ‹_›, h⟩
      · exact ⟨[], _, rfl, .inl rfl, by simpa using ‹_›, h⟩
    obtain ⟨values, all, same, below⟩ := readDigits_zero_eq_ok.1 read
    exact ⟨⟨sign, digits, values, rfl, signed, some, all, same⟩, below⟩
  · rintro ⟨⟨sign, digits, values, rfl, signed, some, all, same⟩, below⟩
    have read := readDigits_zero_eq_ok.2 ⟨values, all, same, below⟩
    obtain ⟨c, rest, rfl⟩ := List.exists_cons_of_ne_nil some
    obtain ⟨d, -, first, -⟩ := List.forall₂_cons_left_iff.1 all
    obtain rfl | rfl := signed
    · rw [List.nil_append, readUnsigned]
      · exact read
      · rintro ⟨⟩
      · rintro ⟨⟩
        exact not_isDigit_plus radix d first
      · rintro _ ⟨⟩
        exact not_isDigit_plus radix d first
    · exact read

theorem splitRadix_eq (text : List Char) : ∃ mark, Marks mark (splitRadix text).1 ∧
    text = mark ++ (splitRadix text).2 := by
  unfold splitRadix
  split
  · exact ⟨_, .lower, rfl⟩
  · exact ⟨_, .upper, rfl⟩
  · exact ⟨_, .decimal, rfl⟩

theorem not_unsigned_mark (rest : List Char) (none : digit? 10 c = .none) :
    ¬ Unsigned 10 ('0' :: c :: rest) n := by
  rintro ⟨sign, digits, values, same, rfl | rfl, -, all, -⟩
  · rw [List.nil_append] at same
    subst same
    obtain ⟨_, _, -, others, -⟩ := List.forall₂_cons_left_iff.1 all
    obtain ⟨d, -, second, -⟩ := List.forall₂_cons_left_iff.1 others
    cases none.symm.trans ((@digit?_eq_some .decimal _ _).2 second)
  · cases same

theorem splitRadix_append {mark rest : List Char} (marks : Marks mark radix)
    (number : Unsigned radix.base rest n) : splitRadix (mark ++ rest) = (radix, rest) := by
  cases marks with
  | lower => rfl
  | upper => rfl
  | decimal =>
    rw [List.nil_append]
    unfold splitRadix
    split
    · exact absurd number (not_unsigned_mark _ rfl)
    · exact absurd number (not_unsigned_mark _ rfl)
    · rfl

/-- The texts that are read as a word are those that write it. -/
theorem readWord_eq_ok {text : List Char} {w : UInt32} :
    readWord text = .ok w ↔ Writes text w := by
  have range : w.toNat ≤ maxWord := Nat.le_of_lt_succ w.toNat_lt
  constructor
  · intro h
    obtain ⟨mark, marks, cut⟩ := splitRadix_eq text
    rw [readWord] at h
    dsimp only at h
    cases read : readUnsigned (splitRadix text).1.base maxWord (splitRadix text).2 with
    | error e =>
      rw [read] at h
      cases h
    | ok value =>
      rw [read] at h
      obtain rfl := Except.ok.inj h
      obtain ⟨number, below⟩ := readUnsigned_eq_ok.1 read
      refine ⟨mark, _, _, cut, marks, ?_⟩
      rwa [UInt32.toNat_ofNat_of_lt' (Nat.lt_succ_of_le below)]
  · rintro ⟨mark, radix, rest, rfl, marks, number⟩
    rw [readWord, splitRadix_append marks number]
    dsimp only
    rw [readUnsigned_eq_ok.2 ⟨number, range⟩]
    exact congrArg Except.ok UInt32.ofNat_toNat

/-- A text writes one word at most. -/
theorem Writes.unique {text : List Char} {w w' : UInt32} (h : Writes text w) (h' : Writes text w') :
    w = w' :=
  Except.ok.inj ((readWord_eq_ok.2 h).symm.trans (readWord_eq_ok.2 h'))

end FlashGate.Text
