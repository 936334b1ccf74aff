/-
Words written out and read again. Main statement: `numbers_read_alike`, that a number in the
parameters and one on the command line are read by one grammar, and that both readers give back a
word from every rendering of it.

A rendering is a list of digit characters next to the list of their values. It grows by the last
digit, as the digits of a quotient by the base come before it, and by zeros in front, which add
nothing to the value.
-/
import FlashGate.Proofs.Numerals
import FlashGate.Proofs.Settings
import FlashGate.Simulator.Arguments
import FlashGate.Text.Hex

namespace FlashGate.Text

/-! ## Renderings -/

/-- The case of letters in hexadecimal. -/
inductive LetterCase where
  | lower
  | upper

/-- The mark of a hexadecimal number. -/
def LetterCase.mark : LetterCase → String
  | .lower => "0x"
  | .upper => "0X"

/-- A lower-case digit in this case. -/
def LetterCase.letter : LetterCase → Char → Char
  | .lower => id
  | .upper => Char.toUpper

/-- How a number is rendered: in decimal or, after a mark, in hexadecimal, with zeros in front up to
a width. The mark and the digits choose their case apart. -/
inductive Rendering where
  | decimal (width : Nat)
  | hexadecimal (mark letters : LetterCase) (width : Nat)

/-- The text of a number. -/
def Rendering.render (n : Nat) : Rendering → String
  | .decimal width => padZero width (Nat.toDigits 10 n)
  | .hexadecimal mark letters width =>
    mark.mark ++ padZero width ((Nat.toDigits 16 n).map letters.letter)

theorem toString_eq_render (w : UInt32) : toString w = (Rendering.decimal 0).render w.toNat := by
  simp only [Rendering.render, padZero, Nat.zero_sub, List.replicate_zero, List.nil_append]
  rfl

theorem hexAddress_eq_render (a : UInt32) :
    hexAddress a = (Rendering.hexadecimal .lower .upper 8).render a.toNat := rfl

example : (Rendering.hexadecimal .upper .lower 6).render 0xBEEF = "0X00beef" := by cbv

/-! ## Their digits -/

variable {radix : Radix} {c : Char} {d n : Nat} {digits : List Char} {values : List Nat}

theorem Radix.one_lt_base (radix : Radix) : 1 < radix.base := by cases radix <;> decide

/-- Letters in another case are the same digits. -/
theorem IsDigit.letter (h : IsDigit radix.base c d) (letters : LetterCase) :
    IsDigit radix.base (letters.letter c) d := by
  have upper (d : Nat) (small : d < 16) :
      (Nat.digitChar d).toUpper.toUpper = (Nat.digitChar d).toUpper := by
    revert d
    decide
  obtain ⟨small, same⟩ := h
  refine ⟨small, ?_⟩
  cases letters with
  | lower => exact same
  | upper =>
    obtain rfl | rfl := same
    · exact .inr rfl
    · exact .inr (upper d (Nat.lt_of_lt_of_le small radix.base_le))

/-- The digits of a number are those of its quotient by the base, and the remainder. -/
theorem toDigits_values (radix : Radix) (n : Nat) :
    ∃ values, List.Forall₂ (IsDigit radix.base) (Nat.toDigits radix.base n) values ∧
      n = Nat.ofDigits radix.base values.reverse := by
  induction n using Nat.strongRecOn with
  | ind n ih =>
    obtain small | large := Nat.lt_or_ge n radix.base
    · rw [Nat.toDigits_of_lt_base small]
      exact ⟨[n], .cons ⟨small, .inl rfl⟩ .nil, Nat.ofDigits_singleton.symm⟩
    · have positive : 0 < n := Nat.lt_of_lt_of_le radix.base_pos large
      obtain ⟨values, all, same⟩ := ih (n / radix.base) (Nat.div_lt_self positive radix.one_lt_base)
      have last : IsDigit radix.base (Nat.digitChar (n % radix.base)) (n % radix.base) :=
        ⟨Nat.mod_lt n radix.base_pos, .inl rfl⟩
      rw [Nat.toDigits_of_base_le radix.one_lt_base large]
      refine ⟨values ++ [n % radix.base], List.rel_append all (.cons last .nil), ?_⟩
      rw [List.reverse_append, List.reverse_singleton, List.singleton_append, Nat.ofDigits_cons,
        ← same, Nat.mod_add_div]

theorem unsigned_padZero (width : Nat) (some : digits ≠ [])
    (all : List.Forall₂ (IsDigit radix.base) digits values) :
    Unsigned radix.base (padZero width digits).toList (Nat.ofDigits radix.base values.reverse) := by
  have zeros (count : Nat) :
      List.Forall₂ (IsDigit radix.base) (List.replicate count '0') (List.replicate count 0) := by
    induction count with
    | zero => exact .nil
    | succ count ih => exact .cons ⟨radix.base_pos, .inl rfl⟩ ih
  refine ⟨[], _, _, String.toList_ofList, .inl rfl, List.append_ne_nil_of_right_ne_nil _ some,
    List.rel_append (zeros (width - digits.length)) all, ?_⟩
  rw [List.reverse_append, List.reverse_replicate, Nat.ofDigits_append_replicate_zero]

/-- Each rendering of a word writes that word. -/
theorem Rendering.writes (r : Rendering) (w : UInt32) : Writes (r.render w.toNat).toList w := by
  cases r with
  | decimal width =>
    obtain ⟨values, all, same⟩ := toDigits_values .decimal w.toNat
    have number := unsigned_padZero width Nat.toDigits_ne_nil all
    rw [← same] at number
    exact ⟨[], .decimal, _, (List.nil_append _).symm, .decimal, number⟩
  | hexadecimal mark letters width =>
    obtain ⟨values, all, same⟩ := toDigits_values .hexadecimal w.toNat
    have cased := List.forall₂_map_left_iff.2 (all.imp fun _ _ h => h.letter letters)
    have number := unsigned_padZero width (by simp) cased
    rw [← same] at number
    have marks : Marks mark.mark.toList .hexadecimal := by
      cases mark with
      | lower => exact .lower
      | upper => exact .upper
    exact ⟨_, .hexadecimal, _, String.toList_append, marks, number⟩

theorem readWord_hexAddress (a : UInt32) : readWord (hexAddress a).toList = .ok a := by
  rw [hexAddress_eq_render, readWord_eq_ok]
  exact Rendering.writes _ a

end FlashGate.Text

namespace FlashGate

/-! ## The two readers -/

theorem readWordValue_eq_ok {text : String} {v : Simulator.Value} :
    Simulator.readWordValue text = .ok v ↔ ∃ w, v = .word w ∧ Text.Writes text.toList w := by
  simp only [← Text.readWord_eq_ok, Simulator.readWordValue]
  cases Text.readWord text.toList with
  | ok w => simp [eq_comm]
  | error e => simp

/-- A number among the parameters is read as a word exactly when its text writes that word: after an
optional mark, at most one plus sign and at least one digit, zeros in front included. The command
line reads the same texts as the same words, and both give back each word from each of its
renderings. -/
theorem numbers_read_alike (key : List Char) :
    (∀ (text : String) (w : UInt32),
      Setting.number key text.toList = .ok w ↔ Text.Writes text.toList w) ∧
    (∀ (text : String) (v : Simulator.Value),
      Simulator.readWordValue text = .ok v ↔
        ∃ w, v = .word w ∧ Setting.number key text.toList = .ok w) ∧
    ∀ (r : Text.Rendering) (w : UInt32),
      Setting.number key (r.render w.toNat).toList = .ok w ∧
        Simulator.readWordValue (r.render w.toNat) = .ok (.word w) := by
  refine ⟨fun text w => Setting.number_eq_ok, fun text v => ?_, fun r w => ⟨?_, ?_⟩⟩
  · simp only [Setting.number_eq_ok]
    exact readWordValue_eq_ok
  · exact Setting.number_eq_ok.2 (r.writes w)
  · exact readWordValue_eq_ok.2 ⟨w, rfl, r.writes w⟩

end FlashGate
