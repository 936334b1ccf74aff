/-
One setting of a parameter text: what stands between two commas without the blanks around it, the
key in front of its first equals sign, and which value is in the domain of the key. A setting is
read exactly when it is accepted (`parse_ok_iff`), and otherwise decides the error
(`parse_error_iff`).
-/
import FlashGate.Config
import FlashGate.Proofs.Numerals
import Mathlib.Data.List.TakeWhile

namespace FlashGate

namespace Text

/-! ## Pieces, blanks and the first separator -/

variable {separator : Char}

theorem splitOn_eq (text : List Char) : splitOn separator text = text.splitOn separator := by
  induction text with
  | nil => rfl
  | cons c rest ih =>
    rw [splitOn, List.splitOn_cons_eq_if_modifyHead, ← ih]
    by_cases here : c = separator
    · simp [here]
    · simp only [here, if_false, beq_iff_eq]
      cases pieces : splitOn separator rest with
      | nil => exact absurd (ih ▸ pieces) (List.splitOn_ne_nil separator rest)
      | cons piece pieces => rfl

/-- No piece has the separator in it. -/
theorem not_mem_of_mem_splitOn {piece text : List Char} (h : piece ∈ splitOn separator text) :
    separator ∉ piece := by
  fun_induction splitOn separator text generalizing piece with
  | case1 => simp_all
  | case2 rest ih =>
    obtain rfl | later := List.mem_cons.1 h
    · exact List.not_mem_nil
    · exact ih later
  | case3 c rest other empty ih =>
    rw [List.mem_singleton.1 h]
    simpa using Ne.symm other
  | case4 c rest other first pieces split ih =>
    obtain rfl | later := List.mem_cons.1 h
    · have := ih (split ▸ List.mem_cons_self)
      simp [Ne.symm other, this]
    · exact ih (split ▸ List.mem_cons_of_mem _ later)

/-- A text is what another one is without the blanks at its two ends. -/
structure Trims (piece text : List Char) : Prop where
  cut : ∃ front back, piece = front ++ text ++ back ∧ (∀ c ∈ front, isBlank c) ∧
    ∀ c ∈ back, isBlank c
  front : ∀ c ∈ text.head?, ¬ isBlank c
  back : ∀ c ∈ text.getLast?, ¬ isBlank c

theorem head?_dropWhile (piece : List Char) :
    ∀ c ∈ (piece.dropWhile isBlank).head?, ¬ isBlank c := by
  intro c hc
  have := List.head?_dropWhile_not isBlank piece
  rw [Option.mem_def.1 hc] at this
  simpa using this

theorem trims_trim (piece : List Char) : Trims piece (trim piece) := by
  set rest := piece.dropWhile isBlank with hrest
  have reversed : trim piece = (rest.reverse.dropWhile isBlank).reverse := rfl
  have front : piece.takeWhile isBlank ++ rest = piece := List.takeWhile_append_dropWhile
  have back : trim piece ++ (rest.reverse.takeWhile isBlank).reverse = rest := by
    rw [reversed, ← List.reverse_append, List.takeWhile_append_dropWhile, List.reverse_reverse]
  refine ⟨⟨piece.takeWhile isBlank, (rest.reverse.takeWhile isBlank).reverse, ?_,
    fun c => List.mem_takeWhile_imp, fun c hc => List.mem_takeWhile_imp (List.mem_reverse.1 hc)⟩,
    fun c hc => ?_, fun c hc => ?_⟩
  · rw [List.append_assoc, back, front]
  · -- the first character that is left is the first one after the front
    refine head?_dropWhile piece c ?_
    rw [← hrest, ← back, List.head?_append, Option.mem_def.1 hc]
    rfl
  · rw [reversed, List.getLast?_reverse] at hc
    exact head?_dropWhile _ c hc

theorem splitFirst?_eq_some {text before after : List Char} :
    splitFirst? separator text = some (before, after) ↔
      text = before ++ separator :: after ∧ separator ∉ before := by
  induction text generalizing before with
  | nil => simp [splitFirst?]
  | cons c rest ih =>
    rw [splitFirst?]
    split
    case isTrue here =>
      subst here
      cases before with
      | nil => simp [eq_comm]
      | cons d before => simp +contextual [eq_comm]
    case isFalse other =>
      rw [Option.map_eq_some_iff]
      cases before with
      | nil => simp [other]
      | cons d before =>
        simp only [Prod.exists, Prod.mk.injEq, List.cons.injEq, List.cons_append, List.mem_cons]
        constructor
        · rintro ⟨b, a, found, ⟨rfl, rfl⟩, rfl⟩
          obtain ⟨whole, none⟩ := ih.1 found
          exact ⟨⟨rfl, whole⟩, by simp [Ne.symm other, none]⟩
        · rintro ⟨⟨rfl, whole⟩, none⟩
          exact ⟨before, after, ih.2 ⟨whole, fun h => none (.inr h)⟩, ⟨rfl, rfl⟩, rfl⟩

theorem splitFirst?_eq_none {text : List Char} :
    splitFirst? separator text = none ↔ separator ∉ text := by
  induction text with
  | nil => simp [splitFirst?]
  | cons c rest ih =>
    rw [splitFirst?]
    split
    case isTrue here => simp [here]
    case isFalse other => simp [ih, Ne.symm other]

end Text

namespace Setting

/-! ## One setting -/

/-- The names of the submodes. -/
inductive Names : List Char → Submode → Prop
  | raw : Names "raw".toList .raw
  | nibbleSwap : Names "nibble_swap".toList .nibbleSwap

/-- The keys whose value is a number, at least one. -/
def positiveKeys : List String := ["queue", "chunk"]

/-- The keys whose value is a number, zero included. -/
def plainKeys : List String := ["retries", "retry_delay", "priority", "cal_addr"]

/-- The keys whose value is a number. -/
def numberKeys : List String := positiveKeys ++ plainKeys

/-- The keys with a meaning. -/
def keys : List String := numberKeys ++ ["fast_read"]

/-- A value is in the domain of a key; a key without a meaning takes each value. -/
structure InDomain (key value : List Char) : Prop where
  number : key ∈ numberKeys.map String.toList → ∃ n, Text.Writes value n
  positive : key ∈ positiveKeys.map String.toList → ∃ n, Text.Writes value n ∧ 1 ≤ n
  submode : key = "fast_read".toList → ∃ m, Names value m

/-- A setting has a key, what stands before its first equals sign, and a value in the domain of the
key, all of what stands after it. -/
def Accepted (setting : List Char) : Prop :=
  ∃ key value, setting = key ++ '=' :: value ∧ '=' ∉ key ∧ InDomain key value

/-- The error of a setting that cannot be used. -/
inductive Offends : List Char → ParameterError → Prop
  | noValue {setting} (none : '=' ∉ setting) : Offends setting (.noValue (String.ofList setting))
  | badNumber {key value} (named : key ∈ numberKeys) (bad : ∀ n, ¬ Text.Writes value n) :
    Offends (key.toList ++ '=' :: value) (.badNumber key (String.ofList value))
  | zero {key value} (named : key ∈ positiveKeys) (zero : Text.Writes value 0) :
    Offends (key.toList ++ '=' :: value) (.zero key)
  | badSubmode {value} (bad : ∀ m, ¬ Names value m) :
    Offends ("fast_read".toList ++ '=' :: value) (.badSubmode (String.ofList value))

/-- A setting with the key in front. -/
def HasKey (key setting : List Char) : Prop := key ++ ['='] <+: setting

instance (key setting : List Char) : Decidable (HasKey key setting) :=
  inferInstanceAs (Decidable (_ <+: _))

/-- None of the keys with a meaning stands in front of a setting. -/
def Unknown (setting : List Char) : Prop := ∀ key ∈ keys, ¬ HasKey key.toList setting

instance (setting : List Char) : Decidable (Unknown setting) :=
  inferInstanceAs (Decidable (∀ key ∈ keys, _))

/-- The warnings that settings leave, one for each whose key has no meaning. -/
def warnings (settings : List (List Char)) : List Line :=
  (settings.filter Unknown).map fun s => .warn ("Unknown arbiter option: " ++ String.ofList s)

theorem map_eq_ok {α β : Type} {x : Except ParameterError α} {f : α → β} {b : β} :
    x.map f = .ok b ↔ ∃ a, x = .ok a ∧ f a = b := by
  cases x <;> simp [Except.map]

theorem map_eq_error {α β : Type} {x : Except ParameterError α} {f : α → β} {e : ParameterError} :
    x.map f = .error e ↔ x = .error e := by
  cases x <;> simp [Except.map]

theorem one_le_iff {w : UInt32} : 1 ≤ w ↔ w ≠ 0 := by
  rw [UInt32.le_iff_toNat_le, Ne, ← UInt32.toNat_inj]
  exact Nat.one_le_iff_ne_zero

theorem number_eq_ok {key value : List Char} {n : UInt32} :
    number key value = .ok n ↔ Text.Writes value n := by
  rw [← Text.readWord_eq_ok, number]
  split <;> simp_all

theorem number_eq_error {key value : List Char} {e : ParameterError} :
    number key value = .error e ↔ (∀ n, ¬ Text.Writes value n) ∧
      .badNumber (String.ofList key) (String.ofList value) = e := by
  simp only [← Text.readWord_eq_ok, number]
  split <;> simp_all

theorem positive_eq_ok {key value : List Char} {n : Nat} :
    positive key value = .ok n ↔ ∃ w, Text.Writes value w ∧ 1 ≤ w ∧ w.toNat = n := by
  unfold positive
  split
  case h_1 e bad => simp [(number_eq_error.1 bad).1]
  case h_2 w read =>
    have word := Text.readWord_eq_ok.2 (number_eq_ok.1 read)
    simp only [← Text.readWord_eq_ok]
    split <;> simp_all [one_le_iff]

theorem positive_eq_error {key value : List Char} {e : ParameterError} :
    positive key value = .error e ↔ number key value = .error e ∨
      Text.Writes value 0 ∧ .zero (String.ofList key) = e := by
  unfold positive
  split
  case h_1 e bad => simp [(number_eq_error.1 bad).1, bad]
  case h_2 w read =>
    have word := Text.readWord_eq_ok.2 (number_eq_ok.1 read)
    rw [← Text.readWord_eq_ok]
    split <;> simp_all

theorem submode_eq_ok {value : List Char} {m : Submode} :
    submode value = .ok m ↔ Names value m := by
  unfold submode
  constructor
  · split
    case isTrue here => rintro ⟨⟩; exact here ▸ .raw
    case isFalse =>
      split
      case isTrue here => rintro ⟨⟩; exact here ▸ .nibbleSwap
      case isFalse => rintro ⟨⟩
  · rintro (_ | _) <;> rfl

theorem submode_eq_error {value : List Char} {e : ParameterError} :
    submode value = .error e ↔ (∀ m, ¬ Names value m) ∧ .badSubmode (String.ofList value) = e := by
  cases read : submode value with
  | ok m => simpa using fun none : ∀ m, ¬ Names value m => (none m (submode_eq_ok.1 read)).elim
  | error e' =>
    have none : ∀ m, ¬ Names value m := fun m named => by simp [submode_eq_ok.2 named] at read
    have same : .badSubmode (String.ofList value) = e' := by
      unfold submode at read
      split_ifs at read
      exact Except.error.inj read
    simp [none, same]

/-! ### The families of keys -/

/-- The key of a setting that has a meaning. -/
def key? : Setting → Option String
  | .queue _ => some "queue"
  | .chunk _ => some "chunk"
  | .retries _ => some "retries"
  | .retryDelay _ => some "retry_delay"
  | .priority _ => some "priority"
  | .fastRead _ => some "fast_read"
  | .calibrationAddress _ => some "cal_addr"
  | .unknown .. => none

theorem ofPair_positive {key : String} (named : key ∈ positiveKeys) :
    ∃ f : Nat → Setting, (∀ n, (f n).key? = some key) ∧
      ∀ value, ofPair key.toList value = (positive key.toList value).map f := by
  simp only [positiveKeys, List.mem_cons, List.not_mem_nil, or_false] at named
  obtain rfl | rfl := named
  · exact ⟨.queue, fun _ => rfl, fun _ => rfl⟩
  · exact ⟨.chunk, fun _ => rfl, fun _ => rfl⟩

theorem ofPair_number {key : String} (named : key ∈ plainKeys) :
    ∃ f : UInt32 → Setting, (∀ n, (f n).key? = some key) ∧
      ∀ value, ofPair key.toList value = (number key.toList value).map f := by
  simp only [plainKeys, List.mem_cons, List.not_mem_nil, or_false] at named
  obtain rfl | rfl | rfl | rfl := named
  · exact ⟨.retries, fun _ => rfl, fun _ => rfl⟩
  · exact ⟨.retryDelay, fun _ => rfl, fun _ => rfl⟩
  · exact ⟨.priority, fun _ => rfl, fun _ => rfl⟩
  · exact ⟨.calibrationAddress, fun _ => rfl, fun _ => rfl⟩

theorem ofPair_submode (value : List Char) :
    ofPair "fast_read".toList value = (submode value).map .fastRead := rfl

theorem ofPair_unknown {key : List Char} (unknown : ∀ k ∈ keys, key ≠ k.toList)
    (value : List Char) :
    ofPair key value = .ok (.unknown (String.ofList key) (String.ofList value)) := by
  rw [ofPair, if_neg (unknown "queue" (by decide)), if_neg (unknown "chunk" (by decide)),
    if_neg (unknown "retries" (by decide)), if_neg (unknown "retry_delay" (by decide)),
    if_neg (unknown "priority" (by decide)), if_neg (unknown "fast_read" (by decide)),
    if_neg (unknown "cal_addr" (by decide))]

theorem key_cases (key : List Char) :
    (∃ k ∈ positiveKeys, key = k.toList) ∨ (∃ k ∈ plainKeys, key = k.toList) ∨
      key = "fast_read".toList ∨ ∀ k ∈ keys, key ≠ k.toList := by
  by_cases known : ∃ k ∈ keys, key = k.toList
  · obtain ⟨k, member, rfl⟩ := known
    simp only [keys, numberKeys, List.mem_append, List.mem_singleton] at member
    obtain (member | member) | rfl := member
    · exact .inl ⟨k, member, rfl⟩
    · exact .inr (.inl ⟨k, member, rfl⟩)
    · exact .inr (.inr (.inl rfl))
  · exact .inr (.inr (.inr fun k member same => known ⟨k, member, same⟩))

theorem not_mem_key {key : String} (named : key ∈ keys) : '=' ∉ key.toList := by
  revert key
  decide

theorem ofPair_ok_iff {key value : List Char} :
    (∃ s, ofPair key value = .ok s) ↔ InDomain key value := by
  constructor
  · rintro ⟨s, read⟩
    refine ⟨fun named => ?_, fun named => ?_, ?_⟩
    · obtain ⟨k, member, rfl⟩ := List.mem_map.1 named
      obtain member | member := List.mem_append.1 member
      · obtain ⟨f, -, same⟩ := ofPair_positive member
        obtain ⟨n, read, -⟩ := map_eq_ok.1 (same value ▸ read)
        obtain ⟨w, read, -⟩ := positive_eq_ok.1 read
        exact ⟨w, read⟩
      · obtain ⟨f, -, same⟩ := ofPair_number member
        obtain ⟨n, read, -⟩ := map_eq_ok.1 (same value ▸ read)
        exact ⟨n, number_eq_ok.1 read⟩
    · obtain ⟨k, member, rfl⟩ := List.mem_map.1 named
      obtain ⟨f, -, same⟩ := ofPair_positive member
      obtain ⟨n, read, -⟩ := map_eq_ok.1 (same value ▸ read)
      obtain ⟨w, read, least, -⟩ := positive_eq_ok.1 read
      exact ⟨w, read, least⟩
    · rintro rfl
      obtain ⟨m, read, -⟩ := map_eq_ok.1 (ofPair_submode value ▸ read)
      exact ⟨m, submode_eq_ok.1 read⟩
  · intro domain
    obtain ⟨k, named, rfl⟩ | ⟨k, named, rfl⟩ | rfl | unknown := key_cases key
    · obtain ⟨f, -, same⟩ := ofPair_positive named
      obtain ⟨w, read, least⟩ := domain.positive (List.mem_map_of_mem named)
      exact ⟨_, (same value).trans (map_eq_ok.2 ⟨_, positive_eq_ok.2 ⟨w, read, least, rfl⟩, rfl⟩)⟩
    · obtain ⟨f, -, same⟩ := ofPair_number named
      obtain ⟨w, read⟩ := domain.number (List.mem_map_of_mem (List.mem_append_right _ named))
      exact ⟨_, (same value).trans (map_eq_ok.2 ⟨_, number_eq_ok.2 read, rfl⟩)⟩
    · obtain ⟨m, named⟩ := domain.submode rfl
      exact ⟨_, map_eq_ok.2 ⟨_, submode_eq_ok.2 named, rfl⟩⟩
    · exact ⟨_, ofPair_unknown unknown value⟩

/-! ### Reading a setting -/

theorem parse_pair {key : List Char} (plain : '=' ∉ key) (value : List Char) :
    parse (key ++ '=' :: value) = ofPair key value := by
  rw [parse, Text.splitFirst?_eq_some.2 ⟨rfl, plain⟩]

theorem parse_bare {setting : List Char} (bare : '=' ∉ setting) :
    parse setting = .error (.noValue (String.ofList setting)) := by
  rw [parse, Text.splitFirst?_eq_none.2 bare]

theorem bare_or_pair (setting : List Char) :
    '=' ∉ setting ∨ ∃ key value, setting = key ++ '=' :: value ∧ '=' ∉ key := by
  cases split : Text.splitFirst? '=' setting with
  | none => exact .inl (Text.splitFirst?_eq_none.1 split)
  | some pair => exact .inr ⟨pair.1, pair.2, Text.splitFirst?_eq_some.1 split⟩

theorem parse_ok_iff {setting : List Char} : (∃ s, parse setting = .ok s) ↔ Accepted setting := by
  constructor
  · rintro ⟨s, read⟩
    obtain bare | ⟨key, value, rfl, plain⟩ := bare_or_pair setting
    · rw [parse_bare bare] at read
      cases read
    · exact ⟨key, value, rfl, plain, ofPair_ok_iff.1 ⟨s, parse_pair plain value ▸ read⟩⟩
  · rintro ⟨key, value, rfl, plain, domain⟩
    rw [parse_pair plain]
    exact ofPair_ok_iff.2 domain

theorem parse_error_iff {setting : List Char} {e : ParameterError} :
    parse setting = .error e ↔ Offends setting e := by
  constructor
  · intro bad
    obtain bare | ⟨key, value, rfl, plain⟩ := bare_or_pair setting
    · obtain rfl := Except.error.inj (parse_bare bare ▸ bad)
      exact .noValue bare
    rw [parse_pair plain] at bad
    obtain ⟨k, named, rfl⟩ | ⟨k, named, rfl⟩ | rfl | unknown := key_cases key
    · obtain ⟨f, -, same⟩ := ofPair_positive named
      rw [same, map_eq_error, positive_eq_error, number_eq_error] at bad
      obtain ⟨bad, rfl⟩ | ⟨zero, rfl⟩ := bad
      · rw [String.ofList_toList]
        exact .badNumber (List.mem_append_left _ named) bad
      · rw [String.ofList_toList]
        exact .zero named zero
    · obtain ⟨f, -, same⟩ := ofPair_number named
      rw [same, map_eq_error, number_eq_error] at bad
      obtain ⟨bad, rfl⟩ := bad
      rw [String.ofList_toList]
      exact .badNumber (List.mem_append_right _ named) bad
    · rw [ofPair_submode, map_eq_error, submode_eq_error] at bad
      obtain ⟨bad, rfl⟩ := bad
      exact .badSubmode bad
    · rw [ofPair_unknown unknown] at bad
      cases bad
  · intro offends
    cases offends with
    | noValue bare => exact parse_bare bare
    | @badNumber key value named bad =>
      rw [parse_pair (not_mem_key (List.mem_append_left _ named))]
      have number : number key.toList value = .error (.badNumber key (String.ofList value)) :=
        number_eq_error.2 ⟨bad, by rw [String.ofList_toList]⟩
      obtain named | named := List.mem_append.1 named
      · obtain ⟨f, -, same⟩ := ofPair_positive named
        rw [same, map_eq_error, positive_eq_error]
        exact .inl number
      · obtain ⟨f, -, same⟩ := ofPair_number named
        rw [same, map_eq_error, number]
    | @zero key value named zero =>
      rw [parse_pair (not_mem_key (List.mem_append_left _ (List.mem_append_left _ named)))]
      obtain ⟨f, -, same⟩ := ofPair_positive named
      rw [same, map_eq_error, positive_eq_error]
      exact .inr ⟨zero, by rw [String.ofList_toList]⟩
    | badSubmode bad =>
      rw [parse_pair (by decide), ofPair_submode, map_eq_error]
      exact submode_eq_error.2 ⟨bad, rfl⟩

theorem Offends.not_accepted {s : List Char} {e : ParameterError} (offends : Offends s e) :
    ¬ Accepted s := by
  intro accepted
  obtain ⟨x, read⟩ := parse_ok_iff.2 accepted
  cases read.symm.trans (parse_error_iff.2 offends)

/-! ### The key in front -/

theorem hasKey_pair {k key : List Char} (plain : '=' ∉ key) (other : '=' ∉ k) (value : List Char) :
    HasKey k (key ++ '=' :: value) ↔ k = key := by
  constructor
  · rintro ⟨rest, same⟩
    rw [List.append_assoc] at same
    have split := Text.splitFirst?_eq_some.2 ⟨same.symm, other⟩
    rw [Text.splitFirst?_eq_some.2 ⟨rfl, plain⟩] at split
    exact (Prod.mk.inj (Option.some.inj split)).1.symm
  · rintro rfl
    exact ⟨value, by simp⟩

theorem unknown_pair {key : List Char} (plain : '=' ∉ key) (value : List Char) :
    Unknown (key ++ '=' :: value) ↔ ∀ k ∈ keys, key ≠ k.toList := by
  refine forall₂_congr fun k named => not_congr ?_
  rw [hasKey_pair plain (not_mem_key named) value, eq_comm]

/-- The key of what a pair is read as: its own, unless that has no meaning. -/
theorem key?_of_ofPair {key value : List Char} {s : Setting} (read : ofPair key value = .ok s) :
    (∃ k ∈ keys, key = k.toList ∧ s.key? = some k) ∨ (∀ k ∈ keys, key ≠ k.toList) ∧
      s = .unknown (String.ofList key) (String.ofList value) := by
  obtain ⟨k, named, rfl⟩ | ⟨k, named, rfl⟩ | rfl | unknown := key_cases key
  · obtain ⟨f, tagged, same⟩ := ofPair_positive named
    obtain ⟨n, -, rfl⟩ := map_eq_ok.1 (same value ▸ read)
    exact .inl ⟨k, List.mem_append_left _ (List.mem_append_left _ named), rfl, tagged n⟩
  · obtain ⟨f, tagged, same⟩ := ofPair_number named
    obtain ⟨n, -, rfl⟩ := map_eq_ok.1 (same value ▸ read)
    exact .inl ⟨k, List.mem_append_left _ (List.mem_append_right _ named), rfl, tagged n⟩
  · obtain ⟨m, -, rfl⟩ := map_eq_ok.1 (ofPair_submode value ▸ read)
    exact .inl ⟨"fast_read", by decide, rfl, rfl⟩
  · exact .inr ⟨unknown, (Except.ok.inj (ofPair_unknown unknown value ▸ read)).symm⟩

theorem warnings_append (a b : List (List Char)) :
    warnings (a ++ b) = warnings a ++ warnings b := by
  simp [warnings]

/-- A pair that is understood leaves a warning exactly when its key has no meaning. -/
theorem warning?_of_ofPair {key value : List Char} {s : Setting} (plain : '=' ∉ key)
    (read : ofPair key value = .ok s) : s.warning?.toList = warnings [key ++ '=' :: value] := by
  obtain ⟨k, named, same, tagged⟩ | ⟨unknown, rfl⟩ := key?_of_ofPair read
  · have known : ¬ Unknown (key ++ '=' :: value) :=
      fun unknown => (unknown_pair plain value).1 unknown k named same
    have quiet : s.warning? = none := by
      cases s <;> first | rfl | cases tagged
    simp [quiet, warnings, known]
  · have kept : [key ++ '=' :: value].filter Unknown = [key ++ '=' :: value] := by
      simp [(unknown_pair plain value).2 unknown]
    have wording : "Unknown arbiter option: " ++ String.ofList (key ++ '=' :: value) =
        s!"Unknown arbiter option: {String.ofList key}={String.ofList value}" := by
      rw [String.ofList_append, String.ofList_cons, ← String.append_assoc, ← String.append_assoc]
      rfl
    rw [warnings, kept, List.map_singleton, wording]
    rfl

end Setting

end FlashGate
