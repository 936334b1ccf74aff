/-
What a parameter text means: which texts are accepted, which settings decide a field of the
configuration, which one decides the error, and what is logged on the way. The main result is
`reads_parameters`.
-/
import FlashGate.Proofs.Settings
import Mathlib.Data.List.Forall2

namespace FlashGate

namespace Config

open Setting (Accepted Offends HasKey Names warnings)

/-! ## The fields -/

/-- The last setting with a key. -/
def lastWith? (key : String) (settings : List (List Char)) : Option (List Char) :=
  (settings.filter (HasKey key.toList)).getLast?

/-- A field holds what the value of the last setting with a key reads as, or its default where no
setting has the key. -/
def Holds {α : Type} (settings : List (List Char)) (key : String) (Reads : List Char → α → Prop)
    (default field : α) : Prop :=
  (∃ value, lastWith? key settings = some (key.toList ++ '=' :: value) ∧ Reads value field) ∨
    lastWith? key settings = none ∧ field = default

/-- A value is written as a number that is at least one. -/
def CountsTo (value : List Char) (n : Nat) : Prop :=
  ∃ w, Text.Writes value w ∧ 1 ≤ w ∧ n = w.toNat

/-- A value is the name of the submode that is present. -/
def NamesSome (value : List Char) (submode? : Option Submode) : Prop :=
  ∃ m, submode? = some m ∧ Names value m

/-- The fields of a configuration are those that settings decide. -/
structure Describes (c : Config) (settings : List (List Char)) : Prop where
  queueDepth : Holds settings "queue" CountsTo ({} : Config).queueDepth c.queueDepth
  readChunk : Holds settings "chunk" CountsTo ({} : Config).readChunk c.readChunk
  retries : Holds settings "retries" Text.Writes ({} : Config).retry.retries
    c.retry.retries
  delay : Holds settings "retry_delay" Text.Writes ({} : Config).retry.delay
    c.retry.delay
  priority : Holds settings "priority" Text.Writes ({} : Config).priority c.priority
  /-- The submode and the address are each those of their own key, wherever the settings stand. -/
  fastRead : ∃ submode? address,
    Holds settings "fast_read" NamesSome none submode? ∧
    Holds settings "cal_addr" Text.Writes 0 address ∧
    c.fastRead = submode?.map fun m => ⟨m, address⟩

theorem lastWith?_cons (key : String) (s : List Char) (rest : List (List Char)) :
    lastWith? key (s :: rest) =
      (lastWith? key rest).or (if HasKey key.toList s then some s else none) := by
  unfold lastWith?
  by_cases here : HasKey key.toList s
  · rw [List.filter_cons_of_pos (by simpa using here), List.getLast?_cons, if_pos here]
    cases (rest.filter (HasKey key.toList)).getLast? <;> rfl
  · rw [List.filter_cons_of_neg (by simpa using here), if_neg here, Option.or_none]

namespace Draft

/-- A part of the draft is decided by the settings of one key. -/
structure DecidedBy {α : Type} (part : Draft → α) (key : String) (Reads : List Char → α → Prop) :
    Prop where
  named : key ∈ Setting.keys
  own : ∀ (d : Draft) value s, Setting.ofPair key.toList value = .ok s →
    Reads value (part (d.apply s))
  others : ∀ (d : Draft) (s : Setting), s.key? ≠ some key → part (d.apply s) = part d

variable {d d' : Draft} {settings rest : List (List Char)}

theorem applyAll_pair {key value : List Char} {x : Setting} (plain : '=' ∉ key)
    (read : Setting.ofPair key value = .ok x) :
    applyAll d ((key ++ '=' :: value) :: rest) = ((applyAll (d.apply x) rest).1,
      warnings [key ++ '=' :: value] ++ (applyAll (d.apply x) rest).2) := by
  rw [applyAll, Setting.parse_pair plain, read, ← Setting.warning?_of_ofPair plain read]

theorem applyAll_offends {s : List Char} {e : ParameterError} (offends : Offends s e) :
    applyAll d (s :: rest) = (.error e, []) := by
  rw [applyAll, Setting.parse_error_iff.2 offends]

/-- A draft is what settings, each of them accepted, make of another one. -/
structure Makes (d : Draft) (settings : List (List Char)) (d' : Draft) : Prop where
  onward : ∀ rest, applyAll d (settings ++ rest) =
    ((applyAll d' rest).1, warnings settings ++ (applyAll d' rest).2)
  decided : ∀ {α : Type} {part : Draft → α} {key Reads}, DecidedBy part key Reads →
    Holds settings key Reads (part d) (part d')

theorem Makes.cons {key value : List Char} {x : Setting} (plain : '=' ∉ key)
    (read : Setting.ofPair key value = .ok x) (h : Makes (d.apply x) settings d') :
    Makes d ((key ++ '=' :: value) :: settings) d' where
  onward rest := by
    have both := Setting.warnings_append [key ++ '=' :: value] settings
    rw [List.singleton_append] at both
    rw [List.cons_append, applyAll_pair plain read, h.onward, both, List.append_assoc]
  decided {α part k Reads} decides := by
    unfold Holds
    rw [lastWith?_cons]
    obtain ⟨v, last, reads⟩ | ⟨none, same⟩ := h.decided decides
    · exact .inl ⟨v, by rw [last, Option.some_or], reads⟩
    rw [none, Option.none_or, same]
    have mine := Setting.hasKey_pair plain (Setting.not_mem_key decides.named) value
    by_cases here : k.toList = key
    · subst here
      exact .inl ⟨value, if_pos (mine.2 rfl), decides.own d value x read⟩
    · refine .inr ⟨if_neg fun has => here (mine.1 has), decides.others d x fun tagged => here ?_⟩
      obtain ⟨k', -, rfl, tagged'⟩ | ⟨-, rfl⟩ := Setting.key?_of_ofPair read
      · rw [Option.some.inj (tagged.symm.trans tagged')]
      · cases tagged

theorem exists_makes (d : Draft) {settings : List (List Char)} (all : ∀ s ∈ settings, Accepted s) :
    ∃ d', Makes d settings d' := by
  induction settings generalizing d with
  | nil => exact ⟨d, fun rest => rfl, fun _ => .inr ⟨rfl, rfl⟩⟩
  | cons s settings ih =>
    obtain ⟨key, value, rfl, plain, domain⟩ := all s List.mem_cons_self
    obtain ⟨x, read⟩ := Setting.ofPair_ok_iff.2 domain
    obtain ⟨d', makes⟩ := ih (d.apply x) fun s h => all s (List.mem_cons_of_mem _ h)
    exact ⟨d', makes.cons plain read⟩

/-! ### Which key decides which field -/

theorem DecidedBy.positive {part : Draft → Nat} {key : String} {f : Nat → Setting}
    (named : key ∈ Setting.keys)
    (reads : ∀ value, Setting.ofPair key.toList value = (Setting.positive key.toList value).map f)
    (sets : ∀ (d : Draft) n, part (d.apply (f n)) = n)
    (others : ∀ (d : Draft) (s : Setting), s.key? ≠ some key → part (d.apply s) = part d) :
    DecidedBy part key CountsTo where
  named := named
  own d value s h := by
    obtain ⟨n, read, rfl⟩ := Setting.map_eq_ok.1 (reads value ▸ h)
    obtain ⟨w, word, least, rfl⟩ := Setting.positive_eq_ok.1 read
    exact ⟨w, word, least, sets d w.toNat⟩
  others := others

theorem DecidedBy.number {part : Draft → UInt32} {key : String} {f : UInt32 → Setting}
    (named : key ∈ Setting.keys)
    (reads : ∀ value, Setting.ofPair key.toList value = (Setting.number key.toList value).map f)
    (sets : ∀ (d : Draft) n, part (d.apply (f n)) = n)
    (others : ∀ (d : Draft) (s : Setting), s.key? ≠ some key → part (d.apply s) = part d) :
    DecidedBy part key Text.Writes where
  named := named
  own d value s h := by
    obtain ⟨n, read, rfl⟩ := Setting.map_eq_ok.1 (reads value ▸ h)
    rw [sets]
    exact Setting.number_eq_ok.1 read
  others := others

theorem queueDepth_decided : DecidedBy (·.config.queueDepth) "queue" CountsTo :=
  .positive (by decide) (fun _ => rfl) (fun _ _ => rfl) fun d s other => by
    cases s <;> first | rfl | exact absurd rfl other

theorem readChunk_decided : DecidedBy (·.config.readChunk) "chunk" CountsTo :=
  .positive (by decide) (fun _ => rfl) (fun _ _ => rfl) fun d s other => by
    cases s <;> first | rfl | exact absurd rfl other

theorem retries_decided :
    DecidedBy (·.config.retry.retries) "retries" Text.Writes :=
  .number (by decide) (fun _ => rfl) (fun _ _ => rfl) fun d s other => by
    cases s <;> first | rfl | exact absurd rfl other

theorem delay_decided :
    DecidedBy (·.config.retry.delay) "retry_delay" Text.Writes :=
  .number (by decide) (fun _ => rfl) (fun _ _ => rfl) fun d s other => by
    cases s <;> first | rfl | exact absurd rfl other

theorem priority_decided : DecidedBy (·.config.priority) "priority" Text.Writes :=
  .number (by decide) (fun _ => rfl) (fun _ _ => rfl) fun d s other => by
    cases s <;> first | rfl | exact absurd rfl other

theorem calibrationAddress_decided :
    DecidedBy (·.calibrationAddress) "cal_addr" Text.Writes :=
  .number (by decide) (fun _ => rfl) (fun _ _ => rfl) fun d s other => by
    cases s <;> first | rfl | exact absurd rfl other

theorem submode_decided : DecidedBy (·.submode) "fast_read" NamesSome where
  named := by decide
  own d value s h := by
    obtain ⟨m, read, rfl⟩ := Setting.map_eq_ok.1 h
    exact ⟨m, rfl, Setting.submode_eq_ok.1 read⟩
  others d s other := by cases s <;> first | rfl | exact absurd rfl other

end Draft

/-- A draft that settings make of the empty one is described by them when it is finished. -/
theorem Draft.Makes.describes {d : Draft} {settings : List (List Char)}
    (makes : Draft.Makes {} settings d) : d.finish.Describes settings where
  queueDepth := makes.decided queueDepth_decided
  readChunk := makes.decided readChunk_decided
  retries := makes.decided retries_decided
  delay := makes.decided delay_decided
  priority := makes.decided priority_decided
  fastRead := ⟨d.submode, d.calibrationAddress, makes.decided submode_decided,
    makes.decided calibrationAddress_decided, rfl⟩

/-! ## What decides a configuration -/

/-- The settings of one list in another order, those of each key in their own. -/
structure Reorders (a b : List (List Char)) : Prop where
  perm : a.Perm b
  kept : ∀ key, '=' ∉ key → a.filter (HasKey key) = b.filter (HasKey key)

theorem Reorders.lastWith? {a b : List (List Char)} (h : Reorders a b) {key : String}
    (named : key ∈ Setting.keys) : lastWith? key a = lastWith? key b := by
  rw [Config.lastWith?, Config.lastWith?, h.kept _ (Setting.not_mem_key named)]

/-- A field is decided by the last setting of its key. -/
theorem Holds.unique {α : Type} {a b : List (List Char)} {key : String}
    {Reads : List Char → α → Prop} {default x y : α} (same : lastWith? key a = lastWith? key b)
    (hx : Holds a key Reads default x) (hy : Holds b key Reads default y)
    (functional : ∀ v x y, Reads v x → Reads v y → x = y) : x = y := by
  unfold Holds at hx hy
  rw [same] at hx
  obtain ⟨v, last, reads⟩ | ⟨none, rfl⟩ := hx <;> obtain ⟨v', last', reads'⟩ | ⟨none', rfl⟩ := hy
  · rw [last, Option.some.injEq, List.append_cancel_left_eq, List.cons.injEq] at last'
    obtain ⟨-, rfl⟩ := last'
    exact functional _ _ _ reads reads'
  · cases last.symm.trans none'
  · cases none.symm.trans last'
  · rfl

theorem CountsTo.unique {value : List Char} {m n : Nat} (hm : CountsTo value m)
    (hn : CountsTo value n) : m = n := by
  obtain ⟨w, read, -, rfl⟩ := hm
  obtain ⟨w', read', -, rfl⟩ := hn
  rw [read.unique read']

theorem NamesSome.unique {value : List Char} {a b : Option Submode} (ha : NamesSome value a)
    (hb : NamesSome value b) : a = b := by
  obtain ⟨m, rfl, named⟩ := ha
  obtain ⟨m', rfl, named'⟩ := hb
  rw [← Setting.submode_eq_ok] at named named'
  rw [Except.ok.inj (named.symm.trans named')]

/-- Settings describe one configuration, in each order of their keys. -/
theorem Describes.unique {a b : List (List Char)} {c c' : Config} (order : Reorders a b)
    (h : c.Describes a) (h' : c'.Describes b) : c = c' := by
  have last (key : String) (named : key ∈ Setting.keys) := order.lastWith? named
  obtain ⟨queueDepth, readChunk, ⟨retries, delay⟩, priority, fastRead⟩ := c
  obtain ⟨queueDepth', readChunk', ⟨retries', delay'⟩, priority', fastRead'⟩ := c'
  obtain ⟨m, address, mode, addressed, rfl⟩ := h.fastRead
  obtain ⟨m', address', mode', addressed', rfl⟩ := h'.fastRead
  obtain rfl : queueDepth = queueDepth' :=
    Holds.unique (last "queue" (by decide)) h.queueDepth h'.queueDepth fun _ _ _ => CountsTo.unique
  obtain rfl : readChunk = readChunk' :=
    Holds.unique (last "chunk" (by decide)) h.readChunk h'.readChunk fun _ _ _ => CountsTo.unique
  obtain rfl : retries = retries' :=
    Holds.unique (last "retries" (by decide)) h.retries h'.retries fun _ _ _ => Text.Writes.unique
  obtain rfl : delay = delay' :=
    Holds.unique (last "retry_delay" (by decide)) h.delay h'.delay fun _ _ _ => Text.Writes.unique
  obtain rfl : priority = priority' :=
    Holds.unique (last "priority" (by decide)) h.priority h'.priority
      fun _ _ _ => Text.Writes.unique
  obtain rfl : m = m' :=
    Holds.unique (last "fast_read" (by decide)) mode mode' fun _ _ _ => NamesSome.unique
  obtain rfl : address = address' :=
    Holds.unique (last "cal_addr" (by decide)) addressed addressed' fun _ _ _ => Text.Writes.unique
  rfl

theorem Holds.bounds {settings : List (List Char)} {key : String} {default n : Nat}
    (h : Holds settings key CountsTo default n) (low : 1 ≤ default) (high : default < UInt32.size) :
    1 ≤ n ∧ n < UInt32.size := by
  obtain ⟨v, -, w, -, least, rfl⟩ | ⟨-, rfl⟩ := h
  · exact ⟨UInt32.le_iff_toNat_le.1 least, w.toNat_lt_size⟩
  · exact ⟨low, high⟩

theorem Describes.isSome_fastRead {c : Config} {settings : List (List Char)}
    (h : c.Describes settings) :
    c.fastRead.isSome ↔ ∃ s ∈ settings, HasKey "fast_read".toList s := by
  obtain ⟨m, address, mode, -, same⟩ := h.fastRead
  rw [same, Option.isSome_map]
  obtain ⟨v, last, k, rfl, -⟩ | ⟨none, rfl⟩ := mode
  · obtain ⟨member, has⟩ := List.mem_filter.1 (List.mem_of_getLast? last)
    exact iff_of_true rfl ⟨_, member, of_decide_eq_true has⟩
  · have nowhere := List.filter_eq_nil_iff.1 (List.getLast?_eq_none_iff.1 none)
    refine iff_of_false (by simp) ?_
    rintro ⟨s, member, has⟩
    exact nowhere s member (decide_eq_true has)

/-! ## The whole text -/

/-- The settings of a text: the pieces between its commas, each without the blanks at its two ends,
and those that are empty left out. -/
def Segmented (text : List Char) (settings : List (List Char)) : Prop :=
  ∃ pieces trimmed, pieces ≠ [] ∧ [','].intercalate pieces = text ∧ (∀ p ∈ pieces, ',' ∉ p) ∧
    List.Forall₂ Text.Trims pieces trimmed ∧ settings = trimmed.filter (· ≠ [])

theorem segmented_segments (text : List Char) : Segmented text (segments text) := by
  refine ⟨Text.splitOn ',' text, (Text.splitOn ',' text).map Text.trim, ?_, ?_,
    fun p => Text.not_mem_of_mem_splitOn, ?_, rfl⟩
  · rw [Text.splitOn_eq]
    exact List.splitOn_ne_nil ',' text
  · rw [Text.splitOn_eq]
    exact List.intercalate_splitOn ','
  · rw [List.forall₂_map_right_iff, List.forall₂_same]
    exact fun piece _ => Text.trims_trim piece

/-- Either all settings are accepted, or one is the first that is not. -/
theorem accepted_or_first (settings : List (List Char)) : (∀ s ∈ settings, Accepted s) ∨
    ∃ before s after e, settings = before ++ s :: after ∧ (∀ b ∈ before, Accepted b) ∧
      Offends s e := by
  induction settings with
  | nil => exact .inl fun s h => absurd h List.not_mem_nil
  | cons s rest ih =>
    cases read : Setting.parse s with
    | error e =>
      exact .inr ⟨[], s, rest, e, rfl, fun b h => absurd h List.not_mem_nil,
        Setting.parse_error_iff.1 read⟩
    | ok x =>
      have accepted : Accepted s := Setting.parse_ok_iff.1 ⟨x, read⟩
      obtain all | ⟨before, t, after, e, rfl, all, offends⟩ := ih
      · exact .inl (List.forall_mem_cons.2 ⟨accepted, all⟩)
      · exact .inr ⟨s :: before, t, after, e, rfl, List.forall_mem_cons.2 ⟨accepted, all⟩, offends⟩

theorem ofText_accepted {text : String} (all : ∀ s ∈ segments text.toList, Accepted s) :
    ∃ c, c.Describes (segments text.toList) ∧
      ofText text = (.ok c, warnings (segments text.toList)) := by
  obtain ⟨d, makes⟩ := Draft.exists_makes {} all
  have onward := makes.onward []
  rw [List.append_nil] at onward
  refine ⟨d.finish, makes.describes, ?_⟩
  rw [ofText, onward]
  simp only [applyAll, List.append_nil]
  rfl

theorem ofText_offends {text : String} {before after : List (List Char)} {s : List Char}
    {e : ParameterError} (cut : segments text.toList = before ++ s :: after)
    (all : ∀ b ∈ before, Accepted b) (offends : Offends s e) :
    ofText text = (.error e, warnings before) := by
  obtain ⟨d, makes⟩ := Draft.exists_makes {} all
  rw [ofText, cut, makes.onward, Draft.applyAll_offends offends, List.append_nil]
  rfl

/-- A text is read with all its settings accepted, or as far as the first one that offends. -/
theorem ofText_cases (text : String) :
    (∃ c, (∀ s ∈ segments text.toList, Accepted s) ∧ c.Describes (segments text.toList) ∧
      ofText text = (.ok c, warnings (segments text.toList))) ∨
    ∃ before s after e, segments text.toList = before ++ s :: after ∧ (∀ b ∈ before, Accepted b) ∧
      Offends s e ∧ ofText text = (.error e, warnings before) := by
  obtain all | ⟨before, s, after, e, cut, all, offends⟩ :=
    accepted_or_first (segments text.toList)
  · obtain ⟨c, describes, read⟩ := ofText_accepted all
    exact .inl ⟨c, all, describes, read⟩
  · exact .inr ⟨before, s, after, e, cut, all, offends, ofText_offends cut all offends⟩

theorem describes_of_ofText {text : String} {c : Config} (h : (ofText text).1 = .ok c) :
    (∀ s ∈ segments text.toList, Accepted s) ∧ c.Describes (segments text.toList) := by
  obtain ⟨c', all, describes, read⟩ | ⟨before, s, after, e, -, -, -, read⟩ := ofText_cases text
  · rw [read] at h
    exact ⟨all, Except.ok.inj h ▸ describes⟩
  · rw [read] at h
    cases h

/-- What reading a parameter text comes to. -/
structure Understood (text : String) : Prop where
  segmented : Segmented text.toList (segments text.toList)
  accepted : (∃ c, (ofText text).1 = .ok c) ↔ ∀ s ∈ segments text.toList, Accepted s
  described : ∀ c, (ofText text).1 = .ok c → c.Describes (segments text.toList)
  enabled : ∀ c, (ofText text).1 = .ok c →
    (c.fastRead.isSome ↔ ∃ s ∈ segments text.toList, HasKey "fast_read".toList s)
  bounded : ∀ c, (ofText text).1 = .ok c → (1 ≤ c.queueDepth ∧ c.queueDepth < UInt32.size) ∧
    1 ≤ c.readChunk ∧ c.readChunk < UInt32.size
  reordered : ∀ other : String, Reorders (segments text.toList) (segments other.toList) →
    ∀ c, (ofText text).1 = .ok c → (ofText other).1 = .ok c
  /-- The first setting that offends decides the error, whatever comes after it. -/
  rejected : ∀ e, (ofText text).1 = .error e ↔
    ∃ before s after, segments text.toList = before ++ s :: after ∧
      (∀ b ∈ before, Accepted b) ∧ Offends s e
  /-- The settings that are reached leave the log lines. -/
  logged : ∃ reached rest, segments text.toList = reached ++ rest ∧
    (∀ s ∈ reached, Accepted s) ∧ (∀ s ∈ rest.head?, ¬ Accepted s) ∧
    (ofText text).2 = warnings reached

/-- A parameter text is accepted exactly when each of its settings is; its configuration has in
each field what the last setting of the field's key says, or the default; otherwise the first
setting that offends decides the error. The settings on the way whose key has no meaning leave one
warning each. -/
theorem reads_parameters (text : String) : Understood text where
  segmented := segmented_segments text.toList
  accepted := by
    refine ⟨fun ⟨c, h⟩ => (describes_of_ofText h).1, fun all => ?_⟩
    obtain ⟨c, -, read⟩ := ofText_accepted all
    exact ⟨c, by rw [read]⟩
  described c h := (describes_of_ofText h).2
  enabled c h := (describes_of_ofText h).2.isSome_fastRead
  bounded c h :=
    have describes := (describes_of_ofText h).2
    ⟨describes.queueDepth.bounds (by decide) (by decide),
      describes.readChunk.bounds (by decide) (by decide)⟩
  reordered other order c h := by
    obtain ⟨all, describes⟩ := describes_of_ofText h
    obtain ⟨c', describes', read⟩ :=
      ofText_accepted fun s member => all s (order.perm.mem_iff.2 member)
    rw [read, describes.unique order describes']
  rejected e := by
    constructor
    · intro h
      obtain ⟨c, -, -, read⟩ | ⟨before, s, after, e', cut, all, offends, read⟩ := ofText_cases text
      · rw [read] at h
        cases h
      · rw [read] at h
        obtain rfl := Except.error.inj h
        exact ⟨before, s, after, cut, all, offends⟩
    · rintro ⟨before, s, after, cut, all, offends⟩
      rw [ofText_offends cut all offends]
  logged := by
    obtain ⟨c, all, -, read⟩ | ⟨before, s, after, e, cut, all, offends, read⟩ := ofText_cases text
    · exact ⟨segments text.toList, [], (List.append_nil _).symm, all, by simp, by rw [read]⟩
    · refine ⟨before, s :: after, cut, all, ?_, by rw [read]⟩
      rintro _ ⟨⟩
      exact offends.not_accepted

/-- The address of a calibration pattern may stand in front of the submode. -/
example : (ofText " cal_addr=0x10 ,, colour=red,fast_read=raw,queue=3,queue=0X4").1 =
    .ok { queueDepth := 4, fastRead := some ⟨.raw, 0x10⟩ } := by
  decide +kernel

/-- A later setting of the same key does not mend one that offends. -/
example : ofText "colour=a=b,queue=0,queue=2" =
    (.error (.zero "queue"), [.warn "Unknown arbiter option: colour=a=b"]) := by
  decide +kernel

end Config

end FlashGate
