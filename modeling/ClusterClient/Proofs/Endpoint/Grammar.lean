import ClusterClient.Error
import ClusterClient.Proofs.Endpoint
import Mathlib

namespace ClusterClient

namespace Text

variable {cs t ds before after : List Char} {n : Nat}

-- What is left of a text without the white space around it.
structure Trims (cs t : List Char) : Prop where
  between : ∃ before after, cs = before ++ (t ++ after) ∧ (∀ c ∈ before, isBlank c) ∧ ∀ c ∈ after, isBlank c
  starts  : ∀ c ∈ t.head?, ¬isBlank c
  ends    : ∀ c ∈ t.getLast?, ¬isBlank c

theorem trimStart_append (h : ∀ c ∈ before, isBlank c) : trimStart (before ++ cs) = trimStart cs :=
  List.dropWhile_append_of_pos h

theorem trimEnd_append (h : ∀ c ∈ after, isBlank c) : trimEnd (cs ++ after) = trimEnd cs := by
  have hr : ∀ c ∈ after.reverse, isBlank c := fun c hc => h c (List.mem_reverse.mp hc)
  rw [trimEnd, List.reverse_append, List.dropWhile_append_of_pos hr, trimEnd]

theorem trimStart_eq_nil (h : ∀ c ∈ cs, isBlank c) : trimStart cs = [] :=
  List.dropWhile_eq_nil_iff.mpr h

theorem Trims.eq_trim (h : Trims cs t) : t = trim cs := by
  obtain ⟨before, after, rfl, hb, ha⟩ := h.between
  rw [trim, trimStart_append hb]
  cases t
  case nil => rw [List.nil_append, trimStart_eq_nil ha]; rfl
  case cons c t =>
    have hc : ¬isBlank c := h.starts c rfl
    have hs (rest : List Char) : trimStart (c :: rest) = c :: rest := List.dropWhile_cons_of_neg hc
    have ht : trim (c :: t) = c :: t := trim_eq_self h.starts h.ends
    rw [trim, hs] at ht
    rw [List.cons_append, hs, ← List.cons_append, trimEnd_append ha, ht]

theorem trims_trim (cs : List Char) : Trims cs (trim cs) where
  between := by
    refine ⟨cs.takeWhile isBlank, (trimStart cs).rtakeWhile isBlank, ?_, fun _ => List.mem_takeWhile_imp,
      fun _ => List.mem_rtakeWhile_imp⟩
    have hr : trim cs ++ (trimStart cs).rtakeWhile isBlank = trimStart cs := List.rdropWhile_append_rtakeWhile ..
    rw [hr]
    exact List.takeWhile_append_dropWhile.symm
  starts c hc := by
    obtain ⟨rest, hr⟩ := List.head?_eq_some_iff.mp hc
    exact not_isBlank_of_trim hr
  ends c hc := by
    obtain ⟨hn, rfl⟩ := List.mem_getLast?_eq_getLast hc
    exact List.rdropWhile_last_not isBlank (trimStart cs) hn

theorem trims_iff : Trims cs t ↔ t = trim cs :=
  ⟨Trims.eq_trim, fun h => h ▸ trims_trim cs⟩

-- The number that digits spell, each of them counted by its place.
def value (ds : List Char) : Nat :=
  Nat.ofDigits 10 (ds.reverse.map fun c => c.toNat - '0'.toNat)

theorem ofDigitChars_eq_value (ds : List Char) : Nat.ofDigitChars 10 ds 0 = value ds := by
  induction ds using List.reverseRecOn
  case nil => rfl
  case append_singleton ds c hi =>
    rw [Nat.ofDigitChars_append, hi, Nat.ofDigitChars_cons, Nat.ofDigitChars_nil, value, value, List.reverse_concat,
      List.map_cons, Nat.ofDigits_cons, Nat.add_comm]

-- One digit or more that spell a number.
structure Digits (ds : List Char) (n : Nat) : Prop where
  ne_nil   : ds ≠ []
  isDigit  : ∀ c ∈ ds, c.isDigit
  value_eq : value ds = n

inductive Numeral : List Char → Nat → Prop
  | plain {ds : List Char} {n : Nat} (h : Digits ds n) : Numeral ds n
  | plus {ds : List Char} {n : Nat} (h : Digits ds n) : Numeral ('+' :: ds) n

theorem number?_eq_some_iff : number? ds = some n ↔ Digits ds n := by
  simp only [number?, Option.ite_none_right_eq_some, Option.some.injEq, ofDigitChars_eq_value, List.all_eq_true]
  constructor
  case mp =>
    rintro ⟨⟨hn, hd⟩, hv⟩
    exact ⟨hn, hd, hv⟩
  case mpr => exact fun h => ⟨⟨h.ne_nil, h.isDigit⟩, h.value_eq⟩

theorem Digits.not_mem {c : Char} (h : Digits ds n) (hc : ¬c.isDigit) : c ∉ ds :=
  fun hm => hc (h.isDigit c hm)

theorem numeral_iff : Numeral cs n ↔ number? (dropPlus cs) = some n := by
  rw [number?_eq_some_iff]
  constructor
  case mp =>
    rintro (h | h)
    case plain => rwa [dropPlus_eq_self (h.not_mem (by decide))]
    case plus  => exact h
  case mpr =>
    intro h
    simp only [dropPlus] at h
    split at h
    case h_1 => exact .plus h
    case h_2 => exact .plain h

end Text

namespace Endpoint

variable {cs t : List Char} {s : String} {port : UInt16} {r : Except WireError Endpoint}

theorem port?_eq_some_iff : port? cs = some port ↔ Text.Numeral cs port.toNat := by
  rw [Text.numeral_iff]
  simp only [port?, Option.map_eq_some_iff, Option.filter_eq_some_iff, decide_eq_true_eq]
  constructor
  case mp =>
    rintro ⟨n, ⟨hn, hl⟩, rfl⟩
    rwa [UInt16.toNat_ofNat_of_lt' hl]
  case mpr => exact fun h => ⟨port.toNat, ⟨h, port.toNat_lt⟩, port.ofNat_toNat⟩

-- What a text is read as when `t` is left of it. Only the errors quote the text as it was.
inductive Reading (s : String) : List Char → Except WireError Endpoint → Prop
  | endpoint {host digits : List Char} {port : UInt16} (hh : host ≠ []) (hc : ':' ∉ digits)
      (hp : Text.Numeral digits port.toNat) :
    Reading s (host ++ ':' :: digits) (.ok ⟨String.ofList host, port⟩)
  | missingPort {t : List Char} (hc : ':' ∉ t) :
    Reading s t (.error (.invalidFormat s!"missing port in '{s}'"))
  | missingHost {digits : List Char} (hc : ':' ∉ digits) :
    Reading s (':' :: digits) (.error (.invalidFormat s!"missing host in '{s}'"))
  | invalidPort {host digits : List Char} (hh : host ≠ []) (hc : ':' ∉ digits)
      (hp : ∀ port : UInt16, ¬Text.Numeral digits port.toNat) :
    Reading s (host ++ ':' :: digits) (.error (.invalidFormat s!"invalid port in '{s}'"))

theorem parse_of_reading (h : Reading s (Text.trim s.toList) r) : (parse s).mapError Fault.toError = r := by
  generalize ht : Text.trim s.toList = t at h
  cases h
  case endpoint host digits port hh hc hp =>
    have hs := splitLastColon?_eq_some_iff.mpr ⟨ht, hc⟩
    have he : parse s = .ok ⟨String.ofList host, port⟩ := by
      rw [parse_eq_ok_iff, String.toList_ofList, ← String.toList_inj.ne, String.toList_ofList]
      exact ⟨digits, hs, hh, port?_eq_some_iff.mpr hp⟩
    rw [he]
    rfl
  case missingPort hc =>
    have hs := splitLastColon?_eq_none_iff.mpr hc
    simp only [parse, ht, hs]
    rfl
  case missingHost digits hc =>
    have hs := splitLastColon?_eq_some_iff.mpr ⟨ht.trans (List.nil_append _).symm, hc⟩
    simp only [parse, hs]
    rfl
  case invalidPort host digits hh hc hp =>
    have hs := splitLastColon?_eq_some_iff.mpr ⟨ht, hc⟩
    have hn : port? digits = none := Option.eq_none_iff_forall_ne_some.mpr fun _ h => hp _ (port?_eq_some_iff.mp h)
    obtain ⟨c, cs, rfl⟩ := List.exists_cons_of_ne_nil hh
    simp only [parse, hs, hn]
    rfl

-- Whatever is left of a text, there is a reading of it.
theorem exists_reading (s : String) (t : List Char) : ∃ r, Reading s t r := by
  rcases h : splitLastColon? t with _ | ⟨host, digits⟩
  case none => exact ⟨_, .missingPort (splitLastColon?_eq_none_iff.mp h)⟩
  case some =>
    obtain ⟨rfl, hc⟩ := splitLastColon?_eq_some_iff.mp h
    by_cases hh : host = []
    case pos =>
      subst hh
      exact ⟨_, .missingHost hc⟩
    case neg =>
      by_cases hp : ∃ port : UInt16, Text.Numeral digits port.toNat
      case pos =>
        obtain ⟨_, hp⟩ := hp
        exact ⟨_, .endpoint hh hc hp⟩
      case neg => exact ⟨_, .invalidPort hh hc (not_exists.mp hp)⟩

-- A text is read as the grammar says, and in no other way.
theorem parse_grammar (s : String) (r : Except WireError Endpoint) :
    (parse s).mapError Fault.toError = r ↔ ∃ t, Text.Trims s.toList t ∧ Reading s t r := by
  simp only [Text.trims_iff, exists_eq_left]
  constructor
  case mpr => exact parse_of_reading
  case mp =>
    rintro rfl
    obtain ⟨r, h⟩ := exists_reading s (Text.trim s.toList)
    rwa [parse_of_reading h]

-- Zeros in front do not make a port too large, and the last colon decides.
example : parse " ::+0065535 " = .ok ⟨":", 65535⟩ ∧ parse "a:65536" = .error (.invalidPort "a:65536") := by decide

end Endpoint

end ClusterClient
