import ClusterClient.Endpoint
import Mathlib

namespace ClusterClient

namespace Text

variable {cs rest : List Char} {c : Char} {n : Nat}

theorem not_isBlank_of_isDigit (h : c.isDigit) : ¬isBlank c := by
  have ⟨hl, hu⟩ := Char.isDigit_iff_toNat.mp h
  simp only [Char.reduceToNat] at hl hu
  simp only [isBlank, Bool.or_eq_true, Bool.and_eq_true, decide_eq_true_eq, beq_iff_eq]
  omega

-- What is left of a text starts with no white space.
theorem not_isBlank_of_trim (h : trim cs = c :: rest) : ¬isBlank c := by
  have hp : trim cs <+: cs.dropWhile isBlank := List.rdropWhile_prefix isBlank _
  obtain ⟨_, hr⟩ := h ▸ hp
  have hn := cs.head?_dropWhile_not isBlank
  rw [← hr] at hn
  simpa using hn

theorem trim_eq_self (hs : ∀ c ∈ cs.head?, ¬isBlank c) (he : ∀ c ∈ cs.getLast?, ¬isBlank c) : trim cs = cs := by
  have hd : trimStart cs = cs := by
    cases cs <;> simp_all [trimStart]
  have hr : cs.rdropWhile isBlank = cs :=
    List.rdropWhile_eq_self_iff.mpr fun hn => he _ (List.getLast_mem_getLast? hn)
  rw [trim, hd]
  exact hr

theorem isDigit_of_mem_toDigits (hm : c ∈ Nat.toDigits 10 n) : c.isDigit :=
  Nat.isDigit_of_mem_toDigits (by decide) (by decide) hm

theorem not_mem_toDigits (h : ¬c.isDigit) : c ∉ Nat.toDigits 10 n :=
  fun hm => h (isDigit_of_mem_toDigits hm)

theorem number?_toDigits : number? (Nat.toDigits 10 n) = some n := by
  have hd : (Nat.toDigits 10 n).all Char.isDigit := List.all_eq_true.mpr fun _ => isDigit_of_mem_toDigits
  rw [number?, if_pos ⟨Nat.toDigits_ne_nil, hd⟩, Nat.ofDigitChars_ten_toDigits]

theorem dropPlus_eq_self (h : '+' ∉ cs) : dropPlus cs = cs := by
  cases cs
  case nil => rfl
  case cons c cs =>
    have hc : c ≠ '+' := fun he => h (he ▸ List.mem_cons_self)
    simp [dropPlus, hc]

end Text

namespace Endpoint

variable {cs host digits : List Char} {e : Endpoint} {s : String} {port : UInt16}

theorem splitLastColon?_eq_none_iff : splitLastColon? cs = none ↔ ':' ∉ cs := by
  induction cs
  case nil => simp [splitLastColon?]
  case cons c cs hi =>
    simp only [splitLastColon?]
    grind

theorem splitLastColon?_eq_some_iff :
    splitLastColon? cs = some (host, digits) ↔ cs = host ++ ':' :: digits ∧ ':' ∉ digits := by
  induction cs generalizing host
  case nil => simp [splitLastColon?]
  case cons c cs hi =>
    simp only [splitLastColon?]
    -- Either this colon is the last one, or the host starts with the first character of the text.
    cases host
    case nil => split <;> grind [splitLastColon?_eq_none_iff]
    case cons x host =>
      specialize @hi host
      split <;> grind

theorem toList_render (e : Endpoint) : e.render.toList = e.host.toList ++ ':' :: Nat.toDigits 10 e.port.toNat := by
  simp [render, toString]

theorem port?_toDigits (port : UInt16) : port? (Nat.toDigits 10 port.toNat) = some port := by
  have hp : Text.dropPlus (Nat.toDigits 10 port.toNat) = _ := Text.dropPlus_eq_self (Text.not_mem_toDigits (by decide))
  have hl : port.toNat < 65536 := port.toNat_lt
  simp [port?, hp, Text.number?_toDigits, Option.filter, hl]

theorem parse_eq_ok_iff :
    parse s = .ok e ↔
      ∃ digits, splitLastColon? (Text.trim s.toList) = some (e.host.toList, digits) ∧ e.host ≠ "" ∧
        port? digits = some e.port := by
  have ⟨host, port⟩ := e
  rw [← String.toList_inj.ne]
  rcases h : splitLastColon? (Text.trim s.toList) with _ | ⟨_ | ⟨c, cs⟩, digits⟩ <;> simp only [parse, h]
  case none      => simp
  case some.nil  => grind [String.toList_empty]
  case some.cons => cases hp : port? digits <;> grind [String.toList_ofList, String.ofList_toList]

-- A host that was read is not empty, and the white space before it has been taken off.
theorem host_of_parse (h : parse s = .ok e) : e.host ≠ "" ∧ ∀ c ∈ e.host.toList.head?, ¬Text.isBlank c := by
  have ⟨digits, hs, hn, _⟩ := parse_eq_ok_iff.mp h
  have ⟨ht, _⟩ := splitLastColon?_eq_some_iff.mp hs
  refine ⟨hn, fun c hc => ?_⟩
  obtain ⟨rest, hr⟩ := List.head?_eq_some_iff.mp hc
  rw [hr] at ht
  exact Text.not_isBlank_of_trim ht

theorem trim_render (hn : e.host ≠ "") (hs : ∀ c ∈ e.host.toList.head?, ¬Text.isBlank c) :
    Text.trim e.render.toList = e.render.toList := by
  rw [toList_render]
  have hd : Nat.toDigits 10 e.port.toNat ≠ [] := Nat.toDigits_ne_nil
  apply Text.trim_eq_self
  case hs =>
    obtain ⟨c, cs, hc⟩ := List.exists_cons_of_ne_nil (String.toList_eq_nil_iff.not.mpr hn)
    simpa [hc] using hs
  case he =>
    intro c hc
    rw [List.getLast?_append_cons, List.getLast?_cons_of_ne_nil hd] at hc
    exact Text.not_isBlank_of_isDigit (Text.isDigit_of_mem_toDigits (List.mem_of_getLast? hc))

theorem parse_render (hn : e.host ≠ "") (hs : ∀ c ∈ e.host.toList.head?, ¬Text.isBlank c) : parse e.render = .ok e := by
  refine parse_eq_ok_iff.mpr ⟨Nat.toDigits 10 e.port.toNat, ?_, hn, port?_toDigits e.port⟩
  rw [trim_render hn hs, splitLastColon?_eq_some_iff]
  exact ⟨toList_render e, Text.not_mem_toDigits (by decide)⟩

-- Writing an endpoint and reading it gives it back if its host has a first character that is no white space. These are
-- the endpoints that can be read at all, so that what has been read once is always read the same.
theorem parse_render_iff (e : Endpoint) :
    (parse e.render = .ok e ↔ e.host ≠ "" ∧ ∀ c ∈ e.host.toList.head?, ¬Text.isBlank c) ∧
    ∀ s, parse s = .ok e → parse e.render = .ok e := by
  refine ⟨⟨host_of_parse, fun ⟨hn, hs⟩ => parse_render hn hs⟩, fun s h => ?_⟩
  have ⟨hn, hs⟩ := host_of_parse h
  exact parse_render hn hs

-- The host has a colon, and white space at its end.
theorem parse_render_iff_spaced :
    parse " a: b :+007\n" = .ok ⟨"a: b ", 7⟩ ∧ (⟨"a: b ", 7⟩ : Endpoint).render = "a: b :7" ∧
      parse "a: b :7" = .ok ⟨"a: b ", 7⟩ := by
  have h : parse " a: b :+007\n" = .ok ⟨"a: b ", 7⟩ := by decide
  have ⟨_, normal⟩ := parse_render_iff ⟨"a: b ", 7⟩
  exact ⟨h, by decide, normal _ h⟩

end Endpoint

end ClusterClient
