import ClusterClient.Text.Utf8
import Mathlib

namespace ClusterClient.Utf8

-- The bytes of one character.
inductive Character : List UInt8 → Prop
  | ascii {b : UInt8} (h : b < 0x80) : Character [b]
  | multibyte {b : UInt8} {ranges : List (UInt8 × UInt8)} {tail : List UInt8} (h : followers b = some ranges)
    (ht : List.Forall₂ (fun range t => range.1 ≤ t ∧ t ≤ range.2) ranges tail) : Character (b :: tail)

inductive WellFormed : List UInt8 → Prop
  | nil : WellFormed []
  | append {char rest : List UInt8} (h : Character char) (hr : WellFormed rest) : WellFormed (char ++ rest)

-- The number of a character in groups of six bits, behind a first byte that tells how many bytes there are.
inductive Spells (n : Nat) : List UInt8 → Prop
  | one {b : UInt8} (hb : b.toNat = n) (hi : n < 0x80) : Spells n [b]
  | two {b t : UInt8} (hb : b.toNat = n / 64 + 0xC0) (ht : t.toNat = n % 64 + 0x80) (lo : 0x80 ≤ n) (hi : n < 0x800) :
    Spells n [b, t]
  | three {b t u : UInt8} (hb : b.toNat = n / 4096 + 0xE0) (ht : t.toNat = n / 64 % 64 + 0x80)
    (hu : u.toNat = n % 64 + 0x80) (lo : 0x800 ≤ n) (hi : n < 0x10000) : Spells n [b, t, u]
  | four {b t u v : UInt8} (hb : b.toNat = n / 262144 + 0xF0) (ht : t.toNat = n / 4096 % 64 + 0x80)
    (hu : u.toNat = n / 64 % 64 + 0x80) (hv : v.toNat = n % 64 + 0x80) (lo : 0x10000 ≤ n) (hi : n < 0x110000) :
    Spells n [b, t, u, v]

section

variable {b t u v : UInt8} {n : Nat} {bytes bytes' : List UInt8}

theorem followers_eq_some_iff {ranges : List (UInt8 × UInt8)} :
    followers b = some ranges ↔
      0xC2 ≤ b.toNat ∧ b.toNat ≤ 0xDF ∧ ranges = [(0x80, 0xBF)] ∨
      b.toNat = 0xE0 ∧ ranges = [(0xA0, 0xBF), (0x80, 0xBF)] ∨
      b.toNat = 0xED ∧ ranges = [(0x80, 0x9F), (0x80, 0xBF)] ∨
      0xE1 ≤ b.toNat ∧ b.toNat ≤ 0xEF ∧ b.toNat ≠ 0xED ∧ ranges = [(0x80, 0xBF), (0x80, 0xBF)] ∨
      b.toNat = 0xF0 ∧ ranges = [(0x90, 0xBF), (0x80, 0xBF), (0x80, 0xBF)] ∨
      0xF1 ≤ b.toNat ∧ b.toNat ≤ 0xF3 ∧ ranges = [(0x80, 0xBF), (0x80, 0xBF), (0x80, 0xBF)] ∨
      b.toNat = 0xF4 ∧ ranges = [(0x80, 0x8F), (0x80, 0xBF), (0x80, 0xBF)] := by
  simp only [followers, UInt8.le_iff_toNat_le, ← UInt8.toNat_inj, UInt8.reduceToNat]
  split_ifs <;> simp only [Option.some.injEq, false_iff, eq_comm (a := ranges)] <;> grind

namespace Character

theorem cons_iff {tail : List UInt8} :
    Character (b :: tail) ↔
      b.toNat < 0x80 ∧ tail = [] ∨
        ∃ ranges, followers b = some ranges ∧
          List.Forall₂ (fun range t => range.1.toNat ≤ t.toNat ∧ t.toNat ≤ range.2.toNat) ranges tail where
  mp
    | ascii h        => .inl ⟨h, rfl⟩
    | multibyte h ht => .inr ⟨_, h, ht⟩
  mpr
    | .inl ⟨h, ht⟩    => ht ▸ ascii h
    | .inr ⟨_, h, ht⟩ => multibyte h ht

theorem one_iff : Character [b] ↔ b.toNat < 0x80 := by
  simp [cons_iff, followers_eq_some_iff]

theorem two_iff : Character [b, t] ↔ 0xC2 ≤ b.toNat ∧ b.toNat ≤ 0xDF ∧ 0x80 ≤ t.toNat ∧ t.toNat ≤ 0xBF := by
  simp [cons_iff, followers_eq_some_iff, or_and_right, exists_or, and_assoc]

-- After 0xE0, two bytes might have been enough, and after 0xED the number might be that of a surrogate.
theorem three_iff :
    Character [b, t, u] ↔
      0xE0 ≤ b.toNat ∧ b.toNat ≤ 0xEF ∧ 0x80 ≤ t.toNat ∧ t.toNat ≤ 0xBF ∧ 0x80 ≤ u.toNat ∧ u.toNat ≤ 0xBF ∧
        (b.toNat = 0xE0 → 0xA0 ≤ t.toNat) ∧ (b.toNat = 0xED → t.toNat ≤ 0x9F) := by
  simp only [cons_iff, followers_eq_some_iff, or_and_right, and_assoc, exists_or, exists_and_left, exists_eq_left,
    List.forall₂_cons, List.forall₂_nil_left_iff, List.forall₂_nil_right_iff, UInt8.reduceToNat, reduceCtorEq,
    and_true, and_false, or_false, false_or]
  omega

-- After 0xF0, three bytes might have been enough, and after 0xF4 the number might be too large.
theorem four_iff :
    Character [b, t, u, v] ↔
      0xF0 ≤ b.toNat ∧ b.toNat ≤ 0xF4 ∧ 0x80 ≤ t.toNat ∧ t.toNat ≤ 0xBF ∧ 0x80 ≤ u.toNat ∧ u.toNat ≤ 0xBF ∧
        0x80 ≤ v.toNat ∧ v.toNat ≤ 0xBF ∧ (b.toNat = 0xF0 → 0x90 ≤ t.toNat) ∧ (b.toNat = 0xF4 → t.toNat ≤ 0x8F) := by
  simp only [cons_iff, followers_eq_some_iff, or_and_right, and_assoc, exists_or, exists_and_left, exists_eq_left,
    List.forall₂_cons, List.forall₂_nil_left_iff, List.forall₂_nil_right_iff, UInt8.reduceToNat, reduceCtorEq,
    and_true, and_false, false_or]
  omega

theorem length_le (h : Character bytes) : bytes.length ≤ 4 := by
  cases h
  case ascii => simp
  case multibyte h ht =>
    have hl := ht.length_eq
    rw [followers_eq_some_iff] at h
    grind

theorem spells (h : Character bytes) : ∃ n, n.isValidChar ∧ Spells n bytes := by
  simp only [Nat.isValidChar]
  -- The bounds of the bytes are just what keeps the number in the range of its length.
  match bytes with
  | [b] =>
    have := one_iff.mp h
    exact ⟨b.toNat, by omega, .one rfl (by omega)⟩
  | [b, t] =>
    have := two_iff.mp h
    let n := (b.toNat - 0xC0) * 64 + (t.toNat - 0x80)
    exact ⟨n, by omega, .two (by omega) (by omega) (by omega) (by omega)⟩
  | [b, t, u] =>
    have := three_iff.mp h
    let n := (b.toNat - 0xE0) * 4096 + (t.toNat - 0x80) * 64 + (u.toNat - 0x80)
    exact ⟨n, by omega, .three (by omega) (by omega) (by omega) (by omega) (by omega)⟩
  | [b, t, u, v] =>
    have := four_iff.mp h
    let n := (b.toNat - 0xF0) * 262144 + (t.toNat - 0x80) * 4096 + (u.toNat - 0x80) * 64 + (v.toNat - 0x80)
    exact ⟨n, by omega, .four (by omega) (by omega) (by omega) (by omega) (by omega) (by omega)⟩
  | _ :: _ :: _ :: _ :: _ :: _ => exact absurd h.length_le (by simp)

end Character

namespace Spells

theorem unique (s : Spells n bytes) (s' : Spells n bytes') : bytes = bytes' := by
  cases s <;> cases s'
  case one.one | two.two | three.three | four.four => simp [← UInt8.toNat_inj, *]
  all_goals omega

theorem character (s : Spells n bytes) (h : n.isValidChar) : Character bytes := by
  simp only [Nat.isValidChar] at h
  cases s
  case one   => exact Character.one_iff.mpr (by omega)
  case two   => exact Character.two_iff.mpr (by omega)
  case three => exact Character.three_iff.mpr (by omega)
  case four  => exact Character.four_iff.mpr (by omega)

end Spells

theorem toNat_ofNat_eq {m : Nat} (h : m % 256 = n) : (UInt8.ofNat m).toNat = n :=
  UInt8.toNat_ofNat'.trans h

theorem spells_utf8EncodeChar (c : Char) : Spells c.toNat (String.utf8EncodeChar c) := by
  have hv : c.toNat.isValidChar := c.valid
  have hc : c.val.toNat = c.toNat := rfl
  simp only [Nat.isValidChar] at hv
  simp only [String.utf8EncodeChar, hc]
  split_ifs
  case pos => exact .one (toNat_ofNat_eq (by omega)) (by omega)
  case pos => exact .two (toNat_ofNat_eq (by omega)) (toNat_ofNat_eq (by omega)) (by omega) (by omega)
  case pos =>
    exact .three (toNat_ofNat_eq (by omega)) (toNat_ofNat_eq (by omega)) (toNat_ofNat_eq (by omega)) (by omega)
      (by omega)
  case neg =>
    exact .four (toNat_ofNat_eq (by omega)) (toNat_ofNat_eq (by omega)) (toNat_ofNat_eq (by omega))
      (toNat_ofNat_eq (by omega)) (by omega) (by omega)

-- A number has one spelling, so it is enough that bytes and character have the same number.
theorem character_iff : Character bytes ↔ ∃ c, String.utf8EncodeChar c = bytes where
  mp h := by
    have ⟨n, hv, s⟩ := h.spells
    have hn : (Char.ofNat n).toNat = n := by rw [Char.toNat_ofNat, if_pos hv]
    have s' := spells_utf8EncodeChar (Char.ofNat n)
    exact ⟨Char.ofNat n, (hn ▸ s').unique s⟩
  mpr := by
    rintro ⟨c, rfl⟩
    exact (spells_utf8EncodeChar c).character c.valid

theorem wellFormed_iff : WellFormed bytes ↔ ∃ cs : List Char, cs.flatMap String.utf8EncodeChar = bytes where
  mp h := by
    induction h
    case nil => exact ⟨[], rfl⟩
    case append hc _ hi =>
      obtain ⟨c, rfl⟩ := character_iff.mp hc
      obtain ⟨cs, rfl⟩ := hi
      exact ⟨c :: cs, List.flatMap_cons⟩
  mpr := by
    rintro ⟨cs, rfl⟩
    induction cs
    case nil => exact .nil
    case cons c cs hi => exact .append (character_iff.mpr ⟨c, rfl⟩) hi

theorem encode_eq (s : String) : encode s = s.toList.flatMap String.utf8EncodeChar := by
  rw [encode, ← String.utf8Encode_toList, List.utf8Encode, List.toList_data_toByteArray]

-- Overlong forms, surrogates and characters that are cut off are no text.
theorem exists_decode_eq_ok_iff : (∃ s, decode bytes = .ok s) ↔ WellFormed bytes := by
  simp only [decode_eq_ok_iff, wellFormed_iff, encode_eq]
  constructor
  case mp  => exact fun ⟨s, h⟩ => ⟨s.toList, h⟩
  case mpr => exact fun ⟨cs, h⟩ => ⟨String.ofList cs, by rwa [String.toList_ofList]⟩

end

end ClusterClient.Utf8
