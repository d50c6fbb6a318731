import ClusterClient.Error
import ClusterClient.Wire.Number
import Mathlib

namespace ClusterClient.Wire

theorem toNat_ofNat_byte {n : Nat} (h : n < 256) : (UInt8.ofNat n).toNat = n :=
  UInt8.toNat_ofNat_of_lt' h

-- A number that is too large for the width is cut down to it.
theorem takeFixed_putFixed (width n : Nat) (rest : Bytes) :
    takeFixed width (putFixed width n ++ rest) = .ok (n % 256 ^ width, rest) := by
  induction width generalizing n
  case zero => simp [putFixed, takeFixed, Nat.mod_one]
  case succ width ih =>
    have hb := toNat_ofNat_byte (n.mod_lt (by decide : 0 < 256))
    have hm : n % 256 + 256 * (n / 256 % 256 ^ width) = n % 256 ^ (width + 1) := by
      rw [Nat.pow_succ', Nat.mod_mul]
    simp only [putFixed, List.cons_append, takeFixed, ih, hb]
    exact congrArg (fun k => Except.ok (k, rest)) hm

-- A width determines the bytes of a number.
theorem putFixed_of_takeFixed {width n : Nat} {bs rest : Bytes} (h : takeFixed width bs = .ok (n, rest)) :
    n < 256 ^ width ∧ putFixed width n ++ rest = bs := by
  induction width generalizing n bs
  case zero => cases h; exact ⟨Nat.one_pos, rfl⟩
  case succ width hi =>
    cases bs <;> simp only [takeFixed, reduceCtorEq] at h
    case cons b bs =>
      have ⟨⟨m, rest'⟩, hm, he⟩ := bind_eq_ok_iff.mp h
      cases he
      have ⟨hlt, hp⟩ := hi hm
      have hb := b.toNat_lt
      have hq : (b.toNat + 256 * m) / 256 = m := by omega
      have hr : (b.toNat + 256 * m) % 256 = b.toNat := by omega
      refine ⟨by rw [Nat.pow_succ']; omega, ?_⟩
      rw [putFixed, hq, hr, UInt8.ofNat_toNat, List.cons_append, hp]

theorem length_putGroups (groups n : Nat) : (putGroups groups n).length = sizeGroups groups n := by
  induction groups generalizing n
  case zero => rfl
  case succ groups ih =>
    simp only [putGroups, sizeGroups]
    split <;> simp [ih]

theorem sizeGroups_pos (groups n : Nat) : 0 < sizeGroups (groups + 1) n := by
  simp only [sizeGroups]
  split <;> omega

theorem sizeGroups_le_sizeGroups (groups : Nat) {m n : Nat} (h : m ≤ n) :
    sizeGroups groups m ≤ sizeGroups groups n := by
  induction groups generalizing m n
  case zero => exact Nat.le_refl _
  case succ groups hi =>
    have hq := hi (Nat.div_le_div_right (c := 128) h)
    simp only [sizeGroups]
    split <;> split <;> omega

-- A number may have been written in more groups than it needs.
theorem sizeGroups_of_takeGroups {top groups n : Nat} {bs rest : Bytes}
    (h : takeGroups top (groups + 1) bs = .ok (n, rest)) :
    n < 128 ^ groups * (top + 1) ∧ sizeGroups (groups + 1) n + rest.length ≤ bs.length := by
  induction groups generalizing n bs
  all_goals
    cases bs <;> simp only [takeGroups, reduceCtorEq] at h
  case zero.cons b bs =>
    split at h
    case isTrue hb =>
      split at h <;> cases h
      case isFalse htop =>
        have hle : b.toNat ≤ top := Nat.not_lt.mp fun hlt => htop ⟨trivial, hlt⟩
        simp only [sizeGroups, hb, if_true, List.length_cons]
        omega
    case isFalse => contradiction
  case succ.cons groups hi b bs =>
    have hb' := b.toNat_lt
    split at h
    case isTrue hb =>
      have hp : 0 < 128 ^ groups * (top + 1) := by positivity
      rw [if_neg fun hg => hg.left] at h
      cases h
      simp only [sizeGroups, hb, if_true, List.length_cons, Nat.pow_succ, Nat.mul_right_comm]
      omega
    case isFalse hb =>
      have ⟨⟨m, rest'⟩, hm, he⟩ := bind_eq_ok_iff.mp h
      cases he
      have ⟨hlt, hs⟩ := hi hm
      have hq : (b.toNat - 128 + 128 * m) / 128 = m := by omega
      rw [sizeGroups, hq, Nat.pow_succ, Nat.mul_right_comm, List.length_cons]
      simp only at hs ⊢
      split <;> omega

-- The last group that is allowed is the only one with a bound of its own.
theorem takeGroups_putGroups {top groups n : Nat} (ht : top < 128) (hn : n < 128 ^ groups * (top + 1))
    (rest : Bytes) :
    takeGroups top (groups + 1) (putGroups (groups + 1) n ++ rest) = .ok (n, rest) := by
  induction groups generalizing n
  case zero =>
    have hs : n < 128 := by omega
    have hb := toNat_ofNat_byte (show n < 256 by omega)
    have htop : ¬ top < n := by omega
    simp [putGroups, takeGroups, hs, hb, htop]
  case succ groups ih =>
    rw [putGroups]
    by_cases hs : n < 128
    case pos =>
      have hb := toNat_ofNat_byte (show n < 256 by omega)
      simp [takeGroups, hs, hb]
    case neg =>
      have hb := toNat_ofNat_byte (show n % 128 + 128 < 256 by omega)
      have hq : n / 128 < 128 ^ groups * (top + 1) := by
        rw [Nat.div_lt_iff_lt_mul (by decide)]
        rwa [Nat.pow_succ, Nat.mul_right_comm] at hn
      have hc : ¬ n % 128 + 128 < 128 := by omega
      have hm : n % 128 + 128 - 128 + 128 * (n / 128) = n := by omega
      simp only [hs, if_false, List.cons_append, takeGroups, hb, hc, ih hq]
      exact congrArg (fun k => Except.ok (k, rest)) hm

namespace Width

theorem bytes_pos (w : Width) : 0 < w.bytes := by
  cases w <;> decide

theorem groups_pos (w : Width) : 0 < w.groups := by
  cases w <;> decide

theorem topGroup_lt (w : Width) : w.topGroup < 128 := by
  cases w <;> decide

-- The bytes of a width hold just its numbers, and so do its groups.
theorem modulus_eq_bytes (w : Width) : w.modulus = 256 ^ w.bytes := by
  cases w <;> decide

theorem modulus_eq_groups (w : Width) : w.modulus = 128 ^ (w.groups - 1) * (w.topGroup + 1) := by
  cases w <;> decide

end Width

theorem putBig_succ (width n : Nat) :
    putBig (width + 1) n = putBig width (n / 256) ++ [UInt8.ofNat (n % 256)] := by
  simp [putBig, putFixed]

@[simp]
theorem length_putBig (width n : Nat) : (putBig width n).length = width := by
  simp [putBig]

theorem bigValue_concat (bs : Bytes) (b : UInt8) : bigValue (bs ++ [b]) = bigValue bs * 256 + b.toNat := by
  simp [bigValue]

theorem bigValue_putBig (width n : Nat) : bigValue (putBig width n) = n % 256 ^ width := by
  induction width generalizing n
  case zero => simp [putBig, putFixed, bigValue, Nat.mod_one]
  case succ width ih =>
    have hb := toNat_ofNat_byte (n.mod_lt (by decide : 0 < 256))
    rw [putBig_succ, bigValue_concat, ih, hb, Nat.pow_succ', Nat.mod_mul]
    omega

theorem bigValue_lt (bs : Bytes) : bigValue bs < 256 ^ bs.length := by
  induction bs using List.reverseRecOn
  case nil => decide
  case append_singleton bs b hi =>
    have hb := b.toNat_lt
    rw [bigValue_concat, List.length_append, List.length_singleton, Nat.pow_succ]
    omega

theorem putBig_bigValue (bs : Bytes) : putBig bs.length (bigValue bs) = bs := by
  induction bs using List.reverseRecOn
  case nil => rfl
  case append_singleton bs b hi =>
    have hd : (bigValue bs * 256 + b.toNat) / 256 = bigValue bs := by have := b.toNat_lt; omega
    have hm : (bigValue bs * 256 + b.toNat) % 256 = b.toNat := by have := b.toNat_lt; omega
    rw [bigValue_concat, List.length_append, List.length_singleton, putBig_succ, hd, hm, hi,
      UInt8.ofNat_toNat]

-- The bytes of a word, the highest first.
def bigEndian (n : UInt32) : Bytes :=
  [(n >>> 24).toUInt8, (n >>> 16).toUInt8, (n >>> 8).toUInt8, n.toUInt8]

theorem putBig_four (n : Nat) : putBig 4 n = bigEndian (UInt32.ofNat n) := by
  simp only [putBig, putFixed, bigEndian, List.reverse_cons, List.reverse_nil, List.nil_append, List.cons_append,
    List.cons.injEq, and_true, ← UInt8.toNat_inj]
  simp [Nat.shiftRight_eq_div_pow]
  omega

theorem putBig_eq_iff {width n : Nat} {bs : Bytes} (h : n < 256 ^ width) :
    putBig width n = bs ↔ bs.length = width ∧ bigValue bs = n where
  mp := by
    rintro rfl
    exact ⟨length_putBig width n, by rw [bigValue_putBig, Nat.mod_eq_of_lt h]⟩
  mpr := by
    rintro ⟨rfl, rfl⟩
    exact putBig_bigValue bs

theorem unzigzag_zigzag (i : Int) : unzigzag (zigzag i) = i := by
  simp only [zigzag, unzigzag]
  split <;> split <;> omega

theorem zigzag_unzigzag (n : Nat) : zigzag (unzigzag n) = n := by
  simp only [zigzag, unzigzag]
  split <;> split <;> omega

theorem zigzag_lt {i : Int} {n : Nat} (hl : -n ≤ i) (hu : i < n) : zigzag i < 2 * n := by
  simp only [zigzag]
  split <;> omega

end ClusterClient.Wire
