import ClusterClient.Cell
import ClusterClient.Proofs.Text.Utf8
import ClusterClient.Proofs.Wire.Number
import Mathlib

namespace ClusterClient

open Wire

-- The bytes in which the value of a cell is written that came with the given ones.
def ColumnType.normalize : ColumnType → Bytes → Bytes
  | boolean, bs => bs.map fun b => if b = 0 then 0 else 1
  | _, bs       => bs

namespace Cell

-- The type of a value. A null has none.
def type? : Cell → Option ColumnType
  | null      => none
  | boolean _ => some .boolean
  | int32 _   => some .int32
  | int64 _   => some .int64
  | float _   => some .float
  | double _  => some .double
  | text _    => some .text

-- The numbers of a width stand for the values of a type, each for one of them.
structure Fixed (width : Nat) {α : Type} (ofNat : Nat → α) (toNat : α → Nat) : Prop where
  lt          : ∀ a, toNat a < 256 ^ width
  ofNat_toNat : ∀ a, ofNat (toNat a) = a
  toNat_ofNat : ∀ n < 256 ^ width, toNat (ofNat n) = n

theorem Fixed.bigValue_iff {α : Type} {bs : Bytes} {width : Nat} {ofNat : Nat → α} {toNat : α → Nat} {a : α}
    (f : Fixed width ofNat toNat) :
    bs.length = width ∧ ofNat (bigValue bs) = a ↔ putBig width (toNat a) = bs := by
  rw [putBig_eq_iff (f.lt a)]
  constructor
  case mp =>
    rintro ⟨rfl, rfl⟩
    exact ⟨rfl, (f.toNat_ofNat _ (bigValue_lt bs)).symm⟩
  case mpr =>
    rintro ⟨rfl, h⟩
    exact ⟨rfl, by rw [h, f.ofNat_toNat]⟩

theorem int32_fixed : Fixed 4 (Int32.ofInt ·) (·.toUInt32.toNat) where
  lt a            := a.toUInt32.toNat_lt
  ofNat_toNat _   := by simp [Int32.ofInt_eq_ofNat, ← UInt32.toInt32_ofNat']
  toNat_ofNat _ h := by rw [Int32.ofInt_eq_ofNat, Int32.toUInt32_ofNat', UInt32.toNat_ofNat_of_lt' h]

theorem int64_fixed : Fixed 8 (Int64.ofInt ·) (·.toUInt64.toNat) where
  lt a            := a.toUInt64.toNat_lt
  ofNat_toNat _   := by simp [Int64.ofInt_eq_ofNat, ← UInt64.toInt64_ofNat']
  toNat_ofNat _ h := by rw [Int64.ofInt_eq_ofNat, Int64.toUInt64_ofNat', UInt64.toNat_ofNat_of_lt' h]

theorem float_fixed : Fixed 4 UInt32.ofNat UInt32.toNat where
  lt              := UInt32.toNat_lt
  ofNat_toNat _   := UInt32.ofNat_toNat
  toNat_ofNat _ h := UInt32.toNat_ofNat_of_lt' h

theorem double_fixed : Fixed 8 UInt64.ofNat UInt64.toNat where
  lt              := UInt64.toNat_lt
  ofNat_toNat _   := UInt64.ofNat_toNat
  toNat_ofNat _ h := UInt64.toNat_ofNat_of_lt' h

theorem boolean_iff {bs : Bytes} {b : Bool} :
    bs.length = 1 ∧ bs.any (· ≠ 0) = b ↔ [if b then 1 else 0] = ColumnType.normalize .boolean bs := by
  match bs with
  | []          => simp [ColumnType.normalize]
  | [x]         => by_cases hx : x = 0 <;> cases b <;> simp [ColumnType.normalize, hx]
  | _ :: _ :: _ => simp [ColumnType.normalize]

section

variable {type : ColumnType} {bs : Bytes} {v : Cell}

theorem decode_fixed {width : Nat} (h : type.fixedWidth = some width) :
    decode type bs = .ok v ↔ bs.length = width ∧ ofBytes type bs = .ok v := by
  simp only [decode, h]
  split <;> simp [*]

theorem decode_text : decode .text bs = .ok v ↔ ∃ s, Utf8.encode s = bs ∧ v = text s := by
  simp only [decode, ColumnType.fixedWidth, ofBytes, ← Utf8.decode_eq_ok_iff]
  split <;> simp [*, eq_comm]

-- A cell is read as the value of its type that is written in its bytes.
theorem decode_eq_ok_iff : decode type bs = .ok v ↔ v.type? = some type ∧ v.encode? = some (type.normalize bs) := by
  cases type
  case text => cases v <;> simp [decode_text, type?, encode?, ColumnType.normalize]
  all_goals rw [decode_fixed rfl]
  case boolean =>
    cases v
    case boolean b => simpa [ofBytes, type?, encode?] using boolean_iff
    all_goals simp [ofBytes, type?]
  case int32  => cases v <;> simp [ofBytes, type?, encode?, ColumnType.normalize, ← int32_fixed.bigValue_iff]
  case int64  => cases v <;> simp [ofBytes, type?, encode?, ColumnType.normalize, ← int64_fixed.bigValue_iff]
  case float  => cases v <;> simp [ofBytes, type?, encode?, ColumnType.normalize, ← float_fixed.bigValue_iff]
  case double => cases v <;> simp [ofBytes, type?, encode?, ColumnType.normalize, ← double_fixed.bigValue_iff]

theorem exists_decode_eq_ok_iff :
    (∃ v, decode type bs = .ok v) ↔ match type.fixedWidth with
      | some width => bs.length = width
      | none       => Utf8.WellFormed bs := by
  split
  case h_1 width h =>
    simp only [decode_fixed h, exists_and_left, and_iff_left_iff_imp]
    cases type <;> simp [ofBytes, ColumnType.fixedWidth] at h ⊢
  case h_2 h =>
    cases type <;> simp [ColumnType.fixedWidth] at h
    simp [decode_text, ← Utf8.exists_decode_eq_ok_iff, Utf8.decode_eq_ok_iff]

theorem exists_encode?_eq_some (ht : v.type? = some type) : ∃ bs, v.encode? = some bs := by
  cases v
  case null => contradiction
  all_goals exact ⟨_, rfl⟩

theorem normalize_encode (ht : v.type? = some type) (he : v.encode? = some bs) : type.normalize bs = bs := by
  cases v <;> cases ht <;> cases he
  case boolean b => cases b <;> rfl
  all_goals rfl

end

-- A cell of a type of fixed width is read if it has that width, and a text if it is well-formed. What is read is no
-- null but the value of the type that is written in the same bytes, except that of a Boolean only 0 and 1 are written.
-- Each value is read from the bytes in which it is written.
theorem decode_inverts_encode (type : ColumnType) :
    (∀ bs, (∃ v, decode type bs = .ok v) ↔ match type.fixedWidth with
      | some width => bs.length = width
      | none       => Utf8.WellFormed bs) ∧
    (∀ bs, decode type bs ≠ .ok null) ∧
    (∀ bs v, decode type bs = .ok v ↔ v.type? = some type ∧ v.encode? = some (type.normalize bs)) ∧
    ∀ v, v.type? = some type → ∃ bs, v.encode? = some bs ∧ decode type bs = .ok v := by
  refine ⟨fun bs => exists_decode_eq_ok_iff, fun bs h => ?_, fun bs v => decode_eq_ok_iff, fun v ht => ?_⟩
  case refine_1 =>
    have ⟨ht, _⟩ := decode_eq_ok_iff.mp h
    contradiction
  case refine_2 =>
    have ⟨bs, he⟩ := exists_encode?_eq_some ht
    have hn := normalize_encode ht he
    exact ⟨bs, he, decode_eq_ok_iff.mpr ⟨ht, by rw [hn, he]⟩⟩

-- The least number, a Boolean that is not written as it came, and a surrogate, which no text has.
theorem decode_inverts_encode_least :
    (∃ bs, (int64 Int64.minValue).encode? = some bs ∧ decode .int64 bs = .ok (int64 Int64.minValue)) ∧
    decode .boolean [0xFF] = .ok (boolean true) ∧ (boolean true).encode? = some [1] ∧
    ¬Utf8.WellFormed [0xED, 0xA0, 0x80] := by
  have ⟨_, _, _, written⟩ := decode_inverts_encode .int64
  have ⟨_, _, read, _⟩ := decode_inverts_encode .boolean
  have ⟨utf8, _⟩ := decode_inverts_encode .text
  refine ⟨written _ rfl, (read _ _).mpr ⟨rfl, rfl⟩, rfl, (utf8 _).not.mp ?_⟩
  rintro ⟨_, h⟩
  cases h

end Cell

end ClusterClient
