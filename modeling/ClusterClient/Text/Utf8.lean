namespace ClusterClient

namespace Utf8

-- Where the first character starts that cannot be read, and how many bytes of it could still begin one.
structure Fault where
  -- The number of bytes before the character at fault.
  index : Nat
  -- The length of the ill-formed sequence, or `none` if the bytes end inside a character.
  length : Option Nat
  deriving DecidableEq, Repr

def Fault.message : Fault → String
  | ⟨i, some n⟩ => s!"invalid utf-8 sequence of {n} bytes from index {i}"
  | ⟨i, none⟩   => s!"incomplete utf-8 byte sequence from index {i}"

-- The ranges for the bytes that must follow a first byte outside ASCII. The range of the second
-- byte leaves out overlong forms, surrogates, and all beyond U+10FFFF.
def followers (b : UInt8) : Option (List (UInt8 × UInt8)) :=
  if 0xC2 ≤ b ∧ b ≤ 0xDF then some [(0x80, 0xBF)]
  else if b = 0xE0 then some [(0xA0, 0xBF), (0x80, 0xBF)]
  else if b = 0xED then some [(0x80, 0x9F), (0x80, 0xBF)]
  else if 0xE1 ≤ b ∧ b ≤ 0xEF then some [(0x80, 0xBF), (0x80, 0xBF)]
  else if b = 0xF0 then some [(0x90, 0xBF), (0x80, 0xBF), (0x80, 0xBF)]
  else if 0xF1 ≤ b ∧ b ≤ 0xF3 then some [(0x80, 0xBF), (0x80, 0xBF), (0x80, 0xBF)]
  else if b = 0xF4 then some [(0x80, 0x8F), (0x80, 0xBF), (0x80, 0xBF)]
  else none

-- The first fault of a byte string that is no text.
def fault (bytes : List UInt8) : Fault :=
  go 0 0 [] bytes
where
  -- `start` is where the current character began, and `pending` are the ranges it still waits for.
  go (start index : Nat) (pending : List (UInt8 × UInt8)) : List UInt8 → Fault
    | [] => ⟨start, none⟩
    | b :: bs =>
      match pending with
      | [] =>
        if b < 0x80 then go (index + 1) (index + 1) [] bs
        else match followers b with
          | some ranges => go index (index + 1) ranges bs
          | none => ⟨index, some 1⟩
      | (lo, hi) :: ranges =>
        if lo ≤ b ∧ b ≤ hi then go (if ranges.isEmpty then index + 1 else start) (index + 1) ranges bs
        else ⟨start, some (index - start)⟩

def encode (s : String) : List UInt8 :=
  s.toByteArray.data.toList

def decode (bytes : List UInt8) : Except Fault String :=
  match String.fromUTF8? ⟨bytes.toArray⟩ with
  | some s => .ok s
  | none => .error (fault bytes)

-- Reading and writing are inverse to each other.
theorem decode_eq_ok_iff {bytes : List UInt8} {s : String} :
    decode bytes = .ok s ↔ encode s = bytes := by
  simp only [decode, encode, String.fromUTF8?]
  constructor <;> intro h
  case mp =>
    split at h <;> cases h
    case h_1 ht =>
      split at ht <;> cases ht
      rfl
  case mpr =>
    have hb : (⟨bytes.toArray⟩ : ByteArray) = s.toByteArray := by rw [← h]
    simp only [hb, s.isValidUTF8, dite_true]
    rfl

end Utf8

end ClusterClient
