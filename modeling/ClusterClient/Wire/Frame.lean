import ClusterClient.Error
import ClusterClient.Wire.Codec

namespace ClusterClient.Wire

structure Frame (α : Type) where
  format : Format
  id : UInt32
  message : α
  deriving DecidableEq

namespace Frame

variable {α : Type}

def headerSize : Nat := 5

-- 64 MiB, header included.
def maxSize : Nat := 64 * 1024 * 1024

def header (f : Format) (id : UInt32) : Bytes :=
  f.byte :: putBig 4 id.toNat

def size (c : Codec α) (frame : Frame α) : Nat :=
  headerSize + c.size frame.format frame.message

-- The size of a frame that may be sent.
def checkedSize (c : Codec α) (frame : Frame α) : Except WireError Nat :=
  let n := frame.size c
  if maxSize < n then .error (.messageTooLarge n maxSize) else .ok n

def bytes (c : Codec α) (frame : Frame α) : Bytes :=
  header frame.format frame.id ++ c.put frame.format frame.message

def encode (c : Codec α) (frame : Frame α) : Except WireError Bytes := do
  let _ ← frame.checkedSize c
  return frame.bytes c

-- Bytes after the payload are no part of the frame and are not looked at.
def decode (c : Codec α) : Bytes → Except WireError (Frame α)
  | f :: b₃ :: b₂ :: b₁ :: b₀ :: payload => do
    let some format := Format.ofByte? f | throw (.unknownFormat f)
    let id := UInt32.ofNat (bigValue [b₃, b₂, b₁, b₀])
    match c.take format payload with
    | .ok (message, _) => return { format, id, message }
    | .error fault => throw (.deserialization fault.message)
  | _ => .error (.invalidFormat "Wire data too short (need format byte + correlation_id)")

end Frame

end ClusterClient.Wire
