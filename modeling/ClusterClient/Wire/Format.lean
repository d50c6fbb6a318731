import ClusterClient.Text.Utf8

namespace ClusterClient.Wire

abbrev Bytes := List UInt8

-- The binary format has fields of fixed width. The compact format writes numbers in as many bytes as they need.
inductive Format where
  | binary
  | compact
  deriving DecidableEq, Repr, Inhabited

namespace Format

def ofCompression (enabled : Bool) : Format :=
  if enabled then compact else binary

def byte : Format → UInt8
  | binary  => 0
  | compact => 1

def ofByte? (b : UInt8) : Option Format :=
  if b = 0 then some binary else if b = 1 then some compact else none

def name : Format → String
  | binary  => "Binary"
  | compact => "Compact"

end Format

inductive Fault where
  -- A field of the binary format is cut short.
  | cutField
  -- The binary format announces more bytes of text than there are.
  | cutContents
  | variantIndex (found count : Nat)
  | optionByte (found : UInt8)
  | boolByte (found : UInt8)
  | text (fault : Utf8.Fault)
  -- The compact format ends where more is due.
  | endOfBuffer
  -- A number of the compact format is too long or too large for its type.
  | overlongNumber
  | compactOption
  | compactBool
  | compactText
  | compactVariant
  deriving DecidableEq, Repr

def Fault.message : Fault → String
  | cutField                 => "io error: unexpected end of file"
  | cutContents              => "io error: "
  | variantIndex found count =>
    s!"invalid value: integer `{found}`, expected variant index 0 <= i < {count}"
  | optionByte found         => s!"tag for enum is not valid, found {found.toNat}"
  | boolByte found           => s!"invalid u8 while decoding bool, expected 0 or 1, found {found.toNat}"
  | text fault               => s!"string is not valid utf8: {fault.message}"
  | endOfBuffer              => "Hit the end of buffer, expected more data"
  | overlongNumber           =>
    "Found a varint that didn't terminate. Is the usize too big for this platform?"
  | compactOption            => "Found an Option discriminant that wasn't 0 or 1"
  | compactBool              => "Found a bool that wasn't 0 or 1"
  | compactText              => "Tried to parse invalid utf-8"
  | compactVariant           => "Serde Deserialization Error"

end ClusterClient.Wire
