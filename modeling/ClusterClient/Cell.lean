import ClusterClient.Column
import ClusterClient.Wire.Number

namespace ClusterClient

open Wire

-- The value of a cell under the declared type of its column, its bytes with the highest first. A floating-point number
-- is kept as its bit pattern.
inductive Cell where
  | null
  | boolean (b : Bool)
  | int32 (n : Int32)
  | int64 (n : Int64)
  | float (bits : UInt32)
  | double (bits : UInt64)
  | text (s : String)
  deriving DecidableEq, Repr

namespace Cell

inductive Fault where
  | width (type : ColumnType) (expected found : Nat)
  | text (fault : Utf8.Fault)
  deriving DecidableEq, Repr

def Fault.message : Fault → String
  | width type expected found => s!"{type.name} cell must be {expected} bytes, got {found}"
  | text fault => s!"TEXT cell is not UTF-8: {fault.message}"

def Fault.toError (f : Fault) : ClientError := .decode f.message

-- A byte string read as a value of the type, whatever its length.
def ofBytes (type : ColumnType) (bs : Bytes) : Except Fault Cell :=
  match type with
  | .boolean => .ok (boolean (bs.any (· ≠ 0)))
  | .int32   => .ok (int32 (Int32.ofInt (bigValue bs)))
  | .int64   => .ok (int64 (Int64.ofInt (bigValue bs)))
  | .float   => .ok (float (UInt32.ofNat (bigValue bs)))
  | .double  => .ok (double (UInt64.ofNat (bigValue bs)))
  | .text    => match Utf8.decode bs with
    | .ok s => .ok (text s)
    | .error e => .error (.text e)

-- Cells of a type of fixed width must have that width.
def decode (type : ColumnType) (bs : Bytes) : Except Fault Cell :=
  match type.fixedWidth with
  | some width => if bs.length = width then ofBytes type bs else .error (.width type width bs.length)
  | none => ofBytes type bs

-- The bytes of a value that is not null.
def encode? : Cell → Option Bytes
  | null => none
  | boolean b => some [if b then 1 else 0]
  | int32 n => some (putBig 4 n.toUInt32.toNat)
  | int64 n => some (putBig 8 n.toUInt64.toNat)
  | float bits => some (putBig 4 bits.toNat)
  | double bits => some (putBig 8 bits.toNat)
  | text s => some (Utf8.encode s)

def isNull : Cell → Bool
  | null => true
  | _ => false

def isNaN32 (bits : UInt32) : Bool := 0x7F800000 < bits &&& 0x7FFFFFFF

def isNaN64 (bits : UInt64) : Bool := 0x7FF0000000000000 < bits &&& 0x7FFFFFFFFFFFFFFF

-- Equality of values: a NaN equals nothing, and the two zeros equal each other.
def same : Cell → Cell → Bool
  | float a, float b   => !isNaN32 a && !isNaN32 b && (a == b || (a ||| b) &&& 0x7FFFFFFF == 0)
  | double a, double b => !isNaN64 a && !isNaN64 b && (a == b || (a ||| b) &&& 0x7FFFFFFFFFFFFFFF == 0)
  | a, b => a == b

end Cell

end ClusterClient
