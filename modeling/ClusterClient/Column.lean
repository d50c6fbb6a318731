import ClusterClient.Error
import ClusterClient.Text.UpperCase

namespace ClusterClient

-- A cell is read by the declared type of its column and never by what it looks like.
inductive ColumnType where
  | boolean
  | int32
  | int64
  | float
  | double
  | text
  deriving DecidableEq, Repr, Inhabited

namespace ColumnType

def all : List ColumnType := [boolean, int32, int64, float, double, text]

def name : ColumnType → String
  | boolean => "BOOLEAN"
  | int32   => "INT32"
  | int64   => "INT64"
  | float   => "FLOAT"
  | double  => "DOUBLE"
  | text    => "TEXT"

-- Names are recognised in any mixture of cases.
def parse? (s : String) : Option ColumnType :=
  (Text.upperWord? s).bind fun word => all.find? (·.name == word)

def parse (s : String) : Except WireError ColumnType :=
  (parse? s).elim (.error (.invalidFormat s!"unknown column type: {s}")) .ok

-- The number of bytes of a cell, or `none` where cells have any length.
def fixedWidth : ColumnType → Option Nat
  | boolean        => some 1
  | int32 | float  => some 4
  | int64 | double => some 8
  | text           => none

end ColumnType

-- A row as it arrives: a cell is a byte string, and `none` is a null.
structure RawRow where
  timestamp : Int64
  cells : List (Option (List UInt8))
  deriving DecidableEq, Repr, Inhabited

end ClusterClient
