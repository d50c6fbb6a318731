import ClusterClient.Cell
import ClusterClient.KeyMap

namespace ClusterClient

structure Row where
  timestamp : Int64
  -- One value per column, in the order of the columns.
  values : List Cell
  deriving DecidableEq, Repr

structure Column where
  name : String
  type : ColumnType
  -- Where the cell of this column stands in a row.
  position : UInt64
  deriving DecidableEq, Repr

-- The columns of a result, and where in a row their cells stand.
structure ColumnLayout where
  columns : List Column
  index : KeyMap String UInt64
  deriving DecidableEq

-- Why a layout was refused or a row could not be decoded.
inductive LayoutFault where
  | typeCount (names types : Nat)
  | missingFromIndex (name : String)
  | missingCell (timestamp : Int64) (column : Column)
  | cell (fault : Cell.Fault)
  deriving DecidableEq, Repr

def LayoutFault.message : LayoutFault → String
  | typeCount names types => s!"{names} column names but {types} column types"
  | missingFromIndex name => s!"column '{name}' missing from index"
  | missingCell timestamp column =>
    s!"row at {timestamp.toInt} has no cell {column.position.toNat} for column '{column.name}'"
  | cell fault => fault.message

def LayoutFault.toError (f : LayoutFault) : ClientError := .decode f.message

namespace ColumnLayout

-- Every name needs a type and a position. The index may hold more than that.
def ofNames (names : List String) (types : List ColumnType) (index : KeyMap String UInt64) :
    Except LayoutFault ColumnLayout := do
  if names.length ≠ types.length then throw (.typeCount names.length types.length)
  let columns ← (names.zip types).mapM fun (name, type) =>
    match index.get? name with
    | some position => .ok { name, type, position }
    | none => .error (.missingFromIndex name)
  return { columns, index }

def names (l : ColumnLayout) : List String := l.columns.map (·.name)

def types (l : ColumnLayout) : List ColumnType := l.columns.map (·.type)

def width (l : ColumnLayout) : Nat := l.columns.length

-- The value of one column in a row.
def decodeCell (raw : RawRow) (c : Column) : Except LayoutFault Cell :=
  match raw.cells[c.position.toNat]? with
  | some (some bytes) => (Cell.decode c.type bytes).mapError .cell
  | some none => .ok .null
  | none => .error (.missingCell raw.timestamp c)

def decodeRow (l : ColumnLayout) (raw : RawRow) : Except LayoutFault Row := do
  return { timestamp := raw.timestamp, values := ← l.columns.mapM (decodeCell raw) }

def decodeRows (l : ColumnLayout) (raw : List RawRow) : Except LayoutFault (List Row) :=
  raw.mapM l.decodeRow

def same (a b : ColumnLayout) : Bool :=
  a.columns == b.columns && a.index.agrees (· == ·) b.index

end ColumnLayout

def Row.same (a b : Row) : Bool :=
  a.timestamp == b.timestamp && a.values.length == b.values.length &&
    (a.values.zip b.values).all fun (x, y) => x.same y

structure Dataset where
  layout : ColumnLayout
  rows : List Row := []
  deriving DecidableEq

namespace Dataset

def size (d : Dataset) : Nat := d.rows.length

-- Where the values of a column stand in a row. The first column of the name counts.
def column? (d : Dataset) (name : String) : Option Nat :=
  d.layout.names.findIdx? (· == name)

def get? (d : Dataset) (row : Nat) (name : String) : Option Cell := do
  let column ← d.column? name
  let r ← d.rows[row]?
  r.values[column]?

-- The dataset with the rows of a page added at its end.
def append (d : Dataset) (page : List RawRow) : Except LayoutFault Dataset := do
  return { d with rows := d.rows ++ (← d.layout.decodeRows page) }

-- The same as a call on a dataset that is kept, whatever comes of it. The answer is the number of rows
-- that were added.
def appendPage (page : List RawRow) (d : Dataset) : Except LayoutFault Nat × Dataset :=
  match d.layout.decodeRows page with
  | .ok rows => (.ok rows.length, { d with rows := d.rows ++ rows })
  | .error fault => (.error fault, d)

theorem append_eq (d : Dataset) (page : List RawRow) :
    d.append page = (d.appendPage page).1.map fun _ => (d.appendPage page).2 := by
  simp only [append, appendPage]
  split <;> simp [*, Except.map, bind, Except.bind, pure, Except.pure]

def same (a b : Dataset) : Bool :=
  a.layout.same b.layout && a.rows.length == b.rows.length &&
    (a.rows.zip b.rows).all fun (x, y) => x.same y

end Dataset

end ClusterClient
