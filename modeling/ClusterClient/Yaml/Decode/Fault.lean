import ClusterClient.Text.Quoted
import ClusterClient.Yaml.Fault
import ClusterClient.Yaml.Value

namespace ClusterClient.Yaml

-- What stands in the place of something else.
inductive Found where
  | value (v : Value)
  | sequence
  | mapping
  deriving DecidableEq, Repr

-- A number has a point and no exponent.
def FloatValue.render : FloatValue → String
  | finite isNegative d =>
    let digits := d.render
    (if isNegative then "-" else "") ++ digits ++ (if digits.toList.contains '.' then "" else ".0")
  | infinite isNegative => if isNegative then "-inf" else "inf"
  | nan => "NaN"

-- The width of an integer is given where 64 bits do not hold it.
def Found.text : Found → String
  | value .null        => "unit value"
  | value (.boolean b) => s!"boolean \x60{b}\x60"
  | value (.integer i) =>
    let width := if i < Int64.minValue.toInt then " as i128" else if UInt64.size ≤ i then " as u128" else ""
    s!"integer \x60{i}\x60{width}"
  | value (.float f)   => s!"floating point \x60{f.render}\x60"
  | value (.text s)    => s!"string {Text.quoted s}"
  | sequence           => "sequence"
  | mapping            => "map"

inductive Mismatch where
  | type (found : Found) (expected : String)
  | value (found : Found) (expected : String)
  | duplicate (field : String)
  | lacking (field : String)
  deriving DecidableEq, Repr

def Mismatch.text : Mismatch → String
  | type found expected  => s!"invalid type: {found.text}, expected {expected}"
  | value found expected => s!"invalid value: {found.text}, expected {expected}"
  | duplicate field      => s!"duplicate field \x60{field}\x60"
  | lacking field        => s!"missing field \x60{field}\x60"

-- The way from the root of a document to a node.
inductive Path where
  | root
  | item (parent : Path) (index : Nat)
  | field (parent : Path) (name : String)
  -- A field whose key is not written at its place.
  | someField (parent : Path)
  deriving DecidableEq, Repr

namespace Path

def render : Path → String
  | root               => "."
  | item parent index  => s!"{parent.render}[{index}]"
  | field root name    => name
  | field parent name  => s!"{parent.render}.{name}"
  | someField root     => "?"
  | someField parent   => s!"{parent.render}.?"

end Path

inductive DecodeFault where
  | text (fault : Fault)
  | endOfText
  | severalDocuments
  | tooManyAliases
  | mismatch (m : Mismatch) (path : Path) (mark : Mark)
  deriving DecidableEq, Repr

def DecodeFault.message : DecodeFault → String
  | text fault => fault.message
  | endOfText => "EOF while parsing a value"
  | severalDocuments => "deserializing from YAML containing more than one document is not supported"
  | tooManyAliases => "repetition limit exceeded"
  | mismatch m path mark =>
    (if path = .root then "" else s!"{path.render}: ") ++ m.text ++ mark.suffix

end ClusterClient.Yaml
