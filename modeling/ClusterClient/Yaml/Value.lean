import ClusterClient.Decimal
import ClusterClient.Yaml.Scalar.Basic

namespace ClusterClient.Yaml

inductive FloatValue where
  | finite (isNegative : Bool) (d : Double)
  | infinite (isNegative : Bool)
  | nan
  deriving DecidableEq, Repr

inductive Value where
  | null
  | boolean (b : Bool)
  | integer (i : Int)
  | float (f : FloatValue)
  | text (s : String)
  deriving DecidableEq, Repr

namespace Value

def isNull (s : String) : Bool := ["null", "Null", "NULL", "~"].contains s

def boolean? (s : String) : Option Bool :=
  if ["true", "True", "TRUE"].contains s then some true
  else if ["false", "False", "FALSE"].contains s then some false
  else none

-- Whether a text is made of several digits, with a zero first.
def hasLeadingZero : List Char → Bool
  | '0' :: d :: ds => (d :: ds).all Char.isDigit
  | _ => false

def digits? (base : Nat) (digit? : Char → Option Nat) (cs : List Char) : Option Nat :=
  if cs = [] then none
  else cs.foldlM (fun n c => (digit? c).bind fun d => if d < base then some (base * n + d) else none) 0

def natural? (cs : List Char) : Option Nat :=
  match cs with
  | '0' :: 'x' :: ds => digits? 16 Source.hexDigit? ds
  | '0' :: 'o' :: ds => digits? 8 Source.hexDigit? ds
  | '0' :: 'b' :: ds => digits? 2 Source.hexDigit? ds
  | cs => if hasLeadingZero cs then none else digits? 10 Source.hexDigit? cs

def unsigned? (s : String) : Option Nat := natural? (Text.dropPlus s.toList)

-- An integer of 128 bits, or of 127 bits after a minus sign.
def integer? (s : String) : Option Int :=
  match s.toList with
  | '-' :: cs => ((natural? cs).filter (· ≤ Nat.pow 2 127)).map fun n => -(n : Int)
  | _ => ((unsigned? s).filter (· < Nat.pow 2 128)).map Int.ofNat

-- A number beyond the range of doubles is none.
def float? (s : String) : Option FloatValue :=
  if [".nan", ".NaN", ".NAN"].contains s then some .nan
  else
    let (isNegative, cs) := match s.toList with
      | '-' :: cs => (true, cs)
      | cs => (false, Text.dropPlus cs)
    if [".inf", ".Inf", ".INF"].contains (String.ofList cs) then some (.infinite isNegative)
    else ((Decimal.ofChars? cs).bind Decimal.nearest?).map (.finite isNegative)

def ofPlain (s : String) : Value :=
  if s = "" ∨ isNull s then null
  else match boolean? s, integer? s with
    | some b, _ => boolean b
    | none, some i => integer i
    | none, none =>
      let unsigned := match s.toList with
        | '-' :: cs | '+' :: cs => cs
        | cs => cs
      match if hasLeadingZero unsigned then none else float? s with
      | some f => float f
      | none => text s

end Value

end ClusterClient.Yaml
