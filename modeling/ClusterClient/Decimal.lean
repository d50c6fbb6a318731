import ClusterClient.Text.Digits

namespace ClusterClient

-- The number `digits · 10 ^ exponent`.
structure Decimal where
  digits : Nat
  exponent : Int
  deriving DecidableEq, Repr

-- The number `m · 2 ^ q`.
structure Double where
  m : Nat
  q : Int
  deriving DecidableEq, Repr

-- The quotient rounded to the nearest number, a tie to the even one.
def roundDiv (num den : Nat) : Nat :=
  let d := num / den
  let r := num % den
  if 2 * r < den then d else if den < 2 * r then d + 1 else d + d % 2

namespace Decimal

-- Reads digits with or without a point among them, and an exponent if there is one.
def ofChars? (cs : List Char) : Option Decimal :=
  let whole := cs.takeWhile Char.isDigit
  let (places, rest) := match cs.dropWhile Char.isDigit with
    | '.' :: rest => (rest.takeWhile Char.isDigit, rest.dropWhile Char.isDigit)
    | rest => ([], rest)
  if whole = [] ∧ places = [] then none
  else
    let digits := Nat.ofDigitChars 10 (whole ++ places) 0
    (exponent? rest).map fun e => { digits, exponent := e - places.length }
where
  exponent? : List Char → Option Int
    | [] => some 0
    | 'e' :: '-' :: ds | 'E' :: '-' :: ds => (Text.number? ds).map fun n => -(n : Int)
    | 'e' :: ds | 'E' :: ds => (Text.number? (Text.dropPlus ds)).map Int.ofNat
    | _ => none

-- The number without an exponent.
def render (d : Decimal) : String :=
  let ds := Nat.toDigits 10 d.digits
  let places := (-d.exponent).toNat
  .ofList <|
    if places = 0 then ds ++ List.replicate d.exponent.toNat '0'
    else if places < ds.length then
      ds.take (ds.length - places) ++ '.' :: ds.drop (ds.length - places)
    else '0' :: '.' :: List.replicate (places - ds.length) '0' ++ ds

-- The nearest double, unless the number is too large for one.
def nearest? (d : Decimal) : Option Double :=
  -- A number beyond these bounds is out of range, or rounds to zero, whatever its digits.
  let magnitude := d.exponent + (Nat.toDigits 10 d.digits).length
  if d.digits = 0 ∨ magnitude < -330 then some { m := 0, q := 0 }
  else if 310 < magnitude then none
  else
    let num := d.digits * Nat.pow 10 d.exponent.toNat
    let den := Nat.pow 10 (-d.exponent).toNat
    let scaled (q : Int) : Nat × Nat := (num * Nat.pow 2 (-q).toNat, den * Nat.pow 2 q.toNat)
    let q := max (num.log2 - den.log2 - 53 : Int) (-1074)
    let (a, b) := scaled q
    let q := if a / b < Nat.pow 2 53 then q else q + 1
    let (a, b) := scaled q
    let m := roundDiv a b
    let (m, q) := if m = Nat.pow 2 53 then (Nat.pow 2 52, q + 1) else (m, q)
    if 971 < q then none else some { m, q }

end Decimal

namespace Double

-- The ends of the interval of numbers that round to `4 · m` in quarters of the last place.
def bounds (d : Double) : Nat × Nat :=
  (4 * d.m - if d.m = Nat.pow 2 52 ∧ -1074 < d.q then 1 else 2, 4 * d.m + 2)

-- The neighbour of a double on the grid of the multiples of `10 ^ p` that rounds to the double, if one
-- does. A tie between two of them goes up.
def onGrid? (d : Double) (p : Int) : Option Decimal :=
  -- A number of quarters times `a` and a number of grid steps times `b` are in the same unit.
  let a := Nat.pow 2 (d.q - 2).toNat * Nat.pow 10 (-p).toNat
  let b := Nat.pow 10 p.toNat * Nat.pow 2 (2 - d.q).toNat
  let (low, high) := d.bounds
  let rounds (n : Nat) : Bool :=
    if d.m % 2 = 0 then low * a ≤ n * b && n * b ≤ high * a else low * a < n * b && n * b < high * a
  let n := 4 * d.m * a / b
  let above := rounds (n + 1)
  let nearer := (2 * n + 1) * b ≤ 2 * (4 * d.m * a)
  if above && (nearer || !rounds n) then some { digits := n + 1, exponent := p }
  else if rounds n then some { digits := n, exponent := p }
  else none

-- Tries ever finer grids. The first is too coarse to have a point below the double, and seventeen digits
-- tell any two doubles apart.
def shortest (d : Double) : Decimal :=
  if d.m = 0 then { digits := 0, exponent := 0 }
  else
    let coarsest := ((d.m.log2 : Int) + d.q + 1) * 30103 / 100000 + 1
    ((List.range 20).findSome? fun (i : Nat) => d.onGrid? (coarsest - i)).getD { digits := 0, exponent := 0 }

def render (d : Double) : String := d.shortest.render

end Double

end ClusterClient
