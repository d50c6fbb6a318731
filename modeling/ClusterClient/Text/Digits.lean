namespace ClusterClient.Text

-- The number that one digit or more spell.
def number? (cs : List Char) : Option Nat :=
  if cs ≠ [] ∧ cs.all Char.isDigit then some (Nat.ofDigitChars 10 cs 0) else none

-- The characters without a plus sign before them.
def dropPlus : List Char → List Char
  | '+' :: cs => cs
  | cs => cs

end ClusterClient.Text
