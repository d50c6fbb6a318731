import ClusterClient.Yaml.Scalar.Basic

namespace ClusterClient.Yaml.Block

-- What becomes of the line breaks at the end: none counts, one, or all.
inductive Chomping where
  | strip | clip | keep
  deriving DecidableEq, Repr

structure Header where
  chomping : Chomping := .clip
  -- How far the lines are indented against the surrounding collection.
  increment : Option Nat := none
  deriving DecidableEq, Repr

namespace Header

def readChomping (t : Source) : Option Chomping × Source :=
  match t with
  | .char _ '+' rest => (some .keep, rest)
  | .char _ '-' rest => (some .strip, rest)
  | t => (none, t)

def readIncrement (start : Mark) (t : Source) : Except Fault (Option Nat × Source) :=
  match t with
  | .char m c rest =>
    if c == '0' then failIn .blockScalar start .zeroIndentation m
    else if c.isDigit then .ok (some (c.toNat - '0'.toNat), rest)
    else .ok (none, t)
  | t => .ok (none, t)

-- The indicators for chomping and indentation come in either order.
def readIndicators (start : Mark) (t : Source) : Except Fault (Header × Source) := do
  let (before, t) := readChomping t
  let (increment, t) ← readIncrement start t
  let (after, t) := if before.isNone && increment.isSome then readChomping t else (none, t)
  return ({ chomping := (before <|> after).getD .clip, increment }, t)

-- Reads a header together with the rest of its line.
def read (start : Mark) (t : Source) : Except Fault (Header × Source) := do
  let (header, t) ← readIndicators start t
  let t := t.skipBlanks.skipComment
  if t.atLineEnd then return (header, t.tail)
  else failIn .blockScalar start .afterBlockHeader t.mark

end Header

-- In the literal style the lines stand as they are. In the folded style a line feed between two lines of text becomes a
-- space.
structure State where
  -- The characters so far, in reverse.
  seen : List Char := []
  -- The break that ended the last line.
  lineBreak : Option Char := none
  -- The breaks of the empty lines after it, in reverse.
  emptyLines : List Char := []
  -- Whether the last line began with a blank.
  afterBlank : Bool := false
  -- Not known before the first line that is not empty, unless the header gives it.
  indent : Option Nat
  -- The largest number of spaces on the empty lines.
  widest : Nat := 0
  inLine : Bool := false

namespace State

-- The indentation, once the first line that is not empty has been reached at a column.
def indentAt (s : State) (minimum column : Nat) : Nat :=
  s.indent.getD (max (max s.widest column) minimum)

-- Starts a line with its first character. In the folded style, a line feed between two lines that do
-- not begin with a blank becomes a space, or is dropped before empty lines.
def startLine (s : State) (style : Style) (indent : Nat) (c : Char) : State :=
  let blank := Source.isBlank c
  let folds := style = .folded ∧ s.lineBreak = some '\n' ∧ !s.afterBlank ∧ !blank
  let joint := if folds then (if s.emptyLines = [] then [' '] else []) else s.lineBreak.toList
  { seen := c :: s.emptyLines ++ joint ++ s.seen, indent := some indent, afterBlank := blank
    inLine := true }

-- The text of the scalar, with the breaks at its end chomped.
def text (s : State) (chomping : Chomping) : String :=
  let tail := match chomping with
    | .strip => []
    | .clip => s.lineBreak.toList
    | .keep => s.emptyLines ++ s.lineBreak.toList
  .ofList (tail ++ s.seen).reverse

end State

-- Reads lines up to the first that is not empty and not indented as far as the scalar.
def go (style : Style) (chomping : Chomping) (minimum : Nat) (start : Mark) (s : State) :
    Source → Except Fault (String × Source)
  | .stop m => .ok (s.text chomping, .stop m)
  | .char m c rest =>
    let before := s.indent.all (m.column < ·)
    if s.inLine then
      if Source.isBreak c then
        go style chomping minimum start { s with lineBreak := some c, inLine := false } rest
      else go style chomping minimum start { s with seen := c :: s.seen } rest
    else if c == ' ' && before then go style chomping minimum start s rest
    else if c == '\t' && before then failIn .blockScalar start .tabInBlock m
    else if Source.isBreak c then
      let s := { s with emptyLines := c :: s.emptyLines, widest := max s.widest m.column }
      go style chomping minimum start s rest
    else
      let indent := s.indentAt minimum m.column
      if m.column = indent then
        go style chomping minimum start (s.startLine style indent c) rest
      else .ok (s.text chomping, .char m c rest)

-- Reads a scalar from its indicator on. The lines are indented at least to the column `minimum`, and
-- `parent` is the column of the surrounding collection.
def read (style : Style) (parent : Option Nat) (t : Source) : Except Fault (String × Source) := do
  let (header, lines) ← Header.read t.mark t.tail
  let minimum := max 1 (parent.elim 0 (· + 1))
  go style header.chomping minimum t.mark
    { indent := header.increment.map (parent.getD 0 + ·) } lines

end ClusterClient.Yaml.Block
