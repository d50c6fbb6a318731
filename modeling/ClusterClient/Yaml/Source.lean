import ClusterClient.Yaml.Fault

namespace ClusterClient.Yaml

def Mark.next (m : Mark) : Mark :=
  { m with index := m.index + 1, column := m.column + 1 }

-- The beginning of the next line, past a break of `width` characters.
def Mark.nextLine (m : Mark) (width : Nat) : Mark :=
  { index := m.index + width, line := m.line + 1, column := 0 }

-- A text in which every character knows its mark, and so does the end.
inductive Source where
  | stop (mark : Mark)
  | char (mark : Mark) (c : Char) (rest : Source)
  deriving DecidableEq, Repr

namespace Source

def isBreak (c : Char) : Bool := c == '\n' || c == '\u2028' || c == '\u2029'

def isBlank (c : Char) : Bool := c == ' ' || c == '\t'

-- The letters, digits and marks of which names are made.
def isName (c : Char) : Bool := c.isAlphanum || c == '_' || c == '-'

-- The characters that a text may hold.
def isAllowed (c : Char) : Bool :=
  c == '\t' || c == '\n' || c == '\r' || (' ' ≤ c && c ≤ '~') || c == '\u0085' ||
    ('\u00A0' ≤ c && c ≤ '\uD7FF') || ('\uE000' ≤ c && c ≤ '\uFFFD') || 0x10000 ≤ c.toNat

def hexDigit? (c : Char) : Option Nat :=
  if c.isDigit then some (c.toNat - '0'.toNat)
  else if 'a' ≤ c && c ≤ 'f' then some (c.toNat - 'a'.toNat + 10)
  else if 'A' ≤ c && c ≤ 'F' then some (c.toNat - 'A'.toNat + 10)
  else none

-- All line breaks but the line and paragraph separators are read as a line feed.
def ofChars (m : Mark) : List Char → Source
  | [] => stop m
  | '\r' :: '\n' :: cs => char m '\n' (ofChars (m.nextLine 2) cs)
  | c :: cs =>
    if c == '\r' || c == '\n' || c == '\u0085' then char m '\n' (ofChars (m.nextLine 1) cs)
    else if isBreak c then char m c (ofChars (m.nextLine 1) cs)
    else char m c (ofChars m.next cs)

-- The number of bytes before the first character that is not allowed.
def offsetOfControl? (offset : Nat) : List Char → Option Nat
  | [] => none
  | c :: cs => if isAllowed c then offsetOfControl? (offset + c.utf8Size) cs else some offset

def ofString (s : String) : Except Fault Source :=
  match offsetOfControl? 0 s.toList with
  | some offset => .error { problem := .controlCharacter, mark := {}, offset }
  | none => .ok (ofChars {} s.toList)

-- Where the text begins.
def mark : Source → Mark
  | stop m | char m _ _ => m

def length : Source → Nat
  | stop _ => 0
  | char _ _ rest => rest.length + 1

def head? : Source → Option Char
  | stop _ => none
  | char _ c _ => some c

def isDone (t : Source) : Bool := t.head?.isNone

def startsWith (t : Source) (c : Char) : Bool := t.head? == some c

-- Whether a character of the class comes next. The end is in no class.
def sees (p : Char → Bool) (t : Source) : Bool := t.head?.any p

def atLineEnd (t : Source) : Bool := t.isDone || t.sees isBreak

-- Whether nothing, a blank or a line break comes next.
def atGap (t : Source) : Bool := t.atLineEnd || t.sees isBlank

def tail : Source → Source
  | stop m => stop m
  | char _ _ rest => rest

def drop : Nat → Source → Source
  | 0, t => t
  | n + 1, t => drop n t.tail

def takeWhile (p : Char → Bool) : Source → List Char
  | stop _ => []
  | char _ c rest => if p c then c :: takeWhile p rest else []

def dropWhile (p : Char → Bool) : Source → Source
  | stop m => stop m
  | char m c rest => if p c then dropWhile p rest else char m c rest

def skipBlanks : Source → Source := dropWhile isBlank

-- Skips a comment, if one comes next.
def skipComment (t : Source) : Source :=
  if t.startsWith '#' then t.dropWhile (!isBreak ·) else t

-- Whether a line comes next that begins with three times the given character and nothing after them.
def atIndicator (c : Char) (t : Source) : Bool :=
  t.mark.column == 0 && t.startsWith c && t.tail.startsWith c && (t.drop 2).startsWith c &&
    (t.drop 3).atGap

def atDocumentIndicator (t : Source) : Bool := t.atIndicator '-' || t.atIndicator '.'

end Source

end ClusterClient.Yaml
