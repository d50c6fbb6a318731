import ClusterClient.Yaml.Token.Directive
import ClusterClient.Yaml.Scalar.Block
import ClusterClient.Yaml.Scalar.Plain
import ClusterClient.Yaml.Scalar.Quoted

namespace ClusterClient.Yaml

-- A place where a key may have begun.
structure OpenKey where
  -- How many tokens came before it.
  number : Nat
  mark : Mark
  -- Whether nothing but a key may stand there.
  required : Bool
  deriving DecidableEq, Repr

-- A key without a mark of its own is known only by its colon. The first token of what may be a key waits for the colon,
-- and so do the tokens behind it, as long as it can still come: a key goes over one line and 1024 characters at most.
structure Lexer where
  source : Source
  -- The number of tokens that have been released.
  released : Nat := 0
  -- The tokens that have been read and not been released.
  waiting : List Token := []
  -- The columns of the open block collections, the innermost first.
  indents : List Nat := []
  -- The place where the innermost flow collection, or the block around all of them, may have a key.
  key : Option OpenKey := none
  -- The same for what is around the innermost flow collection.
  outer : List (Option OpenKey) := []
  -- Whether a key may begin here.
  keyAllowed : Bool := true
  isDone : Bool := false

namespace Lexer

def mark (s : Lexer) : Mark := s.source.mark

def inFlow (s : Lexer) : Bool := !s.outer.isEmpty

-- The number of the next token.
def number (s : Lexer) : Nat := s.released + s.waiting.length

def push (symbol : Symbol) (start : Mark) (rest : Source) (s : Lexer) : Lexer :=
  { s with source := rest, waiting := s.waiting ++ [⟨symbol, start, rest.mark⟩] }

-- A token made of the next `n` characters.
def pushNext (symbol : Symbol) (n : Nat) (s : Lexer) : Lexer :=
  s.push symbol s.mark (s.source.drop n)

-- Puts a token without characters before the token of a number.
def insert (number : Nat) (symbol : Symbol) (mark : Mark) (s : Lexer) : Lexer :=
  { s with waiting := s.waiting.insertIdx (number - s.released) ⟨symbol, mark, mark⟩ }

-- Opens a block collection at a column, unless one of that column is open already.
def openBlock (symbol : Symbol) (number : Nat) (mark : Mark) (s : Lexer) : Lexer :=
  if !s.inFlow && s.indents.head?.all (· < mark.column) then
    { s with indents := mark.column :: s.indents }.insert number symbol mark
  else s

-- Closes the innermost block collections whose columns are in a class.
def closeBlocks (p : Nat → Bool) (s : Lexer) : Lexer :=
  if s.inFlow then s
  else
    let (closed, indents) := s.indents.span p
    { s with indents, waiting := s.waiting ++ closed.map fun _ => ⟨.blockEnd, s.mark, s.mark⟩ }

def closeAllBlocks (s : Lexer) : Lexer := s.closeBlocks fun _ => true

-- Gives up a place for a key.
def giveUp (s : Lexer) (k : OpenKey) : Except Fault (Option OpenKey) :=
  if k.required then failIn .simpleKey k.mark .keyWithoutColon s.mark else .ok none

def dropKey (s : Lexer) : Except Fault Lexer := do
  return { s with key := ← s.key.elim (.ok none) s.giveUp }

-- Remembers that a key may begin here.
def saveKey (s : Lexer) : Except Fault Lexer := do
  if s.keyAllowed then
    let required := !s.inFlow && s.indents.head? == some s.mark.column
    return { ← s.dropKey with key := some { number := s.number, mark := s.mark, required } }
  else return s

-- Gives up a place from which a key would reach too far.
def check (s : Lexer) (k : OpenKey) : Except Fault (Option OpenKey) :=
  if k.mark.line < s.mark.line || k.mark.index + 1024 < s.mark.index then s.giveUp k else .ok (some k)

def checkKeys (s : Lexer) : Except Fault Lexer := do
  return {
    s with
    outer := ← s.outer.mapM fun k => k.elim (.ok none) s.check
    key := ← s.key.elim (.ok none) s.check }

-- Skips blanks, line breaks and comments, and a byte order mark at the start of the text. Where a key
-- may begin in a block, a tab is no blank. After a line break in a block, a key may begin.
def skipGap (s : Lexer) : Lexer :=
  go s.inFlow s.keyAllowed false s.source
where
  go (inFlow keyAllowed inComment : Bool) : Source → Lexer
    | .stop m => { s with source := .stop m, keyAllowed }
    | .char m c rest =>
      if Source.isBreak c then go inFlow (keyAllowed || !inFlow) false rest
      else if inComment || c == ' ' || (c == '\t' && (inFlow || !keyAllowed)) ||
          (c == '\uFEFF' && m.index == 0) then go inFlow keyAllowed inComment rest
      else if c == '#' then go inFlow keyAllowed true rest
      else { s with source := .char m c rest, keyAllowed }

def readStreamEnd (s : Lexer) : Except Fault Lexer := do
  let m := s.mark
  let m := if m.column = 0 then m else { m with line := m.line + 1, column := 0 }
  let s ← { s with source := .stop m }.closeAllBlocks.dropKey
  return { s.pushNext .streamEnd 0 with keyAllowed := false, isDone := true }

def readDirective (s : Lexer) : Except Fault Lexer := do
  let s ← s.closeAllBlocks.dropKey
  let (symbol, rest) ← Directive.read s.source
  return { s.push symbol s.mark rest with keyAllowed := false }

def readDocumentIndicator (symbol : Symbol) (s : Lexer) : Except Fault Lexer := do
  let s ← s.closeAllBlocks.dropKey
  return { s.pushNext symbol 3 with keyAllowed := false }

def openFlow (symbol : Symbol) (s : Lexer) : Except Fault Lexer := do
  let s ← s.saveKey
  return { s.pushNext symbol 1 with outer := s.key :: s.outer, key := none, keyAllowed := true }

def closeFlow (symbol : Symbol) (s : Lexer) : Except Fault Lexer := do
  let s ← s.dropKey
  let s := match s.outer with
    | [] => s
    | key :: outer => { s with key, outer }
  return { s.pushNext symbol 1 with keyAllowed := false }

def readFlowEntry (s : Lexer) : Except Fault Lexer := do
  return { (← s.dropKey).pushNext .flowEntry 1 with keyAllowed := true }

-- An entry of a block collection with a mark of its own.
def readBlockMark (symbol opening : Symbol) (misplaced : Problem) (s : Lexer) :
    Except Fault Lexer := do
  unless s.inFlow || s.keyAllowed do throw { problem := misplaced, mark := s.mark }
  let s ← (s.openBlock opening s.number s.mark).dropKey
  return s.pushNext symbol 1

def readBlockEntry (s : Lexer) : Except Fault Lexer := do
  return { ← s.readBlockMark .blockEntry .blockSequenceStart .sequenceEntryHere with keyAllowed := true }

def readKey (s : Lexer) : Except Fault Lexer := do
  return { ← s.readBlockMark .key .blockMappingStart .mappingKeyHere with keyAllowed := !s.inFlow }

-- The colon that ends a key, which may have begun a while ago.
def readValue (s : Lexer) : Except Fault Lexer := do
  match s.key with
  | some k =>
    let s := (s.insert k.number .key k.mark).openBlock .blockMappingStart k.number k.mark
    return { s.pushNext .value 1 with key := none, keyAllowed := false }
  | none =>
    unless s.inFlow || s.keyAllowed do throw { problem := .mappingValueHere, mark := s.mark }
    let s := s.openBlock .blockMappingStart s.number s.mark
    return { s.pushNext .value 1 with keyAllowed := !s.inFlow }

-- A token with which a key may begin.
def readNamed (read : Source → Except Fault (Symbol × Source)) (s : Lexer) : Except Fault Lexer := do
  let s ← s.saveKey
  let (symbol, rest) ← read s.source
  return { s.push symbol s.mark rest with keyAllowed := false }

def readAnchor (activity : Activity) (symbol : String → Symbol) : Lexer → Except Fault Lexer :=
  readNamed fun t => do
    let (name, rest) ← Anchor.read activity t
    return (symbol name, rest)

def readTag (s : Lexer) : Except Fault Lexer :=
  s.readNamed fun t => do
    let (handle, suffix, rest) ← Tag.read s.inFlow t
    return (.tag handle suffix, rest)

def readQuoted (style : Style) : Lexer → Except Fault Lexer :=
  readNamed fun t => do
    let (text, rest) ← Quoted.read style t
    return (.scalar text style, rest)

def readBlockScalar (style : Style) (s : Lexer) : Except Fault Lexer := do
  let s ← s.dropKey
  let (text, rest) ← Block.read style s.indents.head? s.source
  return { s.push (.scalar text style) s.mark rest with keyAllowed := true }

def readPlain (s : Lexer) : Except Fault Lexer := do
  let s ← s.saveKey
  let plain ← Plain.read s.inFlow (s.indents.head?.elim 0 (· + 1)) s.source
  return { s.push (.scalar plain.text .plain) s.mark plain.rest with keyAllowed := plain.endsLine }

-- The characters that are or may become indicators.
def isIndicator (c : Char) : Bool :=
  ['-', '?', ':', ',', '[', ']', '{', '}', '#', '&', '*', '!', '|', '>', '\'', '"', '%', '@'].contains c ||
    c.toNat == 0x60

-- Whether a plain scalar may begin with a character before the given text.
def mayStartPlain (inFlow : Bool) (c : Char) (rest : Source) : Bool :=
  !(isIndicator c || Source.isBlank c || Source.isBreak c) || (c == '-' && !rest.sees Source.isBlank) ||
    (!inFlow && (c == '?' || c == ':') && !rest.atGap)

-- Reads the token that comes next.
def readToken (s : Lexer) : Except Fault Lexer := do
  let s ← s.skipGap.checkKeys
  let s := s.closeBlocks (s.mark.column < ·)
  match s.source with
  | .stop _ => s.readStreamEnd
  | .char m c rest =>
    let marks := s.inFlow || rest.atGap
    if m.column = 0 ∧ c = '%' then s.readDirective
    else if s.source.atIndicator '-' then s.readDocumentIndicator .documentStart
    else if s.source.atIndicator '.' then s.readDocumentIndicator .documentEnd
    else if c = '[' then s.openFlow .flowSequenceStart
    else if c = '{' then s.openFlow .flowMappingStart
    else if c = ']' then s.closeFlow .flowSequenceEnd
    else if c = '}' then s.closeFlow .flowMappingEnd
    else if c = ',' then s.readFlowEntry
    else if c = '-' ∧ rest.atGap then s.readBlockEntry
    else if c = '?' ∧ marks then s.readKey
    else if c = ':' ∧ marks then s.readValue
    else if c = '*' then s.readAnchor .aliasOf .aliasOf
    else if c = '&' then s.readAnchor .anchor .anchor
    else if c = '!' then s.readTag
    else if c = '|' ∧ !s.inFlow then s.readBlockScalar .literal
    else if c = '>' ∧ !s.inFlow then s.readBlockScalar .folded
    else if c = '\'' then s.readQuoted .singleQuoted
    else if c = '"' then s.readQuoted .doubleQuoted
    else if mayStartPlain s.inFlow c rest then s.readPlain
    else failIn .nextToken m .noTokenStart m

-- Releases the tokens before the first that may turn out to begin a key.
def release (s : Lexer) : List Token × Lexer :=
  let held := (s.key :: s.outer).filterMap fun k => k.map (·.number - s.released)
  let n := held.foldl min s.waiting.length
  (s.waiting.take n, { s with waiting := s.waiting.drop n, released := s.released + n })

-- Reads up to `n` tokens.
def run (s : Lexer) : (n : Nat) → Excerpt Token
  | 0 => {}
  | n + 1 =>
    match s.readToken >>= checkKeys with
    | .error fault => { fault := some fault }
    | .ok s =>
      let (tokens, s) := s.release
      if s.isDone then { items := tokens }
      else
        let more := run s n
        { more with items := tokens ++ more.items }

end Lexer

-- The tokens of a text. There is a character for each that is read, except for the end of the text.
def Source.tokens (t : Source) : Excerpt Token :=
  ({ source := t } : Lexer).run (t.length + 1)

end ClusterClient.Yaml
