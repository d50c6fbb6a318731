namespace ClusterClient.Yaml

-- A place in a text. A line break counts as one place on its line, even if it takes two characters.
structure Mark where
  index : Nat := 0
  line : Nat := 0
  column : Nat := 0
  deriving DecidableEq, Repr

def Mark.isStart (m : Mark) : Bool := m.line == 0 && m.column == 0

def Mark.render (m : Mark) : String := s!"line {m.line + 1} column {m.column + 1}"

-- The mark as the end of a sentence.
def Mark.suffix (m : Mark) : String := if m.isStart then "" else s!" at {m.render}"

-- What was being read.
inductive Activity where
  | nextToken | simpleKey
  | directive | versionDirective | tagDirective
  | tagDirectiveHandle | tagDirectiveHandleEnd | tagDirectivePrefix
  | tag | tagSuffix | anchor | aliasOf
  | plainScalar | quotedScalar | escape | blockScalar
  | node | blockNode | flowNode
  | blockSequence | blockMapping | flowSequence | flowMapping
  deriving DecidableEq, Repr

def Activity.text : Activity → String
  | nextToken             => "while scanning for the next token"
  | simpleKey             => "while scanning a simple key"
  | directive             => "while scanning a directive"
  | versionDirective      => "while scanning a %YAML directive"
  | tagDirective          => "while scanning a %TAG directive"
  | tagDirectiveHandle    => "while scanning a tag directive"
  | tagDirectiveHandleEnd => "while parsing a tag directive"
  | tagDirectivePrefix    => "while parsing a %TAG directive"
  | tag                   => "while scanning a tag"
  | tagSuffix             => "while parsing a tag"
  | anchor                => "while scanning an anchor"
  | aliasOf               => "while scanning an alias"
  | plainScalar           => "while scanning a plain scalar"
  | quotedScalar          => "while scanning a quoted scalar"
  | escape                => "while parsing a quoted scalar"
  | blockScalar           => "while scanning a block scalar"
  | node                  => "while parsing a node"
  | blockNode             => "while parsing a block node"
  | flowNode              => "while parsing a flow node"
  | blockSequence         => "while parsing a block collection"
  | blockMapping          => "while parsing a block mapping"
  | flowSequence          => "while parsing a flow sequence"
  | flowMapping           => "while parsing a flow mapping"

inductive Problem where
  -- characters
  | controlCharacter | noTokenStart
  -- keys and entries
  | keyWithoutColon | sequenceEntryHere | mappingKeyHere | mappingValueHere
  -- directives
  | noDirectiveName | directiveNameCharacter | unknownDirective | afterDirective
  | noVersionDot | noVersionNumber | longVersionNumber | noBlank | noBlankOrBreak
  | duplicateVersion | incompatibleVersion | duplicateTagHandle
  -- tags and anchors
  | noTagMark | noTagUri | noUriOctet | leadingOctet | trailingOctet | noTagClose | unknownTagHandle
  | noAnchorName | unknownAnchor
  -- scalars
  | colonInPlain | tabInPlain | documentInQuoted | endInQuoted | unknownEscape | noHexDigit
  | noCharacterCode | zeroIndentation | afterBlockHeader | tabInBlock
  -- structure
  | noDocumentStart | noNodeContent | noEntryMark | noKey | noSequenceComma | noMappingComma
  deriving DecidableEq, Repr

def Problem.text : Problem → String
  | controlCharacter       => "control characters are not allowed"
  | noTokenStart           => "found character that cannot start any token"
  | keyWithoutColon        => "could not find expected ':'"
  | sequenceEntryHere      => "block sequence entries are not allowed in this context"
  | mappingKeyHere         => "mapping keys are not allowed in this context"
  | mappingValueHere       => "mapping values are not allowed in this context"
  | noDirectiveName        => "could not find expected directive name"
  | directiveNameCharacter => "found unexpected non-alphabetical character"
  | unknownDirective       => "found unknown directive name"
  | afterDirective         => "did not find expected comment or line break"
  | noVersionDot           => "did not find expected digit or '.' character"
  | noVersionNumber        => "did not find expected version number"
  | longVersionNumber      => "found extremely long version number"
  | noBlank                => "did not find expected whitespace"
  | noBlankOrBreak         => "did not find expected whitespace or line break"
  | duplicateVersion       => "found duplicate %YAML directive"
  | incompatibleVersion    => "found incompatible YAML document"
  | duplicateTagHandle     => "found duplicate %TAG directive"
  | noTagMark              => "did not find expected '!'"
  | noTagUri               => "did not find expected tag URI"
  | noUriOctet             => "did not find URI escaped octet"
  | leadingOctet           => "found an incorrect leading UTF-8 octet"
  | trailingOctet          => "found an incorrect trailing UTF-8 octet"
  | noTagClose             => "did not find the expected '>'"
  | unknownTagHandle       => "found undefined tag handle"
  | noAnchorName           => "did not find expected alphabetic or numeric character"
  | unknownAnchor          => "unknown anchor"
  | colonInPlain           => "found unexpected ':'"
  | tabInPlain             => "found a tab character that violates indentation"
  | documentInQuoted       => "found unexpected document indicator"
  | endInQuoted            => "found unexpected end of stream"
  | unknownEscape          => "found unknown escape character"
  | noHexDigit             => "did not find expected hexdecimal number"
  | noCharacterCode        => "found invalid Unicode character escape code"
  | zeroIndentation        => "found an indentation indicator equal to 0"
  | afterBlockHeader       => "did not find expected comment or line break"
  | tabInBlock             => "found a tab character where an indentation space is expected"
  | noDocumentStart        => "did not find expected <document start>"
  | noNodeContent          => "did not find expected node content"
  | noEntryMark            => "did not find expected '-' indicator"
  | noKey                  => "did not find expected key"
  | noSequenceComma        => "did not find expected ',' or ']'"
  | noMappingComma         => "did not find expected ',' or '\x7d'"

structure Fault where
  problem : Problem
  mark : Mark
  -- The number of bytes before a character that no text may hold.
  offset : Nat := 0
  -- What was being read, and where that began.
  context : Option (Activity × Mark) := none
  deriving DecidableEq, Repr

namespace Fault

def place (f : Fault) : String :=
  if f.mark.isStart && f.offset != 0 then s!" at position {f.offset}" else f.mark.suffix

-- The beginning of what was being read is not shown a second time.
def contextText (f : Fault) : String :=
  match f.context with
  | none => ""
  | some (activity, start) =>
    let sameLineColumn := start.line = f.mark.line ∧ start.column = f.mark.column
    s!", {activity.text}" ++ if sameLineColumn then "" else start.suffix

def message (f : Fault) : String :=
  f.problem.text ++ f.place ++ f.contextText

end Fault

-- Fails while reading something that began at `start`.
def failIn {α : Type} (activity : Activity) (start : Mark) (problem : Problem) (mark : Mark) :
    Except Fault α :=
  .error { problem, mark, context := some (activity, start) }

-- What could be read of a list, and the fault that ended it, if one did.
structure Excerpt (α : Type) where
  items : List α := []
  fault : Option Fault := none
  deriving DecidableEq, Repr

end ClusterClient.Yaml
