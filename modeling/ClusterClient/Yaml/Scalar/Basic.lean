import ClusterClient.Yaml.Source

namespace ClusterClient.Yaml

inductive Style where
  | plain | singleQuoted | doubleQuoted | literal | folded
  deriving DecidableEq, Repr

structure Scalar where
  text : String := ""
  style : Style := .plain
  tag : Option String := none
  deriving DecidableEq, Repr

-- A plain scalar without characters stands for a value that is left out.
def Scalar.isLeftOut (s : Scalar) : Bool := s.text == "" && s.style == .plain

-- A run of blanks and line breaks in a flow scalar: within a line it counts as it is, and over several lines it is
-- folded.
inductive Gap where
  -- Blanks within a line, the last one first.
  | blanks (last : List Char)
  -- Line breaks: the one that ends the line, unless it was escaped, and those of the empty lines
  -- after it, the last one first. Blanks around them do not count.
  | breaks (first : Option Char) (last : List Char)
  deriving DecidableEq, Repr

namespace Gap

def empty : Gap := blanks []

def isEmpty : Gap → Bool
  | blanks [] => true
  | _         => false

def hasBreak : Gap → Bool
  | blanks _   => false
  | breaks _ _ => true

def blank (c : Char) : Gap → Gap
  | blanks last       => blanks (c :: last)
  | breaks first last => breaks first last

def lineBreak (c : Char) : Gap → Gap
  | blanks _          => breaks (some c) []
  | breaks first last => breaks first (c :: last)

-- What a gap stands for, in reverse: a single line feed becomes a space, and a line feed before empty
-- lines is dropped.
def folded : Gap → List Char
  | blanks last             => last
  | breaks (some '\n') []   => [' ']
  | breaks (some '\n') last => last
  | breaks (some c) last    => last ++ [c]
  | breaks none last        => last

end Gap

end ClusterClient.Yaml
