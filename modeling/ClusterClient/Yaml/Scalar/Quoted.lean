import ClusterClient.Yaml.Scalar.Basic

namespace ClusterClient.Yaml.Quoted

-- Reads on after the reversed characters `seen` and a gap, up to the single quote that ends the
-- scalar.
def single (start : Mark) (seen : List Char) (gap : Gap) : Source → Except Fault (String × Source)
  | .stop m => failIn .quotedScalar start .endInQuoted m
  | .char m c rest =>
    if Source.isBreak c then single start seen (gap.lineBreak c) rest
    else if Source.isBlank c then single start seen (gap.blank c) rest
    else if (Source.char m c rest).atDocumentIndicator then
      failIn .quotedScalar start .documentInQuoted m
    else
      let seen := gap.folded ++ seen
      if c == '\'' then
        match rest with
        | .char _ '\'' rest => single start ('\'' :: seen) .empty rest
        | rest => .ok (.ofList seen.reverse, rest)
      else single start (c :: seen) .empty rest

-- The characters that a backslash and one character stand for.
def escapes : List (Char × Char) :=
  [('0', '\x00'), ('a', '\x07'), ('b', '\x08'), ('t', '\t'), ('\t', '\t'), ('n', '\n'), ('v', '\x0b'),
    ('f', '\x0c'), ('r', '\r'), ('e', '\x1b'), (' ', ' '), ('"', '"'), ('/', '/'), ('\\', '\\'),
    ('N', '\u0085'), ('_', '\u00a0'), ('L', '\u2028'), ('P', '\u2029')]

-- The number of hexadecimal digits that an escape by character code takes.
def codeLength? : Char → Option Nat
  | 'x' => some 2
  | 'u' => some 4
  | 'U' => some 8
  | _   => none

-- What is being read in double quotes: the text, after a gap, or a character code that began at a
-- mark and lacks some digits yet.
inductive Mode where
  | text (gap : Gap)
  | code (start : Mark) (lacking value : Nat)

-- Reads on after the reversed characters `seen`, up to the double quote that ends the scalar.
def double (start : Mark) (seen : List Char) : Mode → Source → Except Fault (String × Source)
  | .text _, .stop m => failIn .quotedScalar start .endInQuoted m
  | .code codeStart _ _, .stop _ => failIn .escape start .noHexDigit codeStart
  | .text gap, .char m c rest =>
    if Source.isBreak c then double start seen (.text (gap.lineBreak c)) rest
    else if Source.isBlank c then double start seen (.text (gap.blank c)) rest
    else if (Source.char m c rest).atDocumentIndicator then
      failIn .quotedScalar start .documentInQuoted m
    else
      let seen := gap.folded ++ seen
      if c == '"' then .ok (.ofList seen.reverse, rest)
      else if c == '\\' then
        match rest with
        | .stop _ => failIn .escape start .unknownEscape m
        | .char _ e rest =>
          if Source.isBreak e then double start seen (.text (.breaks none [])) rest
          else match escapes.lookup e, codeLength? e with
            | some c, _ => double start (c :: seen) (.text .empty) rest
            | none, some n => double start seen (.code rest.mark n 0) rest
            | none, none => failIn .escape start .unknownEscape m
      else double start (c :: seen) (.text .empty) rest
  | .code codeStart lacking value, .char _ c rest =>
    match Source.hexDigit? c with
    | none => failIn .escape start .noHexDigit codeStart
    | some d =>
      let value := 16 * value + d
      if lacking ≤ 1 then
        if value.isValidChar then double start (Char.ofNat value :: seen) (.text .empty) rest
        else failIn .escape start .noCharacterCode codeStart
      else double start seen (.code codeStart (lacking - 1) value) rest

-- Reads a scalar from its opening quote on.
def read (style : Style) (t : Source) : Except Fault (String × Source) :=
  if style = .singleQuoted then single t.mark [] .empty t.tail
  else double t.mark [] (.text .empty) t.tail

end ClusterClient.Yaml.Quoted
