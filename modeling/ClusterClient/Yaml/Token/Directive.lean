import ClusterClient.Yaml.Token.Property

namespace ClusterClient.Yaml.Directive

-- Reads a part of a version number, of nine digits at most.
def readNumber (start : Mark) (t : Source) : Except Fault (Nat × Source) :=
  let digits := t.takeWhile Char.isDigit
  let rest := t.dropWhile Char.isDigit
  if digits = [] then failIn .versionDirective start .noVersionNumber t.mark
  else if 9 < digits.length then failIn .versionDirective start .longVersionNumber (t.drop 9).mark
  else .ok (Nat.ofDigitChars 10 digits 0, rest)

def readVersion (start : Mark) (t : Source) : Except Fault (Symbol × Source) := do
  let (major, t) ← readNumber start t.skipBlanks
  if t.startsWith '.' then
    let (minor, t) ← readNumber start t.tail
    return (.versionDirective major minor, t)
  else failIn .versionDirective start .noVersionDot t.mark

-- A handle with a name in it ends with another exclamation mark.
def readHandle (start : Mark) (t : Source) : Except Fault (String × Source) :=
  if t.startsWith '!' then
    let name := t.tail.takeWhile Source.isName
    let rest := t.tail.dropWhile Source.isName
    if rest.startsWith '!' then .ok (.ofList ('!' :: name ++ ['!']), rest.tail)
    else if name = [] then .ok ("!", rest)
    else failIn .tagDirectiveHandleEnd start .noTagMark rest.mark
  else failIn .tagDirectiveHandle start .noTagMark t.mark

def readTag (start : Mark) (t : Source) : Except Fault (Symbol × Source) := do
  let (handle, t) ← readHandle start t.skipBlanks
  unless t.sees Source.isBlank do failIn .tagDirective start .noBlank t.mark
  let (meaning, t) ← Tag.readName .tagDirectivePrefix start true t.skipBlanks
  unless t.atGap do failIn .tagDirective start .noBlankOrBreak t.mark
  return (.tagDirective handle meaning, t)

-- Reads a directive from its percent sign to the end of its line.
def read (t : Source) : Except Fault (Symbol × Source) := do
  let start := t.mark
  let name := t.tail.takeWhile Source.isName
  let rest := t.tail.dropWhile Source.isName
  if name = [] then failIn .directive start .noDirectiveName rest.mark
  unless rest.atGap do failIn .directive start .directiveNameCharacter rest.mark
  let (symbol, rest) ← match String.ofList name with
    | "YAML" => readVersion start rest
    | "TAG" => readTag start rest
    | _ => failIn .directive start .unknownDirective rest.mark
  let rest := rest.skipBlanks.skipComment
  unless rest.atLineEnd do failIn .directive start .afterDirective rest.mark
  return (symbol, rest.tail)

end ClusterClient.Yaml.Directive
