import ClusterClient.Yaml.Token.Basic

namespace ClusterClient.Yaml

namespace Anchor

def mayFollow (c : Char) : Bool := ['?', ':', ',', ']', '}', '%', '@'].contains c || c.toNat == 0x60

-- Reads the name of an anchor or an alias after the character that marks it.
def read (activity : Activity) (t : Source) : Except Fault (String × Source) :=
  let name := t.tail.takeWhile Source.isName
  let rest := t.tail.dropWhile Source.isName
  if name ≠ [] ∧ (rest.atGap || rest.sees mayFollow) then .ok (.ofList name, rest)
  else failIn activity t.mark .noAnchorName rest.mark

end Anchor

namespace Tag

-- The number of octets of a character, by the first of them.
def width? (octet : Nat) : Option Nat :=
  if octet < 0x80 then some 1
  else if octet / 0x20 = 0x06 then some 2
  else if octet / 0x10 = 0x0E then some 3
  else if octet / 0x08 = 0x1E then some 4
  else none

-- The characters of a tag. Between angle brackets, and in a directive, there are some more.
def isUri (wide : Bool) (c : Char) : Bool :=
  Source.isName c ||
    [';', '/', '?', ':', '@', '&', '=', '+', '$', '.', '%', '!', '~', '*', '\'', '(', ')'].contains c ||
    (wide && [',', '[', ']'].contains c)

-- Reads on after the reversed characters `seen`. An octet may be given by two hexadecimal digits after a
-- percent sign; it is kept as the character of that number. The octets of one character stand together:
-- `lacking` of them have yet to come.
def readUri (activity : Activity) (start : Mark) (wide : Bool) (seen : List Char) (lacking : Nat) :
    Source → Except Fault (String × Source)
  | .stop m =>
    if lacking = 0 then .ok (.ofList seen.reverse, .stop m)
    else failIn activity start .noUriOctet m
  | .char m c rest =>
    if c == '%' then
      match rest with
      | .char _ a (.char _ b rest) =>
        match Source.hexDigit? a, Source.hexDigit? b with
        | some x, some y =>
          let octet := 16 * x + y
          if lacking = 0 then
            match width? octet with
            | some n => readUri activity start wide (Char.ofNat octet :: seen) (n - 1) rest
            | none => failIn activity start .leadingOctet m
          else if octet / 0x40 = 2 then
            readUri activity start wide (Char.ofNat octet :: seen) (lacking - 1) rest
          else failIn activity start .trailingOctet m
        | _, _ => failIn activity start .noUriOctet m
      | _ => failIn activity start .noUriOctet m
    else if lacking ≠ 0 then failIn activity start .noUriOctet m
    else if isUri wide c then readUri activity start wide (c :: seen) 0 rest
    else .ok (.ofList seen.reverse, .char m c rest)

-- Reads a name that has at least one character.
def readName (activity : Activity) (start : Mark) (wide : Bool) (t : Source) :
    Except Fault (String × Source) := do
  let (name, rest) ← readUri activity start wide [] 0 t
  if name = "" then failIn activity start .noTagUri rest.mark else return (name, rest)

-- Reads the handle and the suffix of a tag.
def readParts (t : Source) : Except Fault (String × String × Source) := do
  let start := t.mark
  if t.tail.startsWith '<' then
    let (suffix, rest) ← readName .tagSuffix start true (t.drop 2)
    if rest.startsWith '>' then return ("", suffix, rest.tail)
    else failIn .tag start .noTagClose rest.mark
  else
    let name := t.tail.takeWhile Source.isName
    let rest := t.tail.dropWhile Source.isName
    if rest.startsWith '!' then
      let (suffix, rest) ← readName .tagSuffix start false rest.tail
      return (.ofList ('!' :: name ++ ['!']), suffix, rest)
    else
      let (suffix, rest) ← readUri .tagSuffix start false name.reverse 0 rest
      return if suffix = "" then ("", "!", rest) else ("!", suffix, rest)

-- Reads a tag, which has to end before a gap, or before a comma in a flow collection.
def read (inFlow : Bool) (t : Source) : Except Fault (String × String × Source) := do
  let (handle, suffix, rest) ← readParts t
  if rest.atGap || (inFlow && rest.startsWith ',') then return (handle, suffix, rest)
  else failIn .tag t.mark .noBlankOrBreak rest.mark

end Tag

end ClusterClient.Yaml
