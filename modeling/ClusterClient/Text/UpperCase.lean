namespace ClusterClient.Text

-- The full upper case of a character, if it lies within ASCII. Outside ASCII that is so only of the dotless i, the long
-- s, the sharp s and the Latin ligatures.
def upperAscii? (c : Char) : Option (List Char) :=
  if c.toNat < 0x80 then some [c.toUpper]
  else match c.toNat with
    | 0x00DF => some ['S', 'S']
    | 0x0131 => some ['I']
    | 0x017F => some ['S']
    | 0xFB00 => some ['F', 'F']
    | 0xFB01 => some ['F', 'I']
    | 0xFB02 => some ['F', 'L']
    | 0xFB03 => some ['F', 'F', 'I']
    | 0xFB04 => some ['F', 'F', 'L']
    | 0xFB05 => some ['S', 'T']
    | 0xFB06 => some ['S', 'T']
    | _ => none

-- The upper case of a text, unless a character of it falls outside ASCII.
def upperWord? (s : String) : Option String :=
  (s.toList.mapM upperAscii?).map (String.ofList ·.flatten)

end ClusterClient.Text
