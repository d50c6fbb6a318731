import ClusterClient.Yaml.Scalar.Basic

namespace ClusterClient.Yaml

structure Plain where
  text : String
  -- What comes after the scalar and the gap behind it.
  rest : Source
  -- Whether the gap behind the scalar has a line break.
  endsLine : Bool

namespace Plain

def isFlowIndicator (c : Char) : Bool := [',', '[', ']', '{', '}'].contains c

-- Reads on after the reversed characters `seen` and a gap. A continuation line starts at the column
-- `indent` or to the right of it, or anywhere in a flow collection.
def go (inFlow : Bool) (indent : Nat) (start : Mark) (seen : List Char) (gap : Gap) :
    Source → Except Fault Plain
  | .stop m => .ok { text := .ofList seen.reverse, rest := .stop m, endsLine := gap.hasBreak }
  | .char m c rest =>
    let here := Source.char m c rest
    let done := { text := .ofList seen.reverse, rest := here, endsLine := gap.hasBreak }
    if Source.isBreak c then go inFlow indent start seen (gap.lineBreak c) rest
    else if Source.isBlank c then
      if c == '\t' && gap.hasBreak && m.column < indent then
        failIn .plainScalar start .tabInPlain m
      else go inFlow indent start seen (gap.blank c) rest
    else if !gap.isEmpty && ((!inFlow && m.column < indent) || here.atDocumentIndicator || c == '#') then
      .ok done
    else if inFlow && c == ':' && rest.sees (fun n => n == '?' || isFlowIndicator n) then
      failIn .plainScalar start .colonInPlain m
    else if (c == ':' && rest.atGap) || (inFlow && isFlowIndicator c) then .ok done
    else go inFlow indent start (c :: gap.folded ++ seen) .empty rest

def read (inFlow : Bool) (indent : Nat) (t : Source) : Except Fault Plain :=
  go inFlow indent t.mark [] .empty t

end Plain

end ClusterClient.Yaml
