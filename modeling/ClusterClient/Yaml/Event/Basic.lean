import ClusterClient.Yaml.Token.Basic

namespace ClusterClient.Yaml

-- What an event tells. An alias refers to what it stands for by a value of type `ρ`.
inductive Item (ρ : Type) where
  | aliasOf (target : ρ)
  | scalar (s : Scalar) (anchor : Option String)
  | sequenceStart (anchor : Option String)
  | sequenceEnd
  | mappingStart (anchor : Option String)
  | mappingEnd
  deriving DecidableEq, Repr

structure Event (ρ : Type) where
  item : Item ρ
  mark : Mark
  deriving DecidableEq, Repr

-- A scalar that is left out.
def Event.leftOut {ρ : Type} (mark : Mark) : Event ρ := ⟨.scalar {} none, mark⟩

-- Reads from a list of tokens. Without a fault it fails for want of tokens.
abbrev TokenReader := StateT (List Token) (Except (Option Fault))

namespace TokenReader

def peek : TokenReader Token := do
  match ← get with
  | t :: _ => return t
  | [] => throw none

def skip : TokenReader Unit := modify List.tail

def refuse {α : Type} (problem : Problem) (mark : Mark) : TokenReader α :=
  throw (some { problem, mark })

def refuseIn {α : Type} (activity : Activity) (start : Mark) (problem : Problem) (mark : Mark) :
    TokenReader α :=
  throw (some { problem, mark, context := some (activity, start) })

end TokenReader

open TokenReader

-- What the tag handles of a document stand for.
abbrev TagHandles := List (String × String)

def TagHandles.standard : TagHandles := [("!", "!"), ("!!", "tag:yaml.org,2002:")]

-- The anchor and the tag of a node, which stand before it in either order.
structure Properties where
  anchor : Option String := none
  -- The handle and the suffix of the tag, and its mark.
  tag : Option (String × String × Mark) := none

def Properties.read : TokenReader Properties := do
  let first ← peek
  match first.symbol with
  | .anchor anchor =>
    skip
    let second ← peek
    match second.symbol with
    | .tag handle suffix =>
      skip
      return { anchor, tag := some (handle, suffix, second.start) }
    | _ => return { anchor }
  | .tag handle suffix =>
    skip
    let tag := some (handle, suffix, first.start)
    let second ← peek
    match second.symbol with
    | .anchor anchor =>
      skip
      return { anchor, tag }
    | _ => return { tag }
  | _ => return {}

-- The full name of the tag.
def Properties.tagName (handles : TagHandles) (start : Mark) (p : Properties) :
    TokenReader (Option String) := do
  match p.tag with
  | none => return none
  | some (handle, suffix, mark) =>
    if handle = "" then return suffix
    match handles.lookup handle with
    | some meaning => return meaning ++ suffix
    | none => refuseIn .node start .unknownTagHandle mark

end ClusterClient.Yaml
