import ClusterClient.KeyMap
import ClusterClient.Yaml.Event.FirstDocument
import ClusterClient.Yaml.Token.Lexer

namespace ClusterClient.Yaml

-- A document as a tree, as far as it could be read. Aliases go by the number of the node that they stand for.
inductive Node where
  | scalar (mark : Mark) (s : Scalar)
  | sequence (mark : Mark) (items : List Node) (isComplete : Bool)
  | mapping (mark : Mark) (entries : List (Node × Node)) (isComplete : Bool)
  | aliasOf (number : Nat)
  -- A node that a fault has kept from being read.
  | missing

namespace Node

-- Whether all that belongs to a node could be read.
def isComplete : Node → Bool
  | scalar _ _ | aliasOf _ => true
  | sequence _ _ complete | mapping _ _ complete => complete
  | missing => false

-- A collection whose end has not been reached.
structure Open where
  mark : Mark
  isMapping : Bool
  -- The items, or the keys and values in turn, the last one first.
  content : List Node := []

def pairs : List Node → List (Node × Node)
  | key :: value :: rest => (key, value) :: pairs rest
  | [key] => [(key, missing)]
  | [] => []

def Open.close (complete : Bool) (o : Open) : Node :=
  let content := o.content.reverse
  if o.isMapping then mapping o.mark (pairs content) complete else sequence o.mark content complete

-- What a list of open collections, the innermost first, is cut off to.
def cut (inner : Option Node) : List Open → Node
  | [] => inner.getD missing
  | o :: outer => cut (some ({ o with content := inner.toList ++ o.content }.close false)) outer

-- The node that the given events begin with, inside of the given collections.
def ofEvents (collections : List Open) : List (Event Nat) → Node
  | [] => cut none collections
  | e :: rest =>
    match e.item, collections with
    | .sequenceStart _, _ => ofEvents ({ mark := e.mark, isMapping := false } :: collections) rest
    | .mappingStart _, _ => ofEvents ({ mark := e.mark, isMapping := true } :: collections) rest
    | .sequenceEnd, o :: outer | .mappingEnd, o :: outer => put (o.close true) outer rest
    | .sequenceEnd, [] | .mappingEnd, [] => missing
    | .aliasOf number, _ => put (aliasOf number) collections rest
    | .scalar s _, _ => put (scalar e.mark s) collections rest
where
  put (n : Node) (collections : List Open) (rest : List (Event Nat)) : Node :=
    match collections with
    | [] => n
    | o :: outer => ofEvents ({ o with content := n :: o.content } :: outer) rest

end Node

-- The anchor of a node is numbered by the anchor names before it. Of two anchors with one number, the later
-- one in the text is meant.
structure Document where
  events : List (Event Nat) := []
  -- For the number of an anchor, how many events come before its node.
  places : KeyMap Nat Nat := .ofList []
  fault : Option Fault := none
  -- Whether the text ends with the document.
  isLast : Bool := true

namespace Item

variable {ρ τ : Type}

def anchor? : Item ρ → Option String
  | scalar _ a | sequenceStart a | mappingStart a => a
  | _ => none

-- The same item with its target looked up.
def resolve (look : ρ → Option τ) : Item ρ → Option (Item τ)
  | aliasOf target  => (look target).map aliasOf
  | scalar s a      => some (scalar s a)
  | sequenceStart a => some (sequenceStart a)
  | sequenceEnd     => some sequenceEnd
  | mappingStart a  => some (mappingStart a)
  | mappingEnd      => some mappingEnd

end Item

namespace Document

-- Numbers the anchors and resolves the aliases, up to the first alias without an anchor before it.
def resolve (numbers : KeyMap String Nat) (places : KeyMap Nat Nat) (position : Nat) :
    List (Event String) → Document
  | [] => { places }
  | e :: rest =>
    match e.item.resolve numbers.get? with
    | none => { places, fault := some { problem := .unknownAnchor, mark := e.mark } }
    | some item =>
      let document := match e.item.anchor? with
        | some name =>
          let number := numbers.size
          resolve (numbers.insert name number) (places.insert number position) (position + 1) rest
        | none => resolve numbers places (position + 1) rest
      { document with events := ⟨item, e.mark⟩ :: document.events }

-- The node that begins after the given number of events.
def node (d : Document) (position : Nat) : Node := Node.ofEvents [] (d.events.drop position)

def root (d : Document) : Node := d.node 0

-- The node that an alias stands for.
def target (d : Document) (number : Nat) : Node := (d.places.get? number).elim .missing d.node

-- The first document of a text, unless there is none.
def ofText (text : String) : Option Document :=
  match Source.ofString text with
  | .error fault => some { fault := some fault }
  | .ok t =>
    let first := FirstDocument.ofTokens t.tokens
    first.events.map fun excerpt =>
      let d := resolve (.ofList []) (.ofList []) 0 excerpt.items
      { d with fault := d.fault <|> excerpt.fault, isLast := first.isLast }

end Document

end ClusterClient.Yaml
