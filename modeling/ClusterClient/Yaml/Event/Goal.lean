import ClusterClient.Yaml.Event.Basic

namespace ClusterClient.Yaml

open TokenReader

-- What may come next, where a stack of goals reads the events from the tokens.
inductive Goal where
  -- What stands between the start and the end of a document.
  | content
  | documentEnd
  -- Block collections may begin in a block only, and sequences without indentation only as parts of
  -- block mappings.
  | node (inBlock unindented : Bool)
  -- The rest of a collection from an entry on. The mark is where the collection began.
  | blockEntry (start : Mark)
  | unindentedEntry
  | blockKey (start : Mark)
  | flowEntry (start : Mark) (isFirst : Bool)
  | flowKey (start : Mark) (isFirst : Bool)
  -- What follows the key of a mapping.
  | blockValue
  | flowValue
  | noValue
  -- A mapping with one entry in a flow sequence.
  | pairKey
  | pairValue
  | pairEnd

namespace Goal

-- What meeting a goal comes to: an event, if there is one, and the goals to be met next.
abbrev Outcome := TokenReader (Option (Event String) × List Goal)

-- A scalar that is left out, before the given goals.
def leftOut (mark : Mark) (goals : List Goal) : Outcome :=
  return (some (.leftOut mark), goals)

def emit (item : Item String) (mark : Mark) (goals : List Goal) : Outcome :=
  return (some ⟨item, mark⟩, goals)

def meetNode (handles : TagHandles) (inBlock unindented : Bool) : Outcome := do
  let first ← peek
  let start := first.start
  if let .aliasOf name := first.symbol then
    skip
    return ← emit (.aliasOf name) start []
  let properties ← Properties.read
  let t ← peek
  let tag ← properties.tagName handles start
  let anchor := properties.anchor
  match t.symbol, inBlock with
  | .scalar text style, _ =>
    skip
    emit (.scalar { text, style, tag := tag.filter (· ≠ "!") } anchor) start []
  | .flowSequenceStart, _ =>
    skip
    emit (.sequenceStart anchor) start [flowEntry t.start true]
  | .flowMappingStart, _ =>
    skip
    emit (.mappingStart anchor) start [flowKey t.start true]
  | .blockSequenceStart, true =>
    skip
    emit (.sequenceStart anchor) start [blockEntry t.start]
  | .blockMappingStart, true =>
    skip
    emit (.mappingStart anchor) start [blockKey t.start]
  | symbol, _ =>
    if unindented ∧ symbol = .blockEntry then emit (.sequenceStart anchor) start [unindentedEntry]
    else if anchor.isSome ∨ tag.isSome then emit (.scalar { tag } anchor) start []
    else refuseIn (if inBlock then .blockNode else .flowNode) start .noNodeContent t.start

-- Either the next token is one of those given, which means that a scalar is left out, or a node comes
-- next.
def nodeUnless (absent : List Symbol) (node : Goal) (leftOutMark : Option Mark) (goals : List Goal) :
    Outcome := do
  let t ← peek
  if t.symbol ∈ absent then leftOut (leftOutMark.getD t.start) goals
  else return (none, node :: goals)

-- What follows a colon, if there is one.
def meetValue (absent : List Symbol) (node : Goal) (markAtColon : Bool) : Outcome := do
  let t ← peek
  if t.symbol = .value then
    skip
    nodeUnless absent node (if markAtColon then some t.stop else none) []
  else leftOut t.start []

-- In a flow collection, a comma stands before every entry but the first, and the last may have one
-- behind it. Gives the token after the comma, unless the collection ends.
def nextFlowEntry (closing : Symbol) (activity : Activity) (start : Mark) (problem : Problem)
    (isFirst : Bool) : TokenReader Token := do
  let t ← peek
  if isFirst ∨ t.symbol = closing then return t
  else if t.symbol = .flowEntry then
    skip
    peek
  else refuseIn activity start problem t.start

def meet (handles : TagHandles) : Goal → Outcome
  | content => do
    let t ← peek
    match t.symbol with
    | .versionDirective _ _ | .tagDirective _ _ | .documentStart | .documentEnd | .streamEnd =>
      leftOut t.start []
    | _ => return (none, [node true false])
  | documentEnd => do
    if (← peek).symbol = .documentEnd then skip
    return (none, [])
  | node inBlock unindented => meetNode handles inBlock unindented
  | blockEntry start => do
    let t ← peek
    match t.symbol with
    | .blockEntry =>
      skip
      nodeUnless [.blockEntry, .blockEnd] (node true false) t.stop [blockEntry start]
    | .blockEnd =>
      skip
      emit .sequenceEnd t.start []
    | _ => refuseIn .blockSequence start .noEntryMark t.start
  | unindentedEntry => do
    let t ← peek
    if t.symbol = .blockEntry then
      skip
      nodeUnless [.blockEntry, .key, .value, .blockEnd] (node true false) t.stop [unindentedEntry]
    else emit .sequenceEnd t.start []
  | blockKey start => do
    let t ← peek
    match t.symbol with
    | .key =>
      skip
      nodeUnless [.key, .value, .blockEnd] (node true true) t.stop [blockValue, blockKey start]
    | .blockEnd =>
      skip
      emit .mappingEnd t.start []
    | _ => refuseIn .blockMapping start .noKey t.start
  | blockValue => meetValue [.key, .value, .blockEnd] (node true true) true
  | flowEntry start isFirst => do
    let t ← nextFlowEntry .flowSequenceEnd .flowSequence start .noSequenceComma isFirst
    match t.symbol with
    | .flowSequenceEnd =>
      skip
      emit .sequenceEnd t.start []
    | .key =>
      skip
      emit (.mappingStart none) t.start [pairKey, pairValue, pairEnd, flowEntry start false]
    | _ => return (none, [node false false, flowEntry start false])
  | flowKey start isFirst => do
    let t ← nextFlowEntry .flowMappingEnd .flowMapping start .noMappingComma isFirst
    match t.symbol with
    | .flowMappingEnd =>
      skip
      emit .mappingEnd t.start []
    | .key =>
      skip
      nodeUnless [.value, .flowEntry, .flowMappingEnd] (node false false) none
        [flowValue, flowKey start false]
    | _ => return (none, [node false false, noValue, flowKey start false])
  | flowValue => meetValue [.flowEntry, .flowMappingEnd] (node false false) false
  | noValue => do leftOut (← peek).start []
  | pairKey => do
    let t ← peek
    if t.symbol ∈ [.value, .flowEntry, .flowSequenceEnd] then
      -- The token that stands in the place of a key is used up.
      skip
      leftOut t.stop []
    else return (none, [node false false])
  | pairValue => meetValue [.flowEntry, .flowSequenceEnd] (node false false) false
  | pairEnd => do emit .mappingEnd (← peek).start []

-- Meets up to `n` goals, and says what tokens are left or what fault there was.
def run (handles : TagHandles) : (n : Nat) → List Goal → List Token →
    List (Event String) × Except (Option Fault) (List Token)
  | _, [], tokens => ([], .ok tokens)
  | 0, _, _ => ([], .error none)
  | n + 1, goal :: goals, tokens =>
    match (goal.meet handles).run tokens with
    | .error fault => ([], .error fault)
    | .ok ((event, next), tokens) =>
      let (events, left) := run handles n (next ++ goals) tokens
      (event.toList ++ events, left)

end Goal

end ClusterClient.Yaml
