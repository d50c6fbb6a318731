import ClusterClient.Yaml.Decode.Fault
import ClusterClient.Yaml.Node

namespace ClusterClient.Yaml

-- The reading of a document, with a count of the aliases that were followed.
abbrev Load := ReaderT Document (StateT Nat (Except DecodeFault))

abbrev Decoder (α : Type) := Path → Node → Load α

namespace Load

variable {α : Type}

-- Fails where the document is cut off.
def cutOff : Load α := do
  match (← read).fault with
  | some fault => throw (.text fault)
  | none => throw .endOfText

-- The node that an alias stands for. No more aliases may be followed than there are events, times a
-- hundred.
def follow : Node → Load Node
  | .aliasOf number => do
    let d ← read
    let count := (← get) + 1
    set count
    if 100 * d.events.length < count then throw .tooManyAliases
    return d.target number
  | n => return n

-- Takes what a decoder reads from the first document of a text. The text must not go on after it.
def run (decode : Decoder α) (d : Document) : Except DecodeFault α := do
  let (a, _) ← StateT.run (ReaderT.run (decode .root d.root) d) 0
  if let some fault := d.fault then throw (.text fault)
  unless d.isLast do throw .severalDocuments
  return a

end Load

namespace Scalar

def standardTag (name : String) : String := "tag:yaml.org,2002:" ++ name

-- Whether a scalar is plain, or literal with the standard tag of a name.
def isOf (name : String) (s : Scalar) : Bool :=
  s.style == .plain || (s.style == .literal && s.tag == some (standardTag name))

-- What a scalar means, if no value of a certain type is expected. A scalar with a standard tag has to be
-- of that form. A scalar with a tag of another kind, or one in quotes, is a text.
def value (s : Scalar) : Except Mismatch Value :=
  let tagged (v : Option Value) (expected : String) : Except Mismatch Value :=
    match v with
    | some v => .ok v
    | none => .error (.value (.value (.text s.text)) expected)
  if s.tag = some (standardTag "bool") then tagged ((Value.boolean? s.text).map .boolean) "a boolean"
  else if s.tag = some (standardTag "int") then tagged ((Value.integer? s.text).map .integer) "an integer"
  else if s.tag = some (standardTag "float") then tagged ((Value.float? s.text).map .float) "a float"
  else if s.tag = some (standardTag "null") then
    tagged (if Value.isNull s.text then some .null else none) "null"
  else if s.style = .plain ∧ s.tag.all (·.startsWith "!") then .ok (.ofPlain s.text)
  else .ok (.text s.text)

-- Why a scalar is not what is expected.
def mismatch (expected : String) (s : Scalar) : Mismatch :=
  match s.value with
  | .ok v => .type (.value v) expected
  | .error m => m

end Scalar

namespace Decoder

variable {α β σ : Type}

def scalar (expected : String) (f : Scalar → Except Mismatch α) : Decoder α := fun path n => do
  match ← Load.follow n with
  | .scalar mark s =>
    match f s with
    | .ok a => return a
    | .error m => throw (.mismatch m path mark)
  | .sequence mark _ _ => throw (.mismatch (.type .sequence expected) path mark)
  | .mapping mark _ _ => throw (.mismatch (.type .mapping expected) path mark)
  | .aliasOf _ | .missing => Load.cutOff

-- Every scalar is a text, whatever else it may mean.
def string : Decoder String := scalar "a string" fun s => .ok s.text

def boolean : Decoder Bool := scalar "a boolean" fun s =>
  match if s.isOf "bool" then Value.boolean? s.text else none with
  | some b => .ok b
  | none => .error (s.mismatch "a boolean")

-- A number below a bound that is at most the number of 64-bit words.
def natural (name : String) (bound : Nat) : Decoder Nat := scalar name fun s =>
  match (if s.isOf "int" then Value.unsigned? s.text else none).filter (· < UInt64.size) with
  | some n => if n < bound then .ok n else .error (.value (.value (.integer n)) name)
  | none => .error (s.mismatch name)

def u16 : Decoder UInt16 := fun path n => UInt16.ofNat <$> natural "u16" UInt16.size path n

def u32 : Decoder UInt32 := fun path n => UInt32.ofNat <$> natural "u32" UInt32.size path n

def u64 : Decoder UInt64 := fun path n => UInt64.ofNat <$> natural "u64" UInt64.size path n

def size : Decoder UInt64 := fun path n => UInt64.ofNat <$> natural "usize" UInt64.size path n

-- A sequence, or a scalar that is left out.
def list (item : Decoder α) : Decoder (List α) := fun path n => do
  match ← Load.follow n with
  | .sequence _ items complete =>
    let as ← items.zipIdx.mapM fun (n, i) => item (path.item i) n
    if complete then return as else Load.cutOff
  | .scalar mark s =>
    if s.isLeftOut then return []
    else throw (.mismatch (s.mismatch "a sequence") path mark)
  | .mapping mark _ _ => throw (.mismatch (.type .mapping "a sequence") path mark)
  | .aliasOf _ | .missing => Load.cutOff

-- A field of a record, and how its value changes what is known of the record.
structure Field (σ : Type) where
  name : String
  set : Path → Node → σ → Load σ

def Field.of (name : String) (decode : Decoder α) (set : σ → α → σ) : Field σ where
  name
  set path n s := set s <$> decode path n

-- The place of the value that goes with a key.
def place (path : Path) (key : Node) (name : String) : Path :=
  match key with
  | .scalar _ _ => path.field name
  | _ => path.someField

-- Reads the entries of a mapping into what is known of a record, with the names of the fields that have
-- been set. Unknown fields are passed over.
def entries (fields : List (Field σ)) (path : Path) (mark : Mark) (known : σ) (seen : List String) :
    List (Node × Node) → Load σ
  | [] => return known
  | (key, value) :: rest => do
    let name ← scalar "field identifier" (fun s => .ok s.text) path key
    match fields.find? (·.name == name) with
    | none => do
      unless value.isComplete do Load.cutOff
      entries fields path mark known seen rest
    | some field => do
      if seen.contains name then throw (.mismatch (.duplicate name) path mark)
      let known ← field.set (place path key name) value known
      entries fields path mark known (name :: seen) rest

-- A mapping, or a scalar that is left out.
def record (expected : String) (fields : List (Field σ)) (start : σ) (finish : σ → Except Mismatch α) :
    Decoder α := fun path n => do
  let finishAt (mark : Mark) (known : σ) : Load α :=
    match finish known with
    | .ok a => return a
    | .error m => throw (.mismatch m path mark)
  match ← Load.follow n with
  | .mapping mark content complete =>
    let known ← entries fields path mark start [] content
    if complete then finishAt mark known else Load.cutOff
  | .scalar mark s =>
    if s.isLeftOut then finishAt mark start
    else throw (.mismatch (s.mismatch expected) path mark)
  | .sequence mark _ _ => throw (.mismatch (.type .sequence expected) path mark)
  | .aliasOf _ | .missing => Load.cutOff

end Decoder

end ClusterClient.Yaml
