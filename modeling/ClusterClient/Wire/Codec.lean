import ClusterClient.KeyMap
import ClusterClient.Wire.Number

namespace ClusterClient.Wire

-- How the values of a type are written in each format, how many bytes that takes, and how they are read back from the
-- front of a byte string.
structure Codec (α : Type) where
  size : Format → α → Nat
  put : Format → α → Bytes
  take : Format → Bytes → Except Fault (α × Bytes)

namespace Codec

variable {α β : Type}

-- The codec of a type whose values are those of another one in a different dress.
def imap (c : Codec α) (wrap : α → β) (unwrap : β → α) : Codec β where
  size f b := c.size f (unwrap b)
  put f b := c.put f (unwrap b)
  take f bs := do
    let (a, rest) ← c.take f bs
    return (wrap a, rest)

def pair (c : Codec α) (d : Codec β) : Codec (α × β) where
  size f ab := c.size f ab.1 + d.size f ab.2
  put f ab := c.put f ab.1 ++ d.put f ab.2
  take f bs := do
    let (a, rest) ← c.take f bs
    let (b, rest) ← d.take f rest
    return ((a, b), rest)

def unsigned (w : Width) : Codec Nat where
  size
    | .binary, _  => w.bytes
    | .compact, n => sizeGroups w.groups n
  put
    | .binary, n  => putFixed w.bytes n
    | .compact, n => putGroups w.groups n
  take
    | .binary, bs  => takeFixed w.bytes bs
    | .compact, bs => takeGroups w.topGroup w.groups bs

def u16 : Codec UInt16 := (unsigned .w16).imap UInt16.ofNat UInt16.toNat

def u32 : Codec UInt32 := (unsigned .w32).imap UInt32.ofNat UInt32.toNat

def u64 : Codec UInt64 := (unsigned .w64).imap UInt64.ofNat UInt64.toNat

-- The natural number that stands for a signed one: its two's complement in the binary format, and
-- its place in the zigzag order in the compact format.
def signed (w : Width) : Codec Int where
  size f i := (unsigned w).size f (image f i)
  put f i := (unsigned w).put f (image f i)
  take f bs := do
    let (n, rest) ← (unsigned w).take f bs
    return (preimage f n, rest)
where
  image : Format → Int → Nat
    | .binary, i  => (i % w.modulus).toNat
    | .compact, i => zigzag i
  preimage : Format → Nat → Int
    | .binary, n  => (n : Int).bmod w.modulus
    | .compact, n => unzigzag n

def i32 : Codec Int32 := (signed .w32).imap Int32.ofInt Int32.toInt

def i64 : Codec Int64 := (signed .w64).imap Int64.ofInt Int64.toInt

-- The first `n` bytes, if there are as many.
def takeContents (f : Format) (n : Nat) (bs : Bytes) : Except Fault (Bytes × Bytes) :=
  if n ≤ bs.length then .ok (bs.splitAt n)
  else match f with
    | .binary  => .error .cutContents
    | .compact => .error .endOfBuffer

-- A byte string after its length.
def bytes : Codec Bytes where
  size f bs := (unsigned .w64).size f bs.length + bs.length
  put f bs := (unsigned .w64).put f bs.length ++ bs
  take f bs := do
    let (n, rest) ← (unsigned .w64).take f bs
    takeContents f n rest

-- A text is written as the byte string of its UTF-8 form.
def text : Codec String where
  size f s := (unsigned .w64).size f s.utf8ByteSize + s.utf8ByteSize
  put f s := bytes.put f (Utf8.encode s)
  take f bs := do
    let (contents, rest) ← bytes.take f bs
    match f, Utf8.decode contents with
    | _, .ok s => .ok (s, rest)
    | .binary, .error e => .error (.text e)
    | .compact, .error _ => .error .compactText

-- A byte that is 0 or 1.
def bit (bad : UInt8 → Fault) (compactBad : Fault) : Codec Bool where
  size _ _ := 1
  put _ b := [if b then 1 else 0]
  take
    | .binary, []  => .error .cutField
    | .compact, [] => .error .endOfBuffer
    | f, b :: bs =>
      if b = 0 then .ok (false, bs)
      else if b = 1 then .ok (true, bs)
      else match f with
        | .binary  => .error (bad b)
        | .compact => .error compactBad

def bool : Codec Bool := bit .boolByte .compactBool

def option (c : Codec α) : Codec (Option α) where
  size f
    | none   => 1
    | some a => 1 + c.size f a
  put f
    | none   => presence.put f false
    | some a => presence.put f true ++ c.put f a
  take f bs := do
    let (present, rest) ← presence.take f bs
    if present then
      let (a, rest) ← c.take f rest
      return (some a, rest)
    else
      return (none, rest)
where
  presence : Codec Bool := bit .optionByte .compactOption

-- The size of values in a row.
def sizeMany (c : Codec α) (f : Format) : List α → Nat
  | [] => 0
  | a :: as => c.size f a + sizeMany c f as

-- Exactly `n` values in a row.
def takeMany (c : Codec α) (f : Format) : (n : Nat) → Bytes → Except Fault (List α × Bytes)
  | 0, bs => .ok ([], bs)
  | n + 1, bs => do
    let (a, rest) ← c.take f bs
    let (as, rest) ← takeMany c f n rest
    return (a :: as, rest)

def list (c : Codec α) : Codec (List α) where
  size f as := (unsigned .w64).size f as.length + sizeMany c f as
  put f as := (unsigned .w64).put f as.length ++ as.flatMap (c.put f)
  take f bs := do
    let (n, rest) ← (unsigned .w64).take f bs
    takeMany c f n rest

-- A map is written as the list of its entries. Where a key occurs twice in what is read, the later
-- entry wins.
def keyMap [DecidableEq α] (c : Codec α) (d : Codec β) : Codec (KeyMap α β) :=
  (list (pair c d)).imap KeyMap.ofList KeyMap.entries

-- The number of a variant among `count`.
def variant (count : Nat) : Codec Nat where
  size := (unsigned .w32).size
  put := (unsigned .w32).put
  take f bs := do
    let (n, rest) ← (unsigned .w32).take f bs
    if n < count then return (n, rest)
    else match f with
      | .binary  => .error (.variantIndex n count)
      | .compact => .error .compactVariant

end Codec

-- Types to choose from, numbered from zero: the number of a value's type, and how the value is written
-- after that number.
structure Choice (α : Type) where
  count : Nat
  index : α → Nat
  size : Format → α → Nat
  put : Format → α → Bytes
  take : Format → (index : Nat) → Bytes → Except Fault (α × Bytes)

namespace Choice

variable {α β : Type}

def only (c : Codec α) : Choice α where
  count := 1
  index _ := 0
  size := c.size
  put := c.put
  take f _ := c.take f

-- The types of `d` are numbered after those of `c`.
def or (c : Choice α) (d : Choice β) : Choice (α ⊕ β) where
  count := c.count + d.count
  index
    | .inl a => c.index a
    | .inr b => c.count + d.index b
  size f
    | .inl a => c.size f a
    | .inr b => d.size f b
  put f
    | .inl a => c.put f a
    | .inr b => d.put f b
  take f i bs := do
    if i < c.count then
      let (a, rest) ← c.take f i bs
      return (.inl a, rest)
    else
      let (b, rest) ← d.take f (i - c.count) bs
      return (.inr b, rest)

-- The number of the type, then the value.
def codec (c : Choice α) : Codec α where
  size f a := (Codec.variant c.count).size f (c.index a) + c.size f a
  put f a := (Codec.variant c.count).put f (c.index a) ++ c.put f a
  take f bs := do
    let (i, rest) ← (Codec.variant c.count).take f bs
    c.take f i rest

end Choice

end ClusterClient.Wire
