import ClusterClient.Wire.Format

namespace ClusterClient.Wire

-- The widths in which numbers are written.
inductive Width where
  | w16
  | w32
  | w64
  deriving DecidableEq, Repr

namespace Width

def bytes : Width → Nat
  | w16 => 2
  | w32 => 4
  | w64 => 8

-- The number of values.
def modulus : Width → Nat
  | w16 => UInt16.size
  | w32 => UInt32.size
  | w64 => UInt64.size

-- The greatest number of seven-bit groups.
def groups : Width → Nat
  | w16 => 3
  | w32 => 5
  | w64 => 10

-- The greatest value of the last group.
def topGroup : Width → Nat
  | w16 => 3
  | w32 => 15
  | w64 => 1

end Width

-- The lowest `width` bytes of a number, least byte first.
def putFixed : (width : Nat) → Nat → Bytes
  | 0, _ => []
  | width + 1, n => UInt8.ofNat (n % 256) :: putFixed width (n / 256)

@[simp]
theorem length_putFixed (width n : Nat) : (putFixed width n).length = width := by
  induction width generalizing n with
  | zero => rfl
  | succ width ih => simp [putFixed, ih]

def takeFixed : (width : Nat) → Bytes → Except Fault (Nat × Bytes)
  | 0, bs => .ok (0, bs)
  | _ + 1, [] => .error .cutField
  | width + 1, b :: bs => do
    let (n, rest) ← takeFixed width bs
    return (b.toNat + 256 * n, rest)

def putGroups : (groups : Nat) → Nat → Bytes
  | 0, _ => []
  | groups + 1, n =>
    if n < 128 then [UInt8.ofNat n]
    else UInt8.ofNat (n % 128 + 128) :: putGroups groups (n / 128)

def sizeGroups : (groups : Nat) → Nat → Nat
  | 0, _ => 0
  | groups + 1, n => if n < 128 then 1 else sizeGroups groups (n / 128) + 1

-- Reads at most `groups` groups. Only the last one that is allowed is bounded by `top`, as the number
-- would not fit into its type otherwise.
def takeGroups (top : Nat) : (groups : Nat) → Bytes → Except Fault (Nat × Bytes)
  | 0, _ => .error .overlongNumber
  | _ + 1, [] => .error .endOfBuffer
  | groups + 1, b :: bs =>
    if b.toNat < 128 then
      if groups = 0 ∧ top < b.toNat then .error .overlongNumber else .ok (b.toNat, bs)
    else do
      let (n, rest) ← takeGroups top groups bs
      return (b.toNat - 128 + 128 * n, rest)

-- A number with its highest byte first.
def putBig (width n : Nat) : Bytes :=
  (putFixed width n).reverse

-- The number that a byte string stands for when its highest byte comes first.
def bigValue (bs : Bytes) : Nat :=
  bs.foldl (fun n b => n * 256 + b.toNat) 0

-- Sends 0, -1, 1, -2, 2, … to 0, 1, 2, 3, 4, …
def zigzag (i : Int) : Nat :=
  if 0 ≤ i then 2 * i.toNat else 2 * (-i).toNat - 1

def unzigzag (n : Nat) : Int :=
  if n % 2 = 0 then (n / 2 : Nat) else -((n / 2 + 1 : Nat) : Int)

end ClusterClient.Wire
