namespace ClusterClient

structure Duration where
  secs : UInt64
  nanos : UInt32
  nanos_lt : nanos.toNat < 1000000000 := by decide
  deriving DecidableEq

namespace Duration

instance : Inhabited Duration := ⟨{ secs := 0, nanos := 0 }⟩

def totalNanos (d : Duration) : Nat :=
  d.secs.toNat * 1000000000 + d.nanos.toNat

instance : LE Duration where
  le a b := a.totalNanos ≤ b.totalNanos

instance (a b : Duration) : Decidable (a ≤ b) :=
  inferInstanceAs (Decidable (a.totalNanos ≤ b.totalNanos))

def ofMillis (ms : UInt64) : Duration where
  secs := ms / 1000
  nanos := (ms % 1000).toUInt32 * 1000000
  nanos_lt := by
    have h : (ms % 1000).toNat < 1000 := by
      simp only [UInt64.toNat_mod]; exact Nat.mod_lt _ (by decide)
    rw [UInt32.toNat_mul, UInt64.toNat_toUInt32, show (1000000 : UInt32).toNat = 1000000 from rfl,
      Nat.mod_eq_of_lt (by omega), Nat.mod_eq_of_lt (by omega)]
    omega

-- The number of whole milliseconds as a 64-bit word: what lies above wraps around.
def millis (d : Duration) : UInt64 :=
  UInt64.ofNat (d.totalNanos / 1000000)

-- The least number of whole milliseconds that is not shorter.
def millisUp (d : Duration) : Nat :=
  (d.totalNanos + 999999) / 1000000

-- A whole part and a decimal fraction of `width` digits, without trailing zeros.
def decimal (whole fraction width : Nat) : String :=
  let digits := (Nat.toDigits 10 fraction).leftpad width '0'
  let kept := (digits.reverse.dropWhile (· == '0')).reverse
  if kept.isEmpty then toString whole else s!"{whole}." ++ String.ofList kept

def render (d : Duration) : String :=
  let n := d.nanos.toNat
  if d.secs ≠ 0 then decimal d.secs.toNat n 9 ++ "s"
  else if 1000000 ≤ n then decimal (n / 1000000) (n % 1000000) 6 ++ "ms"
  else if 1000 ≤ n then decimal (n / 1000) (n % 1000) 3 ++ "µs"
  else s!"{n}ns"

end Duration

end ClusterClient
