import ClusterClient.Proofs.Client.PageFault
import Mathlib

namespace ClusterClient

namespace Duration

variable {d d₁ d₂ : Duration}

-- The whole milliseconds of a duration can be counted in 64 bits.
def Fits (d : Duration) : Prop :=
  d.totalNanos < UInt64.size * 1000000

theorem Fits.of_le (h : d₁ ≤ d₂) (hf : d₂.Fits) : d₁.Fits :=
  Nat.lt_of_le_of_lt h hf

-- As many nanoseconds as a duration has, or fewer by less than a millisecond.
structure Near (nanos : Nat) (d : Duration) : Prop where
  le : nanos ≤ d.totalNanos
  lt : d.totalNanos < nanos + 1000000

theorem toNat_millis (d : Duration) : d.millis.toNat = d.totalNanos / 1000000 % UInt64.size :=
  UInt64.toNat_ofNat'

theorem Fits.toNat_millis (h : d.Fits) : d.millis.toNat = d.totalNanos / 1000000 := by
  rw [Duration.toNat_millis, Nat.mod_eq_of_lt (Nat.div_lt_of_lt_mul (Nat.mul_comm .. ▸ h))]

-- A duration that does not fit is further than a millisecond from all that can be counted.
theorem near_millis_iff (d : Duration) : Near (d.millis.toNat * 1000000) d ↔ d.Fits where
  mp h := by
    have hl := h.lt
    have hm := d.millis.toNat_lt
    simp only [Fits, UInt64.size]
    omega
  mpr h := by
    have hm := h.toNat_millis
    exact ⟨by omega, by omega⟩

theorem millis_le (h : d₁ ≤ d₂) (hf : d₂.Fits) : d₁.millis ≤ d₂.millis := by
  rw [UInt64.le_iff_toNat_le, (hf.of_le h).toNat_millis, hf.toNat_millis]
  exact Nat.div_le_div_right h

theorem totalNanos_ofMillis (ms : UInt64) : (ofMillis ms).totalNanos = ms.toNat * 1000000 := by
  have hr : (ms.toNat % 1000) % 2 ^ 32 = ms.toNat % 1000 := Nat.mod_eq_of_lt (by omega)
  have hn : (ms.toNat % 1000 * 1000000) % 2 ^ 32 = ms.toNat % 1000 * 1000000 := Nat.mod_eq_of_lt (by omega)
  simp only [totalNanos, ofMillis, UInt64.toNat_div, UInt64.toNat_mod, UInt32.toNat_mul, UInt64.toNat_toUInt32,
    UInt64.reduceToNat, UInt32.reduceToNat, hr, hn]
  omega

-- What two durations have become, in nanoseconds.
structure Kept (d₁ d₂ : Duration) (nanos₁ nanos₂ : Nat) : Prop where
  le     : nanos₁ ≤ nanos₂
  first  : Near nanos₁ d₁
  second : Near nanos₂ d₂

theorem kept_millis (h : d₁ ≤ d₂) (hf : d₂.Fits) :
    Kept d₁ d₂ (d₁.millis.toNat * 1000000) (d₂.millis.toNat * 1000000) where
  le     := Nat.mul_le_mul_right _ (UInt64.le_iff_toNat_le.mp (millis_le h hf))
  first  := d₁.near_millis_iff.mpr (hf.of_le h)
  second := d₂.near_millis_iff.mpr hf

end Duration

open Duration

namespace ClientConfig

-- The values of a configuration that are durations.
inductive Timeout where
  | connect
  | request
  | retryInterval
  | fetch

namespace Timeout

def setting : Timeout → Duration → Setting
  | connect       => .connectTimeout
  | request       => .requestTimeout
  | retryInterval => .retryInterval
  | fetch         => .fetchTimeout

def stored (c : ClientConfig) : Timeout → UInt64
  | connect       => c.connectTimeoutMs
  | request       => c.requestTimeoutMs
  | retryInterval => c.retryIntervalMs
  | fetch         => c.fetchTimeoutMs

-- The duration that clients of a configuration go by.
def used (c : ClientConfig) : Timeout → Duration
  | connect       => c.transport.connectTimeout
  | request       => c.transport.requestTimeout
  | retryInterval => c.retryPolicy.interval
  | fetch         => c.fetchTimeout

theorem stored_set (c : ClientConfig) (t : Timeout) (d : Duration) : t.stored (c.set (t.setting d)) = d.millis := by
  cases t <;> rfl

theorem used_eq (c : ClientConfig) (t : Timeout) : t.used c = .ofMillis (t.stored c) := by
  cases t <;> rfl

theorem totalNanos_used_set (c : ClientConfig) (t : Timeout) (d : Duration) :
    (t.used (c.set (t.setting d))).totalNanos = d.millis.toNat * 1000000 := by
  rw [used_eq, totalNanos_ofMillis, stored_set]

end Timeout

end ClientConfig

namespace DataClient

open Script

variable {d : DataClient Script.Channel} {s : Script DataRequest DataResponse}

-- The calls that a script has recorded once a query has been opened.
def callsOfOpen (d : DataClient Script.Channel) (s : Script DataRequest DataResponse) (text : String)
    (fetchSize : UInt32) (timeout : Duration) : List (Endpoint × DataRequest) :=
  (d.openQuery network.toNetwork text fetchSize timeout s).2.2.calls

theorem callsOfOpen_eq (ho : d.channel.isOpen) (text : String) (fetchSize : UInt32) (timeout : Duration) :
    d.callsOfOpen s text fetchSize timeout =
      s.calls ++ [(d.channel.endpoint, .fetchTimeseries text fetchSize timeout.millis)] := by
  have ⟨_, _, _, hr⟩ := network.exists_receives timeout (.fetchTimeseries text fetchSize timeout.millis) d.channel s
  have ⟨_, asked, _⟩ := receives_outcome hr ho
  rw [callsOfOpen, openQuery_of_receives hr, asked.calls_eq]
  rfl

end DataClient

-- Where two durations go, their order is kept and less than a millisecond is lost of each, if and only if the longer one
-- fits: in the values that are set, in the durations that clients go by, and in what a node is told of a query's timeout.
theorem timeouts_kept_iff {d₁ d₂ : Duration} (h : d₁ ≤ d₂) :
    d₂.Fits ↔
      (∀ (c : ClientConfig) (t : ClientConfig.Timeout),
        let c₁ := c.set (t.setting d₁)
        let c₂ := c.set (t.setting d₂)
        Kept d₁ d₂ ((t.stored c₁).toNat * 1000000) ((t.stored c₂).toNat * 1000000) ∧
        Kept d₁ d₂ (t.used c₁).totalNanos (t.used c₂).totalNanos) ∧
      ∀ (client : DataClient Script.Channel) (s : Script DataRequest DataResponse) (text : String) (fetchSize : UInt32),
        client.channel.isOpen → ∃ ms₁ ms₂ : UInt64,
        client.callsOfOpen s text fetchSize d₁ =
          s.calls ++ [(client.channel.endpoint, .fetchTimeseries text fetchSize ms₁)] ∧
        client.callsOfOpen s text fetchSize d₂ =
          s.calls ++ [(client.channel.endpoint, .fetchTimeseries text fetchSize ms₂)] ∧
        Kept d₁ d₂ (ms₁.toNat * 1000000) (ms₂.toNat * 1000000) := by
  constructor
  case mp =>
    intro hf
    have hk := kept_millis h hf
    refine ⟨fun c t => ?_, fun client s text fetchSize ho => ?_⟩
    case refine_1 =>
      simp only [t.stored_set, t.totalNanos_used_set]
      exact ⟨hk, hk⟩
    case refine_2 =>
      exact ⟨_, _, client.callsOfOpen_eq ho text fetchSize d₁, client.callsOfOpen_eq ho text fetchSize d₂, hk⟩
  case mpr =>
    intro ⟨hc, _⟩
    have ⟨hk, _⟩ := hc {} .connect
    simp only [ClientConfig.Timeout.stored_set] at hk
    exact d₂.near_millis_iff.mp hk.second

-- One millisecond and nearly two, and the longest duration that fits.
theorem timeouts_kept_iff_longest :
    let d₁ : Duration := { secs := 0, nanos := 1999999 }
    let d₂ : Duration := { secs := 18446744073709551, nanos := 615999999 }
    d₁ ≤ d₂ ∧ d₂.Fits ∧ Kept d₁ d₂ 1000000 18446744073709551615000000 := by
  intro d₁ d₂
  have h : d₁ ≤ d₂ := by decide
  have hf : d₂.Fits := by
    simp only [Fits]
    decide
  have ⟨hc, _⟩ := (timeouts_kept_iff h).mp hf
  have ⟨hk, _⟩ := hc {} .connect
  have h₁ : d₁.millis.toNat * 1000000 = 1000000 := by decide
  have h₂ : d₂.millis.toNat * 1000000 = 18446744073709551615000000 := by decide
  simp only [ClientConfig.Timeout.stored_set, h₁, h₂] at hk
  exact ⟨h, hf, hk⟩

-- The shortest duration that does not fit becomes none at all, and so is shorter than a second.
theorem timeouts_wrapped :
    let d₁ : Duration := { secs := 1, nanos := 0 }
    let d₂ : Duration := { secs := 18446744073709551, nanos := 616000000 }
    let client : DataClient Script.Channel := { channel := { endpoint := ⟨"a", 10730⟩ } }
    d₁ ≤ d₂ ∧
    (∀ t : ClientConfig.Timeout,
      let c₁ := ({} : ClientConfig).set (t.setting d₁)
      let c₂ := ({} : ClientConfig).set (t.setting d₂)
      ¬t.stored c₁ ≤ t.stored c₂ ∧ ¬t.used c₁ ≤ t.used c₂ ∧
      ¬Near ((t.stored c₂).toNat * 1000000) d₂ ∧ ¬Near (t.used c₂).totalNanos d₂) ∧
    client.callsOfOpen {} "select" 1 d₁ = [(⟨"a", 10730⟩, .fetchTimeseries "select" 1 1000)] ∧
    client.callsOfOpen {} "select" 1 d₂ = [(⟨"a", 10730⟩, .fetchTimeseries "select" 1 0)] := by
  intro d₁ d₂ client
  have hn : ¬d₂.Fits := by
    simp only [Fits]
    decide
  have h₁ : d₁.millis = 1000 := by decide
  have h₂ : d₂.millis = 0 := by decide
  refine ⟨by decide, fun t => ⟨?_, ?_, ?_, ?_⟩, h₁ ▸ client.callsOfOpen_eq rfl .., h₂ ▸ client.callsOfOpen_eq rfl ..⟩
  case refine_1 => cases t <;> decide
  case refine_2 => cases t <;> decide
  case refine_3 =>
    rw [t.stored_set, near_millis_iff]
    exact hn
  case refine_4 =>
    rw [t.totalNanos_used_set, near_millis_iff]
    exact hn

end ClusterClient
