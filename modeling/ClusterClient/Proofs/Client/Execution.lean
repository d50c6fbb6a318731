import ClusterClient.Proofs.Client.Record

namespace ClusterClient

-- Something that happens, and the client to which it happens.
structure Moment (χ : Type) where
  client : LeaderClient χ
  event : Event χ

abbrev Trace (χ : Type) := List (Moment χ)

def Trace.events {χ : Type} (t : Trace χ) : List (Event χ) :=
  t.map (·.event)

@[simp]
theorem Trace.events_append {χ : Type} (t t' : Trace χ) :
    Trace.events (t ++ t') = t.events ++ t'.events :=
  List.map_append

@[simp]
theorem Trace.events_cons {χ : Type} (m : Moment χ) (t : Trace χ) :
    Trace.events (m :: t) = m.event :: t.events := rfl

@[simp]
theorem Trace.events_nil {χ : Type} : Trace.events ([] : Trace χ) = [] := rfl

namespace LeaderClient

variable {σ χ : Type}

def advance (c : LeaderClient χ) : LeaderClient χ :=
  { c with cursor := (c.cursor + 1) % c.members.length }

def hold (c : LeaderClient χ) (ch : χ) : LeaderClient χ :=
  { c with channel := some ch }

theorem advance_cursor_lt (c : LeaderClient χ) (h : 0 < c.members.length) :
    c.advance.cursor < c.members.length :=
  Nat.mod_lt _ h

@[simp]
theorem advance_leader (c : LeaderClient χ) : c.advance.leader = c.leader := rfl

@[simp]
theorem advance_channel (c : LeaderClient χ) : c.advance.channel = c.channel := rfl

@[simp]
theorem hold_channel (c : LeaderClient χ) (ch : χ) : (c.hold ch).channel = some ch := rfl

@[simp]
theorem adopt_retry (c : LeaderClient χ) (members : List Endpoint) :
    (c.adopt members).retry = c.retry := by
  simp only [adopt]
  split <;> rfl

@[simp]
theorem adopt_leader (c : LeaderClient χ) (members : List Endpoint) :
    (c.adopt members).leader = c.leader := by
  simp only [adopt]
  split <;> rfl

@[simp]
theorem adopt_channel (c : LeaderClient χ) (members : List Endpoint) :
    (c.adopt members).channel = c.channel := by
  simp only [adopt]
  split <;> rfl

@[simp]
theorem learn_retry (c : LeaderClient χ) (reply : Reply ConfigResponse) :
    (c.learn reply).retry = c.retry := by
  cases reply <;> simp only [learn]
  case answered =>
    split
    case isTrue => rfl
    case isFalse => split <;> simp only [adopt_retry]
  case failed => split <;> rfl

@[simp]
theorem learn_channel (c : LeaderClient χ) (reply : Reply ConfigResponse) :
    (c.learn reply).channel = c.channel := by
  cases reply <;> simp only [learn]
  case answered =>
    split
    case isTrue => rfl
    case isFalse => split <;> simp only [adopt_channel]
  case failed => split <;> rfl

-- What the parts of the retry loop can do, whatever the environment answers: one case for each way through a part. The
-- trace shows the client as it is at each event.
inductive Drops (c : LeaderClient χ) : Trace χ → LeaderClient χ → Prop
  | absent (h : c.channel = none) : Drops c [] c
  | closed {ch ch' : χ} (h : c.channel = some ch) :
    Drops c [⟨c, .close ch ch'⟩] { c with channel := none }

inductive TriesLeader (c : LeaderClient χ) : Trace χ → Bool → LeaderClient χ → Prop
  | unknown (h : c.leader = .unknown) : TriesLeader c [] false c
  | reached {e : Endpoint} {ch : χ} (h : c.leader = .known e) :
    TriesLeader c [⟨c, .connect e (.ok ch)⟩] true (c.hold ch)
  | lost {e : Endpoint} {fault : ClientError} (h : c.leader = .known e) :
    TriesLeader c [⟨c, .connect e (.error fault)⟩] false { c with leader := .unknown }

inductive Walks : (candidates : Nat) → LeaderClient χ → Trace χ → Bool → LeaderClient χ → Prop
  | done {c : LeaderClient χ} : Walks 0 c [] false c
  | vacant {n : Nat} {c c' : LeaderClient χ} {t : Trace χ} {b : Bool}
    (h : c.members[c.advance.cursor]? = none) (rest : Walks n c.advance t b c') :
    Walks (n + 1) c t b c'
  | reached {n : Nat} {c : LeaderClient χ} {e : Endpoint} {ch : χ}
    (h : c.members[c.advance.cursor]? = some e) :
    Walks (n + 1) c [⟨c.advance, .connect e (.ok ch)⟩] true (c.advance.hold ch)
  | lost {n : Nat} {c c' : LeaderClient χ} {e : Endpoint} {fault : ClientError} {t : Trace χ}
    {b : Bool} (h : c.members[c.advance.cursor]? = some e) (rest : Walks n c.advance t b c') :
    Walks (n + 1) c (⟨c.advance, .connect e (.error fault)⟩ :: t) b c'

inductive Resolves (c : LeaderClient χ) : Trace χ → Bool → LeaderClient χ → Prop
  | leader {c₁ c₂ : LeaderClient χ} {t₁ t₂ : Trace χ} (d : Drops c t₁ c₁)
    (l : TriesLeader c₁ t₂ true c₂) : Resolves c (t₁ ++ t₂) true c₂
  | ring {c₁ c₂ c₃ : LeaderClient χ} {t₁ t₂ t₃ : Trace χ} {b : Bool} (d : Drops c t₁ c₁)
    (l : TriesLeader c₁ t₂ false c₂) (r : Walks c₂.members.length c₂ t₃ b c₃) :
    Resolves c (t₁ ++ t₂ ++ t₃) b c₃

variable (net : Environment σ χ)

inductive Connects (c : LeaderClient χ) : Trace χ → Bool → LeaderClient χ → Prop
  | held (h : c.isConnected net) : Connects c [] true c
  | resolved {c' : LeaderClient χ} {t : Trace χ} {b : Bool} (h : ¬c.isConnected net)
    (r : Resolves c t b c') : Connects c t b c'

inductive Reaches (c : LeaderClient χ) : Trace χ → Bool → LeaderClient χ → Prop
  | direct {c' : LeaderClient χ} {t : Trace χ} (e : Connects net c t true c') : Reaches c t true c'
  | refreshed {c₁ c₂ : LeaderClient χ} {answer : Option (List Endpoint)} {t₁ t₂ : Trace χ} {b : Bool}
    (e : Connects net c t₁ false c₁) (e' : Connects net (c₁.adopt (answer.getD [])) t₂ b c₂) :
    Reaches c (t₁ ++ ⟨c₁, .refresh c₁.members answer⟩ :: t₂) b c₂

variable (req : ConfigRequest)

inductive Attempts (c : LeaderClient χ) :
    Trace χ → Option (Reply ConfigResponse) → LeaderClient χ → Prop
  | unreached {c₁ : LeaderClient χ} {t : Trace χ} {b : Bool} (r : Reaches net c t b c₁)
    (h : c₁.channel = none) : Attempts c t none c₁
  | decided {c₁ : LeaderClient χ} {t : Trace χ} {b : Bool} {ch ch' : χ}
    {reply final : Reply ConfigResponse} (r : Reaches net c t b c₁) (h : c₁.channel = some ch)
    (v : verdict req reply = some final) :
    Attempts c (t ++ [⟨c₁, .call ch req reply ch'⟩]) (some final) ((c₁.hold ch').learn reply)
  | retried {c₁ c₂ : LeaderClient χ} {t t' : Trace χ} {b : Bool} {ch ch' : χ}
    {reply : Reply ConfigResponse} (r : Reaches net c t b c₁) (h : c₁.channel = some ch)
    (v : verdict req reply = none) (d : Drops ((c₁.hold ch').learn reply) t' c₂) :
    Attempts c (t ++ ⟨c₁, .call ch req reply ch'⟩ :: t') none c₂

-- The result of an operation whose attempts are all spent.
def exhausted : Reply ConfigResponse :=
  .failed (.clusterUnreachable reconnectionFailure)

inductive Retries : (attempts : Nat) → LeaderClient χ → Trace χ → Reply ConfigResponse →
    LeaderClient χ → Prop
  | spent {c : LeaderClient χ} : Retries 0 c [] exhausted c
  | final {n : Nat} {c c' : LeaderClient χ} {t : Trace χ} {r : Reply ConfigResponse}
    (a : Attempts net req c t (some r) c') :
    Retries (n + 1) c (⟨c, .wait c.retry.interval⟩ :: t) r c'
  | again {n : Nat} {c c₁ c₂ : LeaderClient χ} {t t' : Trace χ} {r : Reply ConfigResponse}
    (a : Attempts net req c t none c₁) (rest : Retries n c₁ t' r c₂) :
    Retries (n + 1) c (⟨c, .wait c.retry.interval⟩ :: t ++ t') r c₂

inductive Executes (c : LeaderClient χ) : Trace χ → Reply ConfigResponse → LeaderClient χ → Prop
  | spent (h : c.retry.maxAttempts.toNat = 0) : Executes c [] exhausted c
  | final {n : Nat} {c' : LeaderClient χ} {t : Trace χ} {r : Reply ConfigResponse}
    (h : c.retry.maxAttempts.toNat = n + 1) (a : Attempts net req c t (some r) c') : Executes c t r c'
  | again {n : Nat} {c₁ c₂ : LeaderClient χ} {t t' : Trace χ} {r : Reply ConfigResponse}
    (h : c.retry.maxAttempts.toNat = n + 1) (a : Attempts net req c t none c₁)
    (rest : Retries net req n c₁ t' r c₂) : Executes c (t ++ t') r c₂

end LeaderClient

-- Every run has a trace, whose events happen one after the other, and the environment that records writes
-- them down.
namespace LeaderClient

variable {σ χ : Type} (net : Environment σ χ)

theorem tryLeader_known {c : LeaderClient χ} {e : Endpoint} (h : c.leader = .known e) (w : σ) :
    c.tryLeader net w =
      match net.connect e w with
      | (.ok ch, w) => (true, c.hold ch, w)
      | (.error _, w) => (false, { c with leader := .unknown }, w) := by
  cases c
  cases h
  rfl

theorem walkRing_succ (n : Nat) (c : LeaderClient χ) (w : σ) :
    walkRing net (n + 1) c w =
      match c.members[c.advance.cursor]? with
      | none => walkRing net n c.advance w
      | some e =>
        match net.connect e w with
        | (.ok ch, w) => (true, c.advance.hold ch, w)
        | (.error _, w) => walkRing net n c.advance w := rfl

theorem refreshMembers_eq {c : LeaderClient χ} {w w' : σ} {answer : Option (List Endpoint)}
    (h : net.refresh c.members w = (answer, w')) :
    c.refreshMembers net w = (c.adopt (answer.getD []), w') := by
  cases answer <;> simp [refreshMembers, adopt, h]

theorem dropChannel_trace (c : LeaderClient χ) (w : Recorded σ χ) :
    ∃ c' world t, c.dropChannel net w.world = (c', world) ∧
      c.dropChannel net.recorded w = (c', w.add world t.events) ∧ Drops c t c' ∧
      net.Plays w.world t.events world := by
  cases h : c.channel
  case none =>
    exact ⟨c, w.world, [], by simp [dropChannel, h], by simp [dropChannel, h], .absent h, .nil⟩
  case some ch =>
    rcases hn : net.close ch w.world with ⟨ch', world⟩
    refine ⟨{ c with channel := none }, world, [⟨c, .close ch ch'⟩], ?_, ?_, .closed h, .single hn⟩
    case refine_1 => simp only [dropChannel, h, hn]
    case refine_2 => simp only [dropChannel, h, net.recorded_close w hn]; rfl

theorem tryLeader_trace (c : LeaderClient χ) (w : Recorded σ χ) :
    ∃ b c' world t, c.tryLeader net w.world = (b, c', world) ∧
      c.tryLeader net.recorded w = (b, c', w.add world t.events) ∧ TriesLeader c t b c' ∧
      net.Plays w.world t.events world := by
  cases h : c.leader
  case unknown =>
    exact ⟨false, c, w.world, [], by simp [tryLeader, h], by simp [tryLeader, h], .unknown h, .nil⟩
  case known e =>
    rcases hn : net.connect e w.world with ⟨fault | ch, world⟩ <;>
      have hr := net.recorded_connect w hn <;>
      simp only [tryLeader_known _ h, hn, hr]
    case error =>
      exact ⟨_, _, world, [⟨c, .connect e (.error fault)⟩], rfl, rfl, .lost h, .single hn⟩
    case ok => exact ⟨_, _, world, [⟨c, .connect e (.ok ch)⟩], rfl, rfl, .reached h, .single hn⟩

theorem walkRing_trace (n : Nat) (c : LeaderClient χ) (w : Recorded σ χ) :
    ∃ b c' world t, walkRing net n c w.world = (b, c', world) ∧
      walkRing net.recorded n c w = (b, c', w.add world t.events) ∧ Walks n c t b c' ∧
      net.Plays w.world t.events world := by
  induction n generalizing c w
  case zero => exact ⟨false, c, w.world, [], rfl, by simp [walkRing], .done, .nil⟩
  case succ n hi =>
    simp only [walkRing_succ]
    cases h : c.members[c.advance.cursor]?
    case none =>
      obtain ⟨b, c', world, t, hn, hr, ht, p⟩ := hi c.advance w
      exact ⟨b, c', world, t, hn, hr, .vacant h ht, p⟩
    case some e =>
      rcases hn : net.connect e w.world with ⟨fault | ch, world⟩ <;>
        have hr := net.recorded_connect w hn <;>
        simp only [hn, hr]
      case error =>
        -- The rest of the walk starts from a record that has this connect already.
        let m : Moment χ := ⟨c.advance, .connect e (.error fault)⟩
        obtain ⟨b, c', world', t, hn', hr', ht, p⟩ := hi c.advance (w.add world [m.event])
        exact ⟨b, c', world', m :: t, hn', hr'.trans (by simp), .lost h ht, .cons hn p⟩
      case ok =>
        exact ⟨_, _, world, [⟨c.advance, .connect e (.ok ch)⟩], rfl, rfl, .reached h, .single hn⟩

theorem resolve_trace (c : LeaderClient χ) (w : Recorded σ χ) :
    ∃ b c' world t, c.resolve net w.world = (b, c', world) ∧
      c.resolve net.recorded w = (b, c', w.add world t.events) ∧ Resolves c t b c' ∧
      net.Plays w.world t.events world := by
  have ⟨c₁, world₁, t₁, hn₁, hr₁, d, p₁⟩ := c.dropChannel_trace net w
  have ⟨b, c₂, world₂, t₂, hn₂, hr₂, l, p₂⟩ := c₁.tryLeader_trace net (w.add world₁ t₁.events)
  simp only [Recorded.add_world, Recorded.add_add] at hn₂ hr₂ p₂
  simp only [resolve, hn₁, hr₁, hn₂, hr₂]
  have p := p₁.append p₂
  cases b
  case true => exact ⟨true, c₂, world₂, t₁ ++ t₂, rfl, by simp, .leader d l, by simpa using p⟩
  case false =>
    have ⟨b, c₃, world₃, t₃, hn₃, hr₃, r, p₃⟩ :=
      walkRing_trace net c₂.members.length c₂ (w.add world₂ (t₁.events ++ t₂.events))
    simp only [Recorded.add_world, Recorded.add_add] at hn₃ hr₃ p₃
    exact ⟨b, c₃, world₃, t₁ ++ t₂ ++ t₃, hn₃, by simp [hr₃], .ring d l r,
      by simpa using p.append p₃⟩

theorem ensureConnected_trace (c : LeaderClient χ) (w : Recorded σ χ) :
    ∃ b c' world t, c.ensureConnected net w.world = (b, c', world) ∧
      c.ensureConnected net.recorded w = (b, c', w.add world t.events) ∧ Connects net c t b c' ∧
      net.Plays w.world t.events world := by
  have hi : c.isConnected net.recorded = c.isConnected net := rfl
  simp only [ensureConnected, hi]
  by_cases h : c.isConnected net
  case pos => exact ⟨true, c, w.world, [], by simp [h], by simp [h], .held h, .nil⟩
  case neg =>
    have ⟨b, c', world, t, hn, hr, r, p⟩ := c.resolve_trace net w
    exact ⟨b, c', world, t, by simp [h, hn], by simp [h, hr], .resolved h r, p⟩

theorem reach_trace (c : LeaderClient χ) (w : Recorded σ χ) :
    ∃ b c' world t, c.reach net w.world = (b, c', world) ∧
      c.reach net.recorded w = (b, c', w.add world t.events) ∧ Reaches net c t b c' ∧
      net.Plays w.world t.events world := by
  have ⟨b, c₁, world₁, t₁, hn₁, hr₁, e, p₁⟩ := c.ensureConnected_trace net w
  simp only [reach, hn₁, hr₁]
  cases b
  case true => exact ⟨true, c₁, world₁, t₁, rfl, rfl, .direct e, p₁⟩
  case false =>
    rcases hn : net.refresh c₁.members world₁ with ⟨answer, world⟩
    have hr := net.recorded_refresh (w.add world₁ t₁.events) hn
    have he : (Event.refresh c₁.members answer).Happens net world₁ world := hn
    simp only [refreshMembers_eq _ hn, refreshMembers_eq _ hr, Recorded.add_add]
    have ⟨b, c₂, world₂, t₂, hn₂, hr₂, e', p₂⟩ :=
      (c₁.adopt (answer.getD [])).ensureConnected_trace net
        (w.add world (t₁.events ++ [.refresh c₁.members answer]))
    exact ⟨b, c₂, world₂, _, hn₂, hr₂.trans (by simp), .refreshed e e',
      by simpa using p₁.append (.cons he p₂)⟩

variable (req : ConfigRequest)

theorem attempt_trace (c : LeaderClient χ) (w : Recorded σ χ) :
    ∃ r c' world t, c.attempt net req w.world = (r, c', world) ∧
      c.attempt net.recorded req w = (r, c', w.add world t.events) ∧ Attempts net req c t r c' ∧
      net.Plays w.world t.events world := by
  have ⟨b, c₁, world₁, t₁, hn₁, hr₁, r, p₁⟩ := c.reach_trace net w
  simp only [attempt, hn₁, hr₁]
  cases h : c₁.channel
  case none => exact ⟨none, c₁, world₁, t₁, rfl, rfl, .unreached r h, p₁⟩
  case some ch =>
    rcases hn : net.call ch req none world₁ with ⟨reply, ch', world⟩
    have hr := net.recorded_call (w.add world₁ t₁.events) hn
    have he : (Event.call ch req reply ch').Happens net world₁ world := hn
    simp only [hn, hr, Recorded.add_add]
    cases v : verdict req reply
    case some final =>
      exact ⟨some final, (c₁.hold ch').learn reply, world, t₁ ++ [⟨c₁, .call ch req reply ch'⟩], rfl,
        by simp; rfl, .decided r h v, by simpa using p₁.append (.single he)⟩
    case none =>
      have ⟨c₂, world₂, t₂, hn₂, hr₂, d, p₂⟩ := ((c₁.hold ch').learn reply).dropChannel_trace net
        (w.add world (t₁.events ++ [.call ch req reply ch']))
      refine ⟨none, c₂, world₂, t₁ ++ ⟨c₁, .call ch req reply ch'⟩ :: t₂, ?_, ?_,
        .retried r h v d, ?_⟩
      case refine_1 => exact congrArg (none, ·) hn₂
      case refine_2 => exact (congrArg (none, ·) hr₂).trans (by simp)
      case refine_3 => simpa using p₁.append (.cons he p₂)

theorem retryAfterWait_trace (n : Nat) (c : LeaderClient χ) (w : Recorded σ χ) :
    ∃ r c' world t, retryAfterWait net req n c w.world = (r, c', world) ∧
      retryAfterWait net.recorded req n c w = (r, c', w.add world t.events) ∧
      Retries net req n c t r c' ∧ net.Plays w.world t.events world := by
  induction n generalizing c w
  case zero => exact ⟨exhausted, c, w.world, [], rfl, by simp [retryAfterWait, exhausted], .spent, .nil⟩
  case succ n hi =>
    have ⟨r, c₁, world₁, t₁, hn₁, hr₁, a, p₁⟩ :=
      c.attempt_trace net req (net.recorded.wait c.retry.interval w)
    simp only [Environment.recorded_wait, Recorded.add_world, Recorded.add_add] at hn₁ hr₁ p₁
    simp only [retryAfterWait, Environment.recorded_wait, hn₁, hr₁]
    let m : Moment χ := ⟨c, .wait c.retry.interval⟩
    have p : net.Plays w.world (m.event :: t₁.events) world₁ := .cons (e := m.event) rfl p₁
    cases r
    case some final => exact ⟨final, c₁, world₁, m :: t₁, rfl, rfl, .final a, p⟩
    case none =>
      have ⟨r, c₂, world₂, t₂, hn₂, hr₂, rest, p₂⟩ := hi c₁ (w.add world₁ (m.event :: t₁.events))
      exact ⟨r, c₂, world₂, m :: t₁ ++ t₂, hn₂, hr₂.trans (by simp), .again a rest,
        by simpa using p.append p₂⟩

theorem execute_plays (c : LeaderClient χ) (w : Recorded σ χ) :
    ∃ r c' world t, c.execute net req w.world = (r, c', world) ∧
      c.execute net.recorded req w = (r, c', w.add world t.events) ∧ Executes net req c t r c' ∧
      net.Plays w.world t.events world := by
  simp only [execute]
  cases h : c.retry.maxAttempts.toNat
  case zero => exact ⟨exhausted, c, w.world, [], rfl, by simp [exhausted], .spent h, .nil⟩
  case succ n =>
    have ⟨r, c₁, world₁, t₁, hn₁, hr₁, a, p₁⟩ := c.attempt_trace net req w
    simp only [hn₁, hr₁]
    cases r
    case some final => exact ⟨final, c₁, world₁, t₁, rfl, rfl, .final h a, p₁⟩
    case none =>
      have ⟨r, c₂, world₂, t₂, hn₂, hr₂, rest, p₂⟩ :=
        retryAfterWait_trace net req n c₁ (w.add world₁ t₁.events)
      exact ⟨r, c₂, world₂, t₁ ++ t₂, hn₂, hr₂.trans (by simp), .again h a rest,
        by simpa using p₁.append p₂⟩

theorem execute_trace (c : LeaderClient χ) (w : Recorded σ χ) :
    ∃ r c' world t, c.execute net req w.world = (r, c', world) ∧
      c.execute net.recorded req w = (r, c', w.add world t.events) ∧ Executes net req c t r c' := by
  have ⟨r, c', world, t, hn, hr, e, _⟩ := c.execute_plays net req w
  exact ⟨r, c', world, t, hn, hr, e⟩

end LeaderClient

namespace LeaderClient

variable {σ χ : Type} {net : Environment σ χ} {req : ConfigRequest} {c c' : LeaderClient χ}
  {t : Trace χ} {b : Bool} {n : Nat}

namespace Drops

theorem preserves_retry (d : Drops c t c') : c'.retry = c.retry := by
  cases d <;> rfl

theorem channel_eq (d : Drops c t c') : c'.channel = none := by
  cases d
  case absent h => exact h
  case closed => rfl

theorem events_eq {ch : χ} (d : Drops c t c') (h : c.channel = some ch) :
    ∃ ch', t.events = [.close ch ch'] := by
  cases d
  case absent h' => simp [h] at h'
  case closed ch ch' h' => simp_all

end Drops

namespace TriesLeader

theorem preserves_retry (l : TriesLeader c t b c') : c'.retry = c.retry := by
  cases l <;> rfl

theorem channel_eq (l : TriesLeader c t false c') : c'.channel = c.channel := by
  cases l <;> rfl

theorem channel_isSome (l : TriesLeader c t true c') : c'.channel.isSome := by
  cases l; rfl

end TriesLeader

namespace Walks

theorem preserves_retry (r : Walks n c t b c') : c'.retry = c.retry := by
  induction r
  case done | reached => rfl
  case vacant hi | lost hi => exact hi

theorem channel_isSome (r : Walks n c t b c') (h : c.channel = none) : c'.channel.isSome = b := by
  induction r
  case done => simp [h]
  case reached => rfl
  case vacant hi | lost hi => exact hi h

end Walks

namespace Resolves

theorem preserves_retry : Resolves c t b c' → c'.retry = c.retry
  | .leader d l => l.preserves_retry.trans d.preserves_retry
  | .ring d l r => r.preserves_retry.trans (l.preserves_retry.trans d.preserves_retry)

theorem channel_isSome : Resolves c t b c' → c'.channel.isSome = b
  | .leader _ l => l.channel_isSome
  | .ring d l r => r.channel_isSome (l.channel_eq.trans d.channel_eq)

end Resolves

namespace Connects

theorem preserves_retry : Connects net c t b c' → c'.retry = c.retry
  | .held _ => rfl
  | .resolved _ r => r.preserves_retry

theorem channel_isSome (e : Connects net c t b c') : c'.channel.isSome = b := by
  cases e
  case held h => cases hc : c.channel <;> simp_all [isConnected]
  case resolved r => exact r.channel_isSome

end Connects

theorem Reaches.preserves_retry (r : Reaches net c t b c') : c'.retry = c.retry := by
  cases r
  case direct e => exact e.preserves_retry
  case refreshed e e' => rw [e'.preserves_retry, adopt_retry, e.preserves_retry]

theorem Attempts.preserves_retry {o : Option (Reply ConfigResponse)} (a : Attempts net req c t o c') :
    c'.retry = c.retry := by
  cases a
  case unreached _ r => exact r.preserves_retry
  case decided r _ _ => simp [hold, r.preserves_retry]
  case retried r _ _ d => simp [d.preserves_retry, hold, r.preserves_retry]

end LeaderClient

end ClusterClient
