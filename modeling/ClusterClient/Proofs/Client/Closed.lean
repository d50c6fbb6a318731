import ClusterClient.Proofs.Client.PageFault

namespace ClusterClient

-- Errors that tell of the loss of a channel: those of a call, and those that tell of such an error behind them.
def ClientError.Severs : ClientError → Prop
  | fetchFailure _ source => source.isTransport
  | e                     => e.isTransport

theorem ClientError.Severs.of_isTransport {e : ClientError} (h : e.isTransport) : e.Severs := by
  cases e
  case fetchFailure => contradiction
  all_goals exact h

theorem FirstPageFault.not_severs {text : String} {resp : DataResponse} {e : ClientError}
    (h : FirstPageFault text (.ok resp) e) : ¬e.Severs := by
  cases h <;> simp [ClientError.Severs, ClientError.isTransport]

theorem NextPageFault.not_isTransport {layout : ColumnLayout} {resp : DataResponse} {e : ClientError}
    (h : NextPageFault layout (.ok resp) e) : ¬e.isTransport := by
  cases h <;> simp [ClientError.isTransport]

namespace DataClient

open Script

-- What the channel and the script of an open client are after it did something that ended with this error, if
-- with any.
structure Keeps (ch : Channel) (s : Script DataRequest DataResponse) (fault : Option ClientError) (ch' : Channel)
    (s' : Script DataRequest DataResponse) : Prop where
  endpoint_eq : ch'.endpoint = ch.endpoint
  connects_eq : s'.connects = s.connects
  isOpen_iff  : ch'.isOpen ↔ ∀ e ∈ fault, ¬e.Severs

variable {text : String} {fetchSize : UInt32} {timeout : Duration} {ch ch' : Channel} {d d' : DataClient Channel}
  {s s' : Script DataRequest DataResponse} {e : ClientError}

theorem Keeps.trans {ch₁ : Channel} {s₁ : Script DataRequest DataResponse} {fault : Option ClientError}
    (a : Keeps ch s none ch₁ s₁) (b : Keeps ch₁ s₁ fault ch' s') : Keeps ch s fault ch' s' :=
  ⟨b.endpoint_eq.trans a.endpoint_eq, b.connects_eq.trans a.connects_eq, b.isOpen_iff⟩

theorem Keeps.isOpen (k : Keeps ch s none ch' s') : ch'.isOpen :=
  k.isOpen_iff.mpr (by simp)

theorem keeps_of_answered {xs : List (DataRequest × DataResponse)}
    (h : network.Answered timeout ch s xs ch' s') (ho : ch.isOpen) : Keeps ch s none ch' s' := by
  obtain ⟨rfl, _, hs⟩ := served_of_answered h
  exact ⟨rfl, hs.connects_eq, by simp [ho]⟩

-- The page that a query fails with has come, or the channel is lost.
theorem keeps_of_receives {req : DataRequest} {r : Except ClientError DataResponse} {fault : ClientError}
    (h : network.toNetwork.Receives timeout req ch s r ch' s') (ho : ch.isOpen)
    (hr : ∀ resp, r = .ok resp → ¬fault.Severs) (he : ∀ e, r = .error e → e.isTransport → fault.Severs) :
    Keeps ch s (some fault) ch' s' := by
  obtain ⟨cue, a, ⟨resp, rfl, rfl⟩ | ⟨e, rfl, ht, rfl⟩⟩ := receives_outcome h ho
  case inl => exact ⟨rfl, a.connects_eq, by simp [ho, hr]⟩
  case inr => exact ⟨rfl, a.connects_eq, by simp [he e rfl ht]⟩

-- The error that something ends with, if with any.
def fault? {α : Type} : Except ClientError α → Option ClientError
  | .ok _    => none
  | .error e => some e

theorem openQuery_keeps {r : Except ClientError Query}
    (h : d.openQuery network.toNetwork text fetchSize timeout s = (r, d', s')) (ho : d.channel.isOpen) :
    Keeps d.channel s (fault? r) d'.channel s' := by
  cases r
  case error e =>
    obtain ⟨r, ch, hr, hp, rfl⟩ := openQuery_eq_error_iff.mp h
    refine keeps_of_receives hr ho ?_ ?_
    case refine_1 =>
      rintro resp rfl
      exact hp.not_severs
    case refine_2 =>
      rintro e rfl ht
      cases hp
      exact .of_isTransport ht
  case ok q =>
    obtain ⟨resp, ch, hc, _, rfl⟩ := openQuery_eq_ok_iff.mp h
    exact keeps_of_answered (.cons hc .nil) ho

theorem drain_keeps {q : Query} {r : Except ClientError Dataset} (h : drain network q ch s = (r, ch', s'))
    (ho : ch.isOpen) : Keeps ch s (fault? r) ch' s' := by
  cases r
  case error e =>
    obtain ⟨_, ch₁, s₁, r, source, _, ha, hr, hp, rfl⟩ := drain_eq_error_iff.mp h
    have k := keeps_of_answered ha ho
    refine k.trans (keeps_of_receives hr k.isOpen ?_ ?_)
    case refine_1 =>
      rintro resp rfl
      exact hp.not_isTransport
    case refine_2 =>
      rintro e rfl ht
      cases hp
      exact ht
  case ok ds =>
    have ⟨_, _, ha⟩ := drain_eq_ok_iff.mp h
    exact keeps_of_answered ha ho

theorem fetchWith_keeps {r : Except ClientError Dataset}
    (h : d.fetchWith network text fetchSize timeout s = (r, d', s')) (ho : d.channel.isOpen) :
    Keeps d.channel s (fault? r) d'.channel s' := by
  rcases hq : d.openQuery network.toNetwork text fetchSize timeout s with ⟨e | q, d₁, s₁⟩ <;>
    have k := openQuery_keeps hq ho <;> simp only [fetchWith, hq] at h
  case error => cases h; exact k
  case ok =>
    cases h
    exact k.trans (drain_keeps rfl k.isOpen)

-- The error of a query over a closed channel.
def closedError (e : Endpoint) : ClientError :=
  .transport s!"connection to {e.render} is closed"

theorem openQuery_closed (ho : ¬d.channel.isOpen) :
    d.openQuery network.toNetwork text fetchSize timeout s = (.error (closedError d.channel.endpoint), d, s) :=
  openQuery_of_receives (receives_closed _ _ s ho)

theorem fetchWith_closed (ho : ¬d.channel.isOpen) :
    d.fetchWith network text fetchSize timeout s = (.error (closedError d.channel.endpoint), d, s) := by
  simp only [fetchWith, openQuery_closed ho]

theorem close_closed (ho : ¬d.channel.isOpen) : d.close network.toNetwork s = (d, s) := by
  rcases d with ⟨⟨_, _ | _⟩, _, _⟩
  case false => rfl
  case true  => exact absurd rfl ho

-- What may happen in the life of a client: its caller uses it, and others change what the script has in store.
inductive Command where
  | openQuery (text : String) (fetchSize : UInt32) (timeout : Duration)
  -- Drains the query that is open, if there is one.
  | drain
  | fetchWith (text : String) (fetchSize : UInt32) (timeout : Duration)
  | fetch (text : String)
  | close
  | push (e : Endpoint) (cue : Cue DataResponse)
  | setUnreachable (e : Endpoint) (unreachable : Bool)

namespace Command

def IsQuery : Command → Prop
  | openQuery .. | fetchWith .. | fetch _ => True
  | _                                     => False

-- The commands of the caller.
def IsOwn (command : Command) : Prop :=
  command.IsQuery ∨ command = drain ∨ command = close

end Command

-- One who uses a client, with the query that is open. It is given up when the client is used for anything else.
structure Caller where
  client : DataClient Channel
  query : Option Query := none

-- An open query has its client's channel to itself.
def Caller.Valid (u : Caller) : Prop :=
  ∀ q ∈ u.query, u.client.channel.isOpen

-- The error that a command ends with, and what becomes of caller and script.
def perform (command : Command) (u : Caller) (s : Script DataRequest DataResponse) :
    Option ClientError × Caller × Script DataRequest DataResponse :=
  match command with
  | .openQuery text fetchSize timeout =>
    let (r, client, s) := u.client.openQuery network.toNetwork text fetchSize timeout s
    (fault? r, { client, query := r.toOption }, s)
  | .drain =>
    match u.query with
    | none => (none, u, s)
    | some q =>
      let (r, channel, s) := DataClient.drain network q u.client.channel s
      (fault? r, { client := { u.client with channel } }, s)
  | .fetchWith text fetchSize timeout =>
    let (r, client, s) := u.client.fetchWith network text fetchSize timeout s
    (fault? r, { client }, s)
  | .fetch text =>
    let (r, client, s) := u.client.fetch network text s
    (fault? r, { client }, s)
  | .close =>
    let (client, s) := u.client.close network.toNetwork s
    (none, { client }, s)
  | .push e cue => (none, u, s.push e cue)
  | .setUnreachable e unreachable => (none, u, s.setUnreachable e unreachable)

-- A command of a history, with the caller and the script before it and after it.
structure Moment where
  command : Command
  caller : Caller
  script : Script DataRequest DataResponse
  fault : Option ClientError
  caller' : Caller
  script' : Script DataRequest DataResponse

-- All commands of a history one after the other.
def run : List Command → Caller → Script DataRequest DataResponse →
    List Moment × Caller × Script DataRequest DataResponse
  | [], u, s => ([], u, s)
  | command :: history, u, s =>
    let (fault, u₁, s₁) := perform command u s
    let (t, u₂, s₂) := run history u₁ s₁
    (⟨command, u, s, fault, u₁, s₁⟩ :: t, u₂, s₂)

namespace Moment

-- Whether the client's channel is open, before and after.
def isOpen (m : Moment) : Bool :=
  m.caller.client.channel.isOpen

def isOpen' (m : Moment) : Bool :=
  m.caller'.client.channel.isOpen

-- The channel is closed by its client or lost to a query.
def Severs (m : Moment) : Prop :=
  m.command = .close ∨ ∃ e ∈ m.fault, e.Severs

-- Nothing happens, and a query is told why.
structure Idle (m : Moment) : Prop where
  caller_eq : m.caller' = m.caller
  script_eq : m.script' = m.script
  fault_eq  : m.command.IsQuery → m.fault = some (closedError m.caller.client.channel.endpoint)

-- What one command does.
structure Sound (m : Moment) : Prop where
  endpoint_eq : m.caller'.client.channel.endpoint = m.caller.client.channel.endpoint
  connects_eq : m.script'.connects = m.script.connects
  valid       : m.caller'.Valid
  isOpen_iff  : m.isOpen' ↔ m.isOpen ∧ ¬m.Severs
  idle        : ¬m.isOpen → m.command.IsOwn → m.Idle

variable {m : Moment}

theorem Idle.sound (h : m.Idle) (ho : ¬m.isOpen) (hv : m.caller.Valid) : m.Sound where
  endpoint_eq := by rw [h.caller_eq]
  connects_eq := by rw [h.script_eq]
  valid       := h.caller_eq ▸ hv
  isOpen_iff  := by
    have he : m.isOpen' = m.isOpen := by rw [isOpen', h.caller_eq, isOpen]
    simp [he, ho]
  idle _ _    := h

theorem Sound.of_keeps (ho : m.isOpen) (hc : m.command ≠ .close) (hq : ∀ q ∈ m.caller'.query, m.fault = none)
    (k : Keeps m.caller.client.channel m.script m.fault m.caller'.client.channel m.script') : m.Sound where
  endpoint_eq := k.endpoint_eq
  connects_eq := k.connects_eq
  valid q hm  := k.isOpen_iff.mpr (by simp [hq q hm])
  isOpen_iff  := by simp [isOpen', k.isOpen_iff, ho, Severs, hc]
  idle hn _   := absurd ho hn

-- What others do is nothing to the client.
theorem Sound.of_others (ho : ¬m.command.IsOwn) (hu : m.caller' = m.caller) (hn : m.fault = none)
    (hv : m.caller.Valid) (hs : m.script'.connects = m.script.connects) : m.Sound where
  endpoint_eq := by rw [hu]
  connects_eq := hs
  valid       := hu ▸ hv
  isOpen_iff  := by
    have hc : m.command ≠ .close := fun hc => ho (.inr (.inr hc))
    simp [isOpen, isOpen', hu, Severs, hn, hc]
  idle _ hown := absurd hown ho

end Moment

theorem Caller.Valid.query_eq {u : Caller} (h : u.Valid) (ho : ¬u.client.channel.isOpen) : u.query = none :=
  Option.eq_none_iff_forall_not_mem.mpr fun q hq => ho (h q hq)

theorem Caller.Valid.eq {u : Caller} (h : u.Valid) (ho : ¬u.client.channel.isOpen) : { client := u.client } = u := by
  rw [Caller.mk.injEq]
  exact ⟨rfl, (h.query_eq ho).symm⟩

section

variable {command : Command} {u u' : Caller} {fault : Option ClientError}

theorem perform_closed (h : perform command u s = (fault, u', s')) (hv : u.Valid) (ho : ¬u.client.channel.isOpen)
    (hown : command.IsOwn) : Moment.Idle ⟨command, u, s, fault, u', s'⟩ := by
  cases command
  case openQuery =>
    simp only [perform, openQuery_closed ho] at h
    cases h
    exact ⟨hv.eq ho, rfl, fun _ => rfl⟩
  case drain =>
    simp only [perform, hv.query_eq ho] at h
    cases h
    exact ⟨rfl, rfl, nofun⟩
  case fetchWith | fetch =>
    simp only [perform, fetch, fetchWith_closed ho] at h
    cases h
    exact ⟨hv.eq ho, rfl, fun _ => rfl⟩
  case close =>
    simp only [perform, close_closed ho] at h
    cases h
    exact ⟨hv.eq ho, rfl, nofun⟩
  case push | setUnreachable => simp [Command.IsOwn, Command.IsQuery] at hown

theorem perform_open (h : perform command u s = (fault, u', s')) (ho : u.client.channel.isOpen)
    (hown : command.IsOwn) : Moment.Sound ⟨command, u, s, fault, u', s'⟩ := by
  cases command
  case openQuery text fetchSize timeout =>
    rcases hr : u.client.openQuery network.toNetwork text fetchSize timeout s with ⟨r, d, s₁⟩
    simp only [perform, hr] at h
    cases h
    refine .of_keeps ho nofun ?_ (openQuery_keeps hr ho)
    cases r
    case error => exact nofun
    case ok    => exact fun _ _ => rfl
  case drain =>
    rcases hq : u.query with _ | q <;> simp only [perform, hq] at h <;> cases h
    case none => exact .of_keeps ho nofun (by simp) ⟨rfl, rfl, by simp [ho]⟩
    case some => exact .of_keeps ho nofun nofun (drain_keeps rfl ho)
  case fetchWith | fetch =>
    cases h
    exact .of_keeps ho nofun nofun (fetchWith_keeps rfl ho)
  case close =>
    cases h
    exact ⟨rfl, rfl, nofun, by simp [Moment.isOpen', Moment.Severs], (absurd ho ·)⟩
  case push | setUnreachable => simp [Command.IsOwn, Command.IsQuery] at hown

theorem perform_sound (h : perform command u s = (fault, u', s')) (hv : u.Valid) :
    Moment.Sound ⟨command, u, s, fault, u', s'⟩ := by
  by_cases hown : command.IsOwn
  case neg =>
    cases command
    case push | setUnreachable => cases h; exact .of_others hown rfl rfl hv rfl
    all_goals simp [Command.IsOwn, Command.IsQuery] at hown
  case pos =>
    by_cases ho : u.client.channel.isOpen
    case pos => exact perform_open h ho hown
    case neg => exact (perform_closed h hv ho hown).sound ho hv

-- Commands one after the other.
inductive Chain : Caller → Script DataRequest DataResponse → List Moment → Caller →
    Script DataRequest DataResponse → Prop
  | nil {u : Caller} {s : Script DataRequest DataResponse} : Chain u s [] u s
  | cons {m : Moment} {t : List Moment} {u : Caller} {s : Script DataRequest DataResponse}
    (h : m.Sound) (rest : Chain m.caller' m.script' t u s) : Chain m.caller m.script (m :: t) u s

namespace Chain

variable {t before later : List Moment} {m : Moment}

theorem endpoint_eq (c : Chain u s t u' s') : u'.client.channel.endpoint = u.client.channel.endpoint := by
  induction c
  case nil => rfl
  case cons h _ hi => exact hi.trans h.endpoint_eq

theorem connects_eq (c : Chain u s t u' s') : s'.connects = s.connects := by
  induction c
  case nil => rfl
  case cons h _ hi => exact hi.trans h.connects_eq

theorem isOpen_iff (c : Chain u s t u' s') :
    u'.client.channel.isOpen ↔ u.client.channel.isOpen ∧ ∀ m ∈ t, ¬m.Severs := by
  induction c
  case nil => simp
  case cons m t _ _ h _ hi =>
    have ho : m.caller'.client.channel.isOpen ↔ m.caller.client.channel.isOpen ∧ ¬m.Severs := h.isOpen_iff
    rw [hi, ho, and_assoc, List.forall_mem_cons]

theorem at_split (c : Chain u s (before ++ m :: later) u' s') :
    Chain u s before m.caller m.script ∧ m.Sound := by
  induction before generalizing u s
  case nil =>
    cases c with | cons h _ =>
    exact ⟨.nil, h⟩
  case cons hi =>
    cases c with | cons h rest =>
    have ⟨c, hm⟩ := hi rest
    exact ⟨.cons h c, hm⟩

end Chain

theorem run_chain {history : List Command} {t : List Moment} (h : run history u s = (t, u', s'))
    (hv : u.Valid) : Chain u s t u' s' := by
  induction history generalizing u s t
  case nil => cases h; exact .nil
  case cons command history hi =>
    rcases hp : perform command u s with ⟨fault, u₁, s₁⟩
    rcases hr : run history u₁ s₁ with ⟨t₁, u₂, s₂⟩
    have hs := perform_sound hp hv
    simp only [run, hp, hr] at h
    cases h
    exact .cons (m := ⟨command, u, s, fault, u₁, s₁⟩) hs (hi hr hs.valid)

theorem run_commands (history : List Command) (u : Caller) (s : Script DataRequest DataResponse) :
    (run history u s).1.map (·.command) = history := by
  induction history generalizing u s
  case nil => rfl
  case cons hi => exact congrArg (List.cons _) (hi ..)

-- A client is connected once and for all. Its channel is open until the client is closed or a query loses the
-- channel, and from then on nothing that the caller does has any effect.
theorem run_closed_final {E : Endpoint} {fetchSize : UInt32} {fetchTimeout : Duration} {history : List Command}
    {t : List Moment} {d : DataClient Channel} {s₁ : Script DataRequest DataResponse}
    (hc : connect network.toNetwork E s = (.ok d, s₁))
    (hr : run history { client := d.withDefaults fetchSize fetchTimeout } s₁ = (t, u', s')) :
    t.map (·.command) = history ∧
    s₁.connects = s.connects ++ [E] ∧ s'.connects = s₁.connects ∧
    (u'.client.channel.isOpen ↔ ∀ m ∈ t, ¬m.Severs) ∧
    ∀ before m later, t = before ++ m :: later →
      (m.isOpen ↔ ∀ m' ∈ before, ¬m'.Severs) ∧
      (¬m.isOpen → m.command.IsOwn →
        m.caller' = m.caller ∧ m.script' = m.script ∧
        (m.command.IsQuery → m.fault = some (.transport s!"connection to {E.render} is closed"))) := by
  obtain ⟨hd, hs⟩ : d = { channel := { endpoint := E } } ∧ s₁ = { s with connects := s.connects ++ [E] } := by
    simp only [connect, network, Script.connect] at hc
    split at hc <;> split at * <;> simp_all
  subst hd hs
  have c := run_chain hr nofun
  refine ⟨by rw [← run_commands history, hr], rfl, c.connects_eq, c.isOpen_iff.trans (and_iff_right rfl), ?_⟩
  rintro before m later rfl
  have ⟨c, hm⟩ := c.at_split
  refine ⟨c.isOpen_iff.trans (and_iff_right rfl), fun ho hown => ?_⟩
  have hi := hm.idle ho hown
  exact ⟨hi.caller_eq, hi.script_eq, fun hq => (hi.fault_eq hq).trans (by rw [c.endpoint_eq]; rfl)⟩

-- A query that runs late, and one after it that leaves its cue untaken.
theorem run_closed_final_late :
    let e : Endpoint := { host := "node", port := 6667 }
    let s : Script DataRequest DataResponse := (({} : Script _ _).push e .hang).push e .drop
    let history := [Command.openQuery "SELECT s0" 100 (.ofMillis 50), .fetch "SELECT s1"]
    ∃ d s₁ t u' s', connect network.toNetwork e s = (.ok d, s₁) ∧
      run history { client := d.withDefaults 100 (.ofMillis 50) } s₁ = (t, u', s') ∧
      s'.connects = [e] ∧ s'.queue e = [.drop] ∧ ¬u'.client.channel.isOpen := by
  intro e s history
  let d : DataClient Channel := { channel := { endpoint := e } }
  let s₁ := { s with connects := [e] }
  let out := run history { client := d.withDefaults 100 (.ofMillis 50) } s₁
  have hc : connect network.toNetwork e s = (.ok d, s₁) := rfl
  have hr : run history { client := d.withDefaults 100 (.ofMillis 50) } s₁ = (out.1, out.2.1, out.2.2) := rfl
  have ⟨_, _, hs, ho, _⟩ := run_closed_final hc hr
  exact ⟨d, s₁, _, _, _, hc, hr, hs, rfl, fun h => ho.mp h _ List.mem_cons_self (.inr ⟨_, rfl, rfl⟩)⟩

end

end DataClient

end ClusterClient
