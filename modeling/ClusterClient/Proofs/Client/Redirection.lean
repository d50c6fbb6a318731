import ClusterClient.Proofs.Client.Channel
import ClusterClient.Proofs.Client.Outage
import Mathlib

namespace ClusterClient

variable {σ χ : Type}

namespace Event

def callee? (net : Environment σ χ) : Event χ → Option Endpoint
  | call ch _ _ _ => some (net.endpoint ch)
  | _ => none

-- The nodes that are called.
def callees (net : Environment σ χ) (events : List (Event χ)) : List Endpoint :=
  events.filterMap (callee? net)

@[simp]
theorem callees_append (net : Environment σ χ) (es es' : List (Event χ)) :
    callees net (es ++ es') = callees net es ++ callees net es' :=
  List.filterMap_append

@[simp]
theorem callees_cons (net : Environment σ χ) (e : Event χ) (es : List (Event χ)) :
    callees net (e :: es) = (e.callee? net).toList ++ callees net es := by
  cases e <;> rfl

-- A call that is answered leaves its channel open.
def KeepsOpen (net : Environment σ χ) : Event χ → Prop
  | call _ _ (.answered _) ch' => net.isOpen ch'
  | _                          => True

end Event

open Event

-- What comes of the call with this number on the way along a chain of nodes: a redirect to the next node, or the
-- final response from the last one.
def Reply.Leads (chain : List Endpoint) (final : ConfigResponse) (i : Nat) (reply : Reply ConfigResponse) : Prop :=
  match chain[i + 1]? with
  | some e => ∃ r, reply = .answered r ∧ r.status.isRedirect ∧ r.status.redirectNode = some e
  | none   => reply = .answered final ∧ final.status.isSuccess

-- The nodes of the chain accept every connection, and each call leads from one node to the next.
structure Guided (chain : List Endpoint) (final : ConfigResponse) (events : List (Event χ)) : Prop where
  reachable : ∀ e ∈ chain, ∀ fault, .connect e (.error fault) ∉ events
  leads     : ∀ i (call : ConfigRequest × Reply ConfigResponse),
                (calls events)[i]? = some call → call.2.Leads chain final i

namespace Guided

variable {e : Endpoint} {chain : List Endpoint} {final : ConfigResponse} {es es' : List (Event χ)}
  {call : ConfigRequest × Reply ConfigResponse}

theorem left (g : Guided chain final (es ++ es')) : Guided chain final es where
  reachable e he fault hm := g.reachable e he fault (List.mem_append_left _ hm)
  leads i call hc         := by
    refine g.leads i call ?_
    have hi : i < (calls es).length := (List.getElem?_eq_some_iff.mp hc).1
    rw [calls_append, List.getElem?_append_left hi, hc]

theorem of_wait {d : Duration} (g : Guided chain final (.wait d :: es)) : Guided chain final es where
  reachable e he fault hm := g.reachable e he fault (List.mem_cons_of_mem _ hm)
  leads                   := g.leads

-- The events after the first call are guided along the rest of the chain.
theorem right (g : Guided (e :: chain) final (es ++ es')) (h : calls es = [call]) : Guided chain final es' where
  reachable k hk fault hm := g.reachable k (List.mem_cons_of_mem _ hk) fault (List.mem_append_right _ hm)
  leads i call hc         := g.leads (i + 1) call (by simpa [h] using hc)

theorem head (g : Guided chain final es) (h : calls es = [call]) : call.2.Leads chain final 0 :=
  g.leads 0 call (by simp [h])

end Guided

namespace LeaderClient

variable (net : Environment σ χ)

-- The client calls this node next, if it can.
inductive Faces (c : LeaderClient χ) (e : Endpoint) : Prop
  | held {ch : χ} (h : c.channel = some ch) (ho : net.isOpen ch) (he : net.endpoint ch = e) : Faces c e
  | presumed (h : ¬c.isConnected net) (hl : c.leader = .known e) : Faces c e

-- No member is picked from the ring.
def Unpicked (t : Trace χ) : Prop :=
  ∀ m ∈ t, ∀ e answer, m.event = .connect e answer → m.client.leader = .known e

-- The nodes that are called and connected to one after the other, and the waits. Each node that is connected to is
-- the presumed leader then, and fresh members are not asked for.
structure Chase (t : Trace χ) (called connected : List Endpoint) (waited : List Duration) : Prop where
  callees_eq   : callees net t.events = called
  connects_eq  : connects t.events = connected
  waits_eq     : waits t.events = waited
  refreshes_eq : refreshes t.events = []
  unpicked     : Unpicked t

variable {net} {req : ConfigRequest} {c c' c₁ : LeaderClient χ} {t t' : Trace χ} {b : Bool} {n : Nat} {e : Endpoint}
  {ch ch' : χ} {reply : Reply ConfigResponse}

namespace Chase

variable {called called' connected connected' : List Endpoint} {waited waited' : List Duration}

theorem append (a : Chase net t called connected waited) (a' : Chase net t' called' connected' waited') :
    Chase net (t ++ t') (called ++ called') (connected ++ connected') (waited ++ waited') where
  callees_eq   := by simp [a.callees_eq, a'.callees_eq]
  connects_eq  := by simp [a.connects_eq, a'.connects_eq]
  waits_eq     := by simp [a.waits_eq, a'.waits_eq]
  refreshes_eq := by simp [a.refreshes_eq, a'.refreshes_eq]
  unpicked     := List.forall_mem_append.mpr ⟨a.unpicked, a'.unpicked⟩

theorem wait (a : Chase net t called connected waited) (c : LeaderClient χ) (d : Duration) :
    Chase net (⟨c, .wait d⟩ :: t) called connected (d :: waited) where
  callees_eq   := by simp [callee?, a.callees_eq]
  connects_eq  := by simp [connect?, a.connects_eq]
  waits_eq     := by simp [wait?, a.waits_eq]
  refreshes_eq := by simp [refresh?, a.refreshes_eq]
  unpicked     := List.forall_mem_cons.mpr ⟨nofun, a.unpicked⟩

end Chase

theorem Drops.chase (d : Drops c t c') : Chase net t [] [] [] := by
  cases d
  case absent => exact ⟨rfl, rfl, rfl, rfl, by simp [Unpicked]⟩
  case closed => exact ⟨rfl, rfl, rfl, rfl, by simp [Unpicked]⟩

-- A client that presumes a leader and has no channel that it could use tries the leader, and nobody else if that is
-- successful.
theorem Resolves.led (r : Resolves c t b c') (hl : c.leader = .known e) (hq : ∀ ev ∈ t.events, ev.Lawful net)
    (hr : ∀ fault, .connect e (.error fault) ∉ t.events) :
    b = true ∧ Chase net t [] [e] [] ∧ ∃ ch, c' = c.hold ch ∧ net.isOpen ch ∧ net.endpoint ch = e := by
  cases r
  case leader d l =>
    have a : Chase net _ [] [] [] := d.chase
    obtain rfl := d.client_eq
    cases l with | @reached k ch hk =>
    obtain rfl : e = k := Leader.known.inj (hl.symm.trans hk)
    have ⟨ho, he⟩ : net.isOpen ch ∧ net.endpoint ch = e := hq (.connect e (.ok ch)) (by simp)
    have a' : Chase net [⟨{ c with channel := none }, .connect e (.ok ch)⟩] [] [e] [] :=
      ⟨rfl, rfl, rfl, rfl, by simp [Unpicked, hl]⟩
    exact ⟨rfl, a.append a', ch, rfl, ho, he⟩
  case ring d l _ =>
    obtain rfl := d.client_eq
    cases l with
    | unknown hn => exact absurd (hl.symm.trans hn) nofun
    | @lost k fault hk =>
      obtain rfl : e = k := Leader.known.inj (hl.symm.trans hk)
      exact absurd (by simp) (hr fault)

-- A client connects to the node that it faces, unless it is connected already.
theorem Connects.faced (a : Connects net c t b c') (hf : c.Faces net e) (hq : ∀ ev ∈ t.events, ev.Lawful net)
    (hr : ∀ fault, .connect e (.error fault) ∉ t.events) :
    b = true ∧ Chase net t [] (if c.isConnected net then [] else [e]) [] ∧
      ∃ ch, c' = c.hold ch ∧ net.isOpen ch ∧ net.endpoint ch = e := by
  cases a
  case held h =>
    cases hf
    case presumed hn _ => exact absurd h hn
    case held ch hc ho he =>
      have a : Chase net [] [] [] ([] : List Duration) := ⟨rfl, rfl, rfl, rfl, by simp [Unpicked]⟩
      exact ⟨rfl, by rwa [if_pos h], ch, by rw [hold, ← hc], ho, he⟩
  case resolved h r =>
    rw [if_neg h]
    cases hf
    case held hc ho _  => exact absurd (by simp [isConnected, hc, ho]) h
    case presumed hl   => exact r.led hl hq hr

theorem Reaches.faced (r : Reaches net c t b c') (hf : c.Faces net e) (hq : ∀ ev ∈ t.events, ev.Lawful net)
    (hr : ∀ fault, .connect e (.error fault) ∉ t.events) :
    Chase net t [] (if c.isConnected net then [] else [e]) [] ∧
      ∃ ch, c' = c.hold ch ∧ net.isOpen ch ∧ net.endpoint ch = e := by
  cases r
  case direct a => exact (a.faced hf hq hr).right
  case refreshed a _ =>
    have ⟨hb, _⟩ := a.faced hf (fun ev hm => hq ev (by simp [hm])) (fun fault hm => hr fault (by simp [hm]))
    contradiction

-- The call after that goes to the same node, and its channel stays open if it is answered.
theorem Reaches.calls (r : Reaches net c t b c₁) (hc : c₁.channel = some ch) (hf : c.Faces net e)
    (hq : ∀ ev ∈ Trace.events (t ++ [⟨c₁, .call ch req reply ch'⟩]), ev.Lawful net ∧ ev.KeepsOpen net)
    (hr : ∀ fault, .connect e (.error fault) ∉ Trace.events (t ++ [⟨c₁, .call ch req reply ch'⟩])) :
    Chase net (t ++ [⟨c₁, .call ch req reply ch'⟩]) [e] (if c.isConnected net then [] else [e]) [] ∧
      c₁.hold ch' = c.hold ch' ∧ net.endpoint ch' = e ∧ ∀ r, reply = .answered r → net.isOpen ch' := by
  rw [Trace.events_append] at hq hr
  obtain ⟨hq, hcall⟩ := List.forall_mem_append.mp hq
  obtain ⟨hl, ho⟩ := hcall (.call ch req reply ch') List.mem_cons_self
  obtain ⟨a, ch₁, rfl, _, he⟩ :=
    r.faced hf (fun ev hm => (hq ev hm).left) fun fault hm => hr fault (List.mem_append_left _ hm)
  cases hc
  have a' : Chase net [⟨c.hold ch, .call ch req reply ch'⟩] [e] [] [] :=
    ⟨by rw [← he]; rfl, rfl, rfl, rfl, by simp [Unpicked]⟩
  refine ⟨by simpa using a.append a', rfl, (hl : net.endpoint ch' = _).trans he, ?_⟩
  rintro r rfl
  exact ho

-- An attempt calls the node that the client faces. All else depends on the reply.
theorem Attempts.faced {o : Option (Reply ConfigResponse)} (a : Attempts net req c t o c') (hf : c.Faces net e)
    (hq : ∀ ev ∈ t.events, ev.Lawful net ∧ ev.KeepsOpen net) (hr : ∀ fault, .connect e (.error fault) ∉ t.events) :
    ∃ reply ch, Event.calls t.events = [(req, reply)] ∧ Chase net t [e] (if c.isConnected net then [] else [e]) [] ∧
      o = verdict req reply ∧ net.endpoint ch = e ∧ (∀ r, reply = .answered r → net.isOpen ch) ∧
      c' = match o with
        | some _ => (c.hold ch).learn reply
        | none   => { (c.hold ch).learn reply with channel := none } := by
  cases a
  case unreached h r =>
    obtain ⟨_, ch, hc, _⟩ := r.faced hf (fun ev hm => (hq ev hm).left) hr
    simp [hc] at h
  case decided ch' reply _ r hc v =>
    obtain ⟨a, hh, he, ho⟩ := r.calls hc hf hq hr
    exact ⟨reply, ch', by simp [(r.prepares hc).searching.calls_eq, call?], a, v.symm, he, ho, by rw [hh]⟩
  case retried ch' reply r hc v d =>
    rw [List.append_cons, Trace.events_append] at hq hr ⊢
    obtain ⟨hq, _⟩ := List.forall_mem_append.mp hq
    obtain ⟨a, hh, he, ho⟩ := r.calls hc hf hq fun fault hm => hr fault (List.mem_append_left _ hm)
    refine ⟨reply, ch', ?_, by simpa using a.append d.chase, v.symm, he, ho, ?_⟩
    case refine_1 => simp [(r.prepares hc).searching.calls_eq, call?, d.probing.calls_eq]
    case refine_2 => rw [d.client_eq, hh]

section

variable {o : Option (Reply ConfigResponse)} {next : Endpoint} {chain : List Endpoint} {final : ConfigResponse}

-- After a redirect the client has no channel and presumes the next node to lead.
theorem Attempts.redirected (a : Attempts net req c t o c') (hf : c.Faces net e)
    (hq : ∀ ev ∈ t.events, ev.Lawful net ∧ ev.KeepsOpen net) (g : Guided (e :: next :: chain) final t.events) :
    o = none ∧ c' = { c with leader := .known next, channel := none } ∧
      (∃ call, Event.calls t.events = [call]) ∧ Chase net t [e] (if c.isConnected net then [] else [e]) [] := by
  have ⟨reply, ch, hc, ch', ho, _, _, hc'⟩ := a.faced hf hq (g.reachable e List.mem_cons_self)
  obtain ⟨r, rfl, hr, hn⟩ := g.head hc
  have hv : verdict req (.answered r) = none := verdict_eq_none_iff.mpr (.redirect hr)
  rw [hv] at ho
  subst ho
  refine ⟨rfl, ?_, ⟨_, hc⟩, ch'⟩
  rw [hc']
  simp [learn, hr, hn, Leader.ofHint, hold]

-- The last node answers, and the channel to it is kept.
theorem Attempts.arrived (a : Attempts net req c t o c') (hf : c.Faces net e)
    (hq : ∀ ev ∈ t.events, ev.Lawful net ∧ ev.KeepsOpen net) (g : Guided [e] final t.events) :
    o = some (.answered final) ∧
      (∃ ch, c' = (c.hold ch).adopt (final.configNodes?.getD []) ∧ net.isOpen ch ∧ net.endpoint ch = e) ∧
      Chase net t [e] (if c.isConnected net then [] else [e]) [] := by
  have ⟨reply, ch, hc, ch', ho, he, hk, hc'⟩ := a.faced hf hq (g.reachable e List.mem_cons_self)
  obtain ⟨rfl, hs⟩ := g.head hc
  have hv : verdict req (.answered final) = some (.answered final) := verdict_eq_some_iff.mpr (.success hs)
  rw [hv] at ho
  subst ho
  refine ⟨rfl, ⟨ch, ?_, hk final rfl, he⟩, ch'⟩
  rw [hc']
  simp [learn, Status.not_isRedirect_of_isSuccess hs, hs]

variable (net c final)

-- How an operation of so many attempts ends that follows a chain of nodes.
inductive Ends (n : Nat) (chain : List Endpoint) : Reply ConfigResponse → LeaderClient χ → Prop
  | arrived {last : Endpoint} {ch : χ} (h : chain.length ≤ n) (hl : chain.getLast? = some last)
    (ho : net.isOpen ch) (he : net.endpoint ch = last) :
    Ends n chain (.answered final)
      (adopt (final.configNodes?.getD [])
        { c with leader := if chain.length = 1 then c.leader else .known last, channel := some ch })
  | spent {next : Endpoint} (h : chain[n]? = some next) :
    Ends n chain exhausted { c with leader := .known next, channel := none }

variable {net c final}

theorem Ends.cons {reply : Reply ConfigResponse}
    (h : Ends net { c with leader := .known next, channel := none } final n (next :: chain) reply c') :
    Ends net c final (n + 1) (e :: next :: chain) reply c' := by
  cases h
  case arrived last ch h hl ho he =>
    have hl' : (e :: next :: chain).getLast? = some last := by rwa [List.getLast?_cons_cons]
    have a : Ends net c final (n + 1) (e :: next :: chain) _ _ := .arrived (Nat.succ_le_succ h) hl' ho he
    have hn : (if (next :: chain).length = 1 then .known next else .known last : Leader) = .known last := by
      cases chain
      case nil  => cases hl; rfl
      case cons => simp
    simp only [hn]
    simpa using a
  case spent h => exact .spent (by simpa using h)

theorem Retries.chased {r : Reply ConfigResponse} (rs : Retries net req n c t r c') (hc : c.channel = none)
    (hl : c.leader = .known e) (hq : ∀ ev ∈ t.events, ev.Lawful net ∧ ev.KeepsOpen net)
    (g : Guided (e :: chain) final t.events) :
    let called := (e :: chain).take n
    Chase net t called called (List.replicate called.length c.retry.interval) ∧
      Ends net c final n (e :: chain) r c' := by
  -- No attempt but the first one of an operation starts with a channel.
  have hn {c : LeaderClient χ} (hc : c.channel = none) : ¬c.isConnected net := by simp [isConnected, hc]
  induction rs generalizing e chain
  case spent c =>
    have hs : c = { c with leader := .known e, channel := none } := by rw [← hc, ← hl]
    refine ⟨⟨rfl, rfl, rfl, rfl, by simp [Unpicked]⟩, ?_⟩
    have h : Ends net c final 0 (e :: chain) exhausted { c with leader := .known e, channel := none } := .spent rfl
    rwa [← hs] at h
  case final n c c' t r a =>
    have hf : c.Faces net e := .presumed (hn hc) hl
    have hq := (List.forall_mem_cons.mp hq).right
    cases chain
    case cons =>
      obtain ⟨ho, _⟩ := a.redirected hf hq g.of_wait
      contradiction
    case nil =>
      obtain ⟨ho, ⟨ch, rfl, hop, he⟩, a'⟩ := a.arrived hf hq g.of_wait
      cases ho
      rw [if_neg (hn hc)] at a'
      refine ⟨by simpa using a'.wait c c.retry.interval, ?_⟩
      exact .arrived (Nat.succ_pos n) rfl hop he
  case again n c c₁ c₂ t t' r a rest hi =>
    have hf : c.Faces net e := .presumed (hn hc) hl
    simp only [List.cons_append, Trace.events_cons, Trace.events_append] at hq g
    obtain ⟨hq, hq'⟩ := List.forall_mem_append.mp (List.forall_mem_cons.mp hq).right
    cases chain
    case nil =>
      obtain ⟨ho, _⟩ := a.arrived hf hq g.of_wait.left
      contradiction
    case cons next chain =>
      obtain ⟨_, rfl, ⟨_, hcall⟩, a'⟩ := a.redirected hf hq g.of_wait.left
      rw [if_neg (hn hc)] at a'
      obtain ⟨a'', ends⟩ := hi rfl rfl hq' (g.of_wait.right hcall)
      exact ⟨by simpa [List.replicate_succ] using (a'.wait c c.retry.interval).append a'', ends.cons⟩

theorem Executes.chased {r : Reply ConfigResponse} (x : Executes net req c t r c') (hf : c.Faces net e)
    (hm : 0 < c.retry.maxAttempts.toNat) (hq : ∀ ev ∈ t.events, ev.Lawful net ∧ ev.KeepsOpen net)
    (g : Guided (e :: chain) final t.events) :
    let called := (e :: chain).take c.retry.maxAttempts.toNat
    Chase net t called (if c.isConnected net then called.tail else called)
        (List.replicate (called.length - 1) c.retry.interval) ∧
      Ends net c final c.retry.maxAttempts.toNat (e :: chain) r c' := by
  cases x
  case spent h => simp [h] at hm
  case final n h a =>
    rw [h]
    cases chain
    case cons =>
      have ⟨ho, _⟩ := a.redirected hf hq g
      contradiction
    case nil =>
      obtain ⟨ho, ⟨ch, rfl, hop, he⟩, a'⟩ := a.arrived hf hq g
      cases ho
      exact ⟨by simpa using a', .arrived (Nat.succ_pos n) rfl hop he⟩
  case again n c₁ t t' h a rest =>
    rw [h]
    rw [Trace.events_append] at hq g
    have ⟨hq, hq'⟩ := List.forall_mem_append.mp hq
    cases chain
    case nil =>
      have ⟨ho, _⟩ := a.arrived hf hq g.left
      contradiction
    case cons next chain =>
      obtain ⟨_, rfl, ⟨_, hcall⟩, a'⟩ := a.redirected hf hq g.left
      have ⟨a'', ends⟩ := rest.chased rfl rfl hq' (g.right hcall)
      refine ⟨?_, ends.cons⟩
      have a := a'.append a''
      split <;> simp_all

end

-- The first event of a client that presumes a leader and has no channel is that it connects to the leader.
def Starts (e : Endpoint) (events : List (Event χ)) : Prop :=
  ∃ answer, events.head? = some (.connect e answer)

theorem Starts.append {es : List (Event χ)} (h : Starts e es) (es' : List (Event χ)) : Starts e (es ++ es') := by
  have ⟨answer, h⟩ := h
  exact ⟨answer, List.head?_append.trans (by rw [h]; rfl)⟩

theorem Connects.starts (a : Connects net c t b c') (hc : c.channel = none) (hl : c.leader = .known e) :
    Starts e t.events := by
  cases a
  case held h => simp [isConnected, hc] at h
  case resolved r =>
    cases r
    case leader d l =>
      cases d
      case closed h => simp [hc] at h
      case absent =>
        cases l with | @reached k ch h =>
        obtain rfl : e = k := Leader.known.inj (hl.symm.trans h)
        exact ⟨_, rfl⟩
    case ring d l _ =>
      cases d
      case closed h => simp [hc] at h
      case absent =>
        cases l with
        | unknown h => simp [hl] at h
        | @lost k fault h =>
          obtain rfl : e = k := Leader.known.inj (hl.symm.trans h)
          exact ⟨_, rfl⟩

theorem Reaches.starts (r : Reaches net c t b c') (hc : c.channel = none) (hl : c.leader = .known e) :
    Starts e t.events := by
  cases r
  case direct a => exact a.starts hc hl
  case refreshed a _ =>
    rw [Trace.events_append]
    exact (a.starts hc hl).append _

theorem Attempts.starts {o : Option (Reply ConfigResponse)} (a : Attempts net req c t o c') (hc : c.channel = none)
    (hl : c.leader = .known e) : Starts e t.events := by
  cases a
  case unreached r => exact r.starts hc hl
  case decided r _ _ | retried r _ _ _ =>
    rw [Trace.events_append]
    exact (r.starts hc hl).append _

theorem Executes.starts {r : Reply ConfigResponse} (x : Executes net req c t r c') (hc : c.channel = none)
    (hl : c.leader = .known e) (hm : 0 < c.retry.maxAttempts.toNat) : Starts e t.events := by
  cases x
  case spent h => simp [h] at hm
  case final a => exact a.starts hc hl
  case again a _ =>
    rw [Trace.events_append]
    exact (a.starts hc hl).append _

-- What an operation comes to that is redirected along a chain of nodes, with attempts enough for all of them or not.
structure Redirected (net : Environment σ χ) (c : LeaderClient χ) (chain : List Endpoint) (final : ConfigResponse)
    (t : Trace χ) (reply : Reply ConfigResponse) (c' : LeaderClient χ) : Prop where
  chase   : let called := chain.take c.retry.maxAttempts.toNat
            Chase net t called (if c.isConnected net then called.tail else called)
              (List.replicate (called.length - 1) c.retry.interval)
  arrived : chain.length ≤ c.retry.maxAttempts.toNat →
            reply = .answered final ∧ c'.roster = c.roster.renew final.configNodes? ∧
            ∃ last, chain.getLast? = some last ∧ c'.connectedTo net.toNetwork = some last ∧
              c'.leader = if chain.length = 1 then c.leader else .known last
  spent   : c.retry.maxAttempts.toNat < chain.length →
            reply = exhausted ∧ c'.roster = c.roster ∧ c'.channel = none ∧
            ∃ next, chain[c.retry.maxAttempts.toNat]? = some next ∧ c'.leader = .known next ∧
              ∀ req w, Starts next (ask net.recorded req c' { world := w }).2.2.events

theorem adopt_roster (c : LeaderClient χ) (answer : Option (List Endpoint)) :
    (c.adopt (answer.getD [])).roster = c.roster.renew answer := by
  rcases answer with _ | _ | ⟨e, members⟩ <;> rfl

-- Whoever is presumed to lead is the first that an operation turns to.
theorem ask_starts (net : Environment σ χ) (req : ConfigRequest) (hc : c.channel = none) (hl : c.leader = .known e)
    (hm : 0 < c.retry.maxAttempts.toNat) (w : σ) : Starts e (ask net.recorded req c { world := w }).2.2.events := by
  have ⟨_, _, _, _, _, hr, x⟩ := c.execute_trace net req { world := w }
  simpa [ask_eq, hr, Recorded.add] using x.starts hc hl hm

theorem Executes.redirected {reply : Reply ConfigResponse} {chain : List Endpoint} {final : ConfigResponse}
    (x : Executes net req c t reply c') (hf : c.Faces net e) (hm : 0 < c.retry.maxAttempts.toNat)
    (hq : ∀ ev ∈ t.events, ev.Lawful net ∧ ev.KeepsOpen net) (g : Guided (e :: chain) final t.events) :
    Redirected net c (e :: chain) final t reply c' := by
  have ⟨chase, ends⟩ := x.chased hf hm hq g
  cases ends
  case arrived last ch h hl ho he =>
    refine ⟨chase, fun _ => ⟨rfl, adopt_roster .., last, hl, ?_, adopt_leader ..⟩,
      fun h' => absurd h (Nat.not_le.mpr h')⟩
    simp [connectedTo, ho, he]
  case spent next h =>
    have hs := (List.getElem?_eq_some_iff.mp h).1
    refine ⟨chase, fun h' => absurd hs (Nat.not_lt.mpr h'), fun _ => ⟨rfl, rfl, rfl, next, h, rfl, fun req w => ?_⟩⟩
    exact ask_starts (c := { c with leader := .known next, channel := none }) net req rfl rfl hm w

-- An operation that is redirected follows the chain of nodes in its order, as far as it may, and turns to nobody
-- else. What it has not come to is where the next operation begins.
theorem ask_redirected (net : LawfulEnvironment σ χ)
    (hk : ∀ ch req w r ch' w', net.call ch req none w = (.answered r, ch', w') → net.isOpen ch')
    (req : ConfigRequest) (c : LeaderClient χ) (w : σ) (first : Endpoint) (others : List Endpoint)
    (final : ConfigResponse) (hf : c.Faces net.toEnvironment first) (hm : 0 < c.retry.maxAttempts.toNat) :
    let env := net.toEnvironment
    ∃ reply c' w' t, c.execute env req w = (reply, c', w') ∧
      ask env req c w = (reply.select req.value?, c', w') ∧
      ask env.recorded req c { world := w } = (reply.select req.value?, c', { world := w', events := t.events }) ∧
      Performs env c (.ask req) t c' ∧
      (Guided (first :: others) final t.events → Redirected env c (first :: others) final t reply c') := by
  intro env
  have ⟨reply, c', w', t, hn, hr, x, p⟩ := c.execute_plays env req { world := w }
  refine ⟨reply, c', w', t, hn, by simp only [ask_eq, hn], by simp only [ask_eq, hr]; rfl, .asked x, fun g => ?_⟩
  refine x.redirected hf hm (fun ev he => ?_) g
  have ⟨_, _, h⟩ := p.happens ev he
  refine ⟨h.lawful, ?_⟩
  cases ev with
  | call ch req reply ch' =>
    cases reply with
    | answered r      => exact hk ch req _ r ch' _ h
    | failed | silent => trivial
  | _ => trivial

-- Two nodes that redirect to each other, until the attempts are spent.
theorem ask_redirected_in_circles :
    let a : Endpoint := ⟨"a", 10710⟩
    let b : Endpoint := ⟨"b", 10710⟩
    let req : ConfigRequest := .removeNode (.unregistered a)
    let toA : Cue ConfigResponse := .respond (.removed (.redirect (some a)))
    let toB : Cue ConfigResponse := .respond (.removed (.redirect (some b)))
    let c : LeaderClient Script.Channel := {
      leader := .unknown, members := [b], channel := some { endpoint := a }, retry := { maxAttempts := 3 }
    }
    let w : Refreshed Script.Config := { world := { cues := [(a, toB), (a, toB), (b, toA)] } }
    let net : LawfulEnvironment (Refreshed Script.Config) Script.Channel := Script.lawful.refreshed
    c.Faces net.toEnvironment a ∧ 0 < c.retry.maxAttempts.toNat ∧
      ∃ reply c' w' t, c.execute net.toEnvironment req w = (reply, c', w') ∧
        Guided [a, b, a, b] (.removed .success) t.events ∧
        Redirected net.toEnvironment c [a, b, a, b] (.removed .success) t reply c' ∧ c'.leader = .known b := by
  intro a b req toA toB c w net
  have hk : ∀ ch req w r ch' w', net.call ch req none w = (.answered r, ch', w') → net.isOpen ch' := by
    intro ch req w r ch' w' h
    have hs := Script.scripted.call ch req none w
    rw [show Script.network.toNetwork.refreshed.call ch req none w = (.answered r, ch', w') from h] at hs
    obtain ⟨ho, rfl, _⟩ := Script.call_answered hs.symm
    exact ho
  have hf : c.Faces net.toEnvironment a := .held rfl rfl rfl
  have hm : 0 < c.retry.maxAttempts.toNat := by decide
  have ⟨reply, c', w', t, hn, _, hr, _, hg⟩ := ask_redirected net hk req c w a [b, a, b] (.removed .success) hf hm
  have ht : t.events = (ask net.toEnvironment.recorded req c { world := w }).2.2.events := by rw [hr]
  have he : t.events = [
      .call { endpoint := a } req (.answered (.removed (.redirect (some b)))) { endpoint := a },
      .close { endpoint := a } { endpoint := a, isOpen := false }, .wait c.retry.interval,
      .connect b (.ok { endpoint := b }),
      .call { endpoint := b } req (.answered (.removed (.redirect (some a)))) { endpoint := b },
      .close { endpoint := b } { endpoint := b, isOpen := false }, .wait c.retry.interval,
      .connect a (.ok { endpoint := a }),
      .call { endpoint := a } req (.answered (.removed (.redirect (some b)))) { endpoint := a },
      .close { endpoint := a } { endpoint := a, isOpen := false }] := ht.trans rfl
  have g : Guided [a, b, a, b] (.removed .success) t.events := by
    refine ⟨by simp [he], fun i call hc => ?_⟩
    rw [he] at hc
    rcases i with _ | _ | _ | i
    case succ.succ.succ => simp [call?] at hc
    all_goals
      cases hc
      exact ⟨_, rfl, by decide, rfl⟩
  have rd := hg g
  obtain ⟨_, _, _, next, hx, hl, _⟩ := rd.spent (by decide)
  cases hx
  exact ⟨hf, hm, reply, c', w', t, hn, g, rd, hl⟩

end LeaderClient

end ClusterClient
