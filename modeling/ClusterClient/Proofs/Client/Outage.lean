import ClusterClient.Proofs.Client.Failover
import Mathlib

namespace ClusterClient

variable {σ χ : Type}

namespace Event

def connect? : Event χ → Option Endpoint
  | connect e _ => some e
  | _ => none

def refresh? : Event χ → Option (List Endpoint × Option (List Endpoint))
  | refresh known answer => some (known, answer)
  | _ => none

def connects (events : List (Event χ)) : List Endpoint :=
  events.filterMap connect?

def refreshes (events : List (Event χ)) : List (List Endpoint × Option (List Endpoint)) :=
  events.filterMap refresh?

@[simp]
theorem connects_append (es es' : List (Event χ)) : connects (es ++ es') = connects es ++ connects es' :=
  List.filterMap_append

@[simp]
theorem refreshes_append (es es' : List (Event χ)) : refreshes (es ++ es') = refreshes es ++ refreshes es' :=
  List.filterMap_append

@[simp]
theorem connects_cons (e : Event χ) (es : List (Event χ)) :
    connects (e :: es) = e.connect?.toList ++ connects es := by
  cases e <;> rfl

@[simp]
theorem refreshes_cons (e : Event χ) (es : List (Event χ)) :
    refreshes (e :: es) = e.refresh?.toList ++ refreshes es := by
  cases e <;> rfl

theorem Probing.refreshes_eq {es : List (Event χ)} (h : Probing es) : refreshes es = [] :=
  List.filterMap_eq_nil_iff.mpr fun e he => by cases h e he <;> rfl

def isConnection : Event χ → Bool
  | connect _ (.ok _) => true
  | _ => false

-- No connection is made.
def Refused (events : List (Event χ)) : Prop :=
  ∀ e ch, .connect e (.ok ch) ∉ events

theorem refused_iff {events : List (Event χ)} : (∀ e ∈ events, ¬e.isConnection) ↔ Refused events where
  mp h e ch hm := h _ hm rfl
  mpr h ev hm hc := by
    cases ev <;> try contradiction
    case connect e answer =>
      cases answer
      case error => contradiction
      case ok ch => exact h e ch hm

instance (events : List (Event χ)) : Decidable (Refused events) :=
  decidable_of_iff _ refused_iff

theorem Refused.append_iff {es es' : List (Event χ)} : Refused (es ++ es') ↔ Refused es ∧ Refused es' where
  mp h  := ⟨fun e ch hm => h e ch (List.mem_append_left _ hm), fun e ch hm => h e ch (List.mem_append_right _ hm)⟩
  mpr h := fun e ch hm => (List.mem_append.mp hm).elim (h.left e ch) (h.right e ch)

theorem Refused.tail {e : Event χ} {es : List (Event χ)} (h : Refused (e :: es)) : Refused es :=
  fun e ch hm => h e ch (List.mem_cons_of_mem _ hm)

end Event

open Event

-- The leader, if there is one to try.
def Leader.toList : Leader → List Endpoint
  | known e => [e]
  | unknown => []

-- Members in a ring, and the place of the one that was tried last.
structure Roster where
  members : List Endpoint
  cursor : Nat
  deriving DecidableEq

namespace Roster

def Valid (r : Roster) : Prop :=
  r.cursor < r.members.length

-- Once round the ring, from the member past the cursor on.
def walk (r : Roster) : List Endpoint :=
  r.members.rotate (r.cursor + 1)

-- Fresh members take the place of the old ones, unless there are none.
def renew (r : Roster) : Option (List Endpoint) → Roster
  | none | some [] => r
  | some members   => { members, cursor := r.cursor % members.length }

def renewAll (r : Roster) (answers : List (Option (List Endpoint))) : Roster :=
  answers.foldl renew r

-- The members that are tried in vain, twice round the ring for every answer.
def outage : Roster → List (Option (List Endpoint)) → List Endpoint
  | _, []                => []
  | r, answer :: answers => r.walk ++ (r.renew answer).walk ++ (r.renew answer).outage answers

-- What fresh members are asked for, with the answers.
def asked : Roster → List (Option (List Endpoint)) → List (List Endpoint × Option (List Endpoint))
  | _, []                => []
  | r, answer :: answers => (r.members, answer) :: (r.renew answer).asked answers

variable {r : Roster} {answer : Option (List Endpoint)} {answers : List (Option (List Endpoint))}

theorem Valid.cursor_mod (h : r.Valid) : r.cursor % r.members.length = r.cursor :=
  Nat.mod_eq_of_lt h

theorem Valid.renew (h : r.Valid) (answer : Option (List Endpoint)) : (r.renew answer).Valid := by
  rcases answer with _ | _ | ⟨e, members⟩
  case none | some.nil => exact h
  case some.cons       => exact Nat.mod_lt _ (Nat.succ_pos _)

theorem renew_of_getD_eq_nil (h : answer.getD [] = []) : r.renew answer = r := by
  rcases answer with _ | members
  case none => rfl
  case some => cases h; rfl

theorem answers_of_asked (r : Roster) (answers : List (Option (List Endpoint))) :
    (r.asked answers).map Prod.snd = answers := by
  induction answers generalizing r
  case nil => rfl
  case cons hi => exact congrArg (List.cons _) (hi _)

theorem length_outage (h : ∀ answer ∈ answers, answer.getD [] = []) :
    (r.outage answers).length = 2 * answers.length * r.members.length := by
  induction answers
  case nil => simp [outage]
  case cons hi =>
    have ⟨ha, h⟩ := List.forall_mem_cons.mp h
    simp only [outage, renew_of_getD_eq_nil ha, List.length_append, walk, List.length_rotate, hi h, List.length_cons]
    ring

end Roster

-- The events of attempts that come to nothing, apart from waits, after the connects of these nodes.
structure Futile (lead : List Endpoint) (r : Roster) (answers : List (Option (List Endpoint)))
    (events : List (Event χ)) : Prop where
  connects_eq  : connects events = lead ++ r.outage answers
  refreshes_eq : refreshes events = r.asked answers
  calls_eq     : calls events = []

namespace Futile

variable {lead : List Endpoint} {r : Roster} {answer : Option (List Endpoint)}
  {answers : List (Option (List Endpoint))} {es es' : List (Event χ)}

theorem nil : Futile [] r [] ([] : List (Event χ)) :=
  ⟨rfl, rfl, rfl⟩

theorem wait (f : Futile lead r answers es) (d : Duration) : Futile lead r answers (.wait d :: es) :=
  ⟨f.connects_eq, f.refreshes_eq, f.calls_eq⟩

theorem cons (f : Futile lead r [answer] es) (f' : Futile [] (r.renew answer) answers es') :
    Futile lead r (answer :: answers) (es ++ es') where
  connects_eq  := by simp [f.connects_eq, f'.connects_eq, Roster.outage]
  refreshes_eq := by simp [f.refreshes_eq, f'.refreshes_eq, Roster.asked]
  calls_eq     := by simp [f.calls_eq, f'.calls_eq]

end Futile

namespace LeaderClient

def roster (c : LeaderClient χ) : Roster where
  members := c.members
  cursor  := c.cursor

-- Left with nothing but its members.
def strand (c : LeaderClient χ) (r : Roster) : LeaderClient χ :=
  { c with leader := .unknown, members := r.members, cursor := r.cursor, channel := none }

@[simp]
theorem strand_leader (c : LeaderClient χ) (r : Roster) : (c.strand r).leader = .unknown := rfl

@[simp]
theorem roster_strand (c : LeaderClient χ) (r : Roster) : (c.strand r).roster = r := rfl

theorem adopt_strand (c : LeaderClient χ) (r : Roster) (answer : Option (List Endpoint)) :
    (c.strand r).adopt (answer.getD []) = c.strand (r.renew answer) := by
  rcases answer with _ | _ | ⟨e, members⟩ <;> rfl

theorem strand_not_isConnected {net : Environment σ χ} {c : LeaderClient χ} {r : Roster} :
    ¬(c.strand r).isConnected net :=
  Bool.false_ne_true

variable {net : Environment σ χ} {req : ConfigRequest} {c c' : LeaderClient χ} {t : Trace χ} {b : Bool} {n : Nat}

theorem filterMap_range_getElem? {α : Type} (l : List α) : (List.range l.length).filterMap (l[·]?) = l := by
  induction l
  case nil => rfl
  case cons hi => simpa [List.range_succ_eq_map, List.filterMap_map, Function.comp_def] using hi

theorem candidates_eq (c : LeaderClient χ) :
    (List.range c.members.length).filterMap c.candidate? = c.roster.walk := by
  have hc : ∀ i ∈ List.range c.members.length, c.candidate? i = c.roster.walk[i]? :=
    fun i hi => (List.getElem?_rotate (List.mem_range.mp hi)).symm
  have hl : c.members.length = c.roster.walk.length := (List.length_rotate ..).symm
  rw [List.filterMap_congr hc, hl, filterMap_range_getElem?]

-- The cursor takes a step for every member that refuses.
theorem Walks.around (r : Walks n c t b c') (hr : Refused t.events) (h : c.roster.Valid) :
    b = false ∧ c' = { c with cursor := (c.cursor + n) % c.members.length } ∧
      connects t.events = (List.range n).filterMap c.candidate? := by
  induction r
  case done c => exact ⟨rfl, congrArg (fun i => { c with cursor := i }) h.cursor_mod.symm, rfl⟩
  case vacant c _ _ _ hm _ _ =>
    have hlt := c.advance_cursor_lt (Nat.zero_lt_of_lt h)
    simp [hlt] at hm
  case reached => exact absurd List.mem_cons_self (hr _ _)
  case lost n c _ e _ _ _ hm _ hi =>
    have ⟨hb, hc, he⟩ := hi hr.tail (c.advance_cursor_lt (Nat.zero_lt_of_lt h))
    refine ⟨hb, ?_, ?_⟩
    case refine_1 => simp [hc, advance, Nat.add_assoc, Nat.add_comm 1]
    case refine_2 =>
      have hz : c.candidate? 0 = some e := candidate?_zero.trans hm
      simp [List.range_succ_eq_map, List.filterMap_map, hz, he, connect?, candidate?_advance]

theorem Drops.connects_eq (d : Drops c t c') : connects t.events = [] := by
  cases d <;> rfl

theorem TriesLeader.stranded (l : TriesLeader c t b c') (hr : Refused t.events) :
    c' = { c with leader := .unknown } ∧ connects t.events = c.leader.toList := by
  cases l
  case unknown h => exact ⟨by rw [← h], by rw [h]; rfl⟩
  case reached   => exact absurd List.mem_cons_self (hr _ _)
  case lost h    => exact ⟨rfl, by rw [h]; rfl⟩

theorem Resolves.stranded (r : Resolves c t b c') (hr : Refused t.events) (h : c.roster.Valid) :
    b = false ∧ c' = c.strand c.roster ∧ connects t.events = c.leader.toList ++ c.roster.walk := by
  cases r <;> simp only [Trace.events_append, Refused.append_iff] at hr
  case leader l =>
    cases l
    exact absurd List.mem_cons_self (hr.right _ _)
  case ring d l w =>
    have hd := d.connects_eq
    obtain rfl := d.client_eq
    obtain ⟨rfl, hl⟩ := l.stranded hr.left.right
    obtain ⟨hb, rfl, hw⟩ := w.around hr.right h
    refine ⟨hb, ?_, ?_⟩
    -- A full round brings the cursor back to where it was.
    case refine_1 =>
      have hc : (c.cursor + c.members.length) % c.members.length = c.cursor :=
        (Nat.add_mod_right ..).trans h.cursor_mod
      simp only [hc, strand, roster]
    case refine_2 => rw [Trace.events_append, Trace.events_append, connects_append, connects_append, hd, hl, hw,
        List.nil_append, candidates_eq]; rfl

theorem Connects.stranded (e : Connects net c t b c') (hn : ¬c.isConnected net) (hr : Refused t.events)
    (h : c.roster.Valid) :
    b = false ∧ c' = c.strand c.roster ∧ connects t.events = c.leader.toList ++ c.roster.walk := by
  cases e
  case held ho    => exact absurd ho hn
  case resolved r => exact r.stranded hr h

theorem Reaches.stranded (r : Reaches net c t b c') (hn : ¬c.isConnected net) (hr : Refused t.events)
    (h : c.roster.Valid) :
    ∃ answer, c' = c.strand (c.roster.renew answer) ∧ Futile c.leader.toList c.roster [answer] t.events := by
  cases r
  case direct e =>
    have ⟨hb, _⟩ := e.stranded hn hr h
    contradiction
  case refreshed answer _ _ e e' =>
    rw [Trace.events_append, Refused.append_iff] at hr
    obtain ⟨_, rfl, he⟩ := e.stranded hn hr.left h
    rw [adopt_strand] at e'
    obtain ⟨rfl, rfl, he'⟩ := e'.stranded strand_not_isConnected hr.right.tail (h.renew answer)
    refine ⟨answer, rfl, ?_, ?_, ?_⟩ <;> simp only [Trace.events_append, Trace.events_cons]
    case refine_1 => simp [he, he', connect?, Leader.toList, Roster.outage]
    case refine_2 => simp [e.probing.refreshes_eq, e'.probing.refreshes_eq, refresh?, Roster.asked]; rfl
    case refine_3 => simp [e.probing.calls_eq, e'.probing.calls_eq, call?]

theorem Attempts.stranded {o : Option (Reply ConfigResponse)} (a : Attempts net req c t o c')
    (hn : ¬c.isConnected net) (hr : Refused t.events) (h : c.roster.Valid) :
    o = none ∧ ∃ answer, c' = c.strand (c.roster.renew answer) ∧
      Futile c.leader.toList c.roster [answer] t.events := by
  cases a
  case unreached _ r => exact ⟨rfl, r.stranded hn hr h⟩
  -- No call is made without a channel.
  case decided r _ _ | retried r _ _ _ =>
    rw [Trace.events_append, Refused.append_iff] at hr
    obtain ⟨_, rfl, _⟩ := r.stranded hn hr.left h
    contradiction

theorem Retries.stranded {r : Roster} {result : Reply ConfigResponse}
    (rs : Retries net req n (c.strand r) t result c') (hr : Refused t.events) (h : r.Valid) :
    ∃ answers, answers.length = n ∧ c' = c.strand (r.renewAll answers) ∧ Futile [] r answers t.events := by
  induction n generalizing r t
  case zero =>
    cases rs
    exact ⟨[], rfl, rfl, .nil⟩
  case succ n hi =>
    cases rs
    case final a =>
      have ⟨ho, _⟩ := a.stranded strand_not_isConnected hr.tail h
      contradiction
    case again a rest =>
      rw [Trace.events_append, Trace.events_cons, Refused.append_iff] at hr
      obtain ⟨_, answer, rfl, f⟩ := a.stranded strand_not_isConnected hr.left.tail h
      have ⟨answers, hl, hc, f'⟩ := hi rest hr.right (h.renew answer)
      refine ⟨answer :: answers, congrArg (· + 1) hl, hc, ?_⟩
      rw [Trace.events_append]
      exact (f.wait _).cons f'

theorem Executes.stranded {result : Reply ConfigResponse} (e : Executes net req c t result c')
    (hn : ¬c.isConnected net) (hr : Refused t.events) (h : c.roster.Valid) :
    ∃ answers, answers.length = c.retry.maxAttempts.toNat ∧ c'.roster = c.roster.renewAll answers ∧
      (answers ≠ [] → c' = c.strand (c.roster.renewAll answers)) ∧
      Futile (if answers = [] then [] else c.leader.toList) c.roster answers t.events := by
  cases e
  case spent hm => exact ⟨[], hm.symm, rfl, (absurd rfl ·), .nil⟩
  case final a =>
    have ⟨ho, _⟩ := a.stranded hn hr h
    contradiction
  case again hm a rest =>
    rw [Trace.events_append, Refused.append_iff] at hr
    obtain ⟨_, answer, rfl, f⟩ := a.stranded hn hr.left h
    obtain ⟨answers, rfl, rfl, f'⟩ := rest.stranded hr.right (h.renew answer)
    exact ⟨answer :: answers, hm.symm, rfl, fun _ => rfl, Trace.events_append .. ▸ f.cons f'⟩

-- An operation of a client that reaches nobody, with the answers it had when it asked for fresh members.
structure Outage (c : LeaderClient χ) (answers : List (Option (List Endpoint))) (events : List (Event χ)) {α : Type}
    (result : Reply α) (c' : LeaderClient χ) : Prop where
  attempts_eq  : answers.length = c.retry.maxAttempts.toNat
  result_eq    : result = .failed (.clusterUnreachable reconnectionFailure)
  calls_eq     : calls events = []
  refreshes_eq : refreshes events = c.roster.asked answers
  waits_eq     : waits events = List.replicate (c.retry.maxAttempts.toNat - 1) c.retry.interval
  connects_eq  : connects events = (if answers = [] then [] else c.leader.toList) ++ c.roster.outage answers
  roster_eq    : c'.roster = c.roster.renewAll answers
  stranded     : answers ≠ [] → c'.leader = .unknown ∧ c'.channel = none

-- All that an operation does while every connection is refused. If no fresh members come, it tries each member
-- twice in every attempt, and the leader once.
theorem ask_outage (net : Environment σ χ) (req : ConfigRequest) (c : LeaderClient χ) (w : σ)
    (hn : ¬c.isConnected net) (h : c.cursor < c.members.length) :
    ∃ result c' w' events, ask net req c w = (result, c', w') ∧
      ask net.recorded req c { world := w } = (result, c', { world := w', events }) ∧
      ((∀ e ch, .connect e (.ok ch) ∉ events) →
        Outage c ((refreshes events).map Prod.snd) events result c' ∧
        ((∀ answer ∈ (refreshes events).map Prod.snd, answer.getD [] = []) →
          (connects events).length =
            (if c.retry.maxAttempts = 0 then 0 else c.leader.toList.length) +
              2 * c.retry.maxAttempts.toNat * c.members.length)) := by
  have ⟨reply, c', w', t, he, hr, e, _⟩ := c.execute_plays net req { world := w }
  refine ⟨reply.select req.value?, c', w', t.events, by simp only [ask_eq, he], by simp only [ask_eq, hr]; rfl, ?_⟩
  intro refused
  have ⟨answers, hl, hc, hs, f⟩ := e.stranded hn refused h
  have ha : (refreshes t.events).map Prod.snd = answers := by rw [f.refreshes_eq, Roster.answers_of_asked]
  have ⟨attempts, hev, s⟩ := e.settles
  have o := s.outcome
  rw [← hev] at o
  have ⟨hx, hm, _⟩ := o.exhausted (by simp [f.calls_eq])
  rw [ha]
  refine ⟨?_, fun none => ?_⟩
  case refine_1 =>
    exact {
      attempts_eq  := hl
      result_eq    := by rw [hx]; rfl
      calls_eq     := f.calls_eq
      refreshes_eq := f.refreshes_eq
      waits_eq     := hm ▸ o.waits_eq
      connects_eq  := f.connects_eq
      roster_eq    := hc
      stranded hne := by rw [hs hne]; exact ⟨rfl, rfl⟩
    }
  case refine_2 =>
    have hz : answers = [] ↔ c.retry.maxAttempts = 0 := by
      rw [← List.length_eq_zero_iff, hl]
      exact UInt32.toNat_inj (b := 0)
    rw [f.connects_eq, List.length_append, Roster.length_outage none, hl]
    simp only [hz]
    split <;> rfl

-- The first answer leaves one member of two, the second one brings three.
theorem ask_outage_shrinking_growing :
    let a : Endpoint := ⟨"a", 10710⟩
    let b : Endpoint := ⟨"b", 10710⟩
    let d : Endpoint := ⟨"d", 10710⟩
    let req : ConfigRequest := .removeNode (.unregistered a)
    let c : LeaderClient Script.Channel := {
      leader := .known b, members := [a, b], cursor := 1, retry := { maxAttempts := 2 }
    }
    let w : Refreshed Script.Config := {
      world := { unreachable := [a, b, d] }, refresher := .script [some [d], some [b, a, d]]
    }
    let net := Script.network.toNetwork.refreshed
    ¬c.isConnected net ∧ c.cursor < c.members.length ∧
      ∃ result c' w' events, ask net req c w = (result, c', w') ∧
        ask net.recorded req c { world := w } = (result, c', { world := w', events }) ∧
        (∀ e ch, .connect e (.ok ch) ∉ events) ∧ result = .failed (.clusterUnreachable reconnectionFailure) ∧
        connects events = [b, a, b, d, d, a, d, b] ∧ c'.roster = { members := [b, a, d], cursor := 0 } := by
  intro a b d req c w net
  have hn : ¬c.isConnected net := by decide
  have h : c.cursor < c.members.length := by decide
  have ⟨result, c', w', events, he, hr, ho⟩ := ask_outage net req c w hn h
  have hev : events = (ask net.recorded req c { world := w }).2.2.events := by rw [hr]
  have refused : Refused events := by rw [hev]; decide
  have ⟨o, _⟩ := ho refused
  have ha : (refreshes events).map Prod.snd = [some [d], some [b, a, d]] := by rw [hev]; decide
  rw [ha] at o
  exact ⟨hn, h, result, c', w', events, he, hr, refused, o.result_eq, o.connects_eq.trans (by decide),
    o.roster_eq.trans (by decide)⟩

end LeaderClient

end ClusterClient
