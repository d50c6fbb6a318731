import ClusterClient.Proofs.Client.Operation
import Mathlib

namespace ClusterClient

variable {σ χ : Type}

namespace Event

inductive Names : Event χ → Endpoint → Prop
  | hinted {ch ch' : χ} {req : ConfigRequest} {r : ConfigResponse} {e : Endpoint}
    (h : r.status.isRedirect) (hh : r.status.redirectNode = some e) :
    Names (.call ch req (.answered r) ch') e

-- The leader is given up, if it is the given node.
inductive Unseats : Event χ → Endpoint → Prop
  | refused {e : Endpoint} {fault : ClientError} : Unseats (.connect e (.error fault)) e
  | dropped {ch ch' : χ} {req : ConfigRequest} {fault : ClientError} {e : Endpoint}
    (h : fault.isTransport) : Unseats (.call ch req (.failed fault) ch') e
  | unhinted {ch ch' : χ} {req : ConfigRequest} {r : ConfigResponse} {e : Endpoint}
    (h : r.status.isRedirect) (hh : r.status.redirectNode = none) :
    Unseats (.call ch req (.answered r) ch') e

-- An event that leaves a leader in place, if it is the given node.
def Keeps (ev : Event χ) (e : Endpoint) : Prop :=
  (∀ e', ¬ev.Names e') ∧ ¬ev.Unseats e

end Event

namespace Leader

-- The presumed leader after an event.
def next (l : Leader) : Event χ → Leader
  | .connect e (.error _)     => if l = known e then unknown else l
  | .call _ _ (.failed e) _   => if e.isTransport then unknown else l
  | .call _ _ (.answered r) _ => if r.status.isRedirect then ofHint r.status.redirectNode else l
  | _                         => l

def after (l : Leader) (events : List (Event χ)) : Leader :=
  events.foldl next l

variable {l : Leader} {e : Endpoint} {ev : Event χ} {es es' : List (Event χ)}

@[simp]
theorem after_nil : l.after ([] : List (Event χ)) = l := rfl

@[simp]
theorem after_cons : l.after (ev :: es) = (l.next ev).after es := rfl

@[simp]
theorem after_append : l.after (es ++ es') = (l.after es).after es' :=
  List.foldl_append

theorem next_of_names (h : ev.Names e) : l.next ev = known e := by
  cases h with | hinted h hh => simp [next, h, hh, ofHint]

theorem next_of_unseats (h : ev.Unseats e) : (known e).next ev = unknown := by
  cases h <;> simp [next, ofHint, *]

theorem next_of_keeps (hn : ∀ e, ¬ev.Names e) (hu : ∀ e, l = known e → ¬ev.Unseats e) :
    l.next ev = l := by
  cases ev
  case connect e' answer =>
    cases answer <;> simp only [next]
    case error => exact if_neg fun he => hu e' he .refused
  case call ch req reply ch' =>
    cases l
    case unknown =>
      cases reply <;> simp [next]
      case answered r =>
        intro hr
        cases hh : r.status.redirectNode
        case none => rfl
        case some => exact absurd (.hinted hr hh) (hn _)
    case known e =>
      cases reply <;> simp only [next]
      case failed => exact if_neg fun ht => hu e rfl (.dropped ht)
      case answered r =>
        refine if_neg fun hr => ?_
        cases hh : r.status.redirectNode
        case none => exact hu e rfl (.unhinted hr hh)
        case some => exact hn _ (.hinted hr hh)
  all_goals rfl

theorem next_eq_known_iff : l.next ev = known e ↔ ev.Names e ∨ l = known e ∧ ev.Keeps e := by
  constructor
  case mp =>
    intro h
    by_cases hn : ∃ e', ev.Names e'
    case pos =>
      have ⟨e', hn⟩ := hn
      cases (next_of_names hn).symm.trans h
      exact .inl hn
    case neg =>
      replace hn := not_exists.mp hn
      by_cases hu : ∃ e', l = known e' ∧ ev.Unseats e'
      case pos =>
        obtain ⟨e', rfl, hu⟩ := hu
        exact absurd ((next_of_unseats hu).symm.trans h) nofun
      case neg =>
        have hl : l.next ev = l := next_of_keeps hn fun e' hl hu' => hu ⟨e', hl, hu'⟩
        exact .inr ⟨hl ▸ h, hn, fun hu' => hu ⟨e, hl ▸ h, hu'⟩⟩
  case mpr =>
    intro h
    cases h
    case inl hn => exact next_of_names hn
    case inr h =>
      obtain ⟨rfl, hn, hu⟩ := h
      exact next_of_keeps hn fun _ he => known.inj he ▸ hu

-- A leader is presumed if it was the last to be named, from the start on or by an event, and has been kept
-- ever since.
theorem after_eq_known_iff :
    l.after es = known e ↔
      (l = known e ∧ ∀ ev ∈ es, ev.Keeps e) ∨
        ∃ before ev later, es = before ++ ev :: later ∧ ev.Names e ∧ ∀ ev' ∈ later, ev'.Keeps e := by
  induction es generalizing l
  case nil => simp
  case cons a es hi =>
    rw [after_cons, hi, next_eq_known_iff, List.forall_mem_cons]
    constructor
    case mp =>
      rintro (⟨hn | ⟨hl, hk⟩, hes⟩ | ⟨before, ev, later, rfl, hn, hk⟩)
      case inl.inl => exact .inr ⟨[], a, es, rfl, hn, hes⟩
      case inl.inr => exact .inl ⟨hl, hk, hes⟩
      case inr     => exact .inr ⟨a :: before, ev, later, rfl, hn, hk⟩
    case mpr =>
      rintro (⟨hl, hk, hes⟩ | ⟨before, ev, later, hes, hn, hk⟩)
      case inl => exact .inl ⟨.inr ⟨hl, hk⟩, hes⟩
      case inr =>
        cases before
        case nil => cases hes; exact .inl ⟨.inl hn, hk⟩
        case cons => cases hes; exact .inr ⟨_, ev, later, rfl, hn, hk⟩

end Leader

namespace LeaderClient

variable {net : Environment σ χ} {c c' : LeaderClient χ} {t : Trace χ}

theorem learn_leader (c : LeaderClient χ) (ch ch' : χ) (req : ConfigRequest)
    (reply : Reply ConfigResponse) :
    (c.learn reply).leader = c.leader.next (.call ch req reply ch') := by
  cases reply <;> simp only [learn, Leader.next]
  case answered =>
    split
    case isTrue => rfl
    case isFalse => split <;> simp only [adopt_leader]
  case failed => split <;> rfl

-- The leader is what the past has made of it, and a connect is to the leader, if there is one.
structure Presumed (l : Leader) (past : List (Event χ)) (m : Moment χ) : Prop where
  leader_eq : m.client.leader = l.after past
  connect   : ∀ e answer, m.event = .connect e answer →
                m.client.leader = .known e ∨ m.client.leader = .unknown

theorem Step.presumed (s : Step net c t c') {l : Leader} {past : List (Event χ)}
    (h : c.leader = l.after past) :
    c'.leader = l.after (past ++ t.events) ∧ t.Always (Presumed l) past := by
  simp only [Leader.after_append, ← h]
  cases s
  case leaderReached hl => exact ⟨rfl, ⟨h, fun _ _ he => by cases he; exact .inl hl⟩, trivial⟩
  case leaderLost hl =>
    exact ⟨by simp [Leader.next, hl], ⟨h, fun _ _ he => by cases he; exact .inl hl⟩, trivial⟩
  case memberReached hl _ => exact ⟨rfl, ⟨h, fun _ _ _ => .inr hl⟩, trivial⟩
  case memberLost hl _ =>
    exact ⟨by simp [Leader.next, hl], ⟨h, fun _ _ _ => .inr hl⟩, trivial⟩
  case refreshed => exact ⟨adopt_leader .., ⟨h, nofun⟩, trivial⟩
  case discarded | waited => exact ⟨rfl, ⟨h, nofun⟩, trivial⟩
  case decided ch ch' req reply _ _ =>
    exact ⟨learn_leader _ ch ch' req reply, ⟨h, nofun⟩, trivial⟩
  case retried ch ch' ch'' req reply _ _ =>
    have hl : ((c.hold ch').learn reply).leader = c.leader.next (.call ch req reply ch') :=
      learn_leader ..
    refine ⟨hl, ⟨h, nofun⟩, ⟨?_, nofun⟩, trivial⟩
    rw [Leader.after_append, ← h]
    exact hl

theorem Drops.presumed (d : Drops c t c') {l : Leader} {past : List (Event χ)}
    (h : c.leader = l.after past) :
    c'.leader = l.after (past ++ t.events) ∧ t.Always (Presumed l) past := by
  cases d
  case absent => exact ⟨by simpa using h, trivial⟩
  case closed => exact ⟨by simpa [Leader.next] using h, ⟨h, nofun⟩, trivial⟩

theorem Runs.presumed {history : List Command} (r : Runs net history c t c') :
    c'.leader = c.leader.after t.events ∧ t.Always (Presumed c.leader) [] := by
  have h : c.leader = c.leader.after ([] : List (Event χ)) := rfl
  exact r.always (I := fun past c₁ => c₁.leader = c.leader.after past) (Q := fun _ => True)
    (fun h _ s => s.presumed h) (fun h _ d => d.presumed h) (fun _ _ => trivial) h

-- The client as it is when the later moments come.
def next (later : Trace χ) (c' : LeaderClient χ) : LeaderClient χ :=
  later.head?.elim c' (·.client)

theorem next_leader {l : Leader} {before later : Trace χ} {m : Moment χ}
    (ha : (before ++ m :: later).Always (Presumed l) [])
    (hc : c'.leader = l.after (Trace.events (before ++ m :: later))) :
    (next later c').leader = m.client.leader.next m.event := by
  rw [ha.at_split.leader_eq]
  cases later
  case nil => simpa [next] using hc
  case cons m' later =>
    have ha' : (before ++ [m] ++ m' :: later).Always (Presumed l) [] := by simpa using ha
    simpa [next] using ha'.at_split.leader_eq

-- The first leader is the first member. After that, the one named last is presumed to lead until a connect
-- to that node fails, a call fails in transport, or a redirect comes without a hint; nothing else
-- changes the leader. While there is a leader, no other node is connected to.
theorem run_leader (net : Environment σ χ) (first : Endpoint) (others : List Endpoint)
    (retry : RetryPolicy) (history : List Command) (w : σ) :
    ∃ c c' w' t, ofMembers (first :: others) retry = .ok c ∧ run net history c w = (c', w') ∧
      run net.recorded history c { world := w } = (c', { world := w', events := t.events }) ∧
      Runs net history c t c' ∧
      (∀ e, c'.leader = .known e ↔
        (first = e ∧ ∀ ev ∈ t.events, ev.Keeps e) ∨
          ∃ before ev later, t.events = before ++ ev :: later ∧ ev.Names e ∧ ∀ ev' ∈ later, ev'.Keeps e) ∧
      ∀ before m later, t = before ++ m :: later →
        ((∀ e, ¬m.event.Names e) → (∀ e, m.client.leader = .known e → ¬m.event.Unseats e) →
          (next later c').leader = m.client.leader) ∧
        ∀ e answer, m.event = .connect e answer →
          m.client.leader = .known e ∨ m.client.leader = .unknown := by
  let c : LeaderClient χ := { leader := .known first, members := first :: others, retry }
  have ⟨c', w', t, hn, hr, r, _⟩ := run_trace net history c { world := w }
  have ⟨hl, ha⟩ := r.presumed
  refine ⟨c, c', w', t, rfl, hn, hr, r, fun e => ?_, ?_⟩
  case refine_1 =>
    rw [hl, Leader.after_eq_known_iff]
    simp [c]
  case refine_2 =>
    rintro before m later rfl
    exact ⟨fun hn hu => (next_leader ha hl).trans (Leader.next_of_keeps hn hu), ha.at_split.connect⟩

end LeaderClient

end ClusterClient
