import ClusterClient.Proofs.Client.Leadership
import Mathlib

namespace ClusterClient

variable {σ χ : Type}

namespace Event

-- A list of members that an event brings.
def offer? : Event χ → Option (List Endpoint)
  | refresh _ answer => answer
  | call _ _ (.answered (.registered status members _)) _
  | call _ _ (.answered (.restarted status members)) _ => if status.isSuccess then some members else none
  | _ => none

def offers (events : List (Event χ)) : List (List Endpoint) :=
  events.filterMap offer?

@[simp]
theorem offers_append (es es' : List (Event χ)) : offers (es ++ es') = offers es ++ offers es' :=
  List.filterMap_append

@[simp]
theorem offers_cons (e : Event χ) (es : List (Event χ)) : offers (e :: es) = e.offer?.toList ++ offers es := by
  rw [offers, List.filterMap_cons]
  cases e.offer? <;> rfl

@[simp]
theorem offers_nil : offers ([] : List (Event χ)) = [] := rfl

@[simp]
theorem offer?_connect (e : Endpoint) (answer : Except ClientError χ) : (connect e answer).offer? = none := rfl

@[simp]
theorem offer?_close (ch ch' : χ) : (close ch ch').offer? = none := rfl

@[simp]
theorem offer?_wait (d : Duration) : (wait d : Event χ).offer? = none := rfl

@[simp]
theorem offer?_refresh (known : List Endpoint) (answer : Option (List Endpoint)) :
    (refresh known answer : Event χ).offer? = answer := rfl

theorem offer?_call (ch ch' : χ) (req : ConfigRequest) (reply : Reply ConfigResponse) :
    (call ch req reply ch').offer? =
      match reply with
      | .answered r => if r.status.isSuccess then r.configNodes? else none
      | _ => none := by
  cases reply
  case answered r =>
    cases r
    case registered | restarted => rfl
    case removed | configuration => exact (ite_self none).symm
  all_goals rfl

-- Nobody is asked for fresh members.
def Unasked (events : List (Event χ)) : Prop :=
  ∀ known answer, .refresh known answer ∉ events

end Event

open Event

-- The last of some lists that is not empty, and before all of them the first.
def latest (first : List Endpoint) (lists : List (List Endpoint)) : List Endpoint :=
  (lists.filter (· ≠ [])).getLastD first

section

variable {first : List Endpoint} {lists lists' : List (List Endpoint)}

@[simp]
theorem latest_nil : latest first [] = first := rfl

theorem latest_append : latest first (lists ++ lists') = latest (latest first lists) lists' := by
  simp only [latest, List.filter_append, List.getLastD_eq_getLast?, List.getLast?_append]
  cases (lists'.filter (· ≠ [])).getLast? <;> rfl

theorem latest_singleton (members : List Endpoint) :
    latest first [members] = if members = [] then first else members := by
  by_cases h : members = [] <;> simp [latest, h]

theorem latest_of_getD_eq_nil {offer : Option (List Endpoint)} (h : offer.getD [] = []) :
    latest first offer.toList = first := by
  cases offer
  case none => rfl
  case some members => exact (latest_singleton members).trans (if_pos h)

end

namespace LeaderClient

variable {net : Environment σ χ} {c c' : LeaderClient χ} {t : Trace χ} {past : List (Event χ)}
  {first : List Endpoint}

theorem adopt_members (c : LeaderClient χ) (members : List Endpoint) :
    (c.adopt members).members = latest c.members [members] := by
  rw [latest_singleton, adopt]
  split <;> rfl

theorem adopt_members_getD (c : LeaderClient χ) (answer : Option (List Endpoint)) :
    (c.adopt (answer.getD [])).members = latest c.members answer.toList := by
  cases answer
  case none => rfl
  case some => exact adopt_members ..

theorem learn_members (c : LeaderClient χ) (ch ch' : χ) (req : ConfigRequest)
    (reply : Reply ConfigResponse) :
    (c.learn reply).members = latest c.members (offer? (.call ch req reply ch')).toList := by
  rw [offer?_call]
  cases reply <;> simp only [learn]
  case silent => rfl
  case failed => split <;> rfl
  case answered r =>
    by_cases hs : r.status.isSuccess
    case pos => simp [hs, Status.not_isRedirect_of_isSuccess hs, adopt_members_getD]
    case neg => split <;> rfl

def Listed (first : List Endpoint) (past : List (Event χ)) (m : Moment χ) : Prop :=
  m.client.members = latest first (offers past)

theorem Step.listed (s : Step net c t c') (h : c.members = latest first (offers past)) :
    c'.members = latest first (offers (past ++ t.events)) ∧ t.Always (Listed first) past := by
  simp only [offers_append, latest_append, ← h]
  cases s
  case refreshed => exact ⟨by simp [adopt_members_getD], h, trivial⟩
  case decided ch ch' req reply _ _ =>
    have hl : ((c.hold ch').learn reply).members = latest c.members (offer? (.call ch req reply ch')).toList :=
      learn_members ..
    exact ⟨by simpa using hl, h, trivial⟩
  case retried ch ch' ch'' req reply _ _ =>
    have hl : ((c.hold ch').learn reply).members = latest c.members (offer? (.call ch req reply ch')).toList :=
      learn_members ..
    refine ⟨by simpa using hl, h, ?_, trivial⟩
    simpa [Listed, latest_append, ← h] using hl
  all_goals exact ⟨by simp [hold, advance], h, trivial⟩

theorem Drops.listed (d : Drops c t c') (h : c.members = latest first (offers past)) :
    c'.members = latest first (offers (past ++ t.events)) ∧ t.Always (Listed first) past := by
  cases d
  case absent => exact ⟨by simpa using h, trivial⟩
  case closed => exact ⟨by simpa using h, h, trivial⟩

theorem Performs.listed {command : Command} (p : Performs net c command t c')
    (h : c.members = latest first (offers past)) :
    c'.members = latest first (offers (past ++ t.events)) ∧ t.Always (Listed first) past :=
  p.always (I := fun past c => c.members = latest first (offers past)) (Q := fun _ => True)
    (fun h _ s => s.listed h) (fun h _ d => d.listed h) (fun _ _ => trivial) h

theorem Runs.listed {history : List Command} (r : Runs net history c t c') :
    c'.members = latest c.members (offers t.events) := by
  have h : c.members = latest c.members (offers ([] : List (Event χ))) := rfl
  have ⟨h', _⟩ := r.always (I := fun past c₁ => c₁.members = latest c.members (offers past))
    (Q := fun _ => True) (fun h _ s => s.listed h) (fun h _ d => d.listed h) (fun _ _ => trivial) h
  exact h'

theorem next_members {before later : Trace χ} {m : Moment χ}
    (ha : (before ++ m :: later).Always (Listed first) past)
    (hc : c'.members = latest first (offers (past ++ Trace.events (before ++ m :: later)))) :
    (next later c').members = latest m.client.members m.event.offer?.toList := by
  have hm : m.client.members = latest first (offers (past ++ before.events)) := ha.at_split
  rw [hm, ← latest_append]
  cases later
  case nil => simpa [next] using hc
  case cons m' later =>
    have ha' : (before ++ [m] ++ m' :: later).Always (Listed first) past := by simpa using ha
    have hm' : m'.client.members = latest first (offers (past ++ (before ++ [m]).events)) := ha'.at_split
    simpa [next] using hm'

section

variable (net : Environment σ χ)

-- An attempt in which fresh members are asked for not at all, or once, by a client that has just failed to
-- reach any node.
inductive AsksOnce : Trace χ → Prop
  | unasked {t : Trace χ} (h : Unasked t.events) : AsksOnce t
  | asked {c c₁ : LeaderClient χ} {answer : Option (List Endpoint)} {t t' : Trace χ}
    (h : ¬c.isConnected net) (r : Resolves c t false c₁) (hb : Unasked t.events) (ha : Unasked t'.events) :
    AsksOnce (t ++ ⟨c₁, .refresh c₁.members answer⟩ :: t')

end

theorem Connects.resolves (e : Connects net c t false c') : ¬c.isConnected net ∧ Resolves c t false c' := by
  cases e
  case resolved h r => exact ⟨h, r⟩

end LeaderClient

namespace Trace

-- The attempts of an operation: what happens from one wait to the next.
def attempts (t : Trace χ) : List (Trace χ) :=
  t.splitOnP fun m => m.event.wait?.isSome

variable {t t' : Trace χ}

theorem attempts_of_waits (h : waits t.events = []) : t.attempts = [t] := by
  have hw : ∀ m ∈ t, m.event.wait?.isSome = false := by
    intro m hm
    have hn := List.filterMap_eq_nil_iff.mp h m.event (List.mem_map_of_mem hm)
    rw [hn]
    rfl
  exact List.splitOnP_eq_singleton hw

theorem attempts_append_wait (c : LeaderClient χ) (d : Duration) :
    attempts (t ++ ⟨c, .wait d⟩ :: t') = t.attempts ++ t'.attempts :=
  List.splitOnP_append_cons _ _ rfl

end Trace

namespace LeaderClient

variable {net : Environment σ χ} {c c' : LeaderClient χ} {t : Trace χ} {req : ConfigRequest}

theorem AsksOnce.attempts (h : AsksOnce net t) (hw : waits t.events = []) :
    ∀ a ∈ t.attempts, AsksOnce net a := by
  rw [Trace.attempts_of_waits hw]
  exact List.forall_mem_singleton.mpr h

theorem Reaches.asksOnce {b : Bool} (r : Reaches net c t b c') (t' : Trace χ) (h : Unasked t'.events) :
    AsksOnce net (t ++ t') := by
  cases r
  case direct e =>
    refine .unasked fun known answer => ?_
    simp [e.probing.unrefreshed, h known answer]
  case refreshed t₁ t₂ _ e e' =>
    have ⟨hc, r⟩ := e.resolves
    rw [List.append_assoc, List.cons_append]
    refine .asked hc r e.probing.unrefreshed fun known answer => ?_
    simp [e'.probing.unrefreshed, h known answer]

theorem Attempts.asksOnce {o : Option (Reply ConfigResponse)} (a : Attempts net req c t o c') :
    AsksOnce net t := by
  cases a
  case unreached r => simpa using r.asksOnce [] (by simp [Unasked])
  case decided r _ _ => exact r.asksOnce _ (by simp [Unasked])
  case retried r _ _ d => exact r.asksOnce _ (by simp [Unasked, d.probing.unrefreshed])

theorem Attempts.waits_eq {o : Option (Reply ConfigResponse)} (a : Attempts net req c t o c') :
    waits t.events = [] := by
  cases o
  case none => exact a.spent.waits_eq
  case some => exact a.decides.waits_eq

-- What comes before the first wait is an attempt, too.
theorem Retries.asksOnce {n : Nat} {r : Reply ConfigResponse} (rs : Retries net req n c t r c')
    {first : Trace χ} (hw : waits first.events = []) (hf : AsksOnce net first) :
    ∀ a ∈ Trace.attempts (first ++ t), AsksOnce net a := by
  induction rs generalizing first
  case spent => simpa using hf.attempts hw
  case final a =>
    rw [Trace.attempts_append_wait]
    exact List.forall_mem_append.mpr ⟨hf.attempts hw, a.asksOnce.attempts a.waits_eq⟩
  case again a _ hi =>
    rw [List.cons_append, Trace.attempts_append_wait]
    exact List.forall_mem_append.mpr ⟨hf.attempts hw, hi a.waits_eq a.asksOnce⟩

theorem Executes.asksOnce {r : Reply ConfigResponse} (e : Executes net req c t r c') :
    ∀ a ∈ t.attempts, AsksOnce net a := by
  cases e
  case spent => exact (AsksOnce.unasked (by simp [Unasked])).attempts rfl
  case final a => exact a.asksOnce.attempts a.waits_eq
  case again a rest => exact rest.asksOnce a.waits_eq a.asksOnce

theorem Performs.asksOnce {command : Command} (p : Performs net c command t c') :
    ∀ a ∈ t.attempts, AsksOnce net a := by
  cases p
  case asked e => exact e.asksOnce
  case closed d =>
    have hp := d.probing
    exact (AsksOnce.unasked hp.unrefreshed).attempts hp.waits_eq

-- After any history of commands, and at every moment of the next one, the members are the last list that is not
-- empty of the list that the client was made with and those that it was offered since. An event that offers
-- no such list leaves the members as they are.
theorem perform_members (net : Environment σ χ) (first : Endpoint) (others : List Endpoint)
    (retry : RetryPolicy) (history : List Command) (command : Command) (w : σ) :
    ∃ c c₁ w₁ past c₂ w₂ t, ofMembers (first :: others) retry = .ok c ∧
      run net history c w = (c₁, w₁) ∧
      run net.recorded history c { world := w } = (c₁, { world := w₁, events := past }) ∧
      perform net command c₁ w₁ = (c₂, w₂) ∧
      perform net.recorded command c₁ { world := w₁, events := past } =
        (c₂, { world := w₂, events := past ++ t.events }) ∧
      Performs net c₁ command t c₂ ∧
      c₂.members = latest (first :: others) (offers (past ++ t.events)) ∧
      (∀ (before : Trace χ) (m : Moment χ) (later : Trace χ), t = before ++ m :: later →
        m.client.members = latest (first :: others) (offers (past ++ before.events)) ∧
          (m.event.offer?.getD [] = [] → (next later c₂).members = m.client.members)) ∧
      ∀ a ∈ t.attempts, AsksOnce net a := by
  let c : LeaderClient χ := { leader := .known first, members := first :: others, retry }
  have ⟨c₁, w₁, t₁, hn₁, hr₁, r, _⟩ := run_trace net history c { world := w }
  have ⟨c₂, w₂, t₂, hn₂, hr₂, p, _⟩ :=
    perform_trace net command c₁ { world := w₁, events := t₁.events }
  have ⟨hc, ha⟩ := p.listed r.listed
  refine ⟨c, c₁, w₁, t₁.events, c₂, w₂, t₂, rfl, hn₁, hr₁, hn₂, hr₂, p, hc, ?_, p.asksOnce⟩
  rintro before m later rfl
  refine ⟨ha.at_split, fun he => ?_⟩
  rw [next_members ha hc]
  exact latest_of_getD_eq_nil he

end LeaderClient

end ClusterClient
