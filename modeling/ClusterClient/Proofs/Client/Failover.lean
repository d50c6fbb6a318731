import ClusterClient.Proofs.Client.Setback
import Mathlib

namespace ClusterClient

open Event

namespace LeaderClient

variable {χ : Type} {c c' : LeaderClient χ} {t : Trace χ} {b : Bool} {n : Nat}

-- The members in the order in which they are tried.
def candidate? (c : LeaderClient χ) (i : Nat) : Option Endpoint :=
  c.members[(i + (c.cursor + 1)) % c.members.length]?

theorem candidate?_zero : c.candidate? 0 = c.members[c.advance.cursor]? := by
  rw [candidate?, Nat.zero_add]
  rfl

theorem candidate?_advance (i : Nat) : c.advance.candidate? i = c.candidate? (i + 1) := by
  simp only [candidate?, advance]
  rw [← Nat.add_assoc i, Nat.add_right_comm, Nat.add_mod_mod]

theorem exists_candidate {e : Endpoint} (h : e ∈ c.members) :
    ∃ i < c.members.length, c.candidate? i = some e := by
  have ⟨i, hi, he⟩ := List.getElem_of_mem (List.mem_rotate.mpr h : e ∈ c.members.rotate (c.cursor + 1))
  rw [List.length_rotate] at hi
  exact ⟨i, hi, by rw [candidate?, ← List.getElem?_rotate hi, ← he, List.getElem?_eq_getElem]⟩

namespace Walks

theorem connected (r : Walks n c t b c') (hb : b = true) :
    ∃ e ch, .connect e (.ok ch) ∈ t.events ∧ c'.channel = some ch := by
  induction r
  case done => contradiction
  case reached => exact ⟨_, _, List.mem_cons_self, rfl⟩
  case vacant hi => exact hi hb
  case lost hi =>
    have ⟨e, ch, hm, hc⟩ := hi hb
    exact ⟨e, ch, List.mem_cons_of_mem _ hm, hc⟩

theorem refused (r : Walks n c t b c') (hb : b = false) {i : Nat} (hi : i < n) {e : Endpoint}
    (he : c.candidate? i = some e) : ∃ fault, .connect e (.error fault) ∈ t.events := by
  induction r generalizing i
  case done => contradiction
  case reached => contradiction
  case vacant h _ ih =>
    cases i
    case zero => exact absurd (h.symm.trans (candidate?_zero.symm.trans he)) nofun
    case succ => exact ih hb (Nat.lt_of_succ_lt_succ hi) (candidate?_advance _ ▸ he)
  case lost h _ ih =>
    cases i
    case zero =>
      cases h.symm.trans (candidate?_zero.symm.trans he)
      exact ⟨_, List.mem_cons_self⟩
    case succ =>
      have ⟨fault, hm⟩ := ih hb (Nat.lt_of_succ_lt_succ hi) (candidate?_advance _ ▸ he)
      exact ⟨fault, List.mem_cons_of_mem _ hm⟩

end Walks

namespace Resolves

theorem connected (r : Resolves c t true c') :
    ∃ e ch, .connect e (.ok ch) ∈ t.events ∧ c'.channel = some ch := by
  cases r
  case leader l =>
    cases l with | @reached e ch _ =>
    exact ⟨e, ch, by simp, rfl⟩
  case ring r =>
    have ⟨e, ch, hm, hc⟩ := r.connected rfl
    exact ⟨e, ch, by simp [hm], hc⟩

-- A search that fails has tried all members.
theorem refused (r : Resolves c t false c') {e : Endpoint} (he : e ∈ c.members) :
    ∃ fault, .connect e (.error fault) ∈ t.events := by
  cases r
  case ring c₁ c₂ _ _ _ d l r =>
    have hm : c₂.members = c.members := by cases d <;> cases l <;> rfl
    have ⟨i, hi, hc⟩ := exists_candidate (hm ▸ he)
    have ⟨fault, hf⟩ := r.refused rfl hi hc
    exact ⟨fault, by simp [hf]⟩

end Resolves

end LeaderClient

variable {σ : Type} {req : ConfigRequest} {nodes : Finset Endpoint} {s s' : Script.Config}

-- The environment has the network of a script, beside whatever else there is.
structure Environment.Scripted (net : Environment σ Script.Channel) (script : σ → Script.Config) : Prop where
  isOpen  : ∀ ch, net.isOpen ch = ch.isOpen
  connect : ∀ e w, Prod.map id script (net.connect e w) = Script.connect e (script w)
  call    : ∀ ch req limit w,
              Prod.map id (Prod.map id script) (net.call ch req limit w) = Script.call ch req (script w)
  close   : ∀ ch w, script (net.close ch w).2 = script w
  wait    : ∀ d w, script (net.wait d w) = Script.network.wait d (script w)

theorem Script.scripted : Environment.Scripted Script.network.toNetwork.refreshed Refreshed.world where
  isOpen _      := rfl
  connect _ _   := rfl
  call _ _ _ _  := rfl
  close _ _     := rfl
  wait _ _      := rfl

-- The client knows of no other nodes, and calls no other.
structure LeaderClient.Within (nodes : Finset Endpoint) (c : LeaderClient Script.Channel) : Prop where
  members : ∀ e ∈ c.members, e ∈ nodes
  leader  : ∀ e, c.leader = .known e → e ∈ nodes
  channel : ∀ ch ∈ c.channel, ch.isOpen → ch.endpoint ∈ nodes

-- What a connect tells of the endpoints that cannot be reached.
def Event.Tells (unreachable : List Endpoint) : Event Script.Channel → Prop
  | .connect e (.ok ch)   => ch = { endpoint := e }
  | .connect e (.error _) => e ∈ unreachable
  | _                     => True

namespace Environment.Scripted

variable {net : Environment σ Script.Channel} {script : σ → Script.Config} {w w' : σ}
  {es : List (Event Script.Channel)}

theorem probe (hs : net.Scripted script) {ev : Event Script.Channel} (hp : ev.IsProbe)
    (h : ev.Happens net w w') : Script.Same (script w) (script w') ∧ ev.Tells (script w).unreachable := by
  cases hp
  case connect e answer =>
    have hc := hs.connect e w
    rw [show net.connect e w = (answer, w') from h] at hc
    simp only [Script.connect, Prod.map_apply, id_eq, Prod.mk.injEq] at hc
    refine ⟨by rw [hc.right]; exact ⟨rfl, rfl⟩, ?_⟩
    split at hc
    case isTrue hu => cases hc.left; exact hu
    case isFalse => cases hc.left; rfl
  case close ch ch' =>
    have hc := hs.close ch w
    rw [show net.close ch w = (ch', w') from h] at hc
    exact ⟨⟨by rw [hc], by rw [hc]⟩, trivial⟩

theorem wait_same (hs : net.Scripted script) {d : Duration} (h : (Event.wait d).Happens net w w') :
    Script.Same (script w) (script w') := by
  rw [← show net.wait d w = w' from h, hs.wait d w]
  exact Script.Same.setClock ((script w).clock + d.millisUp)

theorem probing (hs : net.Scripted script) (hp : Probing es) (p : net.Plays w es w') :
    Script.Same (script w) (script w') ∧ ∀ ev ∈ es, ev.Tells (script w).unreachable := by
  induction p
  case nil => exact ⟨.refl, by simp⟩
  case cons h _ hi =>
    have ⟨hp₁, hp₂⟩ := List.forall_mem_cons.mp hp
    have ⟨hs₁, ht⟩ := hs.probe hp₁ h
    have ⟨hs₂, hts⟩ := hi hp₂
    rw [hs₁.unreachable_eq] at hts
    exact ⟨hs₁.trans hs₂, List.forall_mem_cons.mpr ⟨ht, hts⟩⟩

end Environment.Scripted

namespace LeaderClient

variable {net : Environment σ Script.Channel} {script : σ → Script.Config} {w w' : σ}
  {c c' : LeaderClient Script.Channel} {t : Trace Script.Channel} {b : Bool} {n : Nat}

theorem Step.within (s : Step net c t c') (hp : Probing t.events) {unreachable : List Endpoint}
    (ht : ∀ ev ∈ t.events, ev.Tells unreachable) (h : c.Within nodes) :
    c'.Within nodes ∧ c'.members = c.members := by
  cases s
  case discarded => exact ⟨{ h with channel := by simp }, rfl⟩
  case leaderReached e ch _ hl =>
    obtain rfl : ch = { endpoint := e } := ht (.connect e (.ok ch)) (by simp)
    refine ⟨{ h with channel := fun _ hc _ => ?_ }, rfl⟩
    cases hc
    exact h.leader e hl
  case leaderLost => exact ⟨{ h with leader := nofun }, rfl⟩
  case memberReached e ch _ _ hm =>
    obtain rfl : ch = { endpoint := e } := ht (.connect e (.ok ch)) (by simp)
    refine ⟨⟨h.members, h.leader, fun _ hc _ => ?_⟩, rfl⟩
    cases hc
    exact h.members e (List.mem_of_getElem? hm)
  case memberLost => exact ⟨⟨h.members, h.leader, h.channel⟩, rfl⟩
  case refreshed answer _ => cases hp (.refresh c.members answer) (by simp)
  case waited => exact ⟨h, rfl⟩
  case decided ch ch' req reply _ _ => cases hp (.call ch req reply ch') (by simp)
  case retried ch ch' _ req reply _ _ => cases hp (.call ch req reply ch') (by simp)

theorem Steps.within (s : Steps net c t c') (hp : Probing t.events) {unreachable : List Endpoint}
    (ht : ∀ ev ∈ t.events, ev.Tells unreachable) (h : c.Within nodes) :
    c'.Within nodes ∧ c'.members = c.members := by
  induction s
  case refl => exact ⟨h, rfl⟩
  case step s _ hi =>
    simp only [Trace.events_append] at hp ht
    have ⟨hp₁, hp₂⟩ := List.forall_mem_append.mp hp
    have ⟨ht₁, ht₂⟩ := List.forall_mem_append.mp ht
    have ⟨h₁, hm₁⟩ := s.within hp₁ ht₁ h
    have ⟨h₂, hm₂⟩ := hi hp₂ ht₂ h₁
    exact ⟨h₂, hm₂.trans hm₁⟩

-- A call takes the next reply of a node.
structure Meets (req : ConfigRequest) (nodes : Finset Endpoint) (e : Endpoint) (cue : Cue ConfigResponse)
    (reply : Reply ConfigResponse) (s s' : Script.Config) : Prop where
  mem    : e ∈ nodes
  yields : Script.Yields cue reply
  takes  : Script.Takes e cue s s'
  useful : cue.isSetback ∨ cue.answers req

namespace Meets

variable {e : Endpoint} {cue : Cue ConfigResponse} {reply : Reply ConfigResponse}

theorem isRetried (m : Meets req nodes e cue reply s s') (hb : cue.isSetback) : reply.IsRetried := by
  cases m.yields
  case responded => exact .redirect hb
  case dropped => exact .transport rfl
  case hung => contradiction

theorem answered (m : Meets req nodes e cue reply s s') (ha : cue.answers req) :
    ∃ r, cue = .respond r ∧ reply = .answered r ∧ r.status.isSuccess ∧ (req.value? r).isSome := by
  cases m.yields <;> simp only [Cue.answers, Bool.and_eq_true, Bool.false_eq_true] at ha
  case responded r => exact ⟨r, rfl, rfl, ha⟩

-- A setback teaches nothing but a hint.
theorem learn (m : Meets req nodes e cue reply s s') (hb : cue.isSetback)
    (c : LeaderClient Script.Channel) :
    (c.learn reply).members = c.members ∧ ∀ k, (c.learn reply).leader = .known k → k ∈ cue.hint? := by
  cases m.yields
  case responded r =>
    have hl : c.learn (.answered r) = { c with leader := .ofHint r.status.redirectNode } := if_pos hb
    rw [hl]
    refine ⟨rfl, fun k hk => ?_⟩
    cases hh : r.status.redirectNode <;> simp_all [Leader.ofHint, Cue.hint?]
  case dropped => exact ⟨rfl, nofun⟩
  case hung => contradiction

end Meets

-- What an operation needs to get through, apart from attempts enough.
structure Supplied (req : ConfigRequest) (nodes : Finset Endpoint) (c : LeaderClient Script.Channel)
    (s : Script.Config) : Prop where
  within    : c.Within nodes
  stocked   : Stocked req nodes s
  reachable : ∃ e ∈ c.members, e ∉ s.unreachable

namespace Supplied

theorem same (h : c.Supplied req nodes s) (e : Script.Same s s') : c.Supplied req nodes s' where
  within    := h.within
  stocked   := e.stocked h.stocked
  reachable := by rw [e.unreachable_eq]; exact h.reachable

theorem call (h : c.Supplied req nodes (script w)) (hs : net.Scripted script)
    {ch ch' : Script.Channel} (hc : c.channel = some ch) (ho : ch.isOpen)
    {reply : Reply ConfigResponse} (e : net.call ch req none w = (reply, ch', w')) :
    ∃ cue, Meets req nodes ch.endpoint cue reply (script w) (script w') := by
  have hn := h.within.channel ch hc ho
  have ⟨cue, tail, hq, hb⟩ := h.stocked.next hn
  have he : Script.call ch req (script w) = (reply, ch', script w') := by
    rw [← hs.call ch req none w, e]
    rfl
  have ⟨y, takes⟩ := Script.call_takes he ho hq
  exact ⟨cue, hn, y, takes, hb⟩

-- After a setback the client goes on without a channel, perhaps with a hint.
theorem setback (h : c.Supplied req nodes s) {e : Endpoint} {cue : Cue ConfigResponse}
    {reply : Reply ConfigResponse} (m : Meets req nodes e cue reply s s') (hb : cue.isSetback)
    {ch : Script.Channel} (d : Drops ((c.hold ch).learn reply) t c') : c'.Supplied req nodes s' := by
  have ⟨hm, hl⟩ := m.learn hb (c.hold ch)
  have hmembers : c'.members = c.members := by cases d <;> exact hm
  have hleader : c'.leader = ((c.hold ch).learn reply).leader := by cases d <;> rfl
  have hc : cue ∈ s.setbacks e := m.takes.setbacks_eq hb ▸ List.mem_cons_self
  exact {
    within := {
      members := hmembers ▸ h.within.members
      leader k hk := h.stocked.hints e m.mem cue hc k (hl k (hleader ▸ hk))
      channel := by simp [d.channel_eq]
    }
    stocked := m.takes.stocked hb h.stocked
    reachable := by rw [hmembers, m.takes.unreachable_eq]; exact h.reachable
  }

end Supplied

-- As long as a member can be reached, every search finds a node.
theorem Connects.found (hs : net.Scripted script) (e : Connects net c t b c')
    (p : net.Plays w t.events w') (h : c.Supplied req nodes (script w)) :
    b = true ∧ Script.Same (script w) (script w') ∧ c'.Supplied req nodes (script w') ∧
      ∃ ch, c'.channel = some ch ∧ ch.isOpen := by
  have ⟨same, tells⟩ := hs.probing e.probing p
  have ⟨within, hm⟩ := e.steps.within e.probing tells h.within
  have h' := h.same same
  have supplied : c'.Supplied req nodes (script w') := ⟨within, h'.stocked, hm ▸ h'.reachable⟩
  cases e
  case held ho =>
    have ⟨ch, hc, ho⟩ := Option.any_eq_true _ _ |>.mp ho
    exact ⟨rfl, same, supplied, ch, hc, hs.isOpen ch ▸ ho⟩
  case resolved r =>
    cases b
    case false =>
      have ⟨e, he, hu⟩ := h.reachable
      have ⟨_, hf⟩ := r.refused he
      exact absurd (tells _ hf) hu
    case true =>
      have ⟨e, ch, hm, hc⟩ := r.connected
      obtain rfl : ch = { endpoint := e } := tells _ hm
      exact ⟨rfl, same, supplied, _, hc, rfl⟩

theorem Reaches.found (hs : net.Scripted script) (r : Reaches net c t b c')
    (p : net.Plays w t.events w') (h : c.Supplied req nodes (script w)) :
    Probing t.events ∧ Script.Same (script w) (script w') ∧ c'.Supplied req nodes (script w') ∧
      ∃ ch, c'.channel = some ch ∧ ch.isOpen := by
  cases r
  case direct e =>
    have ⟨_, found⟩ := e.found hs p h
    exact ⟨e.probing, found⟩
  case refreshed e _ =>
    rw [Trace.events_append] at p
    have ⟨_, p, _⟩ := Environment.Plays.append_iff.mp p
    have ⟨hb, _⟩ := e.found hs p h
    contradiction

-- Before its call an attempt looks for a node, and the call takes the next reply of that node.
theorem Reaches.call (hs : net.Scripted script) (r : Reaches net c t b c') {ch ch' : Script.Channel}
    (hc : c'.channel = some ch) {reply : Reply ConfigResponse} {es : List (Event Script.Channel)}
    (p : net.Plays w (t.events ++ .call ch req reply ch' :: es) w')
    (h : c.Supplied req nodes (script w)) :
    Probing t.events ∧ ∃ s₁ w₂ cue, Script.Same (script w) s₁ ∧ c'.Supplied req nodes s₁ ∧
      Meets req nodes ch.endpoint cue reply s₁ (script w₂) ∧ net.Plays w₂ es w' := by
  have ⟨w₁, p, pc⟩ := Environment.Plays.append_iff.mp p
  have ⟨hp, same, supplied, _, hc', ho⟩ := r.found hs p h
  cases hc.symm.trans hc'
  cases pc with | cons he rest =>
  have ⟨cue, m⟩ := supplied.call hs hc ho he
  exact ⟨hp, script w₁, _, cue, same, supplied, m, rest⟩

-- An attempt after which the request is to be made again has made one call, which met a setback.
theorem Attempts.meets_setback (hs : net.Scripted script) (a : Attempts net req c t none c')
    (p : net.Plays w t.events w') (h : c.Supplied req nodes (script w)) :
    ∃ reply, calls t.events = [(req, reply)] ∧ reply.IsRetried ∧
      (∀ known answer, .refresh known answer ∉ t.events) ∧ c'.Supplied req nodes (script w') ∧
      (script w').countSetbacks nodes + 1 = (script w).countSetbacks nodes := by
  cases a
  case unreached hn r =>
    have ⟨_, _, _, _, hc, _⟩ := r.found hs p h
    simp [hn] at hc
  case retried reply r hc v d =>
    rw [Trace.events_append, Trace.events_cons] at p ⊢
    have ⟨hp, _, _, _, same, supplied, m, p'⟩ := r.call hs hc p h
    have hp' := d.probing
    have ⟨same', _⟩ := hs.probing hp' p'
    have hr := verdict_eq_none_iff.mp v
    refine ⟨reply, by simp [hp.calls_eq, hp'.calls_eq, call?], hr, by simp [hp.unrefreshed, hp'.unrefreshed], ?_⟩
    cases m.useful
    case inl hb =>
      refine ⟨(supplied.setback m hb d).same same', ?_⟩
      rw [same'.countSetbacks_eq, m.takes.countSetbacks_succ hb m.mem, same.countSetbacks_eq]
    case inr ha =>
      obtain ⟨r, _, rfl, ho, _⟩ := m.answered ha
      have d' : Decides req (.answered r) (.answered r) := .success ho
      exact absurd hr d'.not_isRetried

-- The events of an operation that gets through, with the script before it and after it. Its calls meet setbacks, of
-- which each is gone from the script then, and after these a node's reply that carries the value.
structure GetsThrough (req : ConfigRequest) (nodes : Finset Endpoint) (s : Script.Config)
    (met : List (Reply ConfigResponse)) (r : ConfigResponse) (events : List (Event Script.Channel))
    (s' : Script.Config) : Prop where
  calls_eq    : calls events = met.map (req, ·) ++ [(req, .answered r)]
  retried     : ∀ reply ∈ met, reply.IsRetried
  success     : r.status.isSuccess
  value       : (req.value? r).isSome
  takes       : ∃ s₁, met.length + s₁.countSetbacks nodes = s.countSetbacks nodes ∧
                  ∃ e ∈ nodes, Script.Takes e (.respond r) s₁ s'
  unrefreshed : ∀ known answer, .refresh known answer ∉ events

namespace GetsThrough

variable {s s₁ s' : Script.Config} {met : List (Reply ConfigResponse)} {reply : Reply ConfigResponse}
  {r : ConfigResponse} {es es' : List (Event Script.Channel)}

theorem length_met_le (g : GetsThrough req nodes s met r es s') : met.length ≤ s.countSetbacks nodes := by
  have ⟨_, hm, _⟩ := g.takes
  exact Nat.le.intro hm

theorem wait (g : GetsThrough req nodes s met r es s') (d : Duration) :
    GetsThrough req nodes s met r (.wait d :: es) s' where
  calls_eq    := by simpa [call?] using g.calls_eq
  retried     := g.retried
  success     := g.success
  value       := g.value
  takes       := g.takes
  unrefreshed := by simpa using g.unrefreshed

theorem same (g : GetsThrough req nodes s₁ met r es s') (e : Script.Same s s₁) :
    GetsThrough req nodes s met r es s' :=
  { g with takes := e.countSetbacks_eq ▸ g.takes }

-- One more setback before all others.
theorem append (g : GetsThrough req nodes s₁ met r es' s') (hc : calls es = [(req, reply)]) (hr : reply.IsRetried)
    (hu : ∀ known answer, .refresh known answer ∉ es) (hm : s₁.countSetbacks nodes + 1 = s.countSetbacks nodes) :
    GetsThrough req nodes s (reply :: met) r (es ++ es') s' where
  calls_eq    := by simp [hc, g.calls_eq]
  retried     := List.forall_mem_cons.mpr ⟨hr, g.retried⟩
  success     := g.success
  value       := g.value
  takes       := by
    have ⟨s₂, hm', ht⟩ := g.takes
    exact ⟨s₂, by rw [← hm, ← hm', List.length_cons, Nat.add_right_comm], ht⟩
  unrefreshed known answer := by simp [hu, g.unrefreshed]

end GetsThrough

variable {result : Reply ConfigResponse}

theorem Attempts.getsThrough (hs : net.Scripted script) (a : Attempts net req c t (some result) c')
    (p : net.Plays w t.events w') (h : c.Supplied req nodes (script w)) :
    ∃ r, result = .answered r ∧ GetsThrough req nodes (script w) [] r t.events (script w') := by
  cases a with | @decided _ _ _ ch _ _ _ r hc v =>
  rw [Trace.events_append] at p ⊢
  have ⟨hp, s₁, _, _, same, _, m, p'⟩ := r.call hs hc p h
  cases p'
  have d := verdict_eq_some_iff.mp v
  cases m.useful
  case inl hb => exact absurd (m.isRetried hb) d.not_isRetried
  case inr ha =>
    obtain ⟨r, rfl, rfl, ho, hv⟩ := m.answered ha
    refine ⟨r, d.unique (.success ho), ?_⟩
    exact {
      calls_eq    := by simp [hp.calls_eq, call?]
      retried     := by simp
      success     := ho
      value       := hv
      takes       := ⟨s₁, by simp [same.countSetbacks_eq], ch.endpoint, m.mem, m.takes⟩
      unrefreshed := by simp [hp.unrefreshed]
    }

-- By induction on the attempts that are left: there is always one more of them than there are setbacks.
theorem Retries.getsThrough (hs : net.Scripted script) (rs : Retries net req n c t result c')
    (p : net.Plays w t.events w') (h : c.Supplied req nodes (script w))
    (hn : (script w).countSetbacks nodes < n) :
    ∃ met r, result = .answered r ∧ GetsThrough req nodes (script w) met r t.events (script w') := by
  induction rs generalizing w
  case spent => contradiction
  case final a =>
    cases p with | cons hw p =>
    have same := hs.wait_same hw
    have ⟨r, hr, g⟩ := a.getsThrough hs p (h.same same)
    exact ⟨[], r, hr, (g.same same).wait _⟩
  case again a _ hi =>
    simp only [List.cons_append, Trace.events_cons, Trace.events_append] at p ⊢
    cases p with | cons hw p =>
    have same := hs.wait_same hw
    have ⟨_, p, p'⟩ := Environment.Plays.append_iff.mp p
    have ⟨reply, hc, hr, hu, h', hm⟩ := a.meets_setback hs p (h.same same)
    rw [same.countSetbacks_eq] at hm
    have ⟨met, r, hr', g⟩ := hi p' h' (Nat.lt_of_succ_lt_succ (hm.trans_lt hn))
    exact ⟨reply :: met, r, hr', (g.append hc hr hu hm).wait _⟩

theorem Executes.getsThrough (hs : net.Scripted script) (e : Executes net req c t result c')
    (p : net.Plays w t.events w') (h : c.Supplied req nodes (script w))
    (hn : (script w).countSetbacks nodes < c.retry.maxAttempts.toNat) :
    ∃ met r, result = .answered r ∧ GetsThrough req nodes (script w) met r t.events (script w') := by
  cases e
  case spent h => rw [h] at hn; contradiction
  case final a =>
    have ⟨r, hr, g⟩ := a.getsThrough hs p h
    exact ⟨[], r, hr, g⟩
  case again hn' a rest =>
    rw [Trace.events_append] at p ⊢
    have ⟨_, p, p'⟩ := Environment.Plays.append_iff.mp p
    have ⟨reply, hc, hr, hu, h', hm⟩ := a.meets_setback hs p h
    rw [hn'] at hn
    have ⟨met, r, hr', g⟩ := rest.getsThrough hs p' h' (Nat.lt_of_succ_lt_succ (hm.trans_lt hn))
    exact ⟨reply :: met, r, hr', g.append hc hr hu hm⟩

-- An operation that may make more attempts than there are setbacks succeeds, if only a member can be reached.
-- It makes one call for each setback that it meets, and one more for the value that it gives. It never asks for
-- members.
theorem ask_answered (hs : net.Scripted script) (c : LeaderClient Script.Channel) (w : σ)
    (h : c.Supplied req nodes (script w))
    (hn : (script w).countSetbacks nodes < c.retry.maxAttempts.toNat) :
    ∃ v c' w' events met r, ask net req c w = (.answered v, c', w') ∧
      ask net.recorded req c { world := w } = (.answered v, c', { world := w', events }) ∧
      GetsThrough req nodes (script w) met r events (script w') ∧ req.value? r = some v ∧
      (calls events).length = met.length + 1 ∧
      (calls events).length ≤ (script w).countSetbacks nodes + 1 ∧
      ∀ known answer, .refresh known answer ∉ events := by
  have ⟨result, c', w', t, he, hr, e, p⟩ := c.execute_plays net req { world := w }
  obtain ⟨met, r, rfl, g⟩ := e.getsThrough hs p h hn
  have ⟨v, hv⟩ := Option.isSome_iff_exists.mp g.value
  have hs : (Reply.answered r).select req.value? = .answered v := by simp [Reply.select, hv]
  have hl : (calls t.events).length = met.length + 1 := by simp [g.calls_eq]
  refine ⟨v, c', w', t.events, met, r, by simp only [ask_eq, he, hs], by simp only [ask_eq, hr, hs]; rfl, g, hv, hl, ?_,
    g.unrefreshed⟩
  exact hl ▸ Nat.succ_le_succ g.length_met_le

-- Two of the three setbacks are met, both at the same node. The leader that the first one hints at cannot be reached.
theorem ask_answered_around_lost_leader :
    let a : Endpoint := ⟨"a", 10710⟩
    let b : Endpoint := ⟨"b", 10710⟩
    let d : Endpoint := ⟨"d", 10710⟩
    let req : ConfigRequest := .removeNode (.unregistered a)
    let s : Script.Config := {
      unreachable := [a, d]
      cues := [(b, .respond (.removed (.redirect (some d)))), (b, .drop), (d, .drop)] ++
        [a, b, d].map (·, .respond (.removed .success))
    }
    let c : LeaderClient Script.Channel := {
      leader := .known a, members := [a, b], channel := some { endpoint := b }
      retry := { maxAttempts := 4 }
    }
    let w : Refreshed Script.Config := { world := s }
    let net := Script.network.toNetwork.refreshed
    c.Supplied req {a, b, d} s ∧ s.countSetbacks {a, b, d} < c.retry.maxAttempts.toNat ∧
      ∃ c' w' events met, ask net req c w = (.answered .success, c', w') ∧
        ask net.recorded req c { world := w } = (.answered .success, c', { world := w', events }) ∧
        GetsThrough req {a, b, d} s met (.removed .success) events w'.world ∧ met.length = 2 ∧
        w'.world.calls = [(b, req), (b, req), (b, req)] ∧
        ∀ known answer, .refresh known answer ∉ events := by
  intro a b d req s c w net
  have h : c.Supplied req {a, b, d} s := {
    within := ⟨by decide, by rintro _ ⟨⟩; decide, by decide⟩
    stocked := ⟨by decide, by decide⟩
    reachable := by decide
  }
  have hn : s.countSetbacks {a, b, d} < c.retry.maxAttempts.toNat := by decide
  have ⟨v, c', w', events, met, r, he, hr, g, hv, hl, _, hu⟩ := ask_answered Script.scripted c w h hn
  have ho : (ask net req c w).1 = .answered .success := by decide
  have hc : w'.world.calls = [(b, req), (b, req), (b, req)] := by
    have hw : w' = (ask net req c w).2.2 := by rw [he]
    rw [hw]
    decide
  have hn' : (calls events).length = 3 := by
    have hev : events = (ask net.recorded req c { world := w }).2.2.events := by rw [hr]
    rw [hev]
    decide
  rw [he] at ho
  obtain rfl : v = .success := Reply.answered.inj ho
  obtain rfl : r = .removed .success := by cases r <;> cases hv; rfl
  exact ⟨h, hn, c', w', events, met, he, hr, g, by omega, hc, hu⟩

end LeaderClient

end ClusterClient
