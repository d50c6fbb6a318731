import ClusterClient.Network.Refresher
import ClusterClient.Network.Script
import ClusterClient.Proofs.Client.Search

namespace ClusterClient

variable {σ χ : Type}

inductive Reply.IsRetried : Reply ConfigResponse → Prop
  | redirect {r : ConfigResponse} (h : r.status.isRedirect) : IsRetried (.answered r)
  | transport {e : ClientError} (h : e.isTransport) : IsRetried (.failed e)

-- The result that follows from the reply to a request which is not attempted again.
inductive Decides (req : ConfigRequest) : Reply ConfigResponse → Reply ConfigResponse → Prop
  | success {r : ConfigResponse} (h : r.status.isSuccess) : Decides req (.answered r) (.answered r)
  | rejected {r : ConfigResponse} (h : ¬r.status.isSuccess) (h' : ¬r.status.isRedirect) :
    Decides req (.answered r) (.failed (.operationFailure req.operation r.status))
  | failed {e : ClientError} (h : ¬e.isTransport) : Decides req (.failed e) (.failed e)
  | silent : Decides req .silent .silent

theorem Status.not_isRedirect_of_isSuccess {s : Status} (h : s.isSuccess) : ¬s.isRedirect := by
  simp only [isSuccess, isRedirect, beq_iff_eq] at h ⊢
  rw [h]
  decide

namespace LeaderClient

theorem verdict_eq_none_iff {req : ConfigRequest} {reply : Reply ConfigResponse} :
    verdict req reply = none ↔ reply.IsRetried := by
  constructor
  case mp =>
    intro h
    cases reply <;> simp only [verdict, reduceCtorEq] at h <;> split at h
    case answered.isTrue hr => exact .redirect hr
    case answered.isFalse => split at h <;> contradiction
    case failed.isTrue ht => exact .transport ht
    case failed.isFalse => contradiction
  case mpr => intro h; cases h <;> simp [verdict, *]

theorem verdict_eq_some_iff {req : ConfigRequest} {reply r : Reply ConfigResponse} :
    verdict req reply = some r ↔ Decides req reply r := by
  constructor
  case mp =>
    intro h
    cases reply <;> simp only [verdict, Option.some.injEq] at h
    case answered =>
      split at h
      case isTrue => contradiction
      case isFalse hr =>
        split at h <;> cases h
        case isTrue hs => exact .success hs
        case isFalse hs => exact .rejected hs hr
    case failed =>
      split at h <;> cases h
      case isFalse ht => exact .failed ht
    case silent => exact h ▸ .silent
  case mpr =>
    intro h
    cases h
    case success h => simp [verdict, h, Status.not_isRedirect_of_isSuccess h]
    all_goals simp [verdict, *]

end LeaderClient

theorem Decides.unique {req : ConfigRequest} {reply r r' : Reply ConfigResponse}
    (d : Decides req reply r) (d' : Decides req reply r') : r = r' := by
  have h := LeaderClient.verdict_eq_some_iff.mpr d
  have h' := LeaderClient.verdict_eq_some_iff.mpr d'
  exact Option.some.inj (h.symm.trans h')

theorem Decides.not_isRetried {req : ConfigRequest} {reply r : Reply ConfigResponse}
    (d : Decides req reply r) : ¬reply.IsRetried := by
  intro h
  have hn : LeaderClient.verdict req reply = none := LeaderClient.verdict_eq_none_iff.mpr h
  simp [LeaderClient.verdict_eq_some_iff.mpr d] at hn

-- The leader that the answer to a call which is to be made again tells of.
def Reply.leader : Reply ConfigResponse → Leader
  | answered r         => .ofHint r.status.redirectNode
  | failed _ | silent => .unknown

namespace Event

-- What goes before a call: nodes are looked for, and members are asked for.
inductive IsSearch : Event χ → Prop
  | probe {e : Event χ} (h : e.IsProbe) : IsSearch e
  | refresh {known : List Endpoint} {answer : Option (List Endpoint)} : IsSearch (.refresh known answer)

def Searching (events : List (Event χ)) : Prop := ∀ e ∈ events, e.IsSearch

variable {es es' : List (Event χ)}

theorem Probing.searching (h : Probing es) : Searching es :=
  fun e he => .probe (h e he)

theorem Probing.refreshed (h : Probing es) (h' : Probing es') (known : List Endpoint)
    (answer : Option (List Endpoint)) : Searching (es ++ .refresh known answer :: es') :=
  List.forall_mem_append.mpr ⟨h.searching, List.forall_mem_cons.mpr ⟨.refresh, h'.searching⟩⟩

theorem IsSearch.call?_eq {e : Event χ} (h : e.IsSearch) : e.call? = none := by
  rcases h with ⟨⟨⟩⟩ | _ <;> rfl

theorem IsSearch.wait?_eq {e : Event χ} (h : e.IsSearch) : e.wait? = none := by
  rcases h with ⟨⟨⟩⟩ | _ <;> rfl

theorem Searching.calls_eq (h : Searching es) : calls es = [] :=
  List.filterMap_eq_nil_iff.mpr fun e he => (h e he).call?_eq

theorem Searching.waits_eq (h : Searching es) : waits es = [] :=
  List.filterMap_eq_nil_iff.mpr fun e he => (h e he).wait?_eq

end Event

open Event

namespace LeaderClient

-- Fresh members take the place of the old ones, unless there are none.
def renewed (c : LeaderClient χ) : Option (List Endpoint) → LeaderClient χ
  | none | some [] => c
  | some members   => { c with members, cursor := c.cursor % members.length }

variable (net : Environment σ χ)

-- The events up to a call, and the client that makes it. Members are asked for when the leader and all members
-- have refused, and then at most once.
inductive Prepares (c : LeaderClient χ) : List (Event χ) → LeaderClient χ → Prop
  | held (h : c.isConnected net) : Prepares c [] c
  | searched {dropped es : List (Event χ)} {tried : List Nat} {c' : LeaderClient χ} (h : ¬c.isConnected net)
    (g : c.GivesUp dropped) (s : c.Searches tried es true c') : Prepares c (dropped ++ es) c'
  | refreshed {dropped es es' : List (Event χ)} {tried tried' : List Nat} {answer : Option (List Endpoint)}
    {c₁ c' : LeaderClient χ} (h : ¬c.isConnected net) (g : c.GivesUp dropped) (s : c.Searches tried es false c₁)
    (s' : (c₁.renewed answer).Searches tried' es' true c') :
    Prepares c (dropped ++ es ++ .refresh c₁.members answer :: es') c'

variable (req : ConfigRequest)

-- The events of an attempt after which the request is to be attempted again, and the client that is to do it.
inductive Spent (c : LeaderClient χ) : List (Event χ) → LeaderClient χ → Prop
  | unreached {dropped es es' : List (Event χ)} {tried tried' : List Nat} {answer : Option (List Endpoint)}
    {c₁ c' : LeaderClient χ} (h : ¬c.isConnected net) (g : c.GivesUp dropped) (s : c.Searches tried es false c₁)
    (s' : (c₁.renewed answer).Searches tried' es' false c') :
    Spent c (dropped ++ es ++ .refresh c₁.members answer :: es') c'
  | retried {es : List (Event χ)} {c₁ : LeaderClient χ} {ch ch' ch'' : χ} {reply : Reply ConfigResponse}
    (p : Prepares net c es c₁) (hc : c₁.channel = some ch) (h : reply.IsRetried) :
    Spent c (es ++ [.call ch req reply ch', .close ch' ch'']) { c₁ with leader := reply.leader, channel := none }

-- The events of an attempt after which the result is known. The call is the last of them.
inductive Decided (r : Reply ConfigResponse) (c : LeaderClient χ) : List (Event χ) → Prop
  | intro {es : List (Event χ)} {c₁ : LeaderClient χ} {ch ch' : χ} {reply : Reply ConfigResponse}
    (p : Prepares net c es c₁) (hc : c₁.channel = some ch) (d : Decides req reply r) :
    Decided r c (es ++ [.call ch req reply ch'])

-- One attempt after another, all of them spent.
inductive Spends : LeaderClient χ → List (List (Event χ)) → LeaderClient χ → Prop
  | nil {c : LeaderClient χ} : Spends c [] c
  | cons {c c₁ c' : LeaderClient χ} {a : List (Event χ)} {attempts : List (List (Event χ))}
    (s : Spent net req c a c₁) (rest : Spends c₁ attempts c') : Spends c (a :: attempts) c'

-- The attempts of an operation that may make `n` of them, and the result that they lead to.
inductive Settles (n : Nat) (c : LeaderClient χ) : List (List (Event χ)) → Reply ConfigResponse → Prop
  | decided {spent : List (List (Event χ))} {a : List (Event χ)} {r : Reply ConfigResponse} {c₁ : LeaderClient χ}
    (s : Spends net req c spent c₁) (h : spent.length < n) (d : Decided net req r c₁ a) : Settles n c (spent ++ [a]) r
  | exhausted {spent : List (List (Event χ))} {c₁ : LeaderClient χ} (s : Spends net req c spent c₁)
    (h : spent.length = n) : Settles n c spent exhausted

variable {net} {req} {c c' c₁ : LeaderClient χ} {t : Trace χ} {b : Bool} {es : List (Event χ)} {n : Nat}
  {r : Reply ConfigResponse}

theorem adopt_getD (c : LeaderClient χ) (answer : Option (List Endpoint)) :
    c.adopt (answer.getD []) = c.renewed answer := by
  rcases answer with _ | _ | ⟨e, members⟩ <;> rfl

@[simp]
theorem renewed_channel (c : LeaderClient χ) (answer : Option (List Endpoint)) :
    (c.renewed answer).channel = c.channel := by
  rcases answer with _ | _ | ⟨e, members⟩ <;> rfl

theorem learn_of_isRetried (c : LeaderClient χ) {reply : Reply ConfigResponse} (h : reply.IsRetried) :
    c.learn reply = { c with leader := reply.leader } := by
  cases h
  case redirect h  => exact if_pos h
  case transport h => exact if_pos h

namespace Searches

variable {tried : List Nat}

theorem channel_eq (s : c.Searches tried es false c') : c'.channel = none := by
  cases s
  case ring v => cases v; rfl

end Searches

namespace Prepares

theorem searching (p : Prepares net c es c') : Searching es := by
  cases p
  case held             => simp [Searching]
  case searched g s     => exact (g.probing.append s.probing).searching
  case refreshed g s s' => exact (g.probing.append s.probing).refreshed s'.probing _ _

end Prepares

namespace Spent

theorem waits_eq (s : Spent net req c es c') : waits es = [] := by
  cases s
  case unreached g s s' => exact ((g.probing.append s.probing).refreshed s'.probing _ _).waits_eq
  case retried p _ _    => simp [p.searching.waits_eq, wait?]

theorem calls_cases (s : Spent net req c es c') :
    calls es = [] ∨ ∃ reply, calls es = [(req, reply)] ∧ reply.IsRetried := by
  cases s
  case unreached g s s'    => exact .inl ((g.probing.append s.probing).refreshed s'.probing _ _).calls_eq
  case retried reply p _ h => exact .inr ⟨reply, by simp [p.searching.calls_eq, call?], h⟩

end Spent

namespace Decided

theorem waits_eq (d : Decided net req r c es) : waits es = [] := by
  cases d with | intro p _ _ => simp [p.searching.waits_eq, wait?]

theorem call (d : Decided net req r c es) :
    ∃ es' ch reply ch', es = es' ++ [.call ch req reply ch'] ∧ calls es = [(req, reply)] ∧
      Decides req reply r := by
  cases d with | intro p _ d => exact ⟨_, _, _, _, rfl, by simp [p.searching.calls_eq, call?], d⟩

end Decided

-- Without a channel, there is nothing to give up before a search.
theorem Connects.searches (e : Connects net c t b c') (h : c.channel = none) :
    ∃ tried, c.Searches tried t.events b c' := by
  cases e
  case resolved r =>
    have ⟨_, tried, _, he, g, s⟩ := r.search
    rw [GivesUp, h] at g
    cases g
    exact ⟨tried, he ▸ s⟩
  case held hc => simp [isConnected, h] at hc

-- Two searches, the second one among the members that were asked for in between.
theorem Connects.searches_twice {t' : Trace χ} {answer : Option (List Endpoint)} (e : Connects net c t false c₁)
    (e' : Connects net (c₁.adopt (answer.getD [])) t' b c') :
    ¬c.isConnected net ∧ ∃ dropped es tried tried', t.events = dropped ++ es ∧ c.GivesUp dropped ∧
      c.Searches tried es false c₁ ∧ (c₁.renewed answer).Searches tried' t'.events b c' := by
  cases e with | resolved hn r =>
  have ⟨_, _, _, he, g, s⟩ := r.search
  rw [adopt_getD] at e'
  have ⟨_, s'⟩ := e'.searches ((c₁.renewed_channel answer).trans s.channel_eq)
  exact ⟨hn, _, _, _, _, he, g, s, s'⟩

namespace Reaches

theorem prepares {ch : χ} (r : Reaches net c t b c') (h : c'.channel = some ch) : Prepares net c t.events c' := by
  cases r
  case direct e =>
    cases e
    case held hc       => exact .held hc
    case resolved hn r =>
      have ⟨_, _, _, he, g, s⟩ := r.search
      exact he ▸ .searched hn g s
  case refreshed e e' =>
    have hb := e'.channel_isSome
    rw [h, Option.isSome_some] at hb
    subst hb
    have ⟨hn, _, _, _, _, he, g, s, s'⟩ := e.searches_twice e'
    rw [Trace.events_append, Trace.events_cons, he]
    exact .refreshed hn g s s'

-- A client that ends without a channel has tried everybody, before it asked for members and after that.
theorem spent (r : Reaches net c t b c') (h : c'.channel = none) : Spent net req c t.events c' := by
  cases r
  case direct e => exact absurd e.channel_isSome (by simp [h])
  case refreshed e e' =>
    have hb := e'.channel_isSome
    rw [h, Option.isSome_none] at hb
    subst hb
    have ⟨hn, _, _, _, _, he, g, s, s'⟩ := e.searches_twice e'
    rw [Trace.events_append, Trace.events_cons, he]
    exact .unreached hn g s s'

end Reaches

namespace Attempts

theorem spent (a : Attempts net req c t none c') : Spent net req c t.events c' := by
  cases a
  case unreached h r => exact r.spent h
  case retried c₁ _ _ _ _ _ reply r h v d =>
    have ⟨_, he⟩ := d.events_eq (learn_channel ..)
    have hv := verdict_eq_none_iff.mp v
    have hc : c' = { c₁ with leader := reply.leader, channel := none } := by
      rw [d.client_eq, learn_of_isRetried _ hv]
      rfl
    simp only [Trace.events_append, Trace.events_cons, he]
    exact hc ▸ .retried (r.prepares h) h hv

theorem decides (a : Attempts net req c t (some r) c') : Decided net req r c t.events := by
  cases a
  case decided p h v =>
    simp only [Trace.events_append, Trace.events_cons]
    exact .intro (p.prepares h) h (verdict_eq_some_iff.mp v)

end Attempts

namespace Settles

variable {a : List (Event χ)} {attempts : List (List (Event χ))}

theorem single (d : Decided net req r c a) : Settles net req (n + 1) c [a] r :=
  .decided .nil (Nat.succ_pos n) d

theorem cons (sp : Spent net req c a c₁) (s : Settles net req n c₁ attempts r) :
    Settles net req (n + 1) c (a :: attempts) r := by
  cases s
  case decided s h d => exact .decided (.cons sp s) (Nat.succ_lt_succ h) d
  case exhausted s h => exact .exhausted (.cons sp s) (congrArg (· + 1) h)

end Settles

end LeaderClient

namespace Event

-- The events of consecutive attempts, with a wait between any two of them.
def spaced (d : Duration) : List (List (Event χ)) → List (Event χ)
  | [] => []
  | a :: attempts => a ++ attempts.flatMap (.wait d :: ·)

variable (d : Duration)

theorem calls_spaced (attempts : List (List (Event χ))) :
    calls (spaced d attempts) = attempts.flatMap calls := by
  cases attempts <;> simp [spaced]
  case cons attempts =>
    induction attempts <;> simp [*, call?]

theorem waits_spaced {attempts : List (List (Event χ))} (h : ∀ a ∈ attempts, waits a = []) :
    waits (spaced d attempts) = List.replicate (attempts.length - 1) d := by
  cases attempts <;> simp [spaced]
  case cons a attempts =>
    -- No wait precedes the first attempt, so the induction is on the others only.
    rw [h a (by simp), List.nil_append]
    replace h := (List.forall_mem_cons.mp h).right
    induction attempts
    case nil => rfl
    case cons hi =>
      have ⟨ha, h⟩ := List.forall_mem_cons.mp h
      simp [ha, hi h, wait?, List.replicate_succ]

theorem spaced_concat (attempts : List (List (Event χ))) (a : List (Event χ)) :
    ∃ es, spaced d (attempts ++ [a]) = es ++ a := by
  cases attempts
  case nil => exact ⟨[], by simp [spaced]⟩
  case cons b attempts =>
    exact ⟨b ++ attempts.flatMap (.wait d :: ·) ++ [.wait d], by simp [spaced]⟩

end Event

namespace LeaderClient

variable {net : Environment σ χ} {req : ConfigRequest} {c c' : LeaderClient χ} {t : Trace χ}
  {r : Reply ConfigResponse} {n : Nat}

theorem Retries.settles (rs : Retries net req n c t r c') :
    ∃ attempts, t.events = attempts.flatMap (.wait c.retry.interval :: ·) ∧
      Settles net req n c attempts r := by
  induction rs
  case spent => exact ⟨[], rfl, .exhausted .nil rfl⟩
  case final a => exact ⟨[_], by simp, .single a.decides⟩
  case again a _ hi =>
    have ⟨attempts, he, s⟩ := hi
    exact ⟨_ :: attempts, by simp [he, a.preserves_retry], s.cons a.spent⟩

theorem Executes.settles (e : Executes net req c t r c') :
    ∃ attempts, t.events = spaced c.retry.interval attempts ∧
      Settles net req c.retry.maxAttempts.toNat c attempts r := by
  cases e
  case spent h => exact ⟨[], rfl, .exhausted .nil h.symm⟩
  case final h a => rw [h]; exact ⟨[_], by simp [spaced], .single a.decides⟩
  case again h a rest =>
    have ⟨attempts, he, s⟩ := rest.settles
    rw [h]
    exact ⟨_ :: attempts, by simp [spaced, he, a.preserves_retry], s.cons a.spent⟩

-- The events of an operation, how they fall into attempts, and the result.
structure Outcome (net : Environment σ χ) (req : ConfigRequest) (c : LeaderClient χ)
    (attempts : List (List (Event χ))) (events : List (Event χ)) (result : Reply ConfigResponse) : Prop where
  events_eq   : events = spaced c.retry.interval attempts
  attempts_le : attempts.length ≤ c.retry.maxAttempts.toNat
  settles     : Settles net req c.retry.maxAttempts.toNat c attempts result
  calls_le    : (calls events).length ≤ c.retry.maxAttempts.toNat
  request     : ∀ call ∈ calls events, call.1 = req
  retried     : ∀ call ∈ (calls events).dropLast, call.2.IsRetried
  waits_eq    : waits events = List.replicate (attempts.length - 1) c.retry.interval
  decided     : ∀ call ∈ (calls events).getLast?, ∀ r, Decides req call.2 r →
                  result = r ∧ events.getLast?.bind Event.call? = some call
  exhausted   : (∀ call ∈ (calls events).getLast?, call.2.IsRetried) →
                  result = LeaderClient.exhausted ∧ attempts.length = c.retry.maxAttempts.toNat ∧
                  ∃ c', Spends net req c attempts c'

namespace Spends

variable {attempts : List (List (Event χ))}

theorem waits_eq (s : Spends net req c attempts c') : ∀ a ∈ attempts, waits a = [] := by
  induction s
  case nil => simp
  case cons s _ hi => exact List.forall_mem_cons.mpr ⟨s.waits_eq, hi⟩

theorem calls (s : Spends net req c attempts c') :
    (attempts.flatMap calls).length ≤ attempts.length ∧
      ∀ call ∈ attempts.flatMap calls, call.1 = req ∧ call.2.IsRetried := by
  induction s
  case nil => simp
  case cons s _ hi =>
    have ⟨hl, hm⟩ := hi
    simp only [List.flatMap_cons, List.length_append, List.length_cons]
    cases s.calls_cases
    case inl he =>
      rw [he]
      exact ⟨by rw [List.length_nil]; omega, hm⟩
    case inr h =>
      have ⟨_, he, hr⟩ := h
      rw [he]
      exact ⟨by rw [List.length_singleton]; omega, List.forall_mem_cons.mpr ⟨⟨rfl, hr⟩, hm⟩⟩

end Spends

theorem Settles.outcome {attempts : List (List (Event χ))}
    (s : Settles net req c.retry.maxAttempts.toNat c attempts r) :
    Outcome net req c attempts (spaced c.retry.interval attempts) r := by
  cases s
  -- Without a deciding call, all calls are those of spent attempts.
  case exhausted s h =>
    have ⟨hl, hm⟩ := s.calls
    have hw := waits_spaced c.retry.interval s.waits_eq
    rw [← calls_spaced c.retry.interval] at hl hm
    exact {
      events_eq := rfl
      attempts_le := Nat.le_of_eq h
      settles := .exhausted s h
      calls_le := h ▸ hl
      request call hc := (hm call hc).left
      retried call hc := (hm call (List.dropLast_subset _ hc)).right
      waits_eq := hw
      decided call hc _ hd := absurd (hm call (List.mem_of_getLast? hc)).right hd.not_isRetried
      exhausted _ := ⟨rfl, h, _, s⟩
    }
  -- The deciding call is the last of the calls, and the last of all events.
  case decided spent a _ s h d =>
    have ⟨hl, hm⟩ := s.calls
    have ⟨es, ch, reply, ch', ha, hc, hd⟩ := d.call
    have hs : calls (spaced c.retry.interval (spent ++ [a])) = spent.flatMap calls ++ [(req, reply)] := by
      simp [calls_spaced, hc]
    have hw : ∀ b ∈ spent ++ [a], waits b = [] :=
      List.forall_mem_append.mpr ⟨s.waits_eq, List.forall_mem_singleton.mpr d.waits_eq⟩
    have ⟨es', he⟩ := spaced_concat c.retry.interval spent a
    exact {
      events_eq := rfl
      attempts_le := by simp; omega
      settles := .decided s h d
      calls_le := by
        rw [hs, List.length_append]
        exact Nat.le_trans (Nat.succ_le_succ hl) h
      request := by
        rw [hs]
        exact List.forall_mem_append.mpr ⟨fun call hc => (hm call hc).left, by simp⟩
      retried := by
        rw [hs, List.dropLast_concat]
        exact fun call hc => (hm call hc).right
      waits_eq := waits_spaced c.retry.interval hw
      decided := by
        rw [hs, List.getLast?_concat]
        intro call hc r' hr
        cases hc
        refine ⟨hd.unique hr, ?_⟩
        rw [he, ha, ← List.append_assoc, List.getLast?_concat]
        rfl
      exhausted := by
        rw [hs, List.getLast?_concat]
        exact fun hr => absurd (hr _ rfl) hd.not_isRetried
    }

-- No reply, and no refusal of a connection, can make a client ask more often than its policy allows, or
-- ask again after an answer that is final. It gives up only if every attempt was redirected or lost, or found that
-- the leader and all members refused, and so did all members that were asked for then.
theorem execute_outcome (net : Environment σ χ) (req : ConfigRequest) (c : LeaderClient χ) (w : σ) :
    ∃ result c' w' events attempts, c.execute net req w = (result, c', w') ∧
      c.execute net.recorded req { world := w } = (result, c', { world := w', events }) ∧
      Outcome net req c attempts events result := by
  have ⟨result, c', w', t, hn, hr, e⟩ := c.execute_trace net req { world := w }
  have ⟨attempts, he, s⟩ := e.settles
  exact ⟨result, c', w', t.events, attempts, hn, hr, he ▸ s.outcome⟩

-- The call is lost with its channel. Of the two members none can be reached after that, nor can the one that is
-- known in their place from then on.
theorem execute_outcome_unreachable :
    let a : Endpoint := ⟨"a", 10710⟩
    let b : Endpoint := ⟨"b", 10710⟩
    let d : Endpoint := ⟨"d", 10710⟩
    let req : ConfigRequest := .removeNode (.unregistered a)
    let c : LeaderClient Script.Channel := {
      leader := .known a, members := [a, b], cursor := 1, channel := some { endpoint := a }
      retry := { maxAttempts := 3 }
    }
    let w : Refreshed (Script ConfigRequest ConfigResponse) := {
      world := { unreachable := [a, b, d], cues := [(a, .drop)] }
      refresher := .script [some [d]]
    }
    let net := Script.network.toNetwork.refreshed
    ∃ c' w' events attempts, c.execute net req w = (exhausted, c', w') ∧
      c.execute net.recorded req { world := w } = (exhausted, c', { world := w', events }) ∧
      Outcome net req c attempts events exhausted ∧
      (∃ c', Spends net req c attempts c') ∧ attempts.length = 3 ∧
      calls events = [(req, .failed (.transport "connection to a:10710 reset by peer"))] ∧
      waits events = List.replicate 2 c.retry.interval ∧
      w'.world.connects = [a, b, d, d, d] ∧ w'.asked = [[a, b], [d]] := by
  intro a b d req c w net
  have ⟨result, c', w', events, attempts, he, hr, o⟩ := execute_outcome net req c w
  have hev : events = (c.execute net.recorded req { world := w }).2.2.events := by rw [hr]
  have hw : w' = (c.execute net req w).2.2 := by rw [he]
  have hc : calls events = [(req, .failed (.transport "connection to a:10710 reset by peer"))] := by
    rw [hev]
    decide
  have hl : ∀ call ∈ (calls events).getLast?, call.2.IsRetried := by
    rw [hc]
    rintro _ ⟨⟩
    exact .transport rfl
  obtain ⟨rfl, hn, s⟩ := o.exhausted hl
  have hn : attempts.length = 3 := hn
  refine ⟨c', w', events, attempts, he, hr, o, s, hn, hc, by rw [o.waits_eq, hn], ?_⟩
  rw [hw]
  decide

end LeaderClient

end ClusterClient
