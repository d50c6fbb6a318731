import ClusterClient.Proofs.Client.Retry

namespace ClusterClient

variable {σ χ : Type}

-- A property of all moments, each with the events before it.
def Trace.Always (P : List (Event χ) → Moment χ → Prop) : (past : List (Event χ)) → Trace χ → Prop
  | _, [] => True
  | past, m :: t => P past m ∧ Always P (past ++ [m.event]) t

namespace Trace.Always

variable {P : List (Event χ) → Moment χ → Prop} {past : List (Event χ)} {t t' : Trace χ}

theorem append (h : Always P past t) (h' : Always P (past ++ t.events) t') : Always P past (t ++ t') := by
  induction t generalizing past
  case nil => simpa using h'
  case cons hi => exact ⟨h.left, hi h.right (by simpa using h')⟩

theorem at_split {before after : Trace χ} {m : Moment χ} (h : Always P past (before ++ m :: after)) :
    P (past ++ before.events) m := by
  induction before generalizing past
  case nil => simpa using h.left
  case cons hi => simpa using hi h.right

end Trace.Always

namespace LeaderClient

variable (net : Environment σ χ)

inductive Step (c : LeaderClient χ) : Trace χ → LeaderClient χ → Prop
  | discarded {ch ch' : χ} (h : c.channel = some ch) (ho : ¬net.isOpen ch) :
    Step c [⟨c, .close ch ch'⟩] { c with channel := none }
  | leaderReached {e : Endpoint} {ch : χ} (h : c.channel = none) (hl : c.leader = .known e) :
    Step c [⟨c, .connect e (.ok ch)⟩] (c.hold ch)
  | leaderLost {e : Endpoint} {fault : ClientError} (h : c.channel = none) (hl : c.leader = .known e) :
    Step c [⟨c, .connect e (.error fault)⟩] { c with leader := .unknown }
  | memberReached {e : Endpoint} {ch : χ} (h : c.channel = none) (hl : c.leader = .unknown)
    (hm : c.members[c.advance.cursor]? = some e) :
    Step c [⟨c.advance, .connect e (.ok ch)⟩] (c.advance.hold ch)
  | memberLost {e : Endpoint} {fault : ClientError} (h : c.channel = none) (hl : c.leader = .unknown)
    (hm : c.members[c.advance.cursor]? = some e) :
    Step c [⟨c.advance, .connect e (.error fault)⟩] c.advance
  | refreshed {answer : Option (List Endpoint)} (h : c.channel = none) :
    Step c [⟨c, .refresh c.members answer⟩] (c.adopt (answer.getD []))
  | waited : Step c [⟨c, .wait c.retry.interval⟩] c
  | decided {ch ch' : χ} {req : ConfigRequest} {reply : Reply ConfigResponse}
    (h : c.channel = some ch) (hr : ¬reply.IsRetried) :
    Step c [⟨c, .call ch req reply ch'⟩] ((c.hold ch').learn reply)
  | retried {ch ch' ch'' : χ} {req : ConfigRequest} {reply : Reply ConfigResponse}
    (h : c.channel = some ch) (hr : reply.IsRetried) :
    Step c [⟨c, .call ch req reply ch'⟩, ⟨(c.hold ch').learn reply, .close ch' ch''⟩]
      { (c.hold ch').learn reply with channel := none }

inductive Steps : LeaderClient χ → Trace χ → LeaderClient χ → Prop
  | refl {c : LeaderClient χ} : Steps c [] c
  | step {c c₁ c₂ : LeaderClient χ} {t t' : Trace χ} (s : Step net c t c₁) (rest : Steps c₁ t' c₂) :
    Steps c (t ++ t') c₂

variable {net} {c c' c₁ c₂ : LeaderClient χ} {t t' : Trace χ} {req : ConfigRequest} {b : Bool} {n : Nat}

theorem Step.steps (s : Step net c t c') : Steps net c t c' := by
  simpa using Steps.step s .refl

theorem Steps.trans (s : Steps net c t c₁) (s' : Steps net c₁ t' c₂) : Steps net c (t ++ t') c₂ := by
  induction s
  case refl => exact s'
  case step s _ hi => rw [List.append_assoc]; exact .step s (hi s')

theorem Drops.steps (d : Drops c t c') (h : ¬c.isConnected net) : Steps net c t c' := by
  cases d
  case absent => exact .refl
  case closed ch _ hc =>
    have ho : ¬net.isOpen ch := by simpa [isConnected, hc] using h
    exact (Step.discarded hc ho).steps

namespace TriesLeader

theorem leader_eq (l : TriesLeader c t false c') : c'.leader = .unknown := by
  cases l
  case unknown h => exact h
  case lost => rfl

theorem steps (l : TriesLeader c t b c') (h : c.channel = none) : Steps net c t c' := by
  cases l
  case unknown => exact .refl
  case reached hl => exact (Step.leaderReached h hl).steps
  case lost hl => exact (Step.leaderLost h hl).steps

end TriesLeader

theorem Walks.steps (r : Walks n c t b c') (h : c.channel = none) (hl : c.leader = .unknown)
    (hn : n ≤ c.members.length) : Steps net c t c' := by
  induction r
  case done => exact .refl
  case vacant hm _ _ =>
    -- The ring has no gaps.
    have hlt := advance_cursor_lt _ (Nat.lt_of_lt_of_le (Nat.succ_pos _) hn)
    simp [hlt] at hm
  case reached hm => exact (Step.memberReached h hl hm).steps
  case lost hm _ hi => exact .step (.memberLost h hl hm) (hi h hl (Nat.le_of_succ_le hn))

theorem Resolves.steps (r : Resolves c t b c') (h : ¬c.isConnected net) : Steps net c t c' := by
  cases r
  case leader d l => exact (d.steps h).trans (l.steps d.channel_eq)
  case ring d l r =>
    have hc := l.channel_eq.trans d.channel_eq
    exact ((d.steps h).trans (l.steps d.channel_eq)).trans (r.steps hc l.leader_eq (Nat.le_refl _))

theorem Connects.channel_eq (e : Connects net c t false c') : c'.channel = none := by
  simpa using e.channel_isSome

theorem Connects.steps (e : Connects net c t b c') : Steps net c t c' := by
  cases e
  case held => exact .refl
  case resolved h r => exact r.steps h

theorem Reaches.steps (r : Reaches net c t b c') : Steps net c t c' := by
  cases r
  case direct e => exact e.steps
  case refreshed e e' => exact e.steps.trans (.step (.refreshed e.channel_eq) e'.steps)

theorem Attempts.steps {o : Option (Reply ConfigResponse)} (a : Attempts net req c t o c') :
    Steps net c t c' := by
  cases a
  case unreached r => exact r.steps
  case decided r h v =>
    exact r.steps.trans (Step.decided h (verdict_eq_some_iff.mp v).not_isRetried).steps
  case retried r h v d =>
    cases d
    case absent h' => simp [hold] at h'
    case closed h' =>
      simp only [learn_channel, hold, Option.some.injEq] at h'
      subst h'
      exact r.steps.trans (Step.retried h (verdict_eq_none_iff.mp v)).steps

theorem Retries.steps {r : Reply ConfigResponse} (rs : Retries net req n c t r c') :
    Steps net c t c' := by
  induction rs
  case spent => exact .refl
  case final a => exact .step .waited a.steps
  case again a _ hi =>
    rw [List.cons_append]
    exact .step .waited (a.steps.trans hi)

theorem Executes.steps {r : Reply ConfigResponse} (e : Executes net req c t r c') :
    Steps net c t c' := by
  cases e
  case spent => exact .refl
  case final a => exact a.steps
  case again a rest => exact a.steps.trans rest.steps

-- What holds of client and past in all states between two steps, and what follows of the moments within
-- the steps, if all events are of a certain kind.
theorem Steps.always {I : List (Event χ) → LeaderClient χ → Prop}
    {P : List (Event χ) → Moment χ → Prop} {Q : Event χ → Prop}
    (step : ∀ {past c t c'}, I past c → (∀ e ∈ t.events, Q e) → Step net c t c' →
      I (past ++ t.events) c' ∧ t.Always P past)
    (s : Steps net c t c') (hq : ∀ e ∈ t.events, Q e) {past : List (Event χ)} (h : I past c) :
    I (past ++ t.events) c' ∧ t.Always P past := by
  induction s generalizing past
  case refl => simpa [Trace.Always] using h
  case step s _ hi =>
    simp only [Trace.events_append] at hq ⊢
    have ⟨hq, hq'⟩ := List.forall_mem_append.mp hq
    have ⟨h₁, ha⟩ := step h hq s
    have ⟨h₂, ha'⟩ := hi hq' h₁
    exact ⟨by simpa using h₂, ha.append ha'⟩

end LeaderClient

end ClusterClient
