import ClusterClient.Network.Script
import ClusterClient.Proofs.Network.Basic

namespace ClusterClient.Script

variable {Req Resp : Type}

def queueOf (e : Endpoint) (cues : List (Endpoint × Cue Resp)) : List (Cue Resp) :=
  (cues.filter (·.1 = e)).map Prod.snd

theorem queue_setClock (n : Nat) (s : Script Req Resp) (e : Endpoint) :
    { s with clock := n }.queue e = s.queue e := rfl

theorem queue_wait (d : Duration) (s : Script Req Resp) (e : Endpoint) :
    (network.wait d s).queue e = s.queue e :=
  queue_setClock (s.clock + d.millisUp) s e

theorem queueOf_map (e : Endpoint) (cues : List (Cue Resp)) : queueOf e (cues.map (e, ·)) = cues := by
  induction cues <;> simp_all [queueOf]

section Next

variable {e k : Endpoint} {cue : Cue Resp} {cues left : List (Endpoint × Cue Resp)}

theorem queueOf_cons (head : Endpoint × Cue Resp) :
    queueOf e (head :: cues) = if head.1 = e then head.2 :: queueOf e cues else queueOf e cues := by
  by_cases h : head.1 = e <;> simp [queueOf, h]

theorem queueOf_concat (cues : List (Endpoint × Cue Resp)) (e k : Endpoint) (cue : Cue Resp) :
    queueOf k (cues ++ [(e, cue)]) = queueOf k cues ++ if e = k then [cue] else [] := by
  by_cases h : e = k <;> simp [queueOf, h]

theorem next?_eq_none_iff : next? e cues = none ↔ queueOf e cues = [] := by
  induction cues
  case nil => simp [next?, queueOf]
  case cons head rest hi =>
    by_cases h : head.1 = e <;> simp [next?, queueOf_cons, h, hi]

theorem queueOf_of_next? (h : next? e cues = some (cue, left)) :
    queueOf e cues = cue :: queueOf e left := by
  induction cues generalizing left
  case nil => simp [next?] at h
  case cons head rest hi =>
    simp only [next?] at h
    split at h
    case isTrue he => cases h; simp [queueOf_cons, he]
    case isFalse he =>
      obtain ⟨⟨_, _⟩, hr, ht⟩ := Option.map_eq_some_iff.mp h
      cases ht
      simp [queueOf_cons, he, hi hr]

theorem queueOf_of_next?_ne (h : next? e cues = some (cue, left)) (hk : k ≠ e) :
    queueOf k left = queueOf k cues := by
  induction cues generalizing left
  case nil => simp [next?] at h
  case cons head rest hi =>
    simp only [next?] at h
    split at h
    case isTrue he => cases h; simp [queueOf_cons, he, hk.symm]
    case isFalse he =>
      obtain ⟨⟨_, _⟩, hr, ht⟩ := Option.map_eq_some_iff.mp h
      cases ht
      simp [queueOf_cons, hi hr]

end Next

-- What calls to an endpoint do to a script when each of them gets its answer.
structure Served (e : Endpoint) (xs : List (Req × Resp)) (s s' : Script Req Resp) : Prop where
  queue_eq       : s.queue e = xs.map (.respond ·.2) ++ s'.queue e
  others         : ∀ k ≠ e, s'.queue k = s.queue k
  calls_eq       : s'.calls = s.calls ++ xs.map (e, ·.1)
  connects_eq    : s'.connects = s.connects
  clock_eq       : s'.clock = s.clock
  unreachable_eq : s'.unreachable = s.unreachable

namespace Served

variable {e : Endpoint} {s s₁ s₂ : Script Req Resp}

theorem nil : Served e [] s s where
  queue_eq       := rfl
  others _ _     := rfl
  calls_eq       := (List.append_nil _).symm
  connects_eq    := rfl
  clock_eq       := rfl
  unreachable_eq := rfl

theorem append {xs xs' : List (Req × Resp)} (a : Served e xs s s₁) (b : Served e xs' s₁ s₂) :
    Served e (xs ++ xs') s s₂ where
  queue_eq       := by rw [a.queue_eq, b.queue_eq, List.map_append, List.append_assoc]
  others k hk    := (b.others k hk).trans (a.others k hk)
  calls_eq       := by rw [b.calls_eq, a.calls_eq, List.map_append, List.append_assoc]
  connects_eq    := b.connects_eq.trans a.connects_eq
  clock_eq       := b.clock_eq.trans a.clock_eq
  unreachable_eq := b.unreachable_eq.trans a.unreachable_eq

end Served

-- What a cue makes of the call that takes it.
inductive Yields : Cue Resp → Reply Resp → Prop
  | responded {r : Resp} : Yields (.respond r) (.answered r)
  | dropped {text : String} : Yields .drop (.failed (.transport text))
  | hung : Yields .hang .silent

structure Takes (e : Endpoint) (cue : Cue Resp) (s s' : Script Req Resp) : Prop where
  queue_eq       : s.queue e = cue :: s'.queue e
  others         : ∀ k ≠ e, s'.queue k = s.queue k
  unreachable_eq : s'.unreachable = s.unreachable

variable {ch ch' : Channel} {req : Req} {resp : Resp} {s s' : Script Req Resp}

-- The cue that an open channel takes, if there is one, and what becomes of the call and of the channel.
inductive Outcome (ch : Channel) : Option (Cue Resp) → Reply Resp → Channel → Prop
  | responded {r : Resp} : Outcome ch (some (.respond r)) (.answered r) ch
  | dropped : Outcome ch (some .drop)
    (.failed (.transport s!"connection to {ch.endpoint.render} reset by peer")) { ch with isOpen := false }
  | hung : Outcome ch (some .hang) .silent ch
  | starved : Outcome ch none (.failed (.transport s!"no scripted reply for {ch.endpoint.render}"))
    { ch with isOpen := false }

-- What calls to an endpoint do to a script, whatever they come to.
structure Asked (e : Endpoint) (reqs : List Req) (taken : List (Cue Resp)) (s s' : Script Req Resp) : Prop where
  calls_eq       : s'.calls = s.calls ++ reqs.map (e, ·)
  queue_eq       : s.queue e = taken ++ s'.queue e
  others         : ∀ k ≠ e, s'.queue k = s.queue k
  connects_eq    : s'.connects = s.connects
  unreachable_eq : s'.unreachable = s.unreachable

namespace Asked

variable {e : Endpoint} {s s₁ s₂ : Script Req Resp}

theorem append {reqs reqs' : List Req} {taken taken' : List (Cue Resp)} (a : Asked e reqs taken s s₁)
    (b : Asked e reqs' taken' s₁ s₂) : Asked e (reqs ++ reqs') (taken ++ taken') s s₂ where
  calls_eq       := by rw [b.calls_eq, a.calls_eq, List.map_append, List.append_assoc]
  queue_eq       := by rw [a.queue_eq, b.queue_eq, List.append_assoc]
  others k hk    := (b.others k hk).trans (a.others k hk)
  connects_eq    := b.connects_eq.trans a.connects_eq
  unreachable_eq := b.unreachable_eq.trans a.unreachable_eq

theorem setClock {reqs : List Req} {taken : List (Cue Resp)} (a : Asked e reqs taken s s₁) (n : Nat) :
    Asked e reqs taken s { s₁ with clock := n } :=
  ⟨a.calls_eq, a.queue_eq, a.others, a.connects_eq, a.unreachable_eq⟩

theorem wait {reqs : List Req} {taken : List (Cue Resp)} (a : Asked e reqs taken s s₁) (d : Duration) :
    Asked e reqs taken s (network.wait d s₁) :=
  a.setClock (s₁.clock + d.millisUp)

end Asked

theorem Served.asked {e : Endpoint} {xs : List (Req × Resp)} (h : Served e xs s s') :
    Asked e (xs.map Prod.fst) (xs.map (.respond ·.2)) s s' where
  calls_eq       := by rw [h.calls_eq, List.map_map]; rfl
  queue_eq       := h.queue_eq
  others         := h.others
  connects_eq    := h.connects_eq
  unreachable_eq := h.unreachable_eq

namespace Outcome

variable {cue : Option (Cue Resp)} {reply reply' : Reply Resp} {ch₁ ch₂ : Channel}

theorem unique (o : Outcome ch cue reply ch₁) (o' : Outcome ch cue reply' ch₂) : reply = reply' ∧ ch₁ = ch₂ := by
  cases o <;> cases o' <;> exact ⟨rfl, rfl⟩

theorem endpoint_eq (o : Outcome ch cue reply ch₁) : ch₁.endpoint = ch.endpoint := by
  cases o <;> rfl

theorem yields {cue : Cue Resp} (o : Outcome ch (some cue) reply ch₁) : Yields cue reply := by
  cases o
  case responded => exact .responded
  case dropped   => exact .dropped
  case hung      => exact .hung

end Outcome

theorem call_closed (req : Req) (s : Script Req Resp) (ho : ¬ch.isOpen) :
    call ch req s = (.failed (.transport s!"connection to {ch.endpoint.render} is closed"), ch, s) := by
  simp [call, ho]

-- What a call comes to is decided by the first cue in the queue of its endpoint.
theorem call_outcome {reply : Reply Resp} (h : call ch req s = (reply, ch', s')) (ho : ch.isOpen) :
    ∃ cue, cue = (s.queue ch.endpoint).head? ∧ Outcome ch cue reply ch' ∧
      Asked ch.endpoint [req] cue.toList s s' ∧ s'.clock = s.clock := by
  rcases hn : next? ch.endpoint s.cues with _ | ⟨cue, left⟩ <;>
    simp only [call, ho, hn, Bool.not_true, Bool.false_eq_true, if_false] at h
  case none =>
    have hq : s.queue ch.endpoint = [] := next?_eq_none_iff.mp hn
    rw [hq]
    cases h
    exact ⟨none, rfl, .starved, ⟨rfl, rfl, fun _ _ => rfl, rfl, rfl⟩, rfl⟩
  case some =>
    have hq : s.queue ch.endpoint = cue :: queueOf ch.endpoint left := queueOf_of_next? hn
    rw [hq]
    have asked : Asked ch.endpoint [req] [cue] s
        { s with calls := s.calls ++ [(ch.endpoint, req)], cues := left } :=
      ⟨rfl, hq, fun _ hk => queueOf_of_next?_ne hn hk, rfl, rfl⟩
    cases cue <;> cases h
    case respond => exact ⟨_, rfl, .responded, asked, rfl⟩
    case drop    => exact ⟨_, rfl, .dropped, asked, rfl⟩
    case hang    => exact ⟨_, rfl, .hung, asked, rfl⟩

theorem call_takes {reply : Reply Resp} {cue : Cue Resp} {tail : List (Cue Resp)}
    (h : call ch req s = (reply, ch', s')) (ho : ch.isOpen) (hq : s.queue ch.endpoint = cue :: tail) :
    Yields cue reply ∧ Takes ch.endpoint cue s s' := by
  obtain ⟨_, rfl, o, a, _⟩ := call_outcome h ho
  rw [hq] at o a
  exact ⟨o.yields, a.queue_eq, a.others, a.unreachable_eq⟩

theorem call_answered (h : call ch req s = (.answered resp, ch', s')) :
    ch.isOpen ∧ ch' = ch ∧ Served ch.endpoint [(req, resp)] s s' := by
  by_cases ho : ch.isOpen
  case neg => simp [call_closed req s ho] at h
  case pos =>
    have ⟨_, _, o, a, hc⟩ := call_outcome h ho
    cases o
    exact ⟨ho, rfl, {
      queue_eq       := a.queue_eq
      others         := a.others
      calls_eq       := a.calls_eq
      connects_eq    := a.connects_eq
      clock_eq       := hc
      unreachable_eq := a.unreachable_eq
    }⟩

theorem call_of_queue (req : Req) {tail : List (Cue Resp)} (ho : ch.isOpen)
    (h : s.queue ch.endpoint = .respond resp :: tail) :
    ∃ s', call ch req s = (.answered resp, ch, s') ∧ s'.queue ch.endpoint = tail := by
  rcases hc : call ch req s with ⟨reply, ch', s'⟩
  obtain ⟨_, rfl, o, a, _⟩ := call_outcome hc ho
  rw [h] at o a
  obtain ⟨rfl, rfl⟩ := o.unique .responded
  exact ⟨s', rfl, (List.tail_eq_of_cons_eq (h.symm.trans a.queue_eq)).symm⟩

-- A caller that does not wait forever has an answer, and the channel as it was, or has lost the channel.
theorem receives_outcome {limit : Duration} {r : Except ClientError Resp}
    (h : network.toNetwork.Receives limit req ch s r ch' s') (ho : ch.isOpen) :
    ∃ cue : Option (Cue Resp), Asked ch.endpoint [req] cue.toList s s' ∧
      ((∃ resp, r = .ok resp ∧ ch' = ch) ∨
        ∃ e, r = .error e ∧ e.isTransport ∧ ch' = { ch with isOpen := false }) := by
  cases h
  case answered hc =>
    have ⟨_, _, o, a, _⟩ := call_outcome hc ho
    cases o
    exact ⟨_, a, .inl ⟨_, rfl, rfl⟩⟩
  case failed hc =>
    have ⟨_, _, o, a, _⟩ := call_outcome hc ho
    cases o <;> exact ⟨_, a, .inr ⟨_, rfl, rfl, rfl⟩⟩
  case late hc hl =>
    have ⟨_, _, o, a, _⟩ := call_outcome hc ho
    cases o
    cases hl
    exact ⟨_, a.wait limit, .inr ⟨_, rfl, rfl, rfl⟩⟩

variable {xs : List (Req × Resp)}

theorem served_of_answered {limit : Duration} (a : network.Answered limit ch s xs ch' s') :
    ch' = ch ∧ (xs ≠ [] → ch.isOpen) ∧ Served ch.endpoint xs s s' := by
  induction a
  case nil => exact ⟨rfl, (absurd rfl ·), .nil⟩
  case cons h _ hi =>
    have ⟨ho, hc, hs⟩ := call_answered h
    subst hc
    have ⟨hc, _, hs'⟩ := hi
    exact ⟨hc, fun _ => ho, hs.append hs'⟩

theorem answered_of_queue (limit : Duration) {left : List (Cue Resp)} (ho : ch.isOpen)
    (h : s.queue ch.endpoint = xs.map (.respond ·.2) ++ left) :
    ∃ s', network.Answered limit ch s xs ch s' := by
  induction xs generalizing s
  case nil => exact ⟨s, .nil⟩
  case cons x xs hi =>
    have ⟨s₁, hc, hq⟩ := call_of_queue x.1 ho h
    have ⟨s', ha⟩ := hi hq
    exact ⟨s', .cons hc ha⟩

-- Scripts with the same queue for an endpoint cannot be told apart by calls to it.
theorem call_of_same {r : Reply Resp} {s₁ s₂ s₁' : Script Req Resp}
    (h : s₁.queue ch.endpoint = s₂.queue ch.endpoint) (hc : call ch req s₁ = (r, ch', s₁')) :
    ∃ s₂', call ch req s₂ = (r, ch', s₂') ∧ s₁'.queue ch'.endpoint = s₂'.queue ch'.endpoint := by
  by_cases ho : ch.isOpen
  case neg =>
    rw [call_closed req _ ho] at hc ⊢
    cases hc
    exact ⟨s₂, rfl, h⟩
  case pos =>
    rcases hc' : call ch req s₂ with ⟨r', ch₂, s₂'⟩
    obtain ⟨_, rfl, o, a, _⟩ := call_outcome hc ho
    obtain ⟨_, rfl, o', a', _⟩ := call_outcome hc' ho
    rw [h] at o a
    obtain ⟨rfl, rfl⟩ := o.unique o'
    rw [o.endpoint_eq]
    exact ⟨s₂', rfl, List.append_cancel_left ((a.queue_eq.symm.trans h).trans a'.queue_eq)⟩

theorem queue_push (s : Script Req Resp) (e k : Endpoint) (cue : Cue Resp) :
    (s.push e cue).queue k = s.queue k ++ if e = k then [cue] else [] :=
  queueOf_concat s.cues e k cue

theorem receives_closed (limit : Duration) (req : Req) (s : Script Req Resp) (ho : ¬ch.isOpen) :
    network.toNetwork.Receives limit req ch s
      (.error (.transport s!"connection to {ch.endpoint.render} is closed")) ch s :=
  .failed (call_closed req s ho)

end ClusterClient.Script
