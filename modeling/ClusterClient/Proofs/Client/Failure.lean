import ClusterClient.Proofs.Client.Membership
import ClusterClient.Network.Script
import Mathlib

namespace ClusterClient

variable {σ χ : Type}

namespace Event

-- A list of members that was asked for.
def fresh? : Event χ → Option (List Endpoint)
  | refresh _ answer => answer
  | _ => none

def freshLists (events : List (Event χ)) : List (List Endpoint) :=
  events.filterMap fresh?

-- All lists of members were asked for.
def Unreported (events : List (Event χ)) : Prop :=
  ∀ e ∈ events, e.offer? = e.fresh?

variable {es es' : List (Event χ)} {req : ConfigRequest}

theorem Unreported.offers_eq (h : Unreported es) : offers es = freshLists es :=
  List.filterMap_congr h

theorem Unreported.append (h : Unreported es) (h' : Unreported es') : Unreported (es ++ es') :=
  List.forall_mem_append.mpr ⟨h, h'⟩

theorem Searching.unreported (h : Searching es) : Unreported es :=
  fun e he => by rcases h e he with ⟨⟨⟩⟩ | _ <;> rfl

-- An answer that reports no success brings no members.
theorem offer?_call_of_not_success {ch ch' : χ} {reply : Reply ConfigResponse}
    (h : ∀ r, reply = .answered r → ¬r.status.isSuccess) : (call ch req reply ch').offer? = none := by
  rw [offer?_call]
  cases reply
  case answered r => exact if_neg (h r rfl)
  all_goals rfl

-- The events of an operation with the given result: at most the call that decided it brings a list that was
-- not asked for.
inductive Concludes (req : ConfigRequest) (r : Reply ConfigResponse) : List (Event χ) → Prop
  | spent {es : List (Event χ)} (h : Unreported es) (hr : r = LeaderClient.exhausted) : Concludes req r es
  | decided {es : List (Event χ)} {ch ch' : χ} {reply : Reply ConfigResponse} (h : Unreported es)
    (d : Decides req reply r) : Concludes req r (es ++ [.call ch req reply ch'])

namespace Concludes

variable {r : Reply ConfigResponse}

theorem append (c : Concludes req r es') (h : Unreported es) : Concludes req r (es ++ es') := by
  cases c
  case spent hr h' => exact .spent (h.append h') hr
  case decided h' d =>
    rw [← List.append_assoc]
    exact .decided (h.append h') d

theorem wait (c : Concludes req r es) (d : Duration) : Concludes req r (.wait d :: es) :=
  c.append (List.forall_mem_singleton.mpr rfl : Unreported [.wait d])

end Concludes

end Event

open Event

namespace LeaderClient

variable {net : Environment σ χ} {req : ConfigRequest} {c c' : LeaderClient χ} {t : Trace χ}
  {r : Reply ConfigResponse}

theorem Spent.unreported {es : List (Event χ)} (s : Spent net req c es c') : Unreported es := by
  cases s
  case unreached g s s' => exact ((g.probing.append s.probing).refreshed s'.probing _ _).unreported
  case retried ch ch' _ reply p _ h =>
    have hn : (call ch req reply ch').offer? = none := by
      refine offer?_call_of_not_success ?_
      rintro r rfl hs
      cases h with | redirect hr => exact Status.not_isRedirect_of_isSuccess hs hr
    exact p.searching.unreported.append (List.forall_mem_cons.mpr ⟨hn, List.forall_mem_singleton.mpr rfl⟩)

theorem Attempts.concludes (a : Attempts net req c t (some r) c') : Concludes req r t.events := by
  have d := a.decides
  generalize t.events = es at d
  cases d with | intro p _ d => exact .decided p.searching.unreported d

theorem Retries.concludes {n : Nat} (rs : Retries net req n c t r c') : Concludes req r t.events := by
  induction rs
  case spent => exact .spent (by simp [Unreported]) rfl
  case final a => exact a.concludes.wait _
  case again a _ hi =>
    simp only [Trace.events_append, Trace.events_cons, List.cons_append]
    exact (hi.append a.spent.unreported).wait _

theorem Executes.concludes (e : Executes net req c t r c') : Concludes req r t.events := by
  cases e
  case spent => exact .spent (by simp [Unreported]) rfl
  case final a => exact a.concludes
  case again a rest =>
    rw [Trace.events_append]
    exact rest.concludes.append a.spent.unreported

theorem Executes.members_eq (e : Executes net req c t r c') :
    c'.members = latest c.members (offers t.events) := by
  have h : c.members = latest c.members (offers ([] : List (Event χ))) := rfl
  exact ((Performs.asked e).listed h).left

-- The last answer reports success and brings members, but it is of another kind than the request calls for.
inductive Misfit (req : ConfigRequest) (events : List (Event χ)) (members : List Endpoint) : Prop
  | intro {ch ch' : χ} {r : ConfigResponse} (last : events.getLast? = some (.call ch req (.answered r) ch'))
    (success : r.status.isSuccess) (kind : req.value? r = none) (listed : r.configNodes? = some members)
    (ne_nil : members ≠ [])

theorem Misfit.offer_eq {es : List (Event χ)} {members : List Endpoint} (m : Misfit req es members) :
    es.getLast?.bind offer? = some members := by
  cases m with | intro last success _ listed _ =>
  rw [last, Option.bind_some, offer?_call]
  simp only [success, if_true, listed]

theorem Misfit.not_unreported {es : List (Event χ)} {members : List Endpoint} (m : Misfit req es members) :
    ¬Unreported es := by
  intro h
  have ho := m.offer_eq
  cases m with | intro last _ _ _ _ =>
  rw [last, Option.bind_some, h _ (List.mem_of_getLast? last)] at ho
  contradiction

-- A call that brought members, but gave no value, was a misfit.
theorem misfit_of_offer (es : List (Event χ)) {ch ch' : χ} {reply : Reply ConfigResponse} {e : ClientError}
    {members : List Endpoint} (d : Decides req reply r) (he : r.select req.value? = .failed e)
    (ho : offer? (.call ch req reply ch') = some members) (hn : members ≠ []) :
    e = .invalidResponse ∧ Misfit req (es ++ [.call ch req reply ch']) members := by
  rw [offer?_call] at ho
  cases reply <;> simp only [Option.ite_none_right_eq_some, reduceCtorEq] at ho
  case answered resp =>
    have ⟨hs, hl⟩ := ho
    cases d.unique (.success hs)
    cases hv : req.value? resp <;> simp only [Reply.select, hv, Reply.failed.injEq, reduceCtorEq] at he
    case none => exact ⟨he.symm, .intro List.getLast?_concat hs hv hl hn⟩

-- An operation that fails takes over no members but those that it asked for. The one exception is an answer that reports
-- success and is of another kind than the request calls for: its members are taken over before the operation fails.
theorem ask_failed_members (net : Environment σ χ) (req : ConfigRequest) (c : LeaderClient χ) (w : σ)
    {e : ClientError} {c' : LeaderClient χ} {w' : σ} (h : ask net req c w = (.failed e, c', w')) :
    ∃ events, ask net.recorded req c { world := w } = (.failed e, c', { world := w', events }) ∧
      (∀ members, Misfit req events members → e = .invalidResponse ∧ c'.members = members) ∧
      ((∀ members, ¬Misfit req events members) → c'.members = latest c.members (freshLists events)) := by
  have ⟨r, c₁, w₁, t, hn, hr, ex⟩ := c.execute_trace net req { world := w }
  simp only [ask_eq, hn, Prod.mk.injEq] at h
  obtain ⟨he, rfl, rfl⟩ := h
  refine ⟨t.events, by simp only [ask_eq, hr, he]; rfl, ?_⟩
  have hm := ex.members_eq
  have hc := ex.concludes
  generalize t.events = events at hm hc
  cases hc
  case spent _ hu =>
    exact ⟨fun _ m => absurd hu m.not_unreported, fun _ => hm.trans (congrArg _ hu.offers_eq)⟩
  case decided es ch ch' reply hu d =>
    have hf : freshLists (es ++ [.call ch req reply ch']) = freshLists es := by simp [freshLists, fresh?]
    rw [offers_append, hu.offers_eq, offers_cons, offers_nil, List.append_nil, latest_append] at hm
    rw [hf]
    constructor
    case left =>
      intro members m
      have ho := m.offer_eq
      rw [List.getLast?_concat, Option.bind_some] at ho
      cases m with | intro _ _ _ _ hn =>
      rw [ho, Option.toList_some, latest_singleton, if_neg hn] at hm
      exact ⟨(misfit_of_offer es d he ho hn).left, hm⟩
    case right =>
      intro hn
      rw [hm]
      refine latest_of_getD_eq_nil ?_
      cases ho : offer? (.call ch req reply ch')
      case none => rfl
      case some members =>
        by_contra hne
        exact hn members (misfit_of_offer es d he ho hne).right

-- The members come from whom was asked for them, as the answer reports no success.
theorem ask_failed_members_refreshed :
    let a : Endpoint := ⟨"a", 10710⟩
    let b : Endpoint := ⟨"b", 10710⟩
    let req : ConfigRequest := .removeNode (.unregistered a)
    let s : Script ConfigRequest ConfigResponse := {
      unreachable := [a]
      cues := [(b, .respond (.restarted (.ofCode .nodeNotFound) [a]))]
    }
    let c : LeaderClient Script.Channel := { leader := .known a, members := [a] }
    let w : Refreshed (Script ConfigRequest ConfigResponse) := { world := s, refresher := .seeds [b] }
    let net := Script.network.toNetwork.refreshed
    let out := ask net req c w
    let e : ClientError := .operationFailure "remove_node" (.ofCode .nodeNotFound)
    out = (.failed e, out.2) ∧
      ∃ events, ask net.recorded req c { world := w } = (.failed e, out.2.1, { world := out.2.2, events }) ∧
        (∀ members, Misfit req events members → e = .invalidResponse ∧ out.2.1.members = members) ∧
        ((∀ members, ¬Misfit req events members) → out.2.1.members = latest [a] (freshLists events)) := by
  intro a b req s c w net out e
  have ho : out.1 = .failed e := by decide
  have h : out = (.failed e, out.2) := Prod.ext ho rfl
  exact ⟨h, ask_failed_members net req c w h⟩

-- The answer is of another kind than the request calls for. The operation fails, and its members are taken
-- over, though nobody was asked for any.
theorem ask_failed_misfit :
    let a : Endpoint := ⟨"a", 10710⟩
    let b : Endpoint := ⟨"b", 10710⟩
    let req : ConfigRequest := .removeNode (.unregistered a)
    let s : Script ConfigRequest ConfigResponse := { cues := [(a, .respond (.restarted .success [b]))] }
    let c : LeaderClient Script.Channel := { leader := .known a, members := [a] }
    let w : Refreshed (Script ConfigRequest ConfigResponse) := { world := s }
    let out := ask Script.network.toNetwork.refreshed req c w
    out.1 = .failed .invalidResponse ∧ out.2.2.asked = [] ∧ out.2.1.members = [b] ∧
      out.2.1.members ≠ c.members := by
  decide

end LeaderClient

end ClusterClient
