import ClusterClient.Proofs.Client.Operation
import ClusterClient.Proofs.Network.Script
import Mathlib

namespace ClusterClient

namespace Cue

def isSetback : Cue ConfigResponse → Bool
  | respond r => r.status.isRedirect
  | drop      => true
  | hang      => false

def hint? : Cue ConfigResponse → Option Endpoint
  | respond r => r.status.redirectNode
  | _         => none

def answers (req : ConfigRequest) : Cue ConfigResponse → Bool
  | respond r => r.status.isSuccess && (req.value? r).isSome
  | _         => false

end Cue

namespace Script

abbrev Config := Script ConfigRequest ConfigResponse

-- What an endpoint has in store up to the first reply that is no setback.
def setbacks (s : Config) (e : Endpoint) : List (Cue ConfigResponse) :=
  (s.queue e).takeWhile Cue.isSetback

def countSetbacks (s : Config) (nodes : Finset Endpoint) : Nat :=
  ∑ e ∈ nodes, (s.setbacks e).length

end Script

variable {req : ConfigRequest} {nodes : Finset Endpoint} {s s' : Script.Config}

-- All nodes that a client may turn to, together with the hints that they give, and what they have in store:
-- setbacks and then a reply that carries the value asked for.
structure Stocked (req : ConfigRequest) (nodes : Finset Endpoint) (s : Script.Config) : Prop where
  hints   : ∀ e ∈ nodes, ∀ cue ∈ s.setbacks e, ∀ hint ∈ cue.hint?, hint ∈ nodes
  answers : ∀ e ∈ nodes, ∃ cue ∈ ((s.queue e).dropWhile Cue.isSetback).head?, cue.answers req

namespace Stocked

-- The next reply of a node is a setback or carries the value.
theorem next (h : Stocked req nodes s) {e : Endpoint} (he : e ∈ nodes) :
    ∃ cue tail, s.queue e = cue :: tail ∧ (cue.isSetback ∨ cue.answers req) := by
  have ⟨cue, hc, ha⟩ := h.answers e he
  cases hq : s.queue e
  case nil => simp [hq] at hc
  case cons first tail =>
    refine ⟨first, tail, rfl, ?_⟩
    by_cases hb : first.isSetback
    case pos => exact .inl hb
    case neg =>
      rw [hq, List.dropWhile_cons_of_neg hb] at hc
      cases hc
      exact .inr ha

end Stocked

namespace Script.Takes

variable {e k : Endpoint} {cue : Cue ConfigResponse}

theorem setbacks_eq (t : Takes e cue s s') (hb : cue.isSetback) :
    s.setbacks e = cue :: s'.setbacks e := by
  rw [setbacks, t.queue_eq, List.takeWhile_cons_of_pos hb, setbacks]

theorem setbacks_eq_of_ne (t : Takes e cue s s') (hk : k ≠ e) : s'.setbacks k = s.setbacks k := by
  rw [setbacks, t.others k hk, setbacks]

theorem countSetbacks_succ (t : Takes e cue s s') (hb : cue.isSetback) (he : e ∈ nodes) :
    s'.countSetbacks nodes + 1 = s.countSetbacks nodes := by
  have ho : ∑ k ∈ nodes.erase e, (s'.setbacks k).length = ∑ k ∈ nodes.erase e, (s.setbacks k).length :=
    Finset.sum_congr rfl fun k hk => by rw [t.setbacks_eq_of_ne (Finset.ne_of_mem_erase hk)]
  rw [countSetbacks, countSetbacks, ← Finset.add_sum_erase _ _ he, ← Finset.add_sum_erase _ _ he, ho,
    t.setbacks_eq hb, List.length_cons]
  omega

theorem stocked (t : Takes e cue s s') (hb : cue.isSetback) (h : Stocked req nodes s) :
    Stocked req nodes s' where
  hints k hk cue' hc := by
    refine h.hints k hk cue' ?_
    by_cases he : k = e
    case pos => subst he; rw [t.setbacks_eq hb]; exact List.mem_cons_of_mem _ hc
    case neg => rwa [t.setbacks_eq_of_ne he] at hc
  answers k hk := by
    have ha := h.answers k hk
    by_cases he : k = e
    case pos => subst he; rwa [t.queue_eq, List.dropWhile_cons_of_pos hb] at ha
    case neg => rwa [← t.others k he] at ha

end Script.Takes

-- A script whose cues and whose reachable endpoints are the same.
structure Script.Same (s s' : Script.Config) : Prop where
  cues_eq        : s'.cues = s.cues
  unreachable_eq : s'.unreachable = s.unreachable

namespace Script.Same

theorem refl : Same s s := ⟨rfl, rfl⟩

theorem setClock (n : Nat) : Same s { s with clock := n } := ⟨rfl, rfl⟩

theorem trans {s'' : Script.Config} (h : Same s s') (h' : Same s' s'') : Same s s'' :=
  ⟨h'.cues_eq.trans h.cues_eq, h'.unreachable_eq.trans h.unreachable_eq⟩

theorem queue_eq (h : Same s s') (e : Endpoint) : s'.queue e = s.queue e := by
  rw [queue, h.cues_eq, queue]

theorem setbacks_eq (h : Same s s') (e : Endpoint) : s'.setbacks e = s.setbacks e := by
  rw [setbacks, h.queue_eq, setbacks]

theorem countSetbacks_eq (h : Same s s') : s'.countSetbacks nodes = s.countSetbacks nodes := by
  simp only [countSetbacks, h.setbacks_eq]

theorem stocked (h : Same s s') (st : Stocked req nodes s) : Stocked req nodes s' where
  hints e he := by rw [h.setbacks_eq]; exact st.hints e he
  answers e he := by rw [h.queue_eq]; exact st.answers e he

end Script.Same

end ClusterClient
