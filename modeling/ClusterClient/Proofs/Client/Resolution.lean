import ClusterClient.Proofs.Client.Channel
import ClusterClient.Proofs.Client.Outage
import Mathlib

namespace ClusterClient

open Event

variable {σ χ : Type}

namespace Leader

variable {leader : Leader} {es : List (Event χ)}

theorem Lost.refused (l : leader.Lost es) : Refused es := by
  cases l <;> simp [Refused]

theorem Lost.connects_eq (l : leader.Lost es) : connects es = leader.toList := by
  cases l <;> rfl

end Leader

namespace LeaderClient

theorem places_concat (c : LeaderClient χ) (n : Nat) :
    c.places (n + 1) = c.places n ++ [(c.cursor + 1 + n) % c.members.length] := by
  simp [places, List.range_succ]

theorem places_eq_rotate (c : LeaderClient χ) :
    c.places c.members.length = (List.range c.members.length).rotate (c.cursor + 1) := by
  apply List.ext_getElem
  case hl => simp [places]
  case h => simp [places, List.getElem_rotate, Nat.add_comm]

@[simp]
theorem length_places (c : LeaderClient χ) (n : Nat) : (c.places n).length = n := by
  simp [places]

-- Once round the ring is every place once.
theorem places_perm (c : LeaderClient χ) : (c.places c.members.length).Perm (List.range c.members.length) :=
  c.places_eq_rotate ▸ List.rotate_perm _ _

theorem nodup_places {n : Nat} (c : LeaderClient χ) (h : n ≤ c.members.length) : (c.places n).Nodup := by
  have hs : (c.places n).Sublist (c.places c.members.length) := (List.range_sublist.mpr h).map _
  exact (c.places_perm.nodup_iff.mpr List.nodup_range).sublist hs

variable {net : Environment σ χ} {c c' : LeaderClient χ} {t : Trace χ} {b : Bool} {n : Nat} {tried : List Nat}
  {es : List (Event χ)}

namespace Refuse

theorem refused (h : c.Refuse tried es) : Refused es := by
  induction h
  case nil => simp [Refused]
  case cons h _ hi =>
    obtain ⟨_, _, _, rfl⟩ := h
    intro e ch hm
    cases hm with | tail _ hm => exact hi e ch hm

theorem length_connects (h : c.Refuse tried es) : (connects es).length = tried.length := by
  induction h
  case nil => rfl
  case cons h _ hi =>
    obtain ⟨_, _, _, rfl⟩ := h
    simp [connect?, hi]

end Refuse

namespace Visits

-- A walk finds nobody if everybody refuses, and only then.
theorem refused_iff (v : c.Visits n tried es b c') : Refused es ↔ b = false := by
  cases v
  case all hr => simp [hr.refused]
  case upTo e ch _ _ _ _ =>
    simp only [Bool.true_eq_false, iff_false]
    exact fun h => h e ch (by simp)

theorem nodup (v : c.Visits n tried es b c') (h : n ≤ c.members.length) : tried.Nodup := by
  cases v
  case all => exact c.nodup_places h
  case upTo k i e ch hk _ hi _ =>
    rw [hi, ← places_concat]
    exact c.nodup_places (Nat.le_trans hk h)

theorem leader_eq (v : c.Visits n tried es b c') : c'.leader = c.leader := by
  cases v <;> rfl

-- The channel that was there before, or else a new one to the member at the cursor.
theorem channel_cases (v : c.Visits n tried es b c') :
    c'.channel = c.channel ∨
      ∃ e ch, c'.channel = some ch ∧ .connect e (.ok ch) ∈ es ∧ c'.members[c'.cursor]? = some e := by
  cases v
  case all          => exact .inl rfl
  case upTo e ch _ _ _ he => exact .inr ⟨e, ch, rfl, by simp, he⟩

end Visits

-- A new channel leads to the presumed leader if there is one, and otherwise to the member at the cursor.
def Aims (c : LeaderClient χ) (e : Endpoint) : Prop :=
  match c.leader with
  | .known leader => e = leader
  | .unknown      => c.members[c.cursor]? = some e

namespace Searches

theorem refused_iff (s : c.Searches tried es b c') : Refused es ↔ b = false := by
  cases s
  case leader => simp [Refused]
  case ring l v => simp [Refused.append_iff, l.refused, v.refused_iff]

theorem nodup (s : c.Searches tried es b c') : tried.Nodup := by
  cases s
  case leader => exact List.nodup_nil
  case ring v => exact v.nodup (Nat.le_refl _)

theorem channel (s : c.Searches tried es b c') {ch : χ} (h : c'.channel = some ch) :
    ∃ e, .connect e (.ok ch) ∈ es ∧ c'.Aims e := by
  cases s
  case leader e _ hl =>
    cases h
    exact ⟨e, List.mem_cons_self, by simp [Aims, hl]⟩
  case ring v =>
    have hl := v.leader_eq
    rcases v.channel_cases with hc | ⟨e, ch', hc, hm, he⟩
    case inl => simp [hc] at h
    case inr =>
      cases hc.symm.trans h
      exact ⟨e, List.mem_append_right _ hm, by rw [Aims, hl]; exact he⟩

-- What a search in vain was: the leader was lost, and all members refused.
theorem failed_iff (s : c.Searches tried es b c') :
    b = false ↔ ∃ lead rest, c.leader.Lost lead ∧ c.Refuse (c.places c.members.length) rest ∧ es = lead ++ rest where
  mp hb := by
    cases s
    case leader => contradiction
    case ring l v =>
      cases v
      case all hr => exact ⟨_, _, l, hr, rfl⟩
      case upTo   => contradiction
  mpr := by
    rintro ⟨lead, rest, l, hr, rfl⟩
    exact s.refused_iff.mp (Refused.append_iff.mpr ⟨l.refused, hr.refused⟩)

theorem of_failed (s : c.Searches tried es b c') (hb : b = false) (h : c.roster.Valid) :
    tried = c.places c.members.length ∧ c' = { c with leader := .unknown, channel := none } ∧
      (connects es).length = c.leader.toList.length + c.members.length := by
  cases s
  case leader => contradiction
  case ring l v =>
    cases v
    case upTo   => contradiction
    case all hr =>
      have hc : (c.cursor + c.members.length) % c.members.length = c.cursor :=
        (Nat.add_mod_right ..).trans h.cursor_mod
      refine ⟨rfl, by simp only [hc], ?_⟩
      rw [connects_append, List.length_append, l.connects_eq, hr.length_connects, length_places]

end Searches

-- A search tries the presumed leader and then goes once round the ring. It fails only if the leader and all members
-- refuse, and then the cursor is where it was.
theorem resolve_search (net : Environment σ χ) (c : LeaderClient χ) (w : σ) (h : c.cursor < c.members.length) :
    ∃ found c' w' dropped tried events,
      c.resolve net w = (found, c', w') ∧
      c.resolve net.recorded { world := w } = (found, c', { world := w', events := dropped ++ events }) ∧
      c.GivesUp dropped ∧ c.Searches tried events found c' ∧ tried.Nodup ∧
      (found = false ↔
        ∃ lead rest, c.leader.Lost lead ∧ c.Refuse (c.places c.members.length) rest ∧ events = lead ++ rest) ∧
      (found = false →
        tried.Perm (List.range c.members.length) ∧
        (connects events).length = c.leader.toList.length + c.members.length ∧
        c'.cursor = c.cursor ∧ c'.channel = none) ∧
      (net.toNetwork.Lawful → ∀ ch, c'.channel = some ch → net.isOpen ch ∧ c'.Aims (net.endpoint ch)) := by
  have ⟨found, c', w', t, hn, hr, r, p⟩ := c.resolve_trace net { world := w }
  have ⟨dropped, tried, events, ht, g, s⟩ := r.search
  rw [ht] at hr p
  refine ⟨found, c', w', dropped, tried, events, hn, hr, g, s, s.nodup, s.failed_iff, fun hf => ?_, fun hl ch hc => ?_⟩
  case refine_1 =>
    obtain ⟨rfl, rfl, hm⟩ := s.of_failed hf h
    exact ⟨c.places_perm, hm, rfl, rfl⟩
  case refine_2 =>
    have ⟨e, hm, ha⟩ := s.channel hc
    have ⟨_, _, hh⟩ := p.happens _ (List.mem_append_right dropped hm)
    have ⟨ho, he⟩ := hl.connect e ch _ (congrArg Prod.fst hh)
    exact ⟨ho, he ▸ ha⟩

-- The leader refuses, and so does the first member that comes up, past the end of the list.
theorem resolve_search_past_end :
    let a : Endpoint := ⟨"a", 10710⟩
    let b : Endpoint := ⟨"b", 10710⟩
    let d : Endpoint := ⟨"d", 10710⟩
    let c : LeaderClient Script.Channel := {
      leader := .known d, members := [a, b, d], cursor := 2, channel := some { endpoint := b, isOpen := false }
    }
    let w : Refreshed Script.Config := { world := { unreachable := [a, d] } }
    let net := Script.network.toNetwork.refreshed
    c.cursor < c.members.length ∧
      ∃ c' w' dropped tried events, c.resolve net w = (true, c', w') ∧
        c.resolve net.recorded { world := w } = (true, c', { world := w', events := dropped ++ events }) ∧
        c.GivesUp dropped ∧ c.Searches tried events true c' ∧ c'.cursor = 1 ∧ c'.channel = some { endpoint := b } := by
  intro a b d c w net
  have h : c.cursor < c.members.length := by decide
  have ⟨found, c', w', dropped, tried, events, hn, hr, g, s, _⟩ := resolve_search net c w h
  obtain ⟨hf, hc, hch⟩ : found = true ∧ c'.cursor = 1 ∧ c'.channel = some { endpoint := b } := by
    have he : (found, c', w') = c.resolve net w := hn.symm
    rw [Prod.mk.injEq, Prod.mk.injEq] at he
    obtain ⟨rfl, rfl, _⟩ := he
    decide
  subst hf
  exact ⟨h, c', w', dropped, tried, events, hn, hr, g, s, hc, hch⟩

end LeaderClient

end ClusterClient
