import ClusterClient.Proofs.Client.Execution
import Mathlib.Data.List.Forall2

namespace ClusterClient

variable {σ χ : Type}

namespace Event

-- Looking for a node takes connects and closes.
inductive IsProbe : Event χ → Prop
  | connect {e : Endpoint} {answer : Except ClientError χ} : IsProbe (.connect e answer)
  | close {ch ch' : χ} : IsProbe (.close ch ch')

def Probing (events : List (Event χ)) : Prop := ∀ e ∈ events, e.IsProbe

variable {es es' : List (Event χ)}

theorem Probing.append (h : Probing es) (h' : Probing es') : Probing (es ++ es') :=
  List.forall_mem_append.mpr ⟨h, h'⟩

theorem Probing.calls_eq (h : Probing es) : calls es = [] :=
  List.filterMap_eq_nil_iff.mpr fun e he => by cases h e he <;> rfl

theorem Probing.waits_eq (h : Probing es) : waits es = [] :=
  List.filterMap_eq_nil_iff.mpr fun e he => by cases h e he <;> rfl

theorem Probing.unrefreshed (h : Probing es) (known : List Endpoint) (answer : Option (List Endpoint)) :
    .refresh known answer ∉ es :=
  fun hm => by cases h _ hm

end Event

open Event

-- The leader, if there is one, is tried and refuses.
inductive Leader.Lost : Leader → List (Event χ) → Prop
  | unknown : Lost .unknown []
  | known {e : Endpoint} {fault : ClientError} : Lost (.known e) [.connect e (.error fault)]

theorem Leader.Lost.probing {leader : Leader} {es : List (Event χ)} (l : leader.Lost es) : Probing es := by
  cases l
  case unknown => simp [Probing]
  case known   => exact List.forall_mem_singleton.mpr .connect

namespace LeaderClient

-- The places of so many members, in the order in which a search comes to them.
def places (c : LeaderClient χ) (n : Nat) : List Nat :=
  (List.range n).map fun k => (c.cursor + 1 + k) % c.members.length

theorem places_succ (c : LeaderClient χ) (n : Nat) : c.places (n + 1) = c.advance.cursor :: c.advance.places n := by
  have hs (k : Nat) : (c.cursor + 1 + (k + 1)) % c.members.length =
      ((c.cursor + 1) % c.members.length + 1 + k) % c.members.length := by
    rw [Nat.add_assoc _ 1 k, Nat.mod_add_mod, Nat.add_comm k]
  simp [places, advance, List.range_succ_eq_map, Function.comp_def, hs]

-- The members at these places are tried one after the other, and all of them refuse.
def Refuse (c : LeaderClient χ) (places : List Nat) (events : List (Event χ)) : Prop :=
  List.Forall₂ (fun i event => ∃ e fault, c.members[i]? = some e ∧ event = .connect e (.error fault)) places events

-- A walk along the ring to so many members at most: the places that are tried, what happens, whether a node is
-- found, and the client after it. The cursor stands at the place that was tried last.
inductive Visits (c : LeaderClient χ) (n : Nat) : (tried : List Nat) → List (Event χ) → Bool → LeaderClient χ → Prop
  | all {es : List (Event χ)} (hr : c.Refuse (c.places n) es) :
    Visits c n (c.places n) es false { c with cursor := (c.cursor + n) % c.members.length }
  | upTo {es : List (Event χ)} {k i : Nat} {e : Endpoint} {ch : χ} (hk : k < n) (hr : c.Refuse (c.places k) es)
    (hi : i = (c.cursor + 1 + k) % c.members.length) (he : c.members[i]? = some e) :
    Visits c n (c.places k ++ [i]) (es ++ [.connect e (.ok ch)]) true { c with cursor := i, channel := some ch }

-- The channel is closed, if there is one.
def GivesUp (c : LeaderClient χ) (events : List (Event χ)) : Prop :=
  List.Forall₂ (fun ch event => ∃ ch', event = .close ch ch') c.channel.toList events

-- The same for a whole search, once the channel is given up.
inductive Searches (c : LeaderClient χ) : (tried : List Nat) → List (Event χ) → Bool → LeaderClient χ → Prop
  | leader {e : Endpoint} {ch : χ} (h : c.leader = .known e) :
    Searches c [] [.connect e (.ok ch)] true { c with channel := some ch }
  | ring {lead es : List (Event χ)} {tried : List Nat} {b : Bool} {c' : LeaderClient χ} (l : c.leader.Lost lead)
    (v : Visits { c with leader := .unknown, channel := none } c.members.length tried es b c') :
    Searches c tried (lead ++ es) b c'

variable {c c' : LeaderClient χ} {t : Trace χ} {b : Bool} {n : Nat} {tried : List Nat} {es : List (Event χ)}

theorem GivesUp.probing (g : c.GivesUp es) : Probing es := by
  rw [GivesUp] at g
  generalize c.channel.toList = held at g
  induction g
  case nil => simp [Probing]
  case cons h _ hi =>
    obtain ⟨_, rfl⟩ := h
    exact List.forall_mem_cons.mpr ⟨.close, hi⟩

namespace Refuse

theorem cons {e : Endpoint} {fault : ClientError} (h : c.Refuse (c.advance.places n) es)
    (he : c.members[c.advance.cursor]? = some e) : c.Refuse (c.places (n + 1)) (.connect e (.error fault) :: es) := by
  rw [places_succ]
  exact List.Forall₂.cons ⟨e, fault, he, rfl⟩ h

theorem probing (h : c.Refuse tried es) : Probing es := by
  induction h
  case nil => simp [Probing]
  case cons h _ hi =>
    obtain ⟨_, _, _, rfl⟩ := h
    exact List.forall_mem_cons.mpr ⟨.connect, hi⟩

end Refuse

theorem advance_cursor_add (c : LeaderClient χ) (n : Nat) :
    (c.advance.cursor + n) % c.members.length = (c.cursor + 1 + n) % c.members.length :=
  Nat.mod_add_mod ..

namespace Visits

-- A walk that goes on from the next member.
theorem cons {e : Endpoint} {fault : ClientError} (v : c.advance.Visits n tried es b c')
    (he : c.members[c.advance.cursor]? = some e) :
    c.Visits (n + 1) (c.advance.cursor :: tried) (.connect e (.error fault) :: es) b c' := by
  cases v
  case all hr =>
    have hc : (c.advance.cursor + n) % c.members.length = (c.cursor + (n + 1)) % c.members.length := by
      rw [advance_cursor_add, Nat.add_assoc, Nat.add_comm 1]
    have hr : c.Refuse (c.places (n + 1)) (.connect e (.error fault) :: es) := hr.cons he
    have v := Visits.all hr
    rwa [places_succ, ← hc] at v
  case upTo es k i e' ch hk hr hi he' =>
    have hi' : i = (c.cursor + 1 + (k + 1)) % c.members.length := by
      rw [hi, Nat.add_assoc c.advance.cursor]
      exact (c.advance_cursor_add (1 + k)).trans (by rw [Nat.add_comm 1 k])
    have hr : c.Refuse (c.places (k + 1)) (.connect e (.error fault) :: es) := hr.cons he
    have v : c.Visits (n + 1) (c.places (k + 1) ++ [i])
        (.connect e (.error fault) :: es ++ [.connect e' (.ok ch)]) _ _ :=
      .upTo (Nat.succ_lt_succ hk) hr hi' he'
    rwa [places_succ] at v

theorem probing (v : c.Visits n tried es b c') : Probing es := by
  cases v
  case all hr          => exact hr.probing
  case upTo hr _ _ => exact hr.probing.append (List.forall_mem_singleton.mpr .connect)

end Visits

theorem Searches.probing (s : c.Searches tried es b c') : Probing es := by
  cases s
  case leader   => exact List.forall_mem_singleton.mpr .connect
  case ring l v => exact l.probing.append v.probing

theorem Drops.client_eq (d : Drops c t c') : c' = { c with channel := none } := by
  cases d
  case absent h => rw [← h]
  case closed   => rfl

theorem Drops.givesUp (d : Drops c t c') : c.GivesUp t.events := by
  cases d
  case absent h => rw [GivesUp, h]; exact .nil
  case closed h => rw [GivesUp, h]; exact .cons ⟨_, rfl⟩ .nil

theorem TriesLeader.loses (l : TriesLeader c t false c') :
    c.leader.Lost t.events ∧ c' = { c with leader := .unknown } := by
  cases l
  case unknown h => exact ⟨h ▸ .unknown, by rw [← h]⟩
  case lost h    => exact ⟨h ▸ .known, rfl⟩

-- Nobody is left out, as a walk to all members stays within the ring even if it starts from outside.
theorem Walks.visits (r : Walks n c t b c') (h : c.members.length = n ∨ c.cursor < c.members.length) :
    ∃ tried, c.Visits n tried t.events b c' := by
  induction r
  case done c =>
    have hc : c.cursor % c.members.length = c.cursor := by
      rcases h with h | h
      case inl => rw [h, Nat.mod_zero]
      case inr => exact Nat.mod_eq_of_lt h
    have v : c.Visits 0 (c.places 0) [] false { c with cursor := c.cursor % c.members.length } := .all .nil
    exact ⟨_, hc ▸ v⟩
  case vacant c _ _ _ hm _ _ =>
    have hlt := c.advance_cursor_lt (by omega)
    simp [hlt] at hm
  case reached hm => exact ⟨_, .upTo (Nat.succ_pos _) .nil rfl hm⟩
  case lost c _ _ _ _ _ hm _ hi =>
    have ⟨_, v⟩ := hi (.inr (c.advance_cursor_lt (by omega)))
    exact ⟨_, v.cons hm⟩

theorem Resolves.search (r : Resolves c t b c') :
    ∃ dropped tried es, t.events = dropped ++ es ∧ c.GivesUp dropped ∧ c.Searches tried es b c' := by
  cases r
  case leader d l =>
    have g := d.givesUp
    obtain rfl := d.client_eq
    cases l with | reached hl =>
    exact ⟨_, _, _, Trace.events_append .., g, .leader hl⟩
  case ring d l r =>
    have g := d.givesUp
    obtain rfl := d.client_eq
    obtain ⟨hl, rfl⟩ := l.loses
    have ⟨_, v⟩ := r.visits (.inl rfl)
    exact ⟨_, _, _, by simp, g, .ring hl v⟩

theorem Drops.probing (d : Drops c t c') : Probing t.events :=
  d.givesUp.probing

theorem Resolves.probing (r : Resolves c t b c') : Probing t.events := by
  have ⟨_, _, _, he, g, s⟩ := r.search
  exact he ▸ g.probing.append s.probing

theorem Connects.probing {net : Environment σ χ} (e : Connects net c t b c') : Probing t.events := by
  cases e
  case held       => simp [Probing]
  case resolved r => exact r.probing

end LeaderClient

end ClusterClient
