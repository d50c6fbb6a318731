import ClusterClient.Proofs.Client.Operation

namespace ClusterClient

variable {σ χ : Type}

namespace LeaderClient

structure InRing (c : LeaderClient χ) : Prop where
  members_ne : c.members ≠ []
  cursor_lt  : c.cursor < c.members.length

-- The client is in its ring, and connects to the presumed leader or to the member at the cursor.
structure Placed (m : Moment χ) : Prop where
  inRing  : m.client.InRing
  connect : ∀ e answer, m.event = .connect e answer →
              m.client.leader = .known e ∨ m.client.members[m.client.cursor]? = some e

section

-- A remainder, if there is one.
def remainder? (a b : Nat) : Option Nat :=
  if b = 0 then none else some (a % b)

-- What `adopt` comes to, unless it takes a remainder by zero.
def adopt? (members : List Endpoint) (c : LeaderClient χ) : Option (LeaderClient χ) :=
  if members = [] then some c
  else do
    let cursor ← remainder? c.cursor members.length
    some { c with members, cursor }

variable (net : Environment σ χ)

-- What `walkRing` comes to, unless it takes a remainder by zero or looks for a member that is not there.
def walkRing? : (candidates : Nat) → LeaderClient χ → σ → Option (Bool × LeaderClient χ × σ)
  | 0, c, w => some (false, c, w)
  | candidates + 1, c, w => do
    let cursor ← remainder? (c.cursor + 1) c.members.length
    let e ← c.members[cursor]?
    match net.connect e w with
    | (.ok ch, w) => some (true, { c with cursor, channel := some ch }, w)
    | (.error _, w) => walkRing? candidates { c with cursor } w

def resolve? (c : LeaderClient χ) (w : σ) : Option (Bool × LeaderClient χ × σ) :=
  let (c, w) := c.dropChannel net w
  match c.tryLeader net w with
  | (true, c, w) => some (true, c, w)
  | (false, c, w) => walkRing? net c.members.length c w

theorem remainder?_eq {a b : Nat} (h : 0 < b) : remainder? a b = some (a % b) :=
  if_neg (Nat.ne_of_gt h)

theorem adopt?_eq (members : List Endpoint) (c : LeaderClient χ) :
    adopt? members c = some (c.adopt members) := by
  simp only [adopt?, adopt]
  split
  case isTrue => rfl
  case isFalse h => rw [remainder?_eq (List.length_pos_iff.mpr h)]; rfl

-- No walk is longer than the list, so that there is a member wherever there is something left to walk.
theorem walkRing?_eq {n : Nat} {c : LeaderClient χ} (h : n ≤ c.members.length) (w : σ) :
    walkRing? net n c w = some (walkRing net n c w) := by
  induction n generalizing c w
  case zero => rfl
  case succ n hi =>
    have hm : 0 < c.members.length := Nat.zero_lt_of_lt h
    have hc : (c.cursor + 1) % c.members.length < c.members.length := Nat.mod_lt _ hm
    have he := List.getElem?_eq_getElem hc
    rw [walkRing_succ]
    simp only [walkRing?, remainder?_eq hm, advance, bind, Option.bind, he]
    rcases net.connect _ w with ⟨fault | ch, w'⟩
    case error => exact hi (c := c.advance) (Nat.le_of_succ_le h) w'
    case ok => rfl

theorem resolve?_eq (c : LeaderClient χ) (w : σ) : c.resolve? net w = some (c.resolve net w) := by
  simp only [resolve?, resolve]
  rcases c.dropChannel net w with ⟨c₁, w₁⟩
  rcases h : c₁.tryLeader net w₁ with ⟨_ | _, c₂, w₂⟩
  case false => exact walkRing?_eq net (Nat.le_refl _) w₂
  case true => rfl

end

variable {net : Environment σ χ} {c c' : LeaderClient χ} {t : Trace χ} {past : List (Event χ)}

theorem advance_inRing (h : c.members ≠ []) : c.advance.InRing where
  members_ne := h
  cursor_lt := c.advance_cursor_lt (List.length_pos_iff.mpr h)

namespace InRing

theorem congr (h : c.InRing) (hm : c'.members = c.members) (hc : c'.cursor = c.cursor) : c'.InRing where
  members_ne := hm ▸ h.members_ne
  cursor_lt := by rw [hm, hc]; exact h.cursor_lt

theorem adopt (h : c.InRing) (members : List Endpoint) : (c.adopt members).InRing := by
  simp only [LeaderClient.adopt]
  split
  case isTrue => exact h
  case isFalse hm => exact ⟨hm, Nat.mod_lt _ (List.length_pos_iff.mpr hm)⟩

theorem learn (h : c.InRing) (reply : Reply ConfigResponse) : (c.learn reply).InRing := by
  cases reply <;> simp only [LeaderClient.learn]
  case silent => exact h
  case failed => split <;> exact h.congr rfl rfl
  case answered =>
    split
    case isTrue => exact h.congr rfl rfl
    case isFalse =>
      split
      case isTrue => exact h.adopt _
      case isFalse => exact h

end InRing

theorem Step.inRing (s : Step net c t c') (h : c.InRing) : c'.InRing ∧ t.Always (fun _ => Placed) past := by
  cases s
  case leaderReached hl =>
    exact ⟨h.congr rfl rfl, ⟨h, fun _ _ he => by cases he; exact .inl hl⟩, trivial⟩
  case leaderLost hl =>
    exact ⟨h.congr rfl rfl, ⟨h, fun _ _ he => by cases he; exact .inl hl⟩, trivial⟩
  case memberReached hm =>
    have ha := advance_inRing h.members_ne
    exact ⟨ha.congr rfl rfl, ⟨ha, fun _ _ he => by cases he; exact .inr hm⟩, trivial⟩
  case memberLost hm =>
    have ha := advance_inRing h.members_ne
    exact ⟨ha, ⟨ha, fun _ _ he => by cases he; exact .inr hm⟩, trivial⟩
  case refreshed => exact ⟨h.adopt _, ⟨h, nofun⟩, trivial⟩
  case discarded | waited => exact ⟨h.congr rfl rfl, ⟨h, nofun⟩, trivial⟩
  case decided ch ch' req reply _ _ =>
    have hh : (c.hold ch').InRing := h.congr rfl rfl
    exact ⟨hh.learn reply, ⟨h, nofun⟩, trivial⟩
  case retried ch ch' ch'' req reply _ _ =>
    have hh : (c.hold ch').InRing := h.congr rfl rfl
    exact ⟨(hh.learn reply).congr rfl rfl, ⟨h, nofun⟩, ⟨hh.learn reply, nofun⟩, trivial⟩

theorem Drops.inRing (d : Drops c t c') (h : c.InRing) : c'.InRing ∧ t.Always (fun _ => Placed) past := by
  cases d
  case absent => exact ⟨h, trivial⟩
  case closed => exact ⟨h.congr rfl rfl, ⟨h, nofun⟩, trivial⟩

theorem Runs.inRing {history : List Command} (r : Runs net history c t c') (h : c.InRing) :
    c'.InRing ∧ ∀ m ∈ t, Placed m := by
  have ⟨h', ha⟩ : c'.InRing ∧ t.Always (fun _ => Placed) [] :=
    r.always (I := fun _ => InRing) (Q := fun _ => True) (fun h _ s => s.inRing h) (fun h _ d => d.inRing h)
      (fun _ _ => trivial) h
  refine ⟨h', fun m hm => ?_⟩
  have ⟨before, later, ht⟩ := List.append_of_mem hm
  rw [ht] at ha
  exact ha.at_split

-- A client cannot be made without members. Whatever happens to it after that, it has members and its cursor
-- stands at one of them, at every moment and after every command.
theorem run_inRing (net : Environment σ χ) (members : List Endpoint) (retry : RetryPolicy)
    (history : List Command) (w : σ) :
    match (ofMembers members retry : Except ClientConfig.Fault (LeaderClient χ)) with
    | .error fault => members = [] ∧ fault = .noConfigNode
    | .ok c =>
      ∃ c' w' t, run net history c w = (c', w') ∧
        run net.recorded history c { world := w } = (c', { world := w', events := t.events }) ∧
        Runs net history c t c' ∧ c'.InRing ∧ (∀ m ∈ t, Placed m) ∧
        (∀ c₁ w₁, resolve? net c₁ w₁ = some (c₁.resolve net w₁)) ∧
        ∀ (c₁ : LeaderClient χ) members₁, adopt? members₁ c₁ = some (c₁.adopt members₁) := by
  cases members
  case nil => exact ⟨rfl, rfl⟩
  case cons first others =>
    let c : LeaderClient χ := { leader := .known first, members := first :: others, retry }
    have start : c.InRing := ⟨List.cons_ne_nil _ _, Nat.zero_lt_succ _⟩
    have ⟨c', w', t, hn, hr, r, _⟩ := run_trace net history c { world := w }
    have ⟨h', hm⟩ := r.inRing start
    exact ⟨c', w', t, hn, hr, r, h', hm, resolve?_eq net, fun c₁ members₁ => adopt?_eq members₁ c₁⟩

end LeaderClient

end ClusterClient
