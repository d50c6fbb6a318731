namespace ClusterClient

-- A finite map with the order in which it lists its entries. What a key stands for does not depend on that order, but
-- the bytes of a written map do.
@[ext]
structure KeyMap (κ α : Type) where
  entries : List (κ × α)
  nodup : (entries.map Prod.fst).Nodup
  deriving DecidableEq

namespace KeyMap

variable {κ α : Type}

def empty : KeyMap κ α := ⟨[], by simp⟩

instance : EmptyCollection (KeyMap κ α) := ⟨empty⟩
instance : Inhabited (KeyMap κ α) := ⟨empty⟩

def size (m : KeyMap κ α) : Nat := m.entries.length

def keys (m : KeyMap κ α) : List κ := m.entries.map Prod.fst

variable [DecidableEq κ]

def get? (m : KeyMap κ α) (k : κ) : Option α :=
  m.entries.lookup k

-- Entries in which `k` stands for `a`: at its old place if there is one, else at the end.
def put (k : κ) (a : α) : List (κ × α) → List (κ × α)
  | [] => [(k, a)]
  | e :: es => if e.1 = k then (k, a) :: es else e :: put k a es

theorem mem_keys_put {k x : κ} {a : α} {es : List (κ × α)} :
    x ∈ (put k a es).map Prod.fst ↔ x = k ∨ x ∈ es.map Prod.fst := by
  induction es with
  | nil => simp [put]
  | cons e es ih =>
    by_cases h : e.1 = k
    case pos => simp [put, h]
    case neg =>
      simp only [put, h, if_false, List.map_cons, List.mem_cons, ih]
      grind

theorem nodup_put {k : κ} {a : α} {es : List (κ × α)} (h : (es.map Prod.fst).Nodup) :
    ((put k a es).map Prod.fst).Nodup := by
  induction es with
  | nil => simp [put]
  | cons e es ih =>
    simp only [List.map_cons, List.nodup_cons] at h
    by_cases he : e.1 = k
    case pos => simpa [put, he] using ⟨he ▸ by simpa using h.1, h.2⟩
    case neg =>
      simp only [put, he, if_false, List.map_cons, List.nodup_cons]
      exact ⟨by rw [mem_keys_put]; exact fun hx => hx.elim he h.1, ih h.2⟩

theorem mem_put {k : κ} {a : α} {e : κ × α} {es : List (κ × α)} (h : e ∈ put k a es) :
    e = (k, a) ∨ e ∈ es := by
  induction es <;> simp only [put] at h
  case nil => exact .inl (List.mem_singleton.mp h)
  case cons x es hi =>
    split at h <;> cases h
    case isTrue.head     => exact .inl rfl
    case isTrue.tail hm  => exact .inr (List.mem_cons_of_mem x hm)
    case isFalse.head    => exact .inr List.mem_cons_self
    case isFalse.tail hm => exact (hi hm).imp_right (List.mem_cons_of_mem x)

def insert (m : KeyMap κ α) (k : κ) (a : α) : KeyMap κ α :=
  ⟨put k a m.entries, nodup_put m.nodup⟩

def ofList (es : List (κ × α)) : KeyMap κ α :=
  es.foldl (fun m e => m.insert e.1 e.2) ∅

theorem put_of_not_mem {k : κ} {a : α} {es : List (κ × α)} (h : k ∉ es.map Prod.fst) :
    put k a es = es ++ [(k, a)] := by
  induction es <;> simp only [put, List.nil_append, List.cons_append]
  case cons e es hi =>
    simp only [List.map_cons, List.mem_cons, not_or] at h
    rw [if_neg (Ne.symm h.left), hi h.right]

-- Entries for new keys are added in the order in which they come.
theorem entries_foldl_insert {es : List (κ × α)} {m : KeyMap κ α}
    (h : ((m.entries ++ es).map Prod.fst).Nodup) :
    (es.foldl (fun m e => m.insert e.1 e.2) m).entries = m.entries ++ es := by
  induction es generalizing m
  case nil => simp
  case cons e es hi =>
    have he : e.1 ∉ m.entries.map Prod.fst := by
      simp only [List.map_append, List.map_cons, List.nodup_append] at h
      exact fun hm => h.2.2 _ hm _ List.mem_cons_self rfl
    have hm : (m.insert e.1 e.2).entries = m.entries ++ [e] := put_of_not_mem he
    rw [List.foldl_cons, hi (by simpa [hm] using h), hm, List.append_assoc, List.singleton_append]

theorem ofList_entries (m : KeyMap κ α) : ofList m.entries = m := by
  ext1
  exact entries_foldl_insert (m := ∅) m.nodup

theorem mem_foldl_insert {e : κ × α} {es : List (κ × α)} {m : KeyMap κ α}
    (h : e ∈ (es.foldl (fun m e => m.insert e.1 e.2) m).entries) : e ∈ m.entries ∨ e ∈ es := by
  induction es generalizing m
  case nil => exact .inl h
  case cons x es hi =>
    cases hi h
    case inr hm => exact .inr (List.mem_cons_of_mem x hm)
    case inl hm => exact (mem_put hm).elim (fun he => .inr (he ▸ List.mem_cons_self)) .inl

theorem mem_of_mem_ofList {e : κ × α} {es : List (κ × α)} (h : e ∈ (ofList es).entries) : e ∈ es :=
  (mem_foldl_insert h).resolve_left List.not_mem_nil

theorem lookup_eq_some_iff {k : κ} {a : α} {es : List (κ × α)} (h : (es.map Prod.fst).Nodup) :
    es.lookup k = some a ↔ (k, a) ∈ es := by
  induction es
  case nil => simp
  case cons e es hi =>
    have ⟨x, b⟩ := e
    simp only [List.map_cons, List.nodup_cons] at h
    by_cases hk : k = x
    case neg => simp [List.lookup_cons, beq_false_of_ne hk, hk, hi h.right]
    case pos =>
      have hn : (x, a) ∉ es := fun hm => h.left (List.mem_map_of_mem hm)
      simp [hk, hn, eq_comm]

theorem get?_eq_some_iff {m : KeyMap κ α} {k : κ} {a : α} : m.get? k = some a ↔ (k, a) ∈ m.entries :=
  lookup_eq_some_iff m.nodup

-- Whether two maps send the same keys to values that `eq` takes for equal, in any order.
def agrees (eq : α → α → Bool) (m n : KeyMap κ α) : Bool :=
  m.size == n.size && m.entries.all fun (k, a) => (n.get? k).any (eq a)

end KeyMap

end ClusterClient
