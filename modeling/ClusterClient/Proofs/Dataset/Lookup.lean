import ClusterClient.Proofs.Dataset.Append
import ClusterClient.Proofs.Dataset.Cell
import Mathlib

namespace ClusterClient

-- What a column of a type may hold.
def Cell.Fits (v : Cell) (type : ColumnType) : Prop :=
  v = .null ∨ v.type? = some type

theorem Column.Reads.fits {raw : RawRow} {c : Column} {v : Cell} (r : c.Reads raw v) : v.Fits c.type := by
  cases r
  case null     => exact .inl rfl
  case value hd => exact .inr (Cell.decode_eq_ok_iff.mp hd).left

namespace ColumnLayout

variable {l : ColumnLayout}

theorem length_names : l.names.length = l.width :=
  List.length_map ..

theorem length_types : l.types.length = l.width :=
  List.length_map ..

theorem decodeRow_fits {raw : RawRow} {row : Row} (h : l.decodeRow raw = .ok row) :
    List.Forall₂ Cell.Fits row.values l.types := by
  have ⟨_, hr⟩ := decodeRow_eq_ok_iff.mp h
  rw [types, List.forall₂_map_right_iff]
  exact (hr.imp fun _ _ => Column.Reads.fits).flip

theorem decodeRows_fits {page : List RawRow} {rows : List Row} (h : l.decodeRows page = .ok rows) :
    ∀ row ∈ rows, List.Forall₂ Cell.Fits row.values l.types := by
  intro row hm
  obtain ⟨i, hi, rfl⟩ := List.getElem_of_mem hm
  have hd := decodeRows_eq_ok_iff.mp h
  exact decodeRow_fits (hd.get (hd.length_eq ▸ hi) hi)

-- The column is the first one of the name.
def First (l : ColumnLayout) (name : String) (i : Nat) : Prop :=
  l.names[i]? = some name ∧ ∀ j < i, l.names[j]? ≠ some name

end ColumnLayout

namespace Dataset

variable {d : Dataset} {name : String} {i r : Nat} {v : Cell}

def Typed (d : Dataset) : Prop :=
  ∀ row ∈ d.rows, List.Forall₂ Cell.Fits row.values d.layout.types

theorem Typed.appendPage (t : d.Typed) (page : List RawRow) : (d.appendPage page).2.Typed := by
  rcases h : d.appendPage page with ⟨fault | n, d'⟩
  case error =>
    obtain ⟨_, rfl⟩ := appendPage_eq_error_iff.mp h
    exact t
  case ok =>
    obtain ⟨_, rows, hp, rfl⟩ := appendPage_eq_ok_iff.mp h
    exact List.forall_mem_append.mpr ⟨t, ColumnLayout.decodeRows_fits hp⟩

theorem Typed.appendPages (t : d.Typed) (pages : List (List RawRow)) : (appendPages pages d).2.Typed := by
  induction pages generalizing d
  case nil            => exact t
  case cons page _ hi => exact hi (t.appendPage page)

theorem column?_eq_some_iff : d.column? name = some i ↔ d.layout.First name i := by
  simp only [column?, List.findIdx?_eq_some_iff_getElem, ColumnLayout.First, beq_iff_eq]
  grind

theorem exists_first_iff : (∃ i, d.layout.First name i) ↔ name ∈ d.layout.names := by
  simp only [← column?_eq_some_iff, ← Option.isSome_iff_exists]
  simp [column?, List.findIdx?_isSome]

theorem get?_eq_some_iff :
    d.get? r name = some v ↔
      ∃ i, d.layout.First name i ∧ ∃ row, d.rows[r]? = some row ∧ row.values[i]? = some v := by
  simp [get?, bind, Option.bind_eq_some_iff, column?_eq_some_iff]

namespace Typed

theorem values (t : d.Typed) {row : Row} (h : d.rows[r]? = some row) (hv : row.values[i]? = some v) :
    ∃ type, d.layout.types[i]? = some type ∧ v.Fits type := by
  have hf := t row (List.mem_of_getElem? h)
  obtain ⟨hi, rfl⟩ := List.getElem?_eq_some_iff.mp hv
  have hi' : i < d.layout.types.length := hf.length_eq ▸ hi
  exact ⟨_, List.getElem?_eq_getElem hi', hf.get hi hi'⟩

-- The columns have values in every row because the rows are as wide as the layout.
theorem isSome_get?_iff (t : d.Typed) : (d.get? r name).isSome ↔ r < d.size ∧ name ∈ d.layout.names := by
  simp only [Option.isSome_iff_exists, get?_eq_some_iff, ← exists_first_iff]
  constructor
  case mp =>
    intro ⟨v, i, hi, row, hr, _⟩
    exact ⟨(List.getElem?_eq_some_iff.mp hr).choose, i, hi⟩
  case mpr =>
    intro ⟨hr, i, hi⟩
    have hw := (t _ (List.getElem_mem hr)).length_eq
    have hi' : i < d.layout.names.length := (List.getElem?_eq_some_iff.mp hi.left).choose
    rw [ColumnLayout.length_names, ← ColumnLayout.length_types, ← hw] at hi'
    exact ⟨_, i, hi, _, List.getElem?_eq_getElem hr, List.getElem?_eq_getElem hi'⟩

end Typed

-- Whatever pages have been added, or refused, the rows are as wide as the layout and hold what its types allow. There
-- is a value wherever there is a row and a name, and it is that of the first column of the name, and so of its type.
theorem appendPages_typed (layout : ColumnLayout) (pages : List (List RawRow)) :
    let d := (appendPages pages { layout }).2
    (∀ row ∈ d.rows, row.values.length = layout.width ∧ List.Forall₂ Cell.Fits row.values layout.types) ∧
    (∀ r name, (d.get? r name).isSome ↔ r < d.size ∧ name ∈ layout.names) ∧
    ∀ r name v, d.get? r name = some v ↔
      ∃ i, layout.First name i ∧ ∃ row type, d.rows[r]? = some row ∧ row.values[i]? = some v ∧
        layout.types[i]? = some type ∧ v.Fits type := by
  intro d
  have hl : d.layout = layout := appendPages_extends.layout
  have t : d.Typed := Typed.appendPages (fun _ h => absurd h List.not_mem_nil) pages
  refine ⟨fun row hm => ?_, fun r name => ?_, fun r name v => ?_⟩
  case refine_1 =>
    have hf := t row hm
    rw [hl] at hf
    exact ⟨hf.length_eq.trans ColumnLayout.length_types, hf⟩
  case refine_2 => rw [t.isSome_get?_iff, hl]
  case refine_3 =>
    rw [get?_eq_some_iff, hl]
    constructor
    case mp =>
      intro ⟨i, hi, row, hr, hv⟩
      have ⟨type, ht, hf⟩ := t.values hr hv
      exact ⟨i, hi, row, type, hr, hv, hl ▸ ht, hf⟩
    case mpr =>
      intro ⟨i, hi, row, _, hr, hv, _⟩
      exact ⟨i, hi, row, hr, hv⟩

-- The two columns of one name share a cell, and another name is in the index only.
theorem appendPages_typed_twice :
    let layout : ColumnLayout :=
      { columns := [⟨"s", .boolean, 1⟩, ⟨"s", .text, 1⟩], index := .ofList [("s", 1), ("t", 0)] }
    let row : Row := { timestamp := 7, values := [.boolean true, .text "1"] }
    let d := (appendPages [[⟨7, [none, some [49]]⟩], [⟨8, [none]⟩]] { layout }).2
    d.rows = [row] ∧ List.Forall₂ Cell.Fits row.values [.boolean, .text] ∧ d.get? 0 "s" = some (.boolean true) ∧
      ¬(d.get? 0 "t").isSome := by
  intro layout row d
  have ⟨typed, isSome, get⟩ := appendPages_typed layout [[⟨7, [none, some [49]]⟩], [⟨8, [none]⟩]]
  have hd : d.rows = [row] := rfl
  have ⟨_, hf⟩ := typed row (hd ▸ List.mem_singleton_self row)
  have first : layout.First "s" 0 := ⟨rfl, fun _ h => absurd h (Nat.not_lt_zero _)⟩
  have value := (get 0 "s" (.boolean true)).mpr ⟨0, first, row, .boolean, rfl, rfl, rfl, .inr rfl⟩
  exact ⟨hd, hf, value, (isSome 0 "t").not.mpr (by decide)⟩

end Dataset

end ClusterClient
