import ClusterClient.Dataset
import Mathlib

namespace ClusterClient

section

variable {ε ε' α β : Type} {e : ε} {f : α → Except ε β} {as : List α}

theorem ok_bind {a : α} : .ok a >>= f = f a := rfl

theorem error_bind : .error e >>= f = .error e := rfl

theorem throw_bind : throw e >>= f = .error e := rfl

theorem mapError_eq_ok_iff {g : ε → ε'} {x : Except ε α} {a : α} : x.mapError g = .ok a ↔ x = .ok a := by
  cases x <;> simp [Except.mapError]

theorem mapError_eq_error_iff {g : ε → ε'} {x : Except ε α} {e' : ε'} :
    x.mapError g = .error e' ↔ ∃ e, x = .error e ∧ g e = e' := by
  cases x <;> simp [Except.mapError]

theorem mapM_congr {g : α → Except ε β} (h : ∀ a ∈ as, f a = g a) : as.mapM f = as.mapM g := by
  induction as
  case nil => rfl
  case cons hi =>
    have ⟨ha, h⟩ := List.forall_mem_cons.mp h
    rw [List.mapM_cons, List.mapM_cons, ha, hi h]

theorem mapM_eq_ok_iff {bs : List β} : as.mapM f = .ok bs ↔ List.Forall₂ (f · = .ok ·) as bs := by
  induction as generalizing bs
  case nil => simp [pure, Except.pure, eq_comm]
  case cons a as hi =>
    simp only [List.mapM_cons, bind_eq_ok_iff, hi, List.forall₂_cons_left_iff, pure, Except.pure, Except.ok.injEq]
    grind

theorem exists_mapM_eq_ok_iff : (∃ bs, as.mapM f = .ok bs) ↔ ∀ a ∈ as, ∃ b, f a = .ok b := by
  simp only [mapM_eq_ok_iff]
  induction as
  case nil => simp
  case cons a as hi => simp [List.forall₂_cons_left_iff, ← hi]

-- What comes after the first failure is not looked at.
theorem mapM_eq_error_iff :
    as.mapM f = .error e ↔
      ∃ before a after, as = before ++ a :: after ∧ (∀ b ∈ before, ∃ x, f b = .ok x) ∧ f a = .error e := by
  induction as
  case nil => simp [pure, Except.pure]
  case cons a as hi =>
    rw [List.mapM_cons, bind_eq_error_iff]
    constructor
    case mp =>
      rintro (h | ⟨x, hx, h⟩)
      case inl => exact ⟨[], a, as, rfl, by simp, h⟩
      case inr =>
        cases bind_eq_error_iff.mp h
        case inr hn => simp [pure, Except.pure] at hn
        case inl hn =>
          have ⟨before, b, after, hs, hb, he⟩ := hi.mp hn
          exact ⟨a :: before, b, after, by rw [hs]; rfl, List.forall_mem_cons.mpr ⟨⟨x, hx⟩, hb⟩, he⟩
    case mpr =>
      intro ⟨before, b, after, hs, hb, he⟩
      cases before
      case nil => cases hs; exact .inl he
      case cons =>
        cases hs
        have ⟨⟨x, hx⟩, hb⟩ := List.forall_mem_cons.mp hb
        exact .inr ⟨x, hx, bind_eq_error_iff.mpr (.inl (hi.mpr ⟨_, _, _, rfl, hb, he⟩))⟩

end

namespace Column

-- What a row says of a column: that it has no value there, or the value that the cell is decoded to.
inductive Reads (raw : RawRow) (c : Column) : Cell → Prop
  | null (h : raw.cells[c.position.toNat]? = some none) : Reads raw c .null
  | value {bytes : Wire.Bytes} {v : Cell} (h : raw.cells[c.position.toNat]? = some (some bytes))
    (hd : Cell.decode c.type bytes = .ok v) : Reads raw c v

-- Why a column cannot be read in a row.
inductive Fails (raw : RawRow) (c : Column) : LayoutFault → Prop
  | missing (h : raw.cells.length ≤ c.position.toNat) : Fails raw c (.missingCell raw.timestamp c)
  | undecodable {bytes : Wire.Bytes} {fault : Cell.Fault} (h : raw.cells[c.position.toNat]? = some (some bytes))
    (hd : Cell.decode c.type bytes = .error fault) : Fails raw c (.cell fault)

variable {raw : RawRow} {c : Column}

theorem decodeCell_eq_ok_iff {v : Cell} : ColumnLayout.decodeCell raw c = .ok v ↔ c.Reads raw v where
  mp h := by
    simp only [ColumnLayout.decodeCell] at h
    split at h
    case h_1 hc => exact .value hc (mapError_eq_ok_iff.mp h)
    case h_2 hc => cases h; exact .null hc
    case h_3    => cases h
  mpr h := by
    cases h
    case null hc     => simp only [ColumnLayout.decodeCell, hc]
    case value hc hd => simp only [ColumnLayout.decodeCell, hc, hd, Except.mapError]

theorem decodeCell_eq_error_iff {fault : LayoutFault} :
    ColumnLayout.decodeCell raw c = .error fault ↔ c.Fails raw fault where
  mp h := by
    simp only [ColumnLayout.decodeCell] at h
    split at h
    case h_1 hc =>
      obtain ⟨_, hd, rfl⟩ := mapError_eq_error_iff.mp h
      exact .undecodable hc hd
    case h_2    => cases h
    case h_3 hc => cases h; exact .missing (List.getElem?_eq_none_iff.mp hc)
  mpr h := by
    cases h
    case missing hc        => simp only [ColumnLayout.decodeCell, List.getElem?_eq_none hc]
    case undecodable hc hd => simp only [ColumnLayout.decodeCell, hc, hd, Except.mapError]

end Column

namespace ColumnLayout

-- The columns go by the names and types in their order, and stand where the index has their names.
structure Fits (names : List String) (types : List ColumnType) (index : KeyMap String UInt64) (l : ColumnLayout) :
    Prop where
  position : ∀ c ∈ l.columns, index.get? c.name = some c.position
  names    : l.names = names
  types    : l.types = types
  index    : l.index = index

-- Why there is no layout for a result: the first thing in this order.
inductive Refuses (names : List String) (types : List ColumnType) (index : KeyMap String UInt64) : LayoutFault → Prop
  | typeCount (h : names.length ≠ types.length) : Refuses names types index (.typeCount names.length types.length)
  | missing {before after : List String} {name : String} (hl : names.length = types.length)
    (hn : names = before ++ name :: after) (hb : ∀ b ∈ before, ∃ position, index.get? b = some position)
    (h : index.get? name = none) : Refuses names types index (.missingFromIndex name)

-- The first of the columns that cannot be read in a row, and why.
def Unreadable (l : ColumnLayout) (raw : RawRow) (fault : LayoutFault) : Prop :=
  ∃ before c after, l.columns = before ++ c :: after ∧ (∀ b ∈ before, ∃ v, b.Reads raw v) ∧ c.Fails raw fault

-- The first of the rows that cannot be decoded, and why.
def Undecodable (l : ColumnLayout) (rows : List RawRow) (fault : LayoutFault) : Prop :=
  ∃ before row after, rows = before ++ row :: after ∧ (∀ r ∈ before, ∃ decoded, l.decodeRow r = .ok decoded) ∧
    l.decodeRow row = .error fault

section

variable {names : List String} {types : List ColumnType} {index : KeyMap String UInt64} {l : ColumnLayout}

theorem Fits.length_eq (h : l.Fits names types index) : names.length = types.length := by
  simp [← h.names, ← h.types, ColumnLayout.names, ColumnLayout.types]

-- A name and its type, put at the position that the index has for the name.
def place (index : KeyMap String UInt64) (p : String × ColumnType) : Except LayoutFault Column :=
  match index.get? p.1 with
  | some position => .ok { name := p.1, type := p.2, position }
  | none          => .error (.missingFromIndex p.1)

theorem ofNames_eq (h : names.length = types.length) :
    ofNames names types index = ((names.zip types).mapM (place index) >>= fun columns => .ok { columns, index }) := by
  simp only [ofNames, h, ne_eq, not_true_eq_false, if_false]
  rfl

theorem place_eq_ok_iff {p : String × ColumnType} {c : Column} :
    place index p = .ok c ↔ p = (c.name, c.type) ∧ index.get? c.name = some c.position := by
  have ⟨name, type⟩ := p
  have ⟨name', type', position'⟩ := c
  simp only [place, Prod.mk.injEq]
  split <;> grind

theorem place_eq_error_iff {p : String × ColumnType} {fault : LayoutFault} :
    place index p = .error fault ↔ index.get? p.1 = none ∧ fault = .missingFromIndex p.1 := by
  simp only [place]
  split <;> grind

theorem exists_place_eq_ok_iff {p : String × ColumnType} :
    (∃ c, place index p = .ok c) ↔ ∃ position, index.get? p.1 = some position := by
  simp only [place]
  split <;> simp [*]

theorem zip_eq_iff {columns : List Column} (h : names.length = types.length) :
    names.zip types = columns.map (fun c => (c.name, c.type)) ↔
      columns.map (·.name) = names ∧ columns.map (·.type) = types where
  mp hz := by
    have hf : (names.zip types).map Prod.fst = names := List.map_fst_zip h.le
    have hs : (names.zip types).map Prod.snd = types := List.map_snd_zip h.ge
    rw [hz, List.map_map] at hf hs
    exact ⟨hf, hs⟩
  mpr := by
    rintro ⟨rfl, rfl⟩
    exact List.zip_map' ..

theorem mapM_place_eq_ok_iff {pairs : List (String × ColumnType)} {columns : List Column} :
    pairs.mapM (place index) = .ok columns ↔
      pairs = columns.map (fun c => (c.name, c.type)) ∧ ∀ c ∈ columns, index.get? c.name = some c.position := by
  simp only [mapM_eq_ok_iff, place_eq_ok_iff]
  induction columns generalizing pairs
  case nil => simp
  case cons c columns hi =>
    simp only [List.forall₂_cons_right_iff, hi, List.map_cons, List.forall_mem_cons]
    grind

theorem ofNames_eq_ok_iff : ofNames names types index = .ok l ↔ l.Fits names types index := by
  by_cases h : names.length = types.length
  case neg =>
    refine iff_of_false ?_ (fun hf => h hf.length_eq)
    simp [ofNames, h, throw_bind]
  case pos =>
    have ⟨columns, index'⟩ := l
    simp only [ofNames_eq h, bind_eq_ok_iff, mapM_place_eq_ok_iff, zip_eq_iff h, Except.ok.injEq, mk.injEq]
    constructor
    case mp =>
      rintro ⟨_, ⟨⟨hn, ht⟩, hp⟩, rfl, rfl⟩
      exact ⟨hp, hn, ht, rfl⟩
    case mpr =>
      intro ⟨hp, hn, ht, hi⟩
      exact ⟨_, ⟨⟨hn, ht⟩, hp⟩, rfl, hi.symm⟩

theorem exists_ofNames_eq_ok_iff :
    (∃ l, ofNames names types index = .ok l) ↔
      names.length = types.length ∧ ∀ name ∈ names, ∃ position, index.get? name = some position where
  mp := by
    intro ⟨l, hl⟩
    have f := ofNames_eq_ok_iff.mp hl
    refine ⟨f.length_eq, fun name hn => ?_⟩
    obtain ⟨c, hc, rfl⟩ := List.mem_map.mp (f.names ▸ hn)
    exact ⟨_, f.position c hc⟩
  mpr := by
    intro ⟨hl, hn⟩
    have ⟨columns, hc⟩ : ∃ columns, (names.zip types).mapM (place index) = .ok columns := by
      refine exists_mapM_eq_ok_iff.mpr fun (name, type) hm => exists_place_eq_ok_iff.mpr ?_
      exact hn name (List.of_mem_zip hm).left
    exact ⟨{ columns, index }, by rw [ofNames_eq hl, hc]; rfl⟩

theorem ofNames_eq_error_iff {fault : LayoutFault} :
    ofNames names types index = .error fault ↔ Refuses names types index fault := by
  by_cases h : names.length = types.length
  case neg =>
    have he : ofNames names types index = .error (.typeCount names.length types.length) := by
      simp [ofNames, h, throw_bind]
    rw [he]
    constructor
    case mp =>
      rintro ⟨⟩
      exact .typeCount h
    case mpr =>
      rintro (_ | ⟨hl, _, _, _⟩)
      case typeCount => rfl
      case missing   => exact absurd hl h
  case pos =>
    -- A name is placed or not whatever its type is, so the types can be left out of account.
    have hz : (names.zip types).map Prod.fst = names := List.map_fst_zip h.le
    simp only [ofNames_eq h, bind_eq_error_iff, reduceCtorEq, and_false, exists_false, or_false, mapM_eq_error_iff,
      exists_place_eq_ok_iff, place_eq_error_iff]
    constructor
    case mp =>
      rintro ⟨before, p, after, hs, hb, hp, rfl⟩
      rw [hs, List.map_append, List.map_cons] at hz
      exact .missing h hz.symm (List.forall_mem_map.mpr hb) hp
    case mpr =>
      rintro (hn | ⟨_, hn, hb, hp⟩)
      case typeCount => contradiction
      case missing   =>
        obtain ⟨before, _, hs, rfl, hr⟩ := List.map_eq_append_iff.mp (hz.trans hn)
        obtain ⟨p, after, rfl, rfl, rfl⟩ := List.map_eq_cons_iff.mp hr
        exact ⟨before, p, after, hs, fun b hm => hb b.fst (List.mem_map_of_mem hm), hp, rfl⟩

end

section

variable {l : ColumnLayout} {raw raw' : RawRow} {fault : LayoutFault}

theorem decodeRow_eq_ok_iff {row : Row} :
    l.decodeRow raw = .ok row ↔
      row.timestamp = raw.timestamp ∧ List.Forall₂ (Column.Reads raw) l.columns row.values := by
  have ⟨timestamp, values⟩ := row
  simp only [decodeRow, bind_eq_ok_iff, mapM_eq_ok_iff, Column.decodeCell_eq_ok_iff, pure, Except.pure]
  simp only [Except.ok.injEq, Row.mk.injEq]
  constructor
  case mp =>
    rintro ⟨_, hv, rfl, rfl⟩
    exact ⟨rfl, hv⟩
  case mpr =>
    rintro ⟨rfl, hv⟩
    exact ⟨_, hv, rfl, rfl⟩

theorem exists_decodeRow_eq_ok_iff :
    (∃ row, l.decodeRow raw = .ok row) ↔ ∀ c ∈ l.columns, ∃ v, c.Reads raw v := by
  have hm : (∃ values, l.columns.mapM (decodeCell raw) = .ok values) ↔ ∀ c ∈ l.columns, ∃ v, c.Reads raw v := by
    simp only [exists_mapM_eq_ok_iff, Column.decodeCell_eq_ok_iff]
  simp [← hm, decodeRow, bind_eq_ok_iff, pure, Except.pure]

theorem decodeRow_eq_error_iff : l.decodeRow raw = .error fault ↔ l.Unreadable raw fault := by
  simp [decodeRow, bind_eq_error_iff, mapM_eq_error_iff, Column.decodeCell_eq_ok_iff, Column.decodeCell_eq_error_iff,
    Unreadable, pure, Except.pure]

theorem decodeRows_eq_error_iff {rows : List RawRow} : l.decodeRows rows = .error fault ↔ l.Undecodable rows fault :=
  mapM_eq_error_iff

-- Cells at which no column stands make no difference.
theorem decodeRow_congr (ht : raw.timestamp = raw'.timestamp)
    (hc : ∀ c ∈ l.columns, raw.cells[c.position.toNat]? = raw'.cells[c.position.toNat]?) :
    l.decodeRow raw = l.decodeRow raw' := by
  have hm : l.columns.mapM (decodeCell raw) = l.columns.mapM (decodeCell raw') :=
    mapM_congr fun c hm => by simp only [decodeCell, ht, hc c hm]
  rw [decodeRow, decodeRow, hm, ht]

end

-- There is a layout for a result if every name has a type and a position. Its rows are then decoded by the cells at
-- these positions, column by column.
theorem ofNames_decodes (names : List String) (types : List ColumnType) (index : KeyMap String UInt64) :
    ((∃ l, ofNames names types index = .ok l) ↔
      names.length = types.length ∧ ∀ name ∈ names, ∃ position, index.get? name = some position) ∧
    (∀ fault, ofNames names types index = .error fault ↔ Refuses names types index fault) ∧
    ∀ l, ofNames names types index = .ok l →
      l.Fits names types index ∧
      (∀ raw, (∃ row, l.decodeRow raw = .ok row) ↔ ∀ c ∈ l.columns, ∃ v, c.Reads raw v) ∧
      (∀ raw row, l.decodeRow raw = .ok row ↔
        row.timestamp = raw.timestamp ∧ List.Forall₂ (Column.Reads raw) l.columns row.values) ∧
      (∀ raw fault, l.decodeRow raw = .error fault ↔ l.Unreadable raw fault) ∧
      (∀ raw raw', raw.timestamp = raw'.timestamp →
        (∀ name ∈ names, ∀ position ∈ index.get? name, raw.cells[position.toNat]? = raw'.cells[position.toNat]?) →
        l.decodeRow raw = l.decodeRow raw') ∧
      ∀ rows fault, l.decodeRows rows = .error fault ↔ l.Undecodable rows fault := by
  refine ⟨exists_ofNames_eq_ok_iff, fun _ => ofNames_eq_error_iff, fun l hl => ?_⟩
  have f := ofNames_eq_ok_iff.mp hl
  refine ⟨f, fun _ => exists_decodeRow_eq_ok_iff, fun _ _ => decodeRow_eq_ok_iff, fun _ _ => decodeRow_eq_error_iff,
    fun raw raw' ht hc => decodeRow_congr ht fun c hm => ?_, fun _ _ => decodeRows_eq_error_iff⟩
  have hn : c.name ∈ names := f.names ▸ List.mem_map_of_mem hm
  exact hc c.name hn c.position (f.position c hm)

-- Two columns of one name share a cell, and the third one stands where no row has a cell.
theorem ofNames_decodes_far :
    let index := KeyMap.ofList [("s", 1), ("far", 18446744073709551615)]
    let raw : RawRow := { timestamp := 7, cells := [none, some [49]] }
    ∃ l, ofNames ["s", "s", "far"] [.boolean, .text, .int32] index = .ok l ∧
      l.decodeRow raw = .error (.missingCell 7 ⟨"far", .int32, 18446744073709551615⟩) := by
  intro index raw
  let l : ColumnLayout :=
    { columns := [⟨"s", .boolean, 1⟩, ⟨"s", .text, 1⟩, ⟨"far", .int32, 18446744073709551615⟩], index }
  have hl : ofNames ["s", "s", "far"] [.boolean, .text, .int32] index = .ok l := rfl
  have ⟨_, _, decodes⟩ := ofNames_decodes ["s", "s", "far"] [.boolean, .text, .int32] index
  have ⟨_, _, _, unreadable, _⟩ := decodes l hl
  have read : ∀ c ∈ l.columns.take 2, ∃ v, c.Reads raw v := by
    simp only [l, List.take, List.forall_mem_cons]
    exact ⟨⟨_, .value rfl rfl⟩, ⟨.text "1", .value rfl rfl⟩, nofun⟩
  exact ⟨l, hl, (unreadable raw _).mpr ⟨l.columns.take 2, _, [], rfl, read, .missing (by decide)⟩⟩

end ColumnLayout

end ClusterClient
