import ClusterClient.Proofs.Dataset.Layout
import Mathlib

namespace ClusterClient

variable {page left right : List RawRow}

namespace ColumnLayout

variable {l : ColumnLayout} {rows : List Row}

theorem decodeRows_eq_ok_iff : l.decodeRows page = .ok rows ↔ List.Forall₂ (l.decodeRow · = .ok ·) page rows :=
  mapM_eq_ok_iff

theorem decodeRows_append_iff :
    l.decodeRows (left ++ right) = .ok rows ↔
      ∃ before after, l.decodeRows left = .ok before ∧ l.decodeRows right = .ok after ∧ before ++ after = rows := by
  simp only [decodeRows, List.mapM_append, bind_eq_ok_iff, pure, Except.pure, Except.ok.injEq, exists_and_left]

-- Rows that are decoded one by one come in two parts if the raw ones do.
theorem decoded_append_iff :
    List.Forall₂ (l.decodeRow · = .ok ·) (left ++ right) rows ↔
      ∃ before after, List.Forall₂ (l.decodeRow · = .ok ·) left before ∧
        List.Forall₂ (l.decodeRow · = .ok ·) right after ∧ before ++ after = rows := by
  simp only [← decodeRows_eq_ok_iff, decodeRows_append_iff]

end ColumnLayout

namespace Dataset

-- The answers to one call after another, and the dataset after the last of them.
def appendPages : List (List RawRow) → Dataset → List (Except LayoutFault Nat) × Dataset
  | [], d => ([], d)
  | page :: pages, d =>
    let (answer, d) := d.appendPage page
    let (answers, d) := appendPages pages d
    (answer :: answers, d)

-- The pages that were answered with a number of rows.
def accepted (pages : List (List RawRow)) (answers : List (Except LayoutFault Nat)) : List (List RawRow) :=
  ((pages.zip answers).filter fun (_, answer) => answer.isOk).map Prod.fst

-- The dataset holds the rows of another one, and then those of the pages.
structure Extends (d : Dataset) (pages : List (List RawRow)) (d' : Dataset) : Prop where
  layout : d'.layout = d.layout
  rows   : ∃ decoded, List.Forall₂ (d.layout.decodeRows · = .ok ·) pages decoded ∧
             d'.rows = d.rows ++ decoded.flatten

variable {d d' : Dataset} {n : Nat} {fault : LayoutFault}

theorem appendPage_eq_ok_iff :
    d.appendPage page = (.ok n, d') ↔
      n = page.length ∧ ∃ rows, d.layout.decodeRows page = .ok rows ∧ d' = { d with rows := d.rows ++ rows } := by
  simp only [appendPage]
  split
  case h_1 rows h =>
    have hl : page.length = rows.length := (ColumnLayout.decodeRows_eq_ok_iff.mp h).length_eq
    simp [h, hl, eq_comm]
  case h_2 h => simp [h]

-- A page that is refused leaves the dataset as it was.
theorem appendPage_eq_error_iff :
    d.appendPage page = (.error fault, d') ↔ d.layout.Undecodable page fault ∧ d' = d := by
  simp only [← ColumnLayout.decodeRows_eq_error_iff, appendPage]
  split <;> simp [*, eq_comm]

theorem exists_appendPage_eq_ok_iff :
    (∃ n d', d.appendPage page = (.ok n, d')) ↔ ∀ raw ∈ page, ∃ row, d.layout.decodeRow raw = .ok row := by
  simp [appendPage_eq_ok_iff, ← exists_mapM_eq_ok_iff, ColumnLayout.decodeRows]

-- A page is accepted if its parts are, and comes to the same as both of them.
theorem appendPage_append_iff :
    d.appendPage (left ++ right) = (.ok n, d') ↔
      ∃ k m d₁, d.appendPage left = (.ok k, d₁) ∧ d₁.appendPage right = (.ok m, d') ∧ n = k + m := by
  simp only [appendPage_eq_ok_iff, ColumnLayout.decodeRows_append_iff, List.length_append]
  constructor
  case mp =>
    rintro ⟨rfl, _, ⟨before, after, hb, ha, rfl⟩, rfl⟩
    exact ⟨_, _, _, ⟨rfl, before, hb, rfl⟩, ⟨rfl, after, ha, by simp⟩, rfl⟩
  case mpr =>
    rintro ⟨_, _, _, ⟨rfl, before, hb, rfl⟩, ⟨rfl, after, ha, rfl⟩, rfl⟩
    exact ⟨rfl, _, ⟨before, after, hb, ha, rfl⟩, by simp⟩

theorem append_eq_ok_iff :
    d.append page = .ok d' ↔
      ∃ rows, List.Forall₂ (d.layout.decodeRow · = .ok ·) page rows ∧ d' = { d with rows := d.rows ++ rows } := by
  have h : d.append page = .ok d' ↔ ∃ n, d.appendPage page = (.ok n, d') := by
    rw [append_eq]
    rcases d.appendPage page with ⟨fault | n, d₁⟩ <;> simp [Except.map]
  simp only [h, appendPage_eq_ok_iff, exists_eq_left, ColumnLayout.decodeRows_eq_ok_iff]

theorem append_eq_error_iff : d.append page = .error fault ↔ d.layout.Undecodable page fault := by
  have h : d.append page = .error fault ↔ ∃ d', d.appendPage page = (.error fault, d') := by
    rw [append_eq]
    rcases d.appendPage page with ⟨fault | n, d₁⟩ <;> simp [Except.map]
  simp only [h, appendPage_eq_error_iff, exists_eq_right]

section

variable {pages later : List (List RawRow)}

theorem appendPages_append :
    appendPages (pages ++ later) d =
      let (answers, d) := appendPages pages d
      let (answers', d) := appendPages later d
      (answers ++ answers', d) := by
  induction pages generalizing d
  case nil => rfl
  case cons hi => simp [appendPages, hi]

theorem length_appendPages : (appendPages pages d).1.length = pages.length := by
  induction pages generalizing d
  case nil => rfl
  case cons hi => simp [appendPages, hi]

theorem Extends.nil : d.Extends [] d :=
  ⟨rfl, [], .nil, by simp⟩

theorem Extends.cons {rows : List Row} (h : d.layout.decodeRows page = .ok rows)
    (t : Extends { d with rows := d.rows ++ rows } pages d') : d.Extends (page :: pages) d' := by
  have ⟨hl, decoded, hd, hr⟩ := t
  exact ⟨hl, rows :: decoded, .cons h hd, by simp [hr]⟩

-- By induction on the pages: one that is refused counts neither for the dataset nor among the accepted ones.
theorem appendPages_extends : d.Extends (accepted pages (appendPages pages d).1) (appendPages pages d).2 := by
  induction pages generalizing d
  case nil => exact .nil
  case cons page pages hi =>
    rcases h : d.appendPage page with ⟨fault | n, d₁⟩
    case error =>
      obtain ⟨_, rfl⟩ := appendPage_eq_error_iff.mp h
      simpa [appendPages, h, accepted, Except.isOk, Except.toBool] using hi
    case ok =>
      obtain ⟨_, rows, hp, rfl⟩ := appendPage_eq_ok_iff.mp h
      simpa [appendPages, h, accepted, Except.isOk, Except.toBool] using Extends.cons hp hi

end

-- After each call, the rows are those of the pages accepted so far. A page is accepted if all of its rows can be
-- decoded, and is refused for the first row that cannot, with nothing changed. A page that is accepted can be cut
-- in two at any place, and the dataset is the same in the end.
theorem appendPages_accepted (layout : ColumnLayout) (pages : List (List RawRow)) :
    let (answers, d) := appendPages pages { layout }
    answers.length = pages.length ∧ Extends { layout } (accepted pages answers) d ∧
    (∀ page, (∃ n d', d.appendPage page = (.ok n, d')) ↔ ∀ raw ∈ page, ∃ row, layout.decodeRow raw = .ok row) ∧
    (∀ page n d', d.appendPage page = (.ok n, d') ↔
      n = page.length ∧ ∃ rows, List.Forall₂ (layout.decodeRow · = .ok ·) page rows ∧
        d' = { d with rows := d.rows ++ rows }) ∧
    (∀ page fault d', d.appendPage page = (.error fault, d') ↔ layout.Undecodable page fault ∧ d' = d) ∧
    (∀ left right n d', d.appendPage (left ++ right) = (.ok n, d') ↔
      ∃ k m d₁, d.appendPage left = (.ok k, d₁) ∧ d₁.appendPage right = (.ok m, d') ∧ n = k + m) ∧
    ∀ left right later n d', d.appendPage (left ++ right) = (.ok n, d') →
      (appendPages (pages ++ (left ++ right) :: later) { layout }).2 =
        (appendPages (pages ++ left :: right :: later) { layout }).2 := by
  have e := @appendPages_extends { layout } pages
  have hl := e.layout
  refine ⟨length_appendPages, e, fun page => ?_, fun page n d' => ?_, fun page fault d' => ?_,
    fun left right n d' => appendPage_append_iff, fun left right later n d' h => ?_⟩
  case refine_1 => rw [exists_appendPage_eq_ok_iff, hl]
  case refine_2 =>
    rw [appendPage_eq_ok_iff, hl]
    simp only [ColumnLayout.decodeRows_eq_ok_iff]
  case refine_3 => rw [appendPage_eq_error_iff, hl]
  case refine_4 =>
    have ⟨k, m, d₁, hb, ha, _⟩ := appendPage_append_iff.mp h
    simp only [appendPages_append, appendPages, h, hb, ha]

-- The second page is refused for its last row, and nothing of it is kept.
theorem appendPages_accepted_halves :
    let layout : ColumnLayout := { columns := [⟨"n", .int32, 0⟩], index := .ofList [("n", 0)] }
    let row (n : UInt8) : RawRow := { timestamp := 7, cells := [some [0, 0, 0, n]] }
    let cut : RawRow := { timestamp := 7, cells := [some [0, 0, 0]] }
    let pages := [[row 0], [row 1, cut]]
    let (answers, d) := appendPages pages { layout }
    answers = [.ok 1, .error (.cell (.width .int32 4 3))] ∧ Extends { layout } [[row 0]] d ∧
    (appendPages (pages ++ [[row 1, row 2], [row 3, cut], [row 4]]) { layout }).2 =
      (appendPages (pages ++ [[row 1], [row 2], [row 3, cut], [row 4]]) { layout }).2 := by
  intro layout row cut pages
  have ⟨_, holds, _, _, _, _, halves⟩ := appendPages_accepted layout pages
  exact ⟨rfl, holds, halves [row 1] [row 2] [[row 3, cut], [row 4]] 2 _ rfl⟩

end Dataset

end ClusterClient
