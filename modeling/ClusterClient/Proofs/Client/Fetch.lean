import ClusterClient.Client.Query
import ClusterClient.Proofs.Dataset.Append
import ClusterClient.Proofs.Network.Basic
import Mathlib

namespace ClusterClient

variable {σ χ Req Resp : Type}

theorem DataClient.callWithin_eq_ok_iff {net : Network σ χ Req Resp} {limit : Duration} {req : Req}
    {ch ch' : χ} {w w' : σ} {r : Resp} :
    callWithin net limit req ch w = (.ok r, ch', w') ↔
      net.call ch req (some limit) w = (.answered r, ch', w') where
  mp    := call_of_callWithin
  mpr h := by simp only [callWithin, h]

structure Pages where
  first : FirstPage
  more : List NextPage

namespace Pages

def rows (p : Pages) : List (List RawRow) :=
  p.first.rows :: p.more.map (·.rows)

def hasMore (p : Pages) : List Bool :=
  p.first.hasMore :: p.more.map (·.hasMore)

-- The requests that ask for the pages, each with its response.
def exchanges (p : Pages) (text : String) (fetchSize : UInt32) (timeout : Duration) :
    List (DataRequest × DataResponse) :=
  (.fetchTimeseries text fetchSize timeout.millis, .timeseries p.first) ::
    p.more.map fun page => (.fetchMoreData p.first.queryId fetchSize, .moreData page)

-- The pages are those of one whole result, and the dataset holds their rows in order.
structure Yield (p : Pages) (ds : Dataset) : Prop where
  success  : p.first.status.isSuccess ∧ ∀ page ∈ p.more, page.status.isSuccess
  nonempty : p.first.rows ≠ []
  layout   : ColumnLayout.ofNames p.first.columnNames p.first.columnTypes p.first.columnIndex =
              .ok ds.layout
  hasMore  : p.hasMore = List.replicate p.more.length true ++ [false]
  rows     : List.Forall₂ (ds.layout.decodeRow · = .ok ·) p.rows.flatten ds.rows

end Pages

namespace Query

theorem addPage_eq_ok_iff {q q' : Query} {resp : DataResponse} :
    q.addPage resp = .ok q' ↔
      ∃ page dataset, resp = .moreData page ∧ page.status.isSuccess ∧
        q.dataset.append page.rows = .ok dataset ∧
        q' = { q with hasMore := page.hasMore, dataset } := by
  cases resp
  case timeseries => simp [addPage]
  case moreData page =>
    by_cases hs : page.status.isSuccess
    case pos => simp [addPage, hs, bind_eq_ok_iff, mapError_eq_ok_iff, pure, Except.pure, @eq_comm _ q']
    case neg => simp [addPage, hs, throw_bind]

theorem ofFirstPage_eq_ok_iff {text : String} {fetchSize : UInt32} {timeout : Duration}
    {resp : DataResponse} {q : Query} :
    ofFirstPage text fetchSize timeout resp = .ok q ↔
      ∃ page layout dataset, resp = .timeseries page ∧ page.status.isSuccess ∧ page.rows ≠ [] ∧
        ColumnLayout.ofNames page.columnNames page.columnTypes page.columnIndex = .ok layout ∧
        Dataset.append { layout } page.rows = .ok dataset ∧
        q = { id := page.queryId, fetchSize, timeout, hasMore := page.hasMore, dataset } := by
  cases resp
  case moreData => simp [ofFirstPage]
  case timeseries page =>
    by_cases hs : page.status.isSuccess
    case neg => simp [ofFirstPage, hs, throw_bind]
    case pos =>
      by_cases hr : page.rows = []
      case pos => simp [ofFirstPage, hs, hr, throw_bind]
      case neg =>
        simp [ofFirstPage, hs, hr, bind_eq_ok_iff, mapError_eq_ok_iff, pure, Except.pure, @eq_comm _ q]

-- The pages that complete a query, and the dataset that comes of them.
structure Drained (q : Query) (more : List NextPage) (ds : Dataset) : Prop where
  success : ∀ page ∈ more, page.status.isSuccess
  hasMore : q.hasMore :: more.map (·.hasMore) = List.replicate more.length true ++ [false]
  layout  : ds.layout = q.dataset.layout
  rows    : ∃ decoded,
              List.Forall₂ (q.dataset.layout.decodeRow · = .ok ·) (more.map (·.rows)).flatten decoded ∧
                ds.rows = q.dataset.rows ++ decoded

namespace Drained

variable {q : Query} {page : NextPage} {more : List NextPage} {ds dataset : Dataset}

theorem nil_iff : q.Drained [] ds ↔ q.hasMore = false ∧ ds = q.dataset where
  mp := by
    intro ⟨_, hm, hl, ⟨_, hd, hr⟩⟩
    cases hd
    cases ds
    simp_all
  mpr := by
    intro ⟨hm, hd⟩
    exact ⟨by simp, by simp [hm], by rw [hd], [], .nil, by simp [hd]⟩

theorem cons_iff :
    q.Drained (page :: more) ds ↔
      q.hasMore ∧ ∃ q', q.addPage (.moreData page) = .ok q' ∧ q'.Drained more ds where
  mp := by
    intro ⟨hs, hm, hl, ⟨_, hd, hr⟩⟩
    obtain ⟨rows, decoded, h, ht, rfl⟩ := ColumnLayout.decoded_append_iff.mp hd
    have ⟨hp, hs⟩ := List.forall_mem_cons.mp hs
    have ha := Dataset.append_eq_ok_iff.mpr ⟨rows, h, rfl⟩
    simp only [List.map_cons, List.length_cons, List.replicate_succ, List.cons_append,
      List.cons.injEq] at hm
    refine ⟨hm.left, _, addPage_eq_ok_iff.mpr ⟨page, _, rfl, hp, ha, rfl⟩, ?_⟩
    exact ⟨hs, hm.right, hl, decoded, ht, by simp [hr]⟩
  mpr := by
    intro ⟨hq, q', ha, hs, hm, hl, ⟨decoded, hd, hr⟩⟩
    have ⟨_, _, hp, hsp, ha, he⟩ := addPage_eq_ok_iff.mp ha
    have ⟨rows, h, hds⟩ := Dataset.append_eq_ok_iff.mp ha
    cases hp
    subst he hds
    refine ⟨List.forall_mem_cons.mpr ⟨hsp, hs⟩, ?_, hl, rows ++ decoded,
      ColumnLayout.decoded_append_iff.mpr ⟨_, _, h, hd, rfl⟩, by simp [hr]⟩
    simpa [hq, List.replicate_succ] using hm

end Drained

-- The request for a further page of a query, with its response.
def exchange (q : Query) (page : NextPage) : DataRequest × DataResponse :=
  (.fetchMoreData q.id q.fetchSize, .moreData page)

-- A query is completed by calls that bring the pages which it lacks.
def Completed (net : Network σ χ DataRequest DataResponse) (q : Query) (ch : χ) (w : σ)
    (ds : Dataset) (ch' : χ) (w' : σ) : Prop :=
  ∃ more, q.Drained more ds ∧ net.Answered q.timeout ch w (more.map q.exchange) ch' w'

namespace Completed

variable {net : Network σ χ DataRequest DataResponse} {q : Query} {ch ch' : χ} {w w' : σ} {ds : Dataset}

theorem done_iff (h : ¬q.hasMore) :
    Completed net q ch w ds ch' w' ↔ ds = q.dataset ∧ ch' = ch ∧ w' = w where
  mp := by
    intro ⟨more, hd, ha⟩
    cases more
    case nil => exact ⟨(Drained.nil_iff.mp hd).right, Network.Answered.nil_iff.mp ha⟩
    case cons => exact absurd (Drained.cons_iff.mp hd).left h
  mpr := by
    intro ⟨hd, hc, hw⟩
    exact ⟨[], Drained.nil_iff.mpr ⟨by simpa using h, hd⟩, Network.Answered.nil_iff.mpr ⟨hc, hw⟩⟩

theorem step_iff (h : q.hasMore) :
    Completed net q ch w ds ch' w' ↔
      ∃ resp ch₁ w₁ q', net.call ch (.fetchMoreData q.id q.fetchSize) (some q.timeout) w =
          (.answered resp, ch₁, w₁) ∧
        q.addPage resp = .ok q' ∧ Completed net q' ch₁ w₁ ds ch' w' where
  mp := by
    intro ⟨more, hd, ha⟩
    cases more
    case nil => simp [Drained.nil_iff, h] at hd
    case cons page more =>
      have ⟨_, q', hp, hd⟩ := Drained.cons_iff.mp hd
      have ⟨ch₁, w₁, hc, ha⟩ := Network.Answered.cons_iff.mp ha
      have ⟨_, _, _, _, _, he⟩ := addPage_eq_ok_iff.mp hp
      exact ⟨_, ch₁, w₁, q', hc, hp, more, hd, by subst he; exact ha⟩
  mpr := by
    intro ⟨resp, ch₁, w₁, q', hc, hp, more, hd, ha⟩
    have ⟨page, _, hr, _, _, he⟩ := addPage_eq_ok_iff.mp hp
    subst hr
    refine ⟨page :: more, Drained.cons_iff.mpr ⟨h, q', hp, hd⟩, .cons hc ?_⟩
    subst he
    exact ha

end Completed

end Query

namespace DataClient

variable {net : FiniteNetwork σ χ DataRequest DataResponse} {q : Query} {ch ch' : χ} {w w' : σ}
  {ds : Dataset}

theorem drain_eq_ok_iff :
    drain net q ch w = (.ok ds, ch', w') ↔ q.Completed net.toNetwork ch w ds ch' w' := by
  fun_induction drain net q ch w
  case case1 h _ _ _ hc =>
    simp [Query.Completed.step_iff h, ← callWithin_eq_ok_iff, hc]
  case case2 h _ _ _ hc _ ha =>
    simp [Query.Completed.step_iff h, callWithin_eq_ok_iff.mp hc, ha]
  case case3 h _ _ _ hc _ ha hi =>
    simp [Query.Completed.step_iff h, callWithin_eq_ok_iff.mp hc, ha, hi]
  case case4 h =>
    simp [Query.Completed.done_iff h, eq_comm]

end DataClient

theorem Pages.yield_iff {p : Pages} {ds : Dataset} (text : String) (fetchSize : UInt32)
    (timeout : Duration) :
    p.Yield ds ↔
      ∃ q, Query.ofFirstPage text fetchSize timeout (.timeseries p.first) = .ok q ∧
        q.Drained p.more ds where
  mp := by
    intro ⟨⟨hf, hs⟩, hne, hl, hm, hd⟩
    obtain ⟨rows, decoded, h, ht, hr⟩ := ColumnLayout.decoded_append_iff.mp hd
    have ha : Dataset.append { layout := ds.layout } p.first.rows = .ok { layout := ds.layout, rows } :=
      Dataset.append_eq_ok_iff.mpr ⟨rows, h, by simp⟩
    refine ⟨_, Query.ofFirstPage_eq_ok_iff.mpr ⟨p.first, _, _, rfl, hf, hne, hl, ha, rfl⟩, ?_⟩
    exact ⟨hs, hm, rfl, decoded, ht, hr.symm⟩
  mpr := by
    intro ⟨q, hq, hs, hm, hl, ⟨decoded, hd, hr⟩⟩
    have ⟨page, layout, dataset, hp, hf, hne, hl', ha, he⟩ := Query.ofFirstPage_eq_ok_iff.mp hq
    have ⟨rows, h, hds⟩ := Dataset.append_eq_ok_iff.mp ha
    cases hp
    subst he hds
    simp only at hl hd hm hr h
    subst hl
    refine ⟨⟨hf, hs⟩, hne, hl', hm, ?_⟩
    rw [hr]
    exact ColumnLayout.decoded_append_iff.mpr ⟨rows, decoded, h, hd, by simp⟩

namespace DataClient

variable {text : String} {fetchSize : UInt32} {timeout : Duration} {d d' : DataClient χ}

theorem openQuery_eq_ok_iff {net : Network σ χ DataRequest DataResponse} :
    d.openQuery net text fetchSize timeout w = (.ok q, d', w') ↔
      ∃ resp ch, net.call d.channel (.fetchTimeseries text fetchSize timeout.millis) (some timeout) w =
          (.answered resp, ch, w') ∧
        Query.ofFirstPage text fetchSize timeout resp = .ok q ∧ d' = { d with channel := ch } := by
  simp only [← callWithin_eq_ok_iff, openQuery]
  rcases callWithin net timeout _ d.channel w with ⟨_ | resp, ch, w₁⟩
  case error => simp [Except.bind]
  case ok =>
    simp only [Except.bind, Prod.mk.injEq, Except.ok.injEq]
    constructor
    case mp  => exact fun ⟨hq, hd, hw⟩ => ⟨resp, ch, ⟨rfl, rfl, hw⟩, hq, hd.symm⟩
    case mpr => exact fun ⟨_, _, ⟨hr, hc, hw⟩, hq, hd⟩ => ⟨hr ▸ hq, hc ▸ hd.symm, hw⟩

theorem fetchWith_eq_ok_iff :
    d.fetchWith net text fetchSize timeout w = (.ok ds, d', w') ↔
      ∃ (p : Pages) (ch : χ), p.Yield ds ∧
        net.Answered timeout d.channel w (p.exchanges text fetchSize timeout) ch w' ∧
        d' = { d with channel := ch } where
  mp := by
    intro h
    simp only [fetchWith] at h
    split at h
    case h_1 => simp at h
    case h_2 q d₁ w₁ ho =>
      rcases hr : drain net q d₁.channel w₁ with ⟨r, ch, w₂⟩
      simp only [hr, Prod.mk.injEq] at h
      have ⟨hds, hd', hw⟩ := h
      subst hds hw
      have ⟨more, hd, ha⟩ := drain_eq_ok_iff.mp hr
      have ⟨resp, ch₁, hc, hq, hd₁⟩ := openQuery_eq_ok_iff.mp ho
      have ⟨page, _, _, hp, _, _, _, _, he⟩ := Query.ofFirstPage_eq_ok_iff.mp hq
      subst hp hd₁
      refine ⟨⟨page, more⟩, ch, (Pages.yield_iff ..).mpr ⟨q, hq, hd⟩, .cons hc ?_, hd'.symm⟩
      subst he
      exact ha
  mpr := by
    intro ⟨p, ch, hy, ha, hd'⟩
    have ⟨q, hq, hd⟩ := (Pages.yield_iff text fetchSize timeout).mp hy
    have ⟨ch₁, w₁, hc, ha⟩ := Network.Answered.cons_iff.mp ha
    have ho := openQuery_eq_ok_iff.mpr ⟨_, ch₁, hc, hq, rfl⟩
    have ⟨_, _, _, hp, _, _, _, _, he⟩ := Query.ofFirstPage_eq_ok_iff.mp hq
    have hr : drain net q ch₁ w₁ = (.ok ds, ch, w') := by
      refine drain_eq_ok_iff.mpr ⟨p.more, hd, ?_⟩
      cases hp
      subst he
      exact ha
    simp only [fetchWith, ho, hr, hd']

end DataClient

end ClusterClient
