import ClusterClient.Proofs.Client.Delivery

namespace ClusterClient

-- Causes that are all there are, each with its own error.
theorem eq_error_iff_of_causes {ε α : Type} {e : ε} {x : Except ε α} {P : ε → Prop} (sound : ∀ e, P e → x = .error e)
    (total : (∃ a, x = .ok a) ∨ ∃ e, P e) : x = .error e ↔ P e where
  mp h := by
    rcases total with ⟨a, ha⟩ | ⟨e', he⟩
    case inl => exact absurd (h.symm.trans ha) nofun
    case inr => exact Except.error.inj (h.symm.trans (sound e' he)) ▸ he
  mpr := sound e

-- What is wrong with what has come for the first page of a query: the first thing in this order.
inductive FirstPageFault (text : String) : Except ClientError DataResponse → ClientError → Prop
  | call {e : ClientError} : FirstPageFault text (.error e) e
  | kind {page : NextPage} : FirstPageFault text (.ok (.moreData page)) .invalidResponse
  | status {page : FirstPage} (h : ¬page.status.isSuccess) :
    FirstPageFault text (.ok (.timeseries page)) (.queryFailure page.status)
  | empty {page : FirstPage} (hs : page.status.isSuccess) (hr : page.rows = []) :
    FirstPageFault text (.ok (.timeseries page)) (.emptyResult text)
  | layout {page : FirstPage} {fault : LayoutFault} (hs : page.status.isSuccess) (hr : page.rows ≠ [])
    (hl : ColumnLayout.ofNames page.columnNames page.columnTypes page.columnIndex = .error fault) :
    FirstPageFault text (.ok (.timeseries page)) (.decode fault.message)
  | row {page : FirstPage} {layout : ColumnLayout} {fault : LayoutFault} (hs : page.status.isSuccess)
    (hl : ColumnLayout.ofNames page.columnNames page.columnTypes page.columnIndex = .ok layout)
    (hr : layout.Undecodable page.rows fault) :
    FirstPageFault text (.ok (.timeseries page)) (.decode fault.message)

-- The same for a later page, which may well be empty and has its layout from the first one.
inductive NextPageFault (layout : ColumnLayout) : Except ClientError DataResponse → ClientError → Prop
  | call {e : ClientError} : NextPageFault layout (.error e) e
  | kind {page : FirstPage} : NextPageFault layout (.ok (.timeseries page)) .invalidResponse
  | status {page : NextPage} (h : ¬page.status.isSuccess) :
    NextPageFault layout (.ok (.moreData page)) (.queryFailure page.status)
  | row {page : NextPage} {fault : LayoutFault} (hs : page.status.isSuccess)
    (hr : layout.Undecodable page.rows fault) :
    NextPageFault layout (.ok (.moreData page)) (.decode fault.message)

theorem ColumnLayout.Undecodable.ne_nil {l : ColumnLayout} {rows : List RawRow} {fault : LayoutFault}
    (h : l.Undecodable rows fault) : rows ≠ [] := by
  have ⟨_, _, _, he, _⟩ := h
  simp [he]

-- A first page is not to blame for an error that tells of another one behind it, unless it is the call's own.
theorem FirstPageFault.eq_of_fetchFailure {text : String} {r : Except ClientError DataResponse} {id : Int64}
    {source : ClientError} (h : FirstPageFault text r (.fetchFailure id source)) :
    r = .error (.fetchFailure id source) := by
  cases h
  rfl

theorem NextPageFault.of_empty {layout : ColumnLayout} {page : NextPage} {e : ClientError}
    (h : NextPageFault layout (.ok (.moreData page)) e) (hr : page.rows = []) : ¬page.status.isSuccess := by
  cases h
  case status h => exact h
  case row h => exact absurd hr h.ne_nil

theorem DataClient.callWithin_eq_iff {σ χ Req Resp : Type} {net : Network σ χ Req Resp} {limit : Duration}
    {req : Req} {ch ch' : χ} {w w' : σ} {r : Except ClientError Resp} :
    callWithin net limit req ch w = (r, ch', w') ↔ net.Receives limit req ch w r ch' w' where
  mp h := by
    simp only [callWithin] at h
    split at h <;> cases h
    case h_1 hc => exact .answered hc
    case h_2 hc => exact .failed hc
    case h_3 hc => exact .late hc rfl
  mpr h := by
    cases h
    case answered hc => simp only [callWithin, hc]
    case failed hc => simp only [callWithin, hc]
    case late hc hl => simp only [callWithin, hc, hl]

theorem Network.exists_receives {σ χ Req Resp : Type} (net : Network σ χ Req Resp) (limit : Duration)
    (req : Req) (ch : χ) (w : σ) : ∃ r ch' w', net.Receives limit req ch w r ch' w' :=
  ⟨_, _, _, DataClient.callWithin_eq_iff.mp rfl⟩

theorem Network.Receives.unique {σ χ Req Resp : Type} {net : Network σ χ Req Resp} {limit : Duration}
    {req : Req} {ch ch₁ ch₂ : χ} {w w₁ w₂ : σ} {r₁ r₂ : Except ClientError Resp}
    (h₁ : net.Receives limit req ch w r₁ ch₁ w₁) (h₂ : net.Receives limit req ch w r₂ ch₂ w₂) :
    r₁ = r₂ ∧ ch₁ = ch₂ ∧ w₁ = w₂ := by
  have h := (DataClient.callWithin_eq_iff.mpr h₁).symm.trans (DataClient.callWithin_eq_iff.mpr h₂)
  simpa using h

namespace Query

section

variable {text : String} {fetchSize : UInt32} {timeout : Duration} {r : Except ClientError DataResponse}
  {e : ClientError}

theorem ofFirstPage_of_fault (h : FirstPageFault text r e) :
    r >>= ofFirstPage text fetchSize timeout = .error e := by
  cases h
  case call | kind => rfl
  case status hs => simp [ok_bind, ofFirstPage, hs, throw_bind]
  case empty hs hr => simp [ok_bind, ofFirstPage, hs, hr, throw_bind]
  case layout hs hr hl => simp [ok_bind, ofFirstPage, hs, hr, hl, error_bind, Except.mapError, LayoutFault.toError]
  case row page layout fault hs hl hr =>
    have ha : Dataset.append { layout } page.rows = .error fault := Dataset.append_eq_error_iff.mpr hr
    simp [ok_bind, ofFirstPage, hs, hr.ne_nil, hl, ha, Except.mapError, LayoutFault.toError, Functor.map, Except.map]

theorem ofFirstPage_or_fault (r : Except ClientError DataResponse) :
    (∃ q, r >>= ofFirstPage text fetchSize timeout = .ok q) ∨ ∃ e, FirstPageFault text r e := by
  rcases r with e | page | page
  case error => exact .inr ⟨e, .call⟩
  case ok.moreData => exact .inr ⟨_, .kind⟩
  case ok.timeseries =>
    by_cases hs : page.status.isSuccess
    case neg => exact .inr ⟨_, .status hs⟩
    by_cases hr : page.rows = []
    case pos => exact .inr ⟨_, .empty hs hr⟩
    rcases hl : ColumnLayout.ofNames page.columnNames page.columnTypes page.columnIndex with fault | layout
    case error => exact .inr ⟨_, .layout hs hr hl⟩
    rcases ha : Dataset.append { layout } page.rows with fault | dataset
    case error => exact .inr ⟨_, .row hs hl (Dataset.append_eq_error_iff.mp ha)⟩
    case ok => exact .inl ⟨_, ofFirstPage_eq_ok_iff.mpr ⟨page, layout, dataset, rfl, hs, hr, hl, ha, rfl⟩⟩

theorem ofFirstPage_eq_error_iff :
    r >>= ofFirstPage text fetchSize timeout = .error e ↔ FirstPageFault text r e :=
  eq_error_iff_of_causes (fun _ => ofFirstPage_of_fault) (ofFirstPage_or_fault r)

end

section

variable {q : Query} {r : Except ClientError DataResponse} {e : ClientError}

theorem addPage_of_fault (h : NextPageFault q.dataset.layout r e) : r >>= q.addPage = .error e := by
  cases h
  case call | kind => rfl
  case status hs => simp [ok_bind, addPage, hs, throw_bind]
  case row page fault hs hr =>
    have ha : q.dataset.append page.rows = .error fault := Dataset.append_eq_error_iff.mpr hr
    simp [ok_bind, addPage, hs, ha, Except.mapError, LayoutFault.toError, Functor.map, Except.map]

theorem addPage_or_fault (q : Query) (r : Except ClientError DataResponse) :
    (∃ q', r >>= q.addPage = .ok q') ∨ ∃ e, NextPageFault q.dataset.layout r e := by
  rcases r with e | page | page
  case error => exact .inr ⟨e, .call⟩
  case ok.timeseries => exact .inr ⟨_, .kind⟩
  case ok.moreData =>
    by_cases hs : page.status.isSuccess
    case neg => exact .inr ⟨_, .status hs⟩
    rcases ha : q.dataset.append page.rows with fault | dataset
    case error => exact .inr ⟨_, .row hs (Dataset.append_eq_error_iff.mp ha)⟩
    case ok => exact .inl ⟨_, addPage_eq_ok_iff.mpr ⟨page, dataset, rfl, hs, ha, rfl⟩⟩

theorem addPage_eq_error_iff : r >>= q.addPage = .error e ↔ NextPageFault q.dataset.layout r e :=
  eq_error_iff_of_causes (fun _ => addPage_of_fault) (addPage_or_fault q r)

end

-- The pages that a query takes one after another, and after which there still is more.
structure Accepts (q : Query) (more : List NextPage) : Prop where
  success : ∀ page ∈ more, page.status.isSuccess
  hasMore : ∀ b ∈ q.hasMore :: more.map (·.hasMore), b
  rows    : ∀ page ∈ more, ∃ decoded, List.Forall₂ (q.dataset.layout.decodeRow · = .ok ·) page.rows decoded

namespace Accepts

variable {q : Query} {page : NextPage} {more : List NextPage}

theorem nil_iff : q.Accepts [] ↔ q.hasMore where
  mp a  := a.hasMore _ List.mem_cons_self
  mpr h := ⟨by simp, by simpa using h, by simp⟩

theorem cons_iff :
    q.Accepts (page :: more) ↔ q.hasMore ∧ ∃ q', q.addPage (.moreData page) = .ok q' ∧ q'.Accepts more where
  mp a := by
    have ⟨hs, hs'⟩ := List.forall_mem_cons.mp a.success
    have ⟨⟨rows, hr⟩, hr'⟩ := List.forall_mem_cons.mp a.rows
    have ⟨hm, hm'⟩ := List.forall_mem_cons.mp a.hasMore
    have ha := Dataset.append_eq_ok_iff.mpr ⟨rows, hr, rfl⟩
    exact ⟨hm, _, addPage_eq_ok_iff.mpr ⟨page, _, rfl, hs, ha, rfl⟩, hs', hm', hr'⟩
  mpr := by
    intro ⟨hm, q', hp, a⟩
    have ⟨_, _, he, hs, ha, hq⟩ := addPage_eq_ok_iff.mp hp
    have ⟨rows, hr, hd⟩ := Dataset.append_eq_ok_iff.mp ha
    cases he
    subst hq hd
    exact ⟨List.forall_mem_cons.mpr ⟨hs, a.success⟩, List.forall_mem_cons.mpr ⟨hm, a.hasMore⟩,
      List.forall_mem_cons.mpr ⟨⟨rows, hr⟩, a.rows⟩⟩

end Accepts

variable {σ χ : Type}

-- A query is broken off by what comes for the page after those that it takes.
def Broken (net : Network σ χ DataRequest DataResponse) (q : Query) (ch : χ) (w : σ) (e : ClientError)
    (ch' : χ) (w' : σ) : Prop :=
  ∃ more ch₁ w₁ r source, q.Accepts more ∧ net.Answered q.timeout ch w (more.map q.exchange) ch₁ w₁ ∧
    net.Receives q.timeout (.fetchMoreData q.id q.fetchSize) ch₁ w₁ r ch' w' ∧
    NextPageFault q.dataset.layout r source ∧ e = .fetchFailure q.id source

namespace Broken

variable {net : Network σ χ DataRequest DataResponse} {q : Query} {ch ch' : χ} {w w' : σ} {e : ClientError}

theorem not_of_done (h : ¬q.hasMore) : ¬q.Broken net ch w e ch' w' :=
  fun ⟨_, _, _, _, _, a, _⟩ => h (a.hasMore _ List.mem_cons_self)

-- What a query comes to that lacks a page depends on what comes for that page.
theorem step_iff {r : Except ClientError DataResponse} {ch₁ : χ} {w₁ : σ} (h : q.hasMore)
    (hr : net.Receives q.timeout (.fetchMoreData q.id q.fetchSize) ch w r ch₁ w₁) :
    q.Broken net ch w e ch' w' ↔
      (∃ source, r >>= q.addPage = .error source ∧ e = .fetchFailure q.id source ∧ ch' = ch₁ ∧ w' = w₁) ∨
      ∃ q', r >>= q.addPage = .ok q' ∧ q'.Broken net ch₁ w₁ e ch' w' where
  mp := by
    intro ⟨more, ch₂, w₂, r', source, a, ha, hr', hf, he⟩
    cases more
    case nil =>
      cases ha
      obtain ⟨rfl, rfl, rfl⟩ := hr.unique hr'
      exact .inl ⟨source, addPage_eq_error_iff.mpr hf, he, rfl, rfl⟩
    case cons page more =>
      have ⟨_, q', hp, a⟩ := Accepts.cons_iff.mp a
      have ⟨_, _, hc, ha⟩ := Network.Answered.cons_iff.mp ha
      have ⟨_, _, _, _, hd, hq⟩ := addPage_eq_ok_iff.mp hp
      have ⟨_, _, hl⟩ := Dataset.append_eq_ok_iff.mp hd
      obtain ⟨rfl, rfl, rfl⟩ := hr.unique (.answered hc)
      subst hq hl
      exact .inr ⟨_, hp, more, ch₂, w₂, r', source, a, ha, hr', hf, he⟩
  mpr := by
    rintro (⟨source, hf, rfl, rfl, rfl⟩ | ⟨q', hp, more, ch₂, w₂, r', source, a, ha, hr', hf, he⟩)
    case inl =>
      exact ⟨[], ch, w, r, source, Accepts.nil_iff.mpr h, .nil, hr, addPage_eq_error_iff.mp hf, rfl⟩
    case inr =>
      have ⟨resp, ho, hp⟩ := bind_eq_ok_iff.mp hp
      subst ho
      cases hr with | answered hc =>
      have ⟨page, _, hm, _, hd, hq⟩ := addPage_eq_ok_iff.mp hp
      have ⟨_, _, hl⟩ := Dataset.append_eq_ok_iff.mp hd
      subst hm hq hl
      exact ⟨page :: more, ch₂, w₂, r', source, Accepts.cons_iff.mpr ⟨h, _, hp, a⟩, .cons hc ha, hr', hf, he⟩

end Broken

end Query

namespace DataClient

variable {σ χ : Type} {net : FiniteNetwork σ χ DataRequest DataResponse} {q : Query} {ch ch' : χ} {w w' : σ}
  {e : ClientError}

theorem drain_eq_error_iff :
    drain net q ch w = (.error e, ch', w') ↔ q.Broken net.toNetwork ch w e ch' w' := by
  fun_induction drain net q ch w
  case case1 h _ _ _ hc =>
    have hr := callWithin_eq_iff.mp hc
    simp [Query.Broken.step_iff h hr, error_bind, eq_comm]
  case case2 h _ _ _ hc _ ha =>
    have hr := callWithin_eq_iff.mp hc
    simp [Query.Broken.step_iff h hr, ok_bind, ha, eq_comm]
  case case3 h _ _ _ hc _ ha hi =>
    have hr := callWithin_eq_iff.mp hc
    simp [Query.Broken.step_iff h hr, ok_bind, ha, hi]
  case case4 h => simp [Query.Broken.not_of_done h]

end DataClient

-- The pages are the first ones of a result, and there still is more after them.
structure Pages.Begun (p : Pages) (layout : ColumnLayout) : Prop where
  success  : p.first.status.isSuccess ∧ ∀ page ∈ p.more, page.status.isSuccess
  nonempty : p.first.rows ≠ []
  laidOut  : ColumnLayout.ofNames p.first.columnNames p.first.columnTypes p.first.columnIndex = .ok layout
  hasMore  : ∀ b ∈ p.hasMore, b
  rows     : ∀ rows ∈ p.rows, ∃ decoded, List.Forall₂ (layout.decodeRow · = .ok ·) rows decoded

theorem Pages.begun_iff {p : Pages} {layout : ColumnLayout} (text : String) (fetchSize : UInt32)
    (timeout : Duration) :
    p.Begun layout ↔
      ∃ q, Query.ofFirstPage text fetchSize timeout (.timeseries p.first) = .ok q ∧
        q.dataset.layout = layout ∧ q.Accepts p.more where
  mp b := by
    have ⟨⟨rows, hr⟩, hr'⟩ := List.forall_mem_cons.mp b.rows
    have ha : Dataset.append { layout } p.first.rows = .ok { layout, rows } :=
      Dataset.append_eq_ok_iff.mpr ⟨rows, hr, by simp⟩
    refine ⟨_, Query.ofFirstPage_eq_ok_iff.mpr ⟨_, _, _, rfl, b.success.left, b.nonempty, b.laidOut, ha, rfl⟩,
      rfl, b.success.right, b.hasMore, ?_⟩
    exact fun page hp => hr' _ (List.mem_map_of_mem hp)
  mpr := by
    rintro ⟨q, hq, rfl, a⟩
    have ⟨_, _, _, he, hs, hn, hl, ha, hq⟩ := Query.ofFirstPage_eq_ok_iff.mp hq
    have ⟨rows, hr, hd⟩ := Dataset.append_eq_ok_iff.mp ha
    cases he
    subst hq hd
    exact ⟨⟨hs, a.success⟩, hn, hl, a.hasMore,
      List.forall_mem_cons.mpr ⟨⟨rows, hr⟩, List.forall_mem_map.mpr a.rows⟩⟩

-- How a query fails: with its first page, or with the page after others that it has taken. It has made these
-- requests, and the last one is that for the page which it fails with.
inductive Fails {σ χ : Type} (net : Network σ χ DataRequest DataResponse) (text : String) (fetchSize : UInt32)
    (timeout : Duration) (ch : χ) (w : σ) : List DataRequest → ClientError → χ → σ → Prop
  | first {r : Except ClientError DataResponse} {e : ClientError} {ch' : χ} {w' : σ}
    (h : net.Receives timeout (.fetchTimeseries text fetchSize timeout.millis) ch w r ch' w')
    (hf : FirstPageFault text r e) :
    Fails net text fetchSize timeout ch w [.fetchTimeseries text fetchSize timeout.millis] e ch' w'
  | later {p : Pages} {layout : ColumnLayout} {r : Except ClientError DataResponse} {source : ClientError}
    {ch₁ ch' : χ} {w₁ w' : σ} (hp : p.Begun layout)
    (ha : net.Answered timeout ch w (p.exchanges text fetchSize timeout) ch₁ w₁)
    (h : net.Receives timeout (.fetchMoreData p.first.queryId fetchSize) ch₁ w₁ r ch' w')
    (hf : NextPageFault layout r source) :
    Fails net text fetchSize timeout ch w
      ((p.exchanges text fetchSize timeout).map Prod.fst ++ [.fetchMoreData p.first.queryId fetchSize])
      (.fetchFailure p.first.queryId source) ch' w'

namespace DataClient

variable {σ χ : Type} {text : String} {fetchSize : UInt32} {timeout : Duration} {d d' : DataClient χ} {w w' : σ}
  {e : ClientError}

theorem openQuery_of_receives {net : Network σ χ DataRequest DataResponse} {r : Except ClientError DataResponse}
    {ch : χ} (h : net.Receives timeout (.fetchTimeseries text fetchSize timeout.millis) d.channel w r ch w') :
    d.openQuery net text fetchSize timeout w =
      (r >>= Query.ofFirstPage text fetchSize timeout, { d with channel := ch }, w') := by
  simp only [openQuery, callWithin_eq_iff.mpr h]
  rfl

theorem openQuery_eq_error_iff {net : Network σ χ DataRequest DataResponse} :
    d.openQuery net text fetchSize timeout w = (.error e, d', w') ↔
      ∃ r ch, net.Receives timeout (.fetchTimeseries text fetchSize timeout.millis) d.channel w r ch w' ∧
        FirstPageFault text r e ∧ d' = { d with channel := ch } where
  mp h := by
    have ⟨r, ch, w₁, hr⟩ := net.exists_receives timeout (.fetchTimeseries text fetchSize timeout.millis) d.channel w
    simp only [openQuery_of_receives hr, Prod.mk.injEq] at h
    obtain ⟨hf, rfl, rfl⟩ := h
    exact ⟨r, ch, hr, Query.ofFirstPage_eq_error_iff.mp hf, rfl⟩
  mpr := by
    rintro ⟨r, ch, hr, hf, rfl⟩
    rw [openQuery_of_receives hr, Query.ofFirstPage_eq_error_iff.mpr hf]

theorem fetchWith_eq_error_iff {net : FiniteNetwork σ χ DataRequest DataResponse} :
    d.fetchWith net text fetchSize timeout w = (.error e, d', w') ↔
      ∃ asked ch, Fails net.toNetwork text fetchSize timeout d.channel w asked e ch w' ∧
        d' = { d with channel := ch } where
  mp h := by
    rcases ho : d.openQuery net.toNetwork text fetchSize timeout w with ⟨e₁ | q, d₁, w₁⟩ <;>
      simp only [fetchWith, ho, Prod.mk.injEq] at h
    case error =>
      obtain ⟨he, rfl, rfl⟩ := h
      cases he
      obtain ⟨r, ch, hr, hf, hd⟩ := openQuery_eq_error_iff.mp ho
      exact ⟨_, ch, .first hr hf, hd⟩
    case ok =>
      rcases hd : drain net q d₁.channel w₁ with ⟨r', ch', w₂⟩
      simp only [hd] at h
      obtain ⟨rfl, rfl, rfl⟩ := h
      obtain ⟨more, ch₂, w₃, r, source, a, ha, hr, hf, he⟩ := drain_eq_error_iff.mp hd
      obtain ⟨resp, ch₁, hc, hq, hd₁⟩ := openQuery_eq_ok_iff.mp ho
      obtain ⟨page, _, _, hp, _, _, _, _, hq'⟩ := Query.ofFirstPage_eq_ok_iff.mp hq
      subst hp hd₁
      have hb : Pages.Begun ⟨page, more⟩ q.dataset.layout := (Pages.begun_iff ..).mpr ⟨q, hq, rfl, a⟩
      subst hq' he
      exact ⟨_, ch', .later hb (.cons hc ha) hr hf, rfl⟩
  mpr := by
    rintro ⟨asked, ch, hf, rfl⟩
    cases hf with
    | first hr hf =>
      have ho := openQuery_eq_error_iff.mpr ⟨_, ch, hr, hf, rfl⟩
      simp only [fetchWith, ho]
    | @later p layout r source ch₂ _ w₂ _ hp ha hr hf =>
      obtain ⟨q, hq, hl, a⟩ := (Pages.begun_iff text fetchSize timeout).mp hp
      obtain ⟨ch₁, w₁, hc, ha⟩ := Network.Answered.cons_iff.mp ha
      have ho := openQuery_eq_ok_iff.mpr ⟨_, ch₁, hc, hq, rfl⟩
      obtain ⟨_, _, _, he, _, _, _, _, hq'⟩ := Query.ofFirstPage_eq_ok_iff.mp hq
      cases he
      have hb : q.Broken net.toNetwork ch₁ w₁ (.fetchFailure p.first.queryId source) ch w' := by
        subst hq' hl
        exact ⟨p.more, ch₂, w₂, r, source, a, ha, hr, hf, rfl⟩
      simp only [fetchWith, ho, drain_eq_error_iff.mpr hb]

section

open Script

variable {ch ch' : Channel} {s s' : Script DataRequest DataResponse}

-- A node is not asked for anything after the page with which a query fails.
theorem asked_of_fails {asked : List DataRequest}
    (h : Fails network.toNetwork text fetchSize timeout ch s asked e ch' s') (ho : ch.isOpen) :
    ∃ taken, taken.length ≤ asked.length ∧ Asked ch.endpoint asked taken s s' := by
  cases h with
  | first h _ =>
    have ⟨cue, a, _⟩ := receives_outcome h ho
    exact ⟨cue.toList, by simp, a⟩
  | later _ ha h _ =>
    obtain ⟨rfl, _, hs⟩ := served_of_answered ha
    have ⟨cue, a, _⟩ := receives_outcome h ho
    exact ⟨_, by simp, hs.asked.append a⟩

end

-- A query fails just in these ways, and with nothing but the error. An error that tells of another one behind
-- it does so of a later page, unless a call has failed with it. A later page is not refused for being empty.
theorem fetchWith_fails (text : String) (fetchSize : UInt32) (timeout : Duration) :
    (∀ {σ χ : Type} (net : FiniteNetwork σ χ DataRequest DataResponse) (d d' : DataClient χ) (w w' : σ)
      (e : ClientError),
      d.fetchWith net text fetchSize timeout w = (.error e, d', w') ↔
        ∃ asked ch, Fails net.toNetwork text fetchSize timeout d.channel w asked e ch w' ∧
          d' = { d with channel := ch }) ∧
    (∀ (d d' : DataClient Script.Channel) (s s' : Script DataRequest DataResponse) (e : ClientError),
      d.fetchWith Script.network text fetchSize timeout s = (.error e, d', s') → d.channel.isOpen →
        ∃ asked ch taken,
          Fails Script.network.toNetwork text fetchSize timeout d.channel s asked e ch s' ∧
          taken.length ≤ asked.length ∧ Script.Asked d.channel.endpoint asked taken s s') ∧
    (∀ r id source, FirstPageFault text r (.fetchFailure id source) → r = .error (.fetchFailure id source)) ∧
    ∀ layout page e, NextPageFault layout (.ok (.moreData page)) e → page.rows = [] → ¬page.status.isSuccess := by
  refine ⟨fun _ _ _ _ _ _ => fetchWith_eq_error_iff, ?_, fun _ _ _ h => h.eq_of_fetchFailure,
    fun _ _ _ h => h.of_empty⟩
  intro d d' s s' e h ho
  have ⟨asked, ch, hf, _⟩ := fetchWith_eq_error_iff.mp h
  have ⟨taken, hl, a⟩ := asked_of_fails hf ho
  exact ⟨asked, ch, taken, hf, hl, a⟩

-- The second page reports a failure and has a row that cannot be decoded. The failure is told of, and the cue behind
-- that page is left.
theorem fetchWith_fails_second_page :
    let e : Endpoint := ⟨"node", 6667⟩
    let row (n : UInt8) : RawRow := { timestamp := 0, cells := [some [0, 0, 0, n]] }
    let cut : RawRow := { timestamp := 1, cells := [some [0, 0, 0]] }
    let first : FirstPage := {
      status := .success, queryId := 7, columnNames := ["n"], columnTypes := [.int32], columnIndex := .ofList [("n", 0)]
      rows := [row 1], hasMore := true
    }
    let failure : Status := .ofCode .queryNotFound
    let cues : List (Cue DataResponse) :=
      [.respond (.timeseries first), .respond (.moreData ⟨failure, [row 2, cut], true⟩), .drop]
    let d : DataClient Script.Channel := { channel := { endpoint := e } }
    let s' : Script DataRequest DataResponse := {
      cues := [(e, .drop)], calls := [(e, .fetchTimeseries "SELECT n" 2 50), (e, .fetchMoreData 7 2)]
    }
    d.fetchWith Script.network "SELECT n" 2 (.ofMillis 50) { cues := cues.map (e, ·) } =
        (.error (.fetchFailure 7 (.queryFailure failure)), d, s') ∧
      ∃ asked ch taken, taken.length ≤ asked.length ∧
        Fails Script.network.toNetwork "SELECT n" 2 (.ofMillis 50) d.channel { cues := cues.map (e, ·) } asked
          (.fetchFailure 7 (.queryFailure failure)) ch s' ∧
        Script.Asked e asked taken { cues := cues.map (e, ·) } s' := by
  intro e row cut first failure cues d s'
  have ⟨fails, asks, _⟩ := fetchWith_fails "SELECT n" 2 (.ofMillis 50)
  have hp : Pages.Begun ⟨first, []⟩ { columns := [⟨"n", .int32, 0⟩], index := first.columnIndex } :=
    ⟨by decide, by decide, rfl, by decide, List.forall_mem_singleton.mpr ⟨_, .cons rfl .nil⟩⟩
  have h := (fails Script.network d d { cues := cues.map (e, ·) } s' _).mpr
    ⟨_, _, .later hp (.cons rfl .nil) (.answered rfl) (.status (by decide)), rfl⟩
  have ⟨asked, ch, taken, hf, hl, a⟩ := asks d d _ s' _ h rfl
  exact ⟨h, asked, ch, taken, hl, hf, a⟩

end DataClient

end ClusterClient
