import ClusterClient.Proofs.Client.Fetch
import ClusterClient.Proofs.Network.Script

namespace ClusterClient

open Script

namespace DataClient

theorem drain_eq {σ χ : Type} (net : FiniteNetwork σ χ DataRequest DataResponse) (q : Query) (ch : χ)
    (w : σ) :
    drain net q ch w =
      if q.hasMore then
        match callWithin net.toNetwork q.timeout (.fetchMoreData q.id q.fetchSize) ch w with
        | (.error e, ch, w) => (.error (.fetchFailure q.id e), ch, w)
        | (.ok page, ch, w) =>
          match q.addPage page with
          | .error e => (.error (.fetchFailure q.id e), ch, w)
          | .ok q => drain net q ch w
      else (.ok q.dataset, ch, w) := by
  rw [drain]
  split
  case isFalse => rfl
  case isTrue =>
    split
    case h_1 hc => simp only [hc]
    case h_2 page _ _ hc => cases hp : q.addPage page <;> simp only [hc, hp]

section

variable {limit : Duration} {ch ch' : Channel}

theorem callWithin_of_same {Req Resp : Type} {req : Req} {r : Except ClientError Resp}
    {s₁ s₂ s₁' : Script Req Resp} (h : s₁.queue ch.endpoint = s₂.queue ch.endpoint)
    (hc : callWithin network.toNetwork limit req ch s₁ = (r, ch', s₁')) :
    ∃ s₂', callWithin network.toNetwork limit req ch s₂ = (r, ch', s₂') ∧
      s₁'.queue ch'.endpoint = s₂'.queue ch'.endpoint := by
  simp only [callWithin] at hc ⊢
  rcases h₁ : network.call ch req (some limit) s₁ with ⟨reply, ch₁, s⟩
  obtain ⟨s', h₂, hq⟩ := call_of_same h h₁
  replace h₂ : network.call ch req (some limit) s₂ = (reply, ch₁, s') := h₂
  simp only [h₁, h₂] at hc ⊢
  cases reply <;> cases hc
  case silent => exact ⟨_, rfl, (queue_wait ..).trans (hq.trans (queue_wait ..).symm)⟩
  all_goals exact ⟨s', rfl, hq⟩

variable {s₁ s₂ : Script DataRequest DataResponse}

theorem drain_of_same {q : Query} (h : s₁.queue ch.endpoint = s₂.queue ch.endpoint) :
    (drain network q ch s₁).1 = (drain network q ch s₂).1 := by
  -- The induction is on the pages taken from one script. The other script follows along.
  fun_induction drain network q ch s₁ generalizing s₂ <;> rw [drain_eq network _ _ s₂]
  case case1 hm _ _ _ hc =>
    obtain ⟨_, hc', _⟩ := callWithin_of_same h hc
    simp [hm, hc']
  case case2 hm _ _ _ hc _ hp =>
    obtain ⟨_, hc', _⟩ := callWithin_of_same h hc
    simp [hm, hc', hp]
  case case3 hm _ _ _ hc _ hp hi =>
    obtain ⟨_, hc', hq⟩ := callWithin_of_same h hc
    simp [hm, hc', hp, hi hq]
  case case4 hm => simp [hm]

theorem fetchWith_of_same {d₁ d₂ : DataClient Channel} {text : String} {fetchSize : UInt32}
    {timeout : Duration} (hd : d₁.channel = d₂.channel)
    (h : s₁.queue d₁.channel.endpoint = s₂.queue d₁.channel.endpoint) :
    (d₁.fetchWith network text fetchSize timeout s₁).1 =
      (d₂.fetchWith network text fetchSize timeout s₂).1 := by
  rcases hc : callWithin network.toNetwork timeout (.fetchTimeseries text fetchSize timeout.millis)
    d₁.channel s₁ with ⟨r, ch, s₁'⟩
  have ⟨s₂', hc', hq⟩ := callWithin_of_same h hc
  rw [hd] at hc'
  simp only [fetchWith, openQuery, hc, hc']
  cases r.bind (Query.ofFirstPage text fetchSize timeout)
  case error => rfl
  case ok q => exact drain_of_same hq

end

section

variable (text : String) (fetchSize : UInt32) (timeout : Duration)

-- What a query has done to a data node that had its pages at the front of its queue: the pages were asked
-- for one by one, the replies behind them are left, and the next query goes as with a new client of a node
-- that has only these.
structure Delivered (d : DataClient Channel) (p : Pages) (left : List (Cue DataResponse))
    (s s' : Script DataRequest DataResponse) : Prop where
  served : Served d.channel.endpoint (p.exchanges text fetchSize timeout) s s'
  queue  : s'.queue d.channel.endpoint = left
  next   : ∀ text' fetchSize' timeout',
            (d.fetchWith network text' fetchSize' timeout' s').1 =
              (fetchWith network text' fetchSize' timeout' { channel := { endpoint := d.channel.endpoint } }
                { cues := left.map (d.channel.endpoint, ·) }).1

variable {text fetchSize timeout} {d d' : DataClient Channel} {s s' : Script DataRequest DataResponse}
  {p : Pages} {left : List (Cue DataResponse)} {ds : Dataset}

theorem queue_of_fetchWith (h : d.fetchWith network text fetchSize timeout s = (.ok ds, d', s')) :
    d.channel.isOpen ∧ ∃ p : Pages, p.Yield ds ∧
      s.queue d.channel.endpoint =
        (p.exchanges text fetchSize timeout).map (.respond ·.2) ++ s'.queue d.channel.endpoint := by
  have ⟨p, _, hy, ha, _⟩ := fetchWith_eq_ok_iff.mp h
  have ⟨_, ho, hs⟩ := served_of_answered ha
  exact ⟨ho (by simp [Pages.exchanges]), p, hy, hs.queue_eq⟩

theorem fetchWith_of_queue (ho : d.channel.isOpen) (hy : p.Yield ds)
    (h : s.queue d.channel.endpoint =
      (p.exchanges text fetchSize timeout).map (.respond ·.2) ++ left) :
    ∃ s', d.fetchWith network text fetchSize timeout s = (.ok ds, d, s') ∧
      Delivered text fetchSize timeout d p left s s' := by
  have ⟨s', ha⟩ := answered_of_queue timeout ho h
  have ⟨_, _, hs⟩ := served_of_answered ha
  have hq : s'.queue d.channel.endpoint = left := List.append_cancel_left (hs.queue_eq.symm.trans h)
  refine ⟨s', fetchWith_eq_ok_iff.mpr ⟨p, d.channel, hy, ha, rfl⟩, hs, hq, fun _ _ _ => ?_⟩
  have hc : d.channel = { endpoint := d.channel.endpoint } := by
    rcases hd : d.channel with ⟨_, _⟩
    simp_all
  exact fetchWith_of_same hc (hq.trans (queueOf_map ..).symm)

-- No row is lost and none comes twice on a network that gives only so many answers, so that a query comes to an end:
-- a node that announces further pages for ever is left out here. A node with a queue of replies is asked for the pages
-- of the query only.
theorem fetchWith_lossless (text : String) (fetchSize : UInt32) (timeout : Duration) (ds : Dataset) :
    (∀ {σ χ : Type} (net : FiniteNetwork σ χ DataRequest DataResponse) (d d' : DataClient χ) (w w' : σ),
      d.fetchWith net text fetchSize timeout w = (.ok ds, d', w') ↔
        ∃ (p : Pages) (ch : χ), p.Yield ds ∧
          net.Answered timeout d.channel w (p.exchanges text fetchSize timeout) ch w' ∧
          d' = { d with channel := ch }) ∧
    ∀ (d : DataClient Channel) (s : Script DataRequest DataResponse),
      ((d.fetchWith network text fetchSize timeout s).1 = .ok ds ↔
        d.channel.isOpen ∧ ∃ (p : Pages) (left : List (Cue DataResponse)), p.Yield ds ∧
          s.queue d.channel.endpoint =
            (p.exchanges text fetchSize timeout).map (.respond ·.2) ++ left) ∧
      ∀ (p : Pages) (left : List (Cue DataResponse)), d.channel.isOpen → p.Yield ds →
        s.queue d.channel.endpoint =
          (p.exchanges text fetchSize timeout).map (.respond ·.2) ++ left →
        ∃ s', d.fetchWith network text fetchSize timeout s = (.ok ds, d, s') ∧
          Delivered text fetchSize timeout d p left s s' := by
  refine ⟨fun _ _ _ _ _ => fetchWith_eq_ok_iff, fun d s => ⟨⟨?_, ?_⟩, fun _ _ => fetchWith_of_queue⟩⟩
  case refine_1 =>
    intro h
    have ⟨ho, p, hy, hq⟩ := queue_of_fetchWith (Prod.ext h rfl)
    exact ⟨ho, p, _, hy, hq⟩
  case refine_2 =>
    intro ⟨ho, p, left, hy, hq⟩
    have ⟨_, he, _⟩ := fetchWith_of_queue ho hy hq
    rw [he]

-- Three pages, of which the second one is empty. The reply behind them is left to the next query.
theorem fetchWith_lossless_consecutive :
    let e : Endpoint := ⟨"node", 6667⟩
    let index : KeyMap String UInt64 := .ofList [("n", 0)]
    let row (n : UInt8) : RawRow := { timestamp := n.toInt8.toInt64, cells := [some [0, 0, 0, n]] }
    let first : FirstPage := {
      status := .success, queryId := 7, columnNames := ["n"], columnTypes := [.int32], columnIndex := index
      rows := [row 1], hasMore := true
    }
    let next : FirstPage := { first with rows := [row 3], hasMore := false }
    let s : Script DataRequest DataResponse := {
      cues := [.timeseries first, .moreData ⟨.success, [], true⟩, .moreData ⟨.success, [row 2], false⟩,
        .timeseries next].map (e, .respond ·)
    }
    let d : DataClient Channel := { channel := { endpoint := e } }
    let layout : ColumnLayout := { columns := [⟨"n", .int32, 0⟩], index }
    let timeout : Duration := .ofMillis 50
    ∃ s' s'',
      d.fetchWith network "SELECT n" 2 timeout s = (.ok { layout, rows := [⟨1, [.int32 1]⟩, ⟨2, [.int32 2]⟩] }, d, s') ∧
      s'.queue e = [.respond (.timeseries next)] ∧
      s'.calls = [(e, .fetchTimeseries "SELECT n" 2 50), (e, .fetchMoreData 7 2), (e, .fetchMoreData 7 2)] ∧
      d.fetchWith network "SELECT m" 5 timeout s' = (.ok { layout, rows := [⟨3, [.int32 3]⟩] }, d, s'') := by
  intro e index row first next s d layout timeout
  have ⟨_, pages⟩ := fetchWith_lossless "SELECT n" 2 timeout { layout, rows := [⟨1, [.int32 1]⟩, ⟨2, [.int32 2]⟩] }
  have ⟨_, pages'⟩ := fetchWith_lossless "SELECT m" 5 timeout { layout, rows := [⟨3, [.int32 3]⟩] }
  let p : Pages := { first, more := [⟨.success, [], true⟩, ⟨.success, [row 2], false⟩] }
  let p' : Pages := { first := next, more := [] }
  have hy : p.Yield { layout, rows := [⟨1, [.int32 1]⟩, ⟨2, [.int32 2]⟩] } :=
    ⟨by decide, by decide, rfl, rfl, .cons rfl (.cons rfl .nil)⟩
  have hy' : p'.Yield { layout, rows := [⟨3, [.int32 3]⟩] } :=
    ⟨by decide, by decide, rfl, rfl, .cons rfl .nil⟩
  have ⟨s', h, ⟨served, queue, _⟩⟩ := (pages d s).right p [.respond (.timeseries next)] rfl hy rfl
  have ⟨s'', h', _⟩ := (pages' d s').right p' [] rfl hy' queue
  exact ⟨s', s'', h, queue, served.calls_eq.trans (by decide), h'⟩

end

end DataClient

end ClusterClient
