import ClusterClient.Config.Basic
import ClusterClient.Dataset
import ClusterClient.Message
import ClusterClient.Network.Basic

namespace ClusterClient

-- A query whose first page has arrived.
structure Query where
  id : Int64
  fetchSize : UInt32
  timeout : Duration
  hasMore : Bool
  -- The rows received so far.
  dataset : Dataset
  deriving DecidableEq

namespace Query

-- Takes the first page of a query: it must be of the right kind, report success, have a row, and
-- come with a layout under which its rows can be decoded.
def ofFirstPage (text : String) (fetchSize : UInt32) (timeout : Duration) :
    DataResponse → Except ClientError Query
  | .moreData _ => .error .invalidResponse
  | .timeseries page => do
    unless page.status.isSuccess do throw (.queryFailure page.status)
    if page.rows.isEmpty then throw (.emptyResult text)
    let layout ← (ColumnLayout.ofNames page.columnNames page.columnTypes page.columnIndex).mapError
      LayoutFault.toError
    let dataset ← (Dataset.append { layout } page.rows).mapError LayoutFault.toError
    return { id := page.queryId, fetchSize, timeout, hasMore := page.hasMore, dataset }

-- Takes a further page, which may well be empty.
def addPage (q : Query) : DataResponse → Except ClientError Query
  | .timeseries _ => .error .invalidResponse
  | .moreData page => do
    unless page.status.isSuccess do throw (.queryFailure page.status)
    let dataset ← (q.dataset.append page.rows).mapError LayoutFault.toError
    return { q with hasMore := page.hasMore, dataset }

end Query

-- There is no failover and no retry: a query that fails gives up the rows it has received.
structure DataClient (χ : Type) where
  channel : χ
  fetchSize : UInt32 := 10000
  fetchTimeout : Duration := .ofMillis 60000

namespace DataClient

variable {σ χ Req Resp : Type}

def connect (net : Network σ χ DataRequest DataResponse) (e : Endpoint) (w : σ) :
    Except ClientError (DataClient χ) × σ :=
  match net.connect e w with
  | (.ok channel, w) => (.ok { channel }, w)
  | (.error error, w) => (.error error, w)

def withDefaults (d : DataClient χ) (fetchSize : UInt32) (fetchTimeout : Duration) : DataClient χ :=
  { d with fetchSize, fetchTimeout }

-- A client for the data node of a valid configuration.
def ofConfig (net : Network σ χ DataRequest DataResponse) (config : ClientConfig) (w : σ) :
    Except ClientError (DataClient χ) × σ :=
  match config.validate with
  | .error fault => (.error fault.toError, w)
  | .ok () =>
    let (client, w) := connect net config.dataNode w
    (client.map (·.withDefaults config.fetchSize config.fetchTimeout), w)

-- A call that is given up after a time, whereupon its channel is closed.
def callWithin (net : Network σ χ Req Resp) (limit : Duration) (req : Req) (ch : χ) (w : σ) :
    Except ClientError Resp × χ × σ :=
  match net.call ch req (some limit) w with
  | (.answered r, ch, w) => (.ok r, ch, w)
  | (.failed e, ch, w) => (.error e, ch, w)
  | (.silent, ch, w) =>
    let (ch, w) := net.close ch (net.wait limit w)
    (.error (.timeout s!"no response from {(net.endpoint ch).render} within {limit.render}"), ch, w)

theorem call_of_callWithin {net : Network σ χ Req Resp} {limit : Duration} {req : Req} {ch ch' : χ}
    {w w' : σ} {r : Resp} (h : callWithin net limit req ch w = (.ok r, ch', w')) :
    net.call ch req (some limit) w = (.answered r, ch', w') := by
  simp only [callWithin] at h
  split at h <;> simp_all

-- Sends a query and takes its first page.
def openQuery (net : Network σ χ DataRequest DataResponse) (text : String) (fetchSize : UInt32)
    (timeout : Duration) (d : DataClient χ) (w : σ) : Except ClientError Query × DataClient χ × σ :=
  let (page, channel, w) :=
    callWithin net timeout (.fetchTimeseries text fetchSize timeout.millis) d.channel w
  (page.bind (Query.ofFirstPage text fetchSize timeout), { d with channel }, w)

-- Fetches pages until there are no more. The network's supply of answers bounds their number.
def drain (net : FiniteNetwork σ χ DataRequest DataResponse) (q : Query) (ch : χ) (w : σ) :
    Except ClientError Dataset × χ × σ :=
  if q.hasMore then
    match _answer : callWithin net.toNetwork q.timeout (.fetchMoreData q.id q.fetchSize) ch w with
    | (.error e, ch, w) => (.error (.fetchFailure q.id e), ch, w)
    | (.ok page, ch', w') =>
      match q.addPage page with
      | .error e => (.error (.fetchFailure q.id e), ch', w')
      | .ok q => drain net q ch' w'
  else
    (.ok q.dataset, ch, w)
termination_by net.supply ch w
decreasing_by exact net.supply_lt (call_of_callWithin _answer)

-- Runs a query to its end.
def fetchWith (net : FiniteNetwork σ χ DataRequest DataResponse) (text : String)
    (fetchSize : UInt32) (timeout : Duration) (d : DataClient χ) (w : σ) :
    Except ClientError Dataset × DataClient χ × σ :=
  match d.openQuery net.toNetwork text fetchSize timeout w with
  | (.error e, d, w) => (.error e, d, w)
  | (.ok q, d, w) =>
    let (rows, channel, w) := drain net q d.channel w
    (rows, { d with channel }, w)

-- Runs a query to its end with the client's own page size and timeout.
def fetch (net : FiniteNetwork σ χ DataRequest DataResponse) (text : String) (d : DataClient χ)
    (w : σ) : Except ClientError Dataset × DataClient χ × σ :=
  d.fetchWith net text d.fetchSize d.fetchTimeout w

def close (net : Network σ χ DataRequest DataResponse) (d : DataClient χ) (w : σ) :
    DataClient χ × σ :=
  let (channel, w) := net.close d.channel w
  ({ d with channel }, w)

end DataClient

end ClusterClient
