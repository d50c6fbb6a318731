import ClusterClient.Message
import ClusterClient.Wire.Codec

namespace ClusterClient

open Wire

-- The order of the fields of a record, and of the variants of a message, is part of the format: nodes of other versions
-- rely on it.
def Endpoint.codec : Codec Endpoint :=
  (Codec.text.pair .u16).imap (fun (host, port) => ⟨host, port⟩) (fun e => (e.host, e.port))

def Status.codec : Codec Status :=
  (Codec.i32.pair ((Codec.text.option).pair Endpoint.codec.option)).imap
    (fun (code, message, redirectNode) => { code, message, redirectNode })
    (fun s => (s.code, s.message, s.redirectNode))

def NodeLocation.codec : Codec NodeLocation :=
  (Codec.i32.pair Endpoint.codec).imap
    (fun (nodeId, internalEndpoint) => { nodeId, internalEndpoint })
    (fun l => (l.nodeId, l.internalEndpoint))

def NodeResource.codec : Codec NodeResource :=
  (Codec.u32.pair .u64).imap
    (fun (cpuCores, memoryBytes) => { cpuCores, memoryBytes })
    (fun r => (r.cpuCores, r.memoryBytes))

def NodeConfiguration.codec : Codec NodeConfiguration :=
  (NodeLocation.codec.pair NodeResource.codec).imap
    (fun (location, resource) => { location, resource })
    (fun c => (c.location, c.resource))

def NodeVersion.codec : Codec NodeVersion :=
  (Codec.text.pair .text).imap
    (fun (version, buildInfo) => { version, buildInfo })
    (fun v => (v.version, v.buildInfo))

def Registration.codec : Codec Registration :=
  (Codec.text.pair (NodeConfiguration.codec.pair NodeVersion.codec)).imap
    (fun (clusterName, configuration, version) => { clusterName, configuration, version })
    (fun r => (r.clusterName, r.configuration, r.version))

namespace ConfigRequest

def choice : Choice (Registration ⊕ Registration ⊕ NodeLocation ⊕ NodeId) :=
  .or (.only Registration.codec) <| .or (.only Registration.codec) <|
    .or (.only NodeLocation.codec) (.only .i32)

def ofSum : Registration ⊕ Registration ⊕ NodeLocation ⊕ NodeId → ConfigRequest
  | .inl r               => registerNode r
  | .inr (.inl r)        => restartNode r
  | .inr (.inr (.inl l)) => removeNode l
  | .inr (.inr (.inr n)) => getNodeConfiguration n

def toSum : ConfigRequest → Registration ⊕ Registration ⊕ NodeLocation ⊕ NodeId
  | registerNode r         => .inl r
  | restartNode r          => .inr (.inl r)
  | removeNode l           => .inr (.inr (.inl l))
  | getNodeConfiguration n => .inr (.inr (.inr n))

def codec : Codec ConfigRequest := choice.codec.imap ofSum toSum

end ConfigRequest

namespace ConfigResponse

abbrev Parts : Type :=
  (Status × List Endpoint × NodeId) ⊕ (Status × List Endpoint) ⊕ Status ⊕
    (Status × KeyMap NodeId NodeConfiguration)

def choice : Choice Parts :=
  .or (.only (Status.codec.pair (Endpoint.codec.list.pair .i32))) <|
    .or (.only (Status.codec.pair Endpoint.codec.list)) <|
    .or (.only Status.codec) (.only (Status.codec.pair (.keyMap .i32 NodeConfiguration.codec)))

def ofParts : Parts → ConfigResponse
  | .inl (s, ns, id)          => registered s ns id
  | .inr (.inl (s, ns))       => restarted s ns
  | .inr (.inr (.inl s))      => removed s
  | .inr (.inr (.inr (s, m))) => configuration s m

def toParts : ConfigResponse → Parts
  | registered s ns id => .inl (s, ns, id)
  | restarted s ns     => .inr (.inl (s, ns))
  | removed s          => .inr (.inr (.inl s))
  | configuration s m  => .inr (.inr (.inr (s, m)))

def codec : Codec ConfigResponse := choice.codec.imap ofParts toParts

end ConfigResponse

namespace DataRequest

def choice : Choice ((String × UInt32 × UInt64) ⊕ (Int64 × UInt32)) :=
  .or (.only (Codec.text.pair (Codec.u32.pair .u64))) (.only (Codec.i64.pair .u32))

def ofSum : (String × UInt32 × UInt64) ⊕ (Int64 × UInt32) → DataRequest
  | .inl (query, size, timeout) => fetchTimeseries query size timeout
  | .inr (id, size)             => fetchMoreData id size

def toSum : DataRequest → (String × UInt32 × UInt64) ⊕ (Int64 × UInt32)
  | fetchTimeseries query size timeout => .inl (query, size, timeout)
  | fetchMoreData id size              => .inr (id, size)

def codec : Codec DataRequest := choice.codec.imap ofSum toSum

end DataRequest

namespace ColumnType

def index : ColumnType → Nat
  | boolean => 0
  | int32   => 1
  | int64   => 2
  | float   => 3
  | double  => 4
  | text    => 5

def ofIndex (i : Nat) : ColumnType :=
  all.getD i text

def codec : Codec ColumnType := (Codec.variant 6).imap ofIndex index

end ColumnType

def RawRow.codec : Codec RawRow :=
  (Codec.i64.pair Codec.bytes.option.list).imap
    (fun (timestamp, cells) => { timestamp, cells })
    (fun r => (r.timestamp, r.cells))

def FirstPage.codec : Codec FirstPage :=
  (Status.codec.pair <| Codec.i64.pair <| Codec.text.list.pair <| ColumnType.codec.list.pair <|
    (Codec.keyMap .text .u64).pair <| RawRow.codec.list.pair .bool).imap
    (fun (status, queryId, columnNames, columnTypes, columnIndex, rows, hasMore) =>
      { status, queryId, columnNames, columnTypes, columnIndex, rows, hasMore })
    (fun p => (p.status, p.queryId, p.columnNames, p.columnTypes, p.columnIndex, p.rows, p.hasMore))

def NextPage.codec : Codec NextPage :=
  (Status.codec.pair (RawRow.codec.list.pair .bool)).imap
    (fun (status, rows, hasMore) => { status, rows, hasMore })
    (fun p => (p.status, p.rows, p.hasMore))

namespace DataResponse

def ofSum : FirstPage ⊕ NextPage → DataResponse
  | .inl page => timeseries page
  | .inr page => moreData page

def toSum : DataResponse → FirstPage ⊕ NextPage
  | timeseries page => .inl page
  | moreData page   => .inr page

def codec : Codec DataResponse :=
  (Choice.codec (.or (.only FirstPage.codec) (.only NextPage.codec))).imap ofSum toSum

end DataResponse

end ClusterClient
