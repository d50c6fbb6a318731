import ClusterClient.Network.Basic
import ClusterClient.Network.Connection
import ClusterClient.Wire.Message

namespace ClusterClient

open Wire

namespace Loopback

-- A response of either service.
inductive Response where
  | config (r : ConfigResponse)
  | data (r : DataResponse)
  deriving DecidableEq

def Response.put (f : Format) : Response → Bytes
  | config r => ConfigResponse.codec.put f r
  | data r => DataResponse.codec.put f r

-- What a node does with a request: it sends bytes as they are, then a frame, then an answer, each if
-- there is one, and then it may close the connection.
structure Action where
  raw : Bytes := []
  frame : Option Bytes := none
  reply : Option Response := none
  -- The format of the answer, if it is not that of the request.
  format : Option Format := none
  -- Added to the correlation id of the request.
  idOffset : UInt32 := 0
  closing : Bool := false
  deriving DecidableEq

-- The header of a request, as a node reads it.
structure Header where
  format : Format
  id : UInt32

-- A request whose header makes no sense counts as one in the binary format with the id 0.
def Header.ofRequest : Bytes → Header
  | f :: b₃ :: b₂ :: b₁ :: b₀ :: _ =>
    { format := (Format.ofByte? f).getD .binary, id := UInt32.ofNat (bigValue [b₃, b₂, b₁, b₀]) }
  | _ => { format := .binary, id := 0 }

def Action.answer (a : Action) (h : Header) : Bytes :=
  match a.reply with
  | none => []
  | some r =>
    let f := a.format.getD h.format
    Connection.withLength (Frame.header f (h.id + a.idOffset) ++ r.put f)

-- The bytes that an action sends.
def Action.output (a : Action) (h : Header) : Bytes :=
  a.raw ++ (a.frame.map Connection.withLength).getD [] ++ a.answer h

-- A bound for the number of bytes that an action sends, whatever the request.
def Action.volume (a : Action) : Nat :=
  (a.output { format := .binary, id := 0 }).length + (a.output { format := .compact, id := 0 }).length

theorem Action.length_output_le (a : Action) (h : Header) : (a.output h).length ≤ a.volume := by
  have key : (a.output h).length = (a.output { format := h.format, id := 0 }).length := by
    rcases a with ⟨raw, frame, reply, format, idOffset, closing⟩
    cases reply <;>
      simp [output, answer, Connection.withLength, Frame.header, putBig, length_putFixed]
  rw [key, volume]
  cases h.format <;> omega

structure Node where
  -- Whether the node accepts connections.
  isUp : Bool := true
  script : List Action := []
  -- The request frames that have reached the node.
  received : List Bytes := []

-- A node takes its next action on a request, on a connection that it has not closed before.
def Node.react (written : Bytes) (s : Stream) (n : Node) : Stream × Node :=
  if s.ended then (s, n)
  else
    let frame := written.drop 4
    let action := n.script.headD { closing := true }
    ({ incoming := s.incoming ++ action.output (.ofRequest frame), ended := action.closing },
      { n with script := n.script.tail, received := n.received ++ [frame] })

def Node.volume (n : Node) : Nat :=
  n.script.foldr (fun a v => a.volume + v) 0

end Loopback

structure Loopback where
  -- Why the network as a whole cannot be used, if that is so.
  down : Option String := none
  nodes : List Loopback.Node

namespace Loopback

variable {Req Resp : Type}

-- The number of the node that an endpoint stands for.
def nodeNumber? (e : Endpoint) : Option Nat :=
  match e.host.toList with
  | '@' :: digits =>
    if digits ≠ [] ∧ digits.all Char.isDigit then some (Nat.ofDigitChars 10 digits 0) else none
  | _ => none

def node? (l : Loopback) (e : Endpoint) : Option Node :=
  (nodeNumber? e).bind (l.nodes[·]?)

def connect (config : TransportConfig) (format : Format) (e : Endpoint) (l : Loopback) :
    Except ClientError Connection × Loopback :=
  let result := match l.down, l.node? e with
    | some reason, _ => .error (.connectFailure e reason)
    | none, some node =>
      if node.isUp then .ok { endpoint := e, format, config }
      else .error (.connectFailure e "Connection refused (os error 111)")
    | none, none =>
      .error (.connectFailure e
        "failed to lookup address information: Temporary failure in name resolution")
  (result, l)

-- What the node at an endpoint does to the stream of a connection.
def peer (e : Endpoint) (written : Bytes) (s : Stream) (l : Loopback) : Stream × Loopback :=
  match nodeNumber? e with
  | none => (s, l)
  | some i =>
    match l.nodes[i]? with
    | none => (s, l)
    | some node =>
      let (s, node) := node.react written s
      (s, { l with nodes := l.nodes.set i node })

-- A caller who would wait less long than the connection gives up before it does.
def call (request : Codec Req) (response : Codec Resp) (c : Connection) (req : Req)
    (limit : Option Duration) (l : Loopback) : Reply Resp × Connection × Loopback :=
  match c.send request response (peer c.endpoint) req l with
  | (.ok r, c, l) => (.answered r, c, l)
  | (.error (.timeout text), c, l) =>
    if limit.any fun d => ¬c.config.requestTimeout ≤ d then (.silent, c, l)
    else (.failed (.timeout text), c, l)
  | (.error e, c, l) => (.failed e, c, l)

-- A bound for the number of bytes that the scripts may still send.
def volume (nodes : List Node) : Nat :=
  nodes.foldr (fun n v => n.volume + v) 0

-- The bytes that have arrived on a connection and those that the scripts may still send.
def supply (c : Connection) (l : Loopback) : Nat :=
  c.stream.elim 0 (·.incoming.length) + volume l.nodes

theorem Node.volume_react_le (written : Bytes) (s : Stream) (n : Node) :
    (n.react written s).1.incoming.length + (n.react written s).2.volume ≤
      s.incoming.length + n.volume := by
  simp only [react]
  split
  case isTrue => simp
  case isFalse =>
    cases hs : n.script with
    | nil => simp [volume, hs, Action.output, Action.answer]
    | cons a rest =>
      have hl := a.length_output_le (.ofRequest (written.drop 4))
      simp [volume, hs]
      omega

theorem volume_set {nodes : List Node} {i : Nat} {n m : Node} (h : nodes[i]? = some n) :
    volume (nodes.set i m) + n.volume = volume nodes + m.volume := by
  induction nodes generalizing i with
  | nil => simp at h
  | cons k nodes ih =>
    simp only [volume] at ih
    cases i with
    | zero => simp at h; simp [volume, h]; omega
    | succ i => simp at h; have := ih h; simp [volume]; omega

theorem supply_peer_le (e : Endpoint) (written : Bytes) (s : Stream) (l : Loopback) :
    (peer e written s l).1.incoming.length + volume (peer e written s l).2.nodes ≤
      s.incoming.length + volume l.nodes := by
  simp only [peer]
  split
  case h_1 => simp
  case h_2 =>
    split
    case h_1 => simp
    case h_2 node hn =>
      have hr := node.volume_react_le written s
      have hv := volume_set (m := (node.react written s).2) hn
      simp only
      omega

theorem length_readFrame {limit : Nat} {s s' : Stream} {frame : Bytes}
    (h : s.readFrame limit = .ok (frame, s')) : s'.incoming.length < s.incoming.length := by
  simp only [Stream.readFrame, Stream.read] at h
  split at h
  case isTrue =>
    simp only [bind, Except.bind] at h
    split at h
    case isTrue => cases h
    case isFalse =>
      split at h
      case isTrue => cases h; simp; omega
      case isFalse => cases h
  case isFalse => cases h

theorem supply_call_lt {request : Codec Req} {response : Codec Resp} {c c' : Connection} {req : Req}
    {limit : Option Duration} {l l' : Loopback} {r : Resp}
    (h : call request response c req limit l = (.answered r, c', l')) : supply c' l' < supply c l := by
  have hs : c.send request response (peer c.endpoint) req l = (.ok r, c', l') := by
    simp only [call] at h
    split at h
    case h_1 => simp_all
    case h_2 => split at h <;> cases h
    case h_3 => cases h
  obtain ⟨s, written, frame, s', hc, hr, hc', hl⟩ := Connection.stream_of_send hs
  have hp := supply_peer_le c.endpoint written s l
  have hf := length_readFrame hr
  simp only [supply, hc, hc', hl, Option.elim]
  omega

-- Connections of both services are opened with the same values.
def network (request : Codec Req) (response : Codec Resp) (config : TransportConfig)
    (format : Format) : FiniteNetwork Loopback Connection Req Resp where
  endpoint := Connection.endpoint
  isOpen := Connection.isOpen
  connect := connect config format
  call := call request response
  close c l := (c.close, l)
  wait _ l := l
  supply := supply
  supply_lt := supply_call_lt

end Loopback

end ClusterClient
