import ClusterClient.Network.Loopback
import ClusterClient.Proofs.Network.Connection
import ClusterClient.Proofs.Network.Stream
import ClusterClient.Proofs.Wire.Frame
import Mathlib

namespace ClusterClient

open Wire Connection

-- Somebody who sends bytes whenever something is written, and may end the stream then.
structure Peer (σ : Type) where
  act : (written : Bytes) → σ → (Bytes × Bool) × σ

-- A peer, and all that has gone over the line to it and from it.
structure Line (σ : Type) where
  peer : σ
  written : List Bytes := []
  arrived : Bytes := []

namespace Peer

variable {σ : Type} (p : Peer σ) (written : Bytes) (s : Stream) (l : Line σ)

-- Nothing comes from a peer that has ended the stream.
def react : Stream × Line σ :=
  if s.ended then (s, { l with written := l.written ++ [written] })
  else
    let ((bytes, ended), peer) := p.act written l.peer
    ({ incoming := s.incoming ++ bytes, ended },
      { peer, written := l.written ++ [written], arrived := l.arrived ++ bytes })

theorem react_written : (p.react written s l).2.written = l.written ++ [written] := by
  simp only [react]
  split <;> rfl

theorem react_arrived :
    ∃ bytes, (p.react written s l).1.incoming = s.incoming ++ bytes ∧
      (p.react written s l).2.arrived = l.arrived ++ bytes := by
  simp only [react]
  split
  case isTrue => exact ⟨[], by simp⟩
  case isFalse => exact ⟨_, rfl, rfl⟩

theorem react_prefix : l.arrived <+: (p.react written s l).2.arrived := by
  have ⟨bytes, _, h⟩ := p.react_arrived written s l
  exact ⟨bytes, h.symm⟩

theorem react_inStep {read : Nat} (h : Stream.InStep read l.arrived s.incoming) :
    Stream.InStep read (p.react written s l).2.arrived (p.react written s l).1.incoming := by
  have ⟨bytes, hs, hl⟩ := p.react_arrived written s l
  exact hs ▸ hl ▸ h.append bytes

end Peer

-- A node of a loopback network, as somebody who sends bytes.
def Loopback.Node.peer : Peer Loopback.Node where
  act written n :=
    let frame := written.drop 4
    let action := n.script.headD { closing := true }
    ((action.output (.ofRequest frame), action.closing),
      { n with script := n.script.tail, received := n.received ++ [frame] })

theorem Loopback.Node.react_eq (written : Bytes) (s : Stream) (l : Line Loopback.Node) :
    l.peer.react written s =
      ((Loopback.Node.peer.react written s l).1, (Loopback.Node.peer.react written s l).2.peer) := by
  simp only [react, Peer.react]
  split <;> rfl

-- A call over a loopback network is one with the node at its endpoint.
theorem Loopback.send_eq {Req Resp : Type} (request : Codec Req) (response : Codec Resp) (req : Req) (c : Connection)
    {l : Loopback} {i : Nat} (line : Line Loopback.Node) (hi : nodeNumber? c.endpoint = some i)
    (hn : l.nodes[i]? = some line.peer) :
    c.send request response (peer c.endpoint) req l =
      let (result, c', line') := c.send request response Loopback.Node.peer.react req line
      (result, c', { l with nodes := l.nodes.set i line'.peer }) := by
  have hp (written : Bytes) (s : Stream) : peer c.endpoint written s l =
      ((Loopback.Node.peer.react written s line).1,
        { l with nodes := l.nodes.set i (Loopback.Node.peer.react written s line).2.peer }) := by
    simp only [peer, hi, hn, Loopback.Node.react_eq]
  -- A call that does not reach its node leaves it as it was.
  have hl : { l with nodes := l.nodes.set i line.peer } = l := by
    obtain ⟨hlt, he⟩ := List.getElem?_eq_some_iff.mp hn
    rw [← he, List.set_getElem_self]
  simp only [Connection.send, hp]
  cases Frame.encode request { format := c.format, id := c.nextId, message := req }
  case error => simp only [hl]
  case ok =>
    cases c.stream
    case none => simp only [hl]
    case some => simp only; split <;> rfl

structure Session.Request : Type 1 where
  {Req Resp : Type}
  request : Codec Req
  response : Codec Resp
  message : Req

namespace Session

def Request.frame (r : Request) (f : Format) (id : UInt32) : Except WireError Bytes :=
  Frame.encode r.request { format := f, id, message := r.message }

inductive Command : Type 1
  | send (r : Request)
  | close

def Command.request? : Command → Option Request
  | send r => some r
  | close => none

structure Call : Type 1 where
  request : Request
  wasOpen : Bool

-- What is written for the call with the given number, if anything is.
def Call.output? (f : Format) (c : Call) (number : Nat) : Option Bytes :=
  if c.wasOpen then (c.request.frame f (UInt32.ofNat number)).toOption.map withLength else none

-- The bytes that are written for an open connection's call with the given number: the length of the frame, the byte
-- of the format, the number, and the payload.
structure Call.Writes (f : Format) (c : Call) (number : Nat) (bytes : Bytes) : Prop where
  wasOpen  : c.wasOpen
  fits     : 5 + c.request.request.size f c.request.message ≤ 67108864
  bytes_eq : let frame := f.byte :: bigEndian (UInt32.ofNat number) ++ c.request.request.put f c.request.message
             bytes = bigEndian (UInt32.ofNat frame.length) ++ frame

theorem Request.frame_eq_ok_iff {r : Request} {f : Format} {id : UInt32} {bytes : Bytes} :
    r.frame f id = .ok bytes ↔
      5 + r.request.size f r.message ≤ 67108864 ∧ bytes = f.byte :: bigEndian id ++ r.request.put f r.message := by
  have hb : Frame.bytes r.request { format := f, id, message := r.message } =
      f.byte :: bigEndian id ++ r.request.put f r.message := by
    rw [Frame.bytes, Frame.header, putBig_four, UInt32.ofNat_toNat]
  have hs : Frame.size r.request { format := f, id, message := r.message } = 5 + r.request.size f r.message := rfl
  have hm : Frame.maxSize = 67108864 := rfl
  rw [frame, Frame.encode_eq, hb, hs, hm]
  split
  case isTrue h  => simp [Nat.not_le.mpr h]
  case isFalse h => simp [Nat.not_lt.mp h, @eq_comm _ bytes]

theorem Call.output?_eq_some_iff {f : Format} {c : Call} {number : Nat} {bytes : Bytes} :
    c.output? f number = some bytes ↔ c.Writes f number bytes := by
  have hl (frame : Bytes) : withLength frame = bigEndian (UInt32.ofNat frame.length) ++ frame := by
    rw [withLength, putBig_four]
  constructor
  case mp =>
    intro h
    rcases hf : c.request.frame f (UInt32.ofNat number) with _ | frame <;>
      simp only [output?, hf, Except.toOption, Option.map_none, Option.map_some, ite_self, reduceCtorEq,
        Option.ite_none_right_eq_some, Option.some.injEq] at h
    obtain ⟨ho, rfl⟩ := h
    obtain ⟨hs, rfl⟩ := Request.frame_eq_ok_iff.mp hf
    exact ⟨ho, hs, hl _⟩
  case mpr =>
    rintro ⟨ho, hs, hb⟩
    simp only [output?, ho, Request.frame_eq_ok_iff.mpr ⟨hs, rfl⟩, Except.toOption, Option.map_some, if_true, hl, hb]

end Session

-- A connection, its line, and the calls that were made on it.
structure Session (σ : Type) : Type 1 where
  connection : Connection
  line : Line σ
  calls : List Session.Call := []

namespace Session

variable {σ : Type}

def start (endpoint : Endpoint) (format : Format) (config : TransportConfig) (peer : σ) : Session σ where
  connection := { endpoint, format, config }
  line := { peer }

def send (p : Peer σ) (r : Request) (s : Session σ) : Except ClientError r.Resp × Session σ :=
  let (result, connection, line) := s.connection.send r.request r.response p.react r.message s.line
  (result, { connection, line, calls := s.calls ++ [{ request := r, wasOpen := s.connection.isOpen }] })

def step (p : Peer σ) (s : Session σ) : Command → Session σ
  | .send r => (s.send p r).2
  | .close => { s with connection := s.connection.close }

def run (p : Peer σ) (history : List Command) (s : Session σ) : Session σ :=
  history.foldl (step p) s

-- What is written for calls that are numbered from 1 on.
def outputs (f : Format) (calls : List Call) : List Bytes :=
  (calls.zipIdx 1).filterMap fun (call, number) => call.output? f number

theorem outputs_concat (f : Format) (calls : List Call) (call : Call) :
    outputs f (calls ++ [call]) = outputs f calls ++ (call.output? f (calls.length + 1)).toList := by
  simp only [outputs, List.zipIdx_append, List.filterMap_append, Nat.add_comm 1]
  cases h : call.output? f (calls.length + 1) <;> simp [h]

variable {p : Peer σ}

-- What holds between any two calls: the number of frames taken from the stream is the number of requests
-- written, as long as there is a stream.
structure Invariant (f : Format) (config : TransportConfig) (s : Session σ) : Prop where
  format  : s.connection.format = f
  config  : s.connection.config = config
  nextId  : s.connection.nextId = UInt32.ofNat (s.calls.length + 1)
  written : s.line.written = outputs f s.calls
  inStep  : ∀ st ∈ s.connection.stream, Stream.InStep s.line.written.length s.line.arrived st.incoming

namespace Invariant

variable {f : Format} {config : TransportConfig} {s : Session σ}

theorem start (endpoint : Endpoint) (peer : σ) : (start endpoint f config peer).Invariant f config where
  format  := rfl
  config  := rfl
  nextId  := rfl
  written := rfl
  inStep st h := by
    cases h
    exact ⟨[], rfl, by simp, rfl⟩

theorem close (h : s.Invariant f config) :
    Invariant f config { s with connection := s.connection.close } where
  format  := h.format
  config  := h.config
  nextId  := h.nextId
  written := h.written
  inStep  := by simp [Connection.close]

-- What the peer has sent by the end of a call keeps step with the requests that were written before.
theorem exists_readFrame_iff (h : s.Invariant f config) {st st' : Stream} {line : Line σ}
    {written frame : Bytes} (hst : s.connection.stream = some st)
    (hp : p.react written st s.line = (st', line)) :
    (∃ rest, st'.readFrame config.maxFrameSize.toNat = .ok (frame, rest)) ↔
      (Stream.frames line.arrived)[s.line.written.length]? = some frame ∧
        frame.length ≤ config.maxFrameSize.toNat := by
  have hi := p.react_inStep written st s.line (h.inStep st hst)
  rw [hp] at hi
  exact hi.exists_readFrame_iff

theorem send_eq_ok_iff (h : s.Invariant f config) (r : Request) (v : r.Resp) :
    let id := UInt32.ofNat (s.calls.length + 1)
    (s.send p r).1 = .ok v ↔
      s.connection.isOpen ∧ (∃ bytes, r.frame f id = .ok bytes) ∧
        ∃ frame, (Stream.frames (s.send p r).2.line.arrived)[s.line.written.length]? = some frame ∧
          frame.length ≤ config.maxFrameSize.toNat ∧
          Frame.decode r.response frame = .ok { format := f, id, message := v } := by
  obtain ⟨result, c', l', he, hs⟩ :=
    send_cases r.request r.response p.react r.message s.connection s.line
  simp only [send, he, Request.frame, ← h.nextId, ← h.format]
  cases hs
  case unencodable hf => simp [hf]
  case closed hf hst => simp [hf, isOpen, hst]
  case broken hf hst hr hp =>
    -- Had the frame arrived in full, the stream would have given it.
    simp only [reduceCtorEq, false_iff]
    intro ⟨_, _, frame, hg, hlim, _⟩
    have ⟨_, hok⟩ := (h.exists_readFrame_iff hst hp).mpr ⟨hg, hlim⟩
    simp [← h.config, hr] at hok
  case answered frame answer st st₁ st₂ hf hst hr hp =>
    rw [accept_eq_ok_iff]
    rw [h.config] at hr
    constructor
    case mp =>
      intro hd
      have ⟨hg, hlim⟩ := (h.exists_readFrame_iff hst hp).mp ⟨_, hr⟩
      exact ⟨by simp [isOpen, hst], ⟨_, hf⟩, answer, hg, hlim, hd⟩
    case mpr =>
      intro ⟨_, _, frame, hg, hlim, hd⟩
      have ⟨_, hok⟩ := (h.exists_readFrame_iff hst hp).mpr ⟨hg, hlim⟩
      cases hr.symm.trans hok
      exact hd

theorem isOpen_send_iff (h : s.Invariant f config) (r : Request) :
    let id := UInt32.ofNat (s.calls.length + 1)
    (s.send p r).2.connection.isOpen ↔
      s.connection.isOpen ∧ ((∃ e, r.frame f id = .error e) ∨
        ∃ frame, (Stream.frames (s.send p r).2.line.arrived)[s.line.written.length]? = some frame ∧
          frame.length ≤ config.maxFrameSize.toNat ∧ Matches r.response f id frame) := by
  obtain ⟨result, c', l', he, hs⟩ :=
    send_cases r.request r.response p.react r.message s.connection s.line
  simp only [send, he, Request.frame, ← h.nextId, ← h.format]
  cases hs
  case unencodable hf => simp [hf, isOpen, next]
  case closed hf hst => simp [isOpen, hst, next]
  case broken hf hst hr hp =>
    simp only [hf, isOpen, Connection.close, Option.isSome_none, Bool.false_eq_true, false_iff]
    intro ⟨_, hor⟩
    cases hor
    case inl he => have ⟨_, he⟩ := he; contradiction
    case inr hf =>
      have ⟨_, hg, hlim, _⟩ := hf
      have ⟨_, hok⟩ := (h.exists_readFrame_iff hst hp).mpr ⟨hg, hlim⟩
      simp [← h.config, hr] at hok
  case answered frame answer st st₁ st₂ hf hst hr hp =>
    rw [h.config] at hr
    have ⟨hg, hlim⟩ := (h.exists_readFrame_iff hst hp).mp ⟨_, hr⟩
    by_cases hm : Matches r.response s.connection.format s.connection.nextId answer
    case pos =>
      rw [accept_of_matches (c := s.connection.next.receive st₂) hm]
      simp [isOpen, hst, receive, hg, hlim, hm]
    case neg =>
      rw [accept_of_not_matches (c := s.connection.next.receive st₂) hm]
      simp [isOpen, hst, hf, Connection.close, hg, hm]

-- A call adds to what was written at most its own frame.
theorem outputs_send (h : s.Invariant f config) (r : Request) :
    outputs f (s.calls ++ [{ request := r, wasOpen := s.connection.isOpen }]) =
      s.line.written ++
        if s.connection.isOpen then
          match Frame.encode r.request
            { format := s.connection.format, id := s.connection.nextId, message := r.message } with
          | .ok frame => [withLength frame]
          | .error _ => []
        else [] := by
  rw [outputs_concat, ← h.written, Call.output?, Request.frame, h.nextId, h.format]
  split
  case isTrue => cases Frame.encode r.request _ <;> rfl
  case isFalse => rfl

theorem send (h : s.Invariant f config) (r : Request) : (s.send p r).2.Invariant f config := by
  obtain ⟨result, c', l', he, hs⟩ :=
    send_cases r.request r.response p.react r.message s.connection s.line
  have hc := hs.follows
  -- Format, configuration and id go the same way in all cases, so only the line is left to them.
  suffices hl : l'.written = outputs f (s.calls ++ [{ request := r, wasOpen := s.connection.isOpen }]) ∧
      ∀ st ∈ c'.stream, Stream.InStep l'.written.length l'.arrived st.incoming by
    simp only [Session.send, he]
    exact {
      format  := hc.format.trans h.format
      config  := hc.config.trans h.config
      nextId  := by
        rw [hc.nextId, h.nextId, List.length_append]
        exact (UInt32.ofNat_add (s.calls.length + 1) 1).symm
      written := hl.left
      inStep  := hl.right
    }
  rw [h.outputs_send]
  cases hs
  case unencodable hf => exact ⟨by simp [hf], h.inStep⟩
  case closed hf hst => exact ⟨by simp [isOpen, hst], h.inStep⟩
  case broken frame st _ _ _ hf hst hr hp =>
    have hw : l'.written = s.line.written ++ [withLength frame] := by
      simpa only [hp] using p.react_written (withLength frame) st s.line
    exact ⟨by simp [isOpen, hst, hf, hw], by simp [Connection.close]⟩
  case answered frame answer st st₁ st₂ hf hst hr hp =>
    have hw : l'.written = s.line.written ++ [withLength frame] := by
      simpa only [hp] using p.react_written (withLength frame) st s.line
    have hi := p.react_inStep (withLength frame) st s.line (h.inStep st hst)
    simp only [hp] at hi
    refine ⟨by simp [isOpen, hst, hf, hw], ?_⟩
    rw [hw, List.length_append]
    cases accept_snd (c := s.connection.next.receive st₂)
    case inl ha =>
      rw [ha]
      intro _ h₂
      cases h₂
      exact hi.succ_of_readFrame hr
    case inr ha => rw [ha]; simp [Connection.close]

theorem step (h : s.Invariant f config) : (c : Command) → (s.step p c).Invariant f config
  | .send r => h.send r
  | .close => h.close

theorem run (h : s.Invariant f config) (history : List Command) :
    (s.run p history).Invariant f config := by
  induction history generalizing s
  case nil => exact h
  case cons c _ hi => exact hi (h.step c)

end Invariant

theorem arrived_send (r : Request) (s : Session σ) : s.line.arrived <+: (s.send p r).2.line.arrived := by
  obtain ⟨result, c', l', he, hs⟩ :=
    send_cases r.request r.response p.react r.message s.connection s.line
  simp only [send, he]
  cases hs
  case unencodable | closed => exact List.prefix_rfl
  case broken hp | answered hp =>
    have ha := congrArg (·.2.arrived) hp
    exact ha ▸ p.react_prefix ..

theorem arrived_run (history : List Command) (s : Session σ) :
    s.line.arrived <+: (s.run p history).line.arrived := by
  induction history generalizing s
  case nil => exact List.prefix_rfl
  case cons c _ hi =>
    refine List.IsPrefix.trans ?_ (hi (s.step p c))
    cases c
    case send r => exact arrived_send r s
    case close => exact List.prefix_rfl

theorem calls_run (history : List Command) (s : Session σ) :
    (s.run p history).calls.map (·.request) =
      s.calls.map (·.request) ++ history.filterMap Command.request? := by
  induction history generalizing s
  case nil => simp [run]
  case cons c _ hi =>
    refine (hi (s.step p c)).trans ?_
    cases c <;> simp [step, send, Command.request?, List.filterMap_cons]

-- How a session stands, and what a further call comes to. Calls are numbered from 1 on, and the frame that
-- is taken for an answer has as many frames before it as there are requests written before the call.
structure Sound (f : Format) (config : TransportConfig) (p : Peer σ) (s : Session σ) : Prop where
  written   : s.line.written = outputs f s.calls
  consumed  : ∀ st ∈ s.connection.stream,
                s.line.written.length ≤ (Stream.frames s.line.arrived).length ∧
                s.line.arrived =
                  ((Stream.frames s.line.arrived).take s.line.written.length).flatMap withLength ++ st.incoming
  stable    : ∀ later, Stream.frames s.line.arrived <+: Stream.frames (s.run p later).line.arrived
  answered  : ∀ (r : Request) (v : r.Resp),
                let id := UInt32.ofNat (s.calls.length + 1)
                (s.send p r).1 = .ok v ↔
                  s.connection.isOpen ∧ (∃ bytes, r.frame f id = .ok bytes) ∧
                    ∃ frame,
                      (Stream.frames (s.send p r).2.line.arrived)[s.line.written.length]? = some frame ∧
                      frame.length ≤ config.maxFrameSize.toNat ∧
                      Frame.decode r.response frame = .ok { format := f, id, message := v }
  staysOpen : ∀ r : Request,
                let id := UInt32.ofNat (s.calls.length + 1)
                (s.send p r).2.connection.isOpen ↔
                  s.connection.isOpen ∧ ((∃ e, r.frame f id = .error e) ∨
                    ∃ frame,
                      (Stream.frames (s.send p r).2.line.arrived)[s.line.written.length]? = some frame ∧
                      frame.length ≤ config.maxFrameSize.toNat ∧ Matches r.response f id frame)

theorem Invariant.sound {f : Format} {config : TransportConfig} {s : Session σ}
    (h : s.Invariant f config) : s.Sound f config p where
  written      := h.written
  consumed _ h' := (h.inStep _ h').eq_take_frames
  stable later := by
    have ⟨bytes, ha⟩ : s.line.arrived <+: (s.run p later).line.arrived := arrived_run later s
    exact ha ▸ Stream.frames_prefix ..
  answered     := h.send_eq_ok_iff
  staysOpen    := h.isOpen_send_iff

-- Requests and answers stay in step, whatever a peer sends and whenever it does: a session is closed before the bytes of
-- one answer could be taken for those of another.
theorem run_sound (p : Peer σ) (peer : σ) (endpoint : Endpoint) (f : Format) (config : TransportConfig)
    (history : List Command) :
    let s := (start endpoint f config peer).run p history
    s.calls.map (·.request) = history.filterMap Command.request? ∧
    (∀ (call : Call) (number : Nat) (bytes : Bytes),
      call.output? f number = some bytes ↔ call.Writes f number bytes) ∧
    s.Sound f config p := by
  intro s
  exact ⟨calls_run history _, fun _ _ _ => Call.output?_eq_some_iff,
    ((Invariant.start endpoint peer).run history).sound⟩

-- The first answer cannot be decoded, the second one can, and the third one is for another request.
theorem run_sound_scripted :
    let p := Loopback.Node.peer
    let r : Request := ⟨ConfigRequest.codec, ConfigResponse.codec, .getNodeConfiguration 7⟩
    let removed : Loopback.Action := { reply := some (.config (.removed .success)) }
    let node : Loopback.Node := {
      script := [{ frame := some [0, 0, 0, 0, 2] }, removed, { removed with idOffset := 1 }]
    }
    let s := start ⟨"@0", 0⟩ .binary ({} : ClientConfig).transport node
    let s₁ := s.run p [.send r]
    let s₂ := s.run p [.send r, .send r]
    s₂.line.written =
        [[0, 0, 0, 13, 0, 0, 0, 0, 1, 3, 0, 0, 0, 7, 0, 0, 0], [0, 0, 0, 13, 0, 0, 0, 0, 2, 3, 0, 0, 0, 7, 0, 0, 0]] ∧
      s₁.connection.isOpen ∧ (s₁.send p r).1 = .ok (.removed .success) ∧ s₂.connection.isOpen ∧
      ¬(s₂.send p r).2.connection.isOpen := by
  intro p r removed node s s₁ s₂
  have h₁ : s₁.Sound .binary ({} : ClientConfig).transport p := (run_sound p node _ _ _ [.send r]).right.right
  have h₂ : s₂.Sound .binary ({} : ClientConfig).transport p := (run_sound p node _ _ _ [.send r, .send r]).right.right
  have hw₁ : s₁.line.written.length = 1 ∧ UInt32.ofNat (s₁.calls.length + 1) = 2 := by decide
  have hw₂ : s₂.line.written.length = 2 ∧ UInt32.ofNat (s₂.calls.length + 1) = 3 := by decide
  let reply (id : UInt32) : Frame ConfigResponse := { format := .binary, id, message := .removed .success }
  let answer (id : UInt32) := (reply id).bytes ConfigResponse.codec
  have hd (id : UInt32) : Frame.decode ConfigResponse.codec (answer id) = .ok (reply id) := by
    have hs : 5 + ConfigResponse.codec.size .binary (.removed .success) ≤ Frame.maxSize := by decide +kernel
    have hs : (reply id).size ConfigResponse.codec ≤ Frame.maxSize := hs
    rw [← List.append_nil (answer id)]
    exact Frame.decode_bytes_append ConfigResponse.codec_faithful hs []
  have hf : (Stream.frames (s₁.send p r).2.line.arrived)[1]? = some (answer 2) := by
    have ha : (s₁.send p r).2.line.arrived = [[0, 0, 0, 0, 2], answer 2].flatMap withLength := by decide
    rw [ha, Stream.frames_flatMap (by decide)]
    rfl
  have hf' : (Stream.frames (s₂.send p r).2.line.arrived)[2]? = some (answer 4) := by
    have ha : (s₂.send p r).2.line.arrived = [[0, 0, 0, 0, 2], answer 2, answer 4].flatMap withLength := by decide
    rw [ha, Stream.frames_flatMap (by decide)]
    rfl
  have he (id : UInt32) : ∃ bytes, r.frame .binary id = .ok bytes :=
    ⟨_, Request.frame_eq_ok_iff.mpr ⟨by decide, rfl⟩⟩
  refine ⟨h₂.written.trans (by decide), by decide, (h₁.answered r (.removed .success)).mpr ?_, by decide, fun ho => ?_⟩
  case refine_1 =>
    rw [hw₁.left, hw₁.right]
    exact ⟨by decide, he 2, answer 2, hf, by decide +kernel, hd 2⟩
  case refine_2 =>
    have ⟨_, hs⟩ := (h₂.staysOpen r).mp ho
    rw [hw₂.left, hw₂.right, hf'] at hs
    obtain ⟨_, hn⟩ | ⟨_, hg, _, hm⟩ := hs
    case inl =>
      have ⟨_, he⟩ := he 3
      exact absurd (he.symm.trans hn) nofun
    case inr =>
      obtain rfl := Option.some.inj hg
      have ⟨_, hi⟩ := hm _ (hd 4)
      exact absurd hi (by decide)

end Session

end ClusterClient
