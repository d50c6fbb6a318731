import ClusterClient.Config.Basic
import ClusterClient.Wire.Frame

namespace ClusterClient

open Wire

-- What has arrived from a peer and was not read yet.
structure Stream where
  incoming : Bytes := []
  -- Whether the peer has ended the stream: nothing more will arrive.
  ended : Bool := false
  deriving DecidableEq, Repr

namespace Stream

-- Why no frame could be read.
inductive Fault where
  | ended
  | stalled
  | tooLarge (size : Nat)
  deriving DecidableEq, Repr

def read (n : Nat) (s : Stream) : Except Fault (Bytes × Stream) :=
  if n ≤ s.incoming.length then
    .ok (s.incoming.take n, { s with incoming := s.incoming.drop n })
  else
    .error (if s.ended then .ended else .stalled)

-- Reads one frame, of at most `limit` bytes, that has its length in front.
def readFrame (limit : Nat) (s : Stream) : Except Fault (Bytes × Stream) := do
  let (length, s) ← s.read 4
  let n := bigValue length
  if limit < n then throw (.tooLarge n)
  s.read n

end Stream

structure Connection where
  endpoint : Endpoint
  format : Format
  config : TransportConfig
  -- Absent once the connection is closed.
  stream : Option Stream := some {}
  -- Ids count up and wrap around after 32 bits.
  nextId : UInt32 := 1
  deriving DecidableEq

namespace Connection

variable {σ Req Resp : Type}

def isOpen (c : Connection) : Bool := c.stream.isSome

def close (c : Connection) : Connection := { c with stream := none }

-- A frame as it is written to the stream.
def withLength (frame : Bytes) : Bytes :=
  putBig 4 frame.length ++ frame

-- The answer that a frame holds for the request with the given id.
def accept (codec : Codec Resp) (id : UInt32) (c : Connection) (frame : Bytes) :
    Except ClientError Resp × Connection :=
  match Frame.decode codec frame with
  | .error e => (.error (.wire e), c)
  | .ok answer =>
    if answer.format ≠ c.format then
      (.error (.transport s!"wire format mismatch from {c.endpoint.render}: expected {c.format.name}, got {answer.format.name}"),
        c.close)
    else if answer.id ≠ id then
      (.error (.transport s!"correlation id mismatch from {c.endpoint.render}: expected {id.toNat}, got {answer.id.toNat}"),
        c.close)
    else (.ok answer.message, c)

def readFailure (c : Connection) : Stream.Fault → ClientError
  | .ended => .io "early eof"
  | .stalled =>
    .timeout s!"no response from {c.endpoint.render} within {c.config.requestTimeout.render}"
  | .tooLarge n => .responseTooLarge n c.config.maxFrameSize.toNat

-- Sends a request and reads the answer. The peer sees what is written, and by the time of the read it
-- has done to the stream what it will. A frame that is too large is refused before the stream is
-- looked at.
def send (request : Codec Req) (response : Codec Resp) (peer : Bytes → Stream → σ → Stream × σ)
    (req : Req) (c : Connection) (w : σ) : Except ClientError Resp × Connection × σ :=
  let id := c.nextId
  let c := { c with nextId := id + 1 }
  match Frame.encode request { format := c.format, id, message := req }, c.stream with
  | .error e, _ => (.error (.wire e), c, w)
  | .ok _, none => (.error (.transport s!"connection to {c.endpoint.render} is closed"), c, w)
  | .ok frame, some stream =>
    let (stream, w) := peer (withLength frame) stream w
    match stream.readFrame c.config.maxFrameSize.toNat with
    | .error fault => (.error (c.readFailure fault), c.close, w)
    | .ok (frame, stream) =>
      let (result, c) := { c with stream := some stream }.accept response id frame
      (result, c, w)

theorem eq_of_accept_ok {codec : Codec Resp} {id : UInt32} {c c' : Connection} {frame : Bytes}
    {r : Resp} (h : c.accept codec id frame = (.ok r, c')) : c' = c := by
  simp only [accept] at h
  split at h
  case h_1 => cases h
  case h_2 =>
    split at h
    case isTrue => cases h
    case isFalse => split at h <;> cases h; rfl

-- An answer was read from what the peer had made of the stream.
theorem stream_of_send {request : Codec Req} {response : Codec Resp}
    {peer : Bytes → Stream → σ → Stream × σ} {req : Req} {c c' : Connection} {w w' : σ} {r : Resp}
    (h : c.send request response peer req w = (.ok r, c', w')) :
    ∃ s written frame s', c.stream = some s ∧
      (peer written s w).1.readFrame c.config.maxFrameSize.toNat = .ok (frame, s') ∧
      c'.stream = some s' ∧ w' = (peer written s w).2 := by
  simp only [send] at h
  split at h
  case h_1 | h_2 => cases h
  case h_3 out s _ hs =>
    split at h
    case h_1 => cases h
    case h_2 frame s' hr =>
      simp only [Prod.mk.injEq] at h
      obtain ⟨hok, hc, hw⟩ := h
      have ha := eq_of_accept_ok (Prod.ext hok hc)
      exact ⟨s, withLength out, frame, s', hs, hr, by rw [ha], hw.symm⟩

end Connection

end ClusterClient
