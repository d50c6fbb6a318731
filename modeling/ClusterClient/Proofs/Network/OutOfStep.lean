import ClusterClient.Proofs.Network.Connection
import ClusterClient.Proofs.Network.Stream
import ClusterClient.Proofs.Wire.Frame
import Mathlib

namespace ClusterClient

open Wire

namespace Connection

-- The frame has another format or another id than its request.
def OutOfStep (f : Format) (id : UInt32) (frame : Bytes) : Prop :=
  frame.take Frame.headerSize ≠ Frame.header f id

instance (f : Format) (id : UInt32) (frame : Bytes) : Decidable (OutOfStep f id frame) :=
  inferInstanceAs (Decidable (_ ≠ _))

variable {σ Req Resp : Type}

-- What comes of a call whose answer is out of step. If the frame can be decoded, the connection is closed.
-- Otherwise it stays open, with the frame taken from the stream.
theorem send_outOfStep (request : Codec Req) (response : Codec Resp)
    (peer : Bytes → Stream → σ → Stream × σ) (req : Req) (c : Connection) (w : σ) {s s₁ : Stream} {w' : σ}
    {out frame rest : Bytes} (hs : c.stream = some s)
    (he : Frame.encode request { format := c.format, id := c.nextId, message := req } = .ok out)
    (hp : peer (withLength out) s w = (s₁, w')) (hi : s₁.incoming = withLength frame ++ rest)
    (hn : frame.length < 256 ^ 4) (hm : frame.length ≤ c.config.maxFrameSize.toNat)
    (ho : OutOfStep c.format c.nextId frame) :
    ∃ e c', c.send request response peer req w = (.error e, c', w') ∧
      match Frame.decode response frame with
      | .ok _ => c'.stream = none
      | .error fault => e = .wire fault ∧ c'.stream = some { s₁ with incoming := rest } := by
  have hr : s₁.readFrame c.config.maxFrameSize.toNat = .ok (frame, { s₁ with incoming := rest }) :=
    Stream.readFrame_eq_ok_iff.mpr ⟨⟨hi, hn⟩, hm, rfl⟩
  simp only [send, he, hs, hp, hr, accept]
  cases hd : Frame.decode response frame
  case error fault => exact ⟨_, _, rfl, rfl, rfl⟩
  case ok answer =>
    have hh : answer.format = c.format → answer.id ≠ c.nextId := by
      intro hf hi
      have ht := Frame.take_of_decode hd
      rw [hf, hi] at ht
      exact ho ht
    simp only
    split
    case isTrue => exact ⟨_, _, rfl, rfl⟩
    case isFalse hf =>
      rw [if_pos (hh (not_not.mp hf))]
      exact ⟨_, _, rfl, rfl⟩

-- The connection is closed, as the id is that of another request.
theorem send_outOfStep_closes :
    let c : Connection :=
      { endpoint := ⟨"a", 10710⟩, format := .binary, config := ({} : ClientConfig).transport }
    let req : ConfigRequest := .getNodeConfiguration 1
    let frame := Frame.header .binary 2 ++ ConfigResponse.codec.put .binary (.removed .success)
    let peer : Bytes → Stream → Unit → Stream × Unit :=
      fun _ s w => ({ s with incoming := s.incoming ++ withLength frame }, w)
    OutOfStep c.format c.nextId frame ∧
      ∃ e c', c.send ConfigRequest.codec ConfigResponse.codec peer req () = (.error e, c', ()) ∧
        match Frame.decode ConfigResponse.codec frame with
        | .ok _ => c'.stream = none
        | .error fault => e = .wire fault ∧ c'.stream = some { incoming := [] } := by
  intro c req frame peer
  have ho : OutOfStep c.format c.nextId frame := by decide
  have he : Frame.encode ConfigRequest.codec { format := c.format, id := c.nextId, message := req } =
      .ok [0, 0, 0, 0, 1, 3, 0, 0, 0, 1, 0, 0, 0] := by decide
  exact ⟨ho, send_outOfStep _ _ peer req c () rfl he rfl (by rfl) (by decide) (by decide) ho⟩

-- The frame is of another request but has no payload, and the connection stays open.
theorem outOfStep_left_open :
    let c : Connection :=
      { endpoint := ⟨"a", 10710⟩, format := .binary, config := ({} : ClientConfig).transport }
    let frame : Bytes := [0, 0, 0, 0, 2]
    let peer : Bytes → Stream → Unit → Stream × Unit :=
      fun _ s w => ({ s with incoming := s.incoming ++ withLength frame }, w)
    c.isOpen ∧ 5 ≤ frame.length ∧ frame.length ≤ c.config.maxFrameSize.toNat ∧
      OutOfStep c.format c.nextId frame ∧
      (c.send ConfigRequest.codec ConfigResponse.codec peer (.getNodeConfiguration 1) ()).2.1.isOpen := by
  decide

end Connection

end ClusterClient
