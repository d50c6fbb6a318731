import ClusterClient.Network.Connection
import Mathlib

namespace ClusterClient

open Wire

namespace Connection

variable {σ Req Resp : Type}

def next (c : Connection) : Connection :=
  { c with nextId := c.nextId + 1 }

def receive (c : Connection) (s : Stream) : Connection :=
  { c with stream := some s }

-- What can come of a call: one case for each way through it.
inductive Sends (request : Codec Req) (response : Codec Resp) (peer : Bytes → Stream → σ → Stream × σ)
    (req : Req) (c : Connection) (w : σ) : Except ClientError Resp → Connection → σ → Prop
  | unencodable {e : WireError}
    (h : Frame.encode request { format := c.format, id := c.nextId, message := req } = .error e) :
    Sends request response peer req c w (.error (.wire e)) c.next w
  | closed {frame : Bytes} {e : ClientError}
    (h : Frame.encode request { format := c.format, id := c.nextId, message := req } = .ok frame)
    (hs : c.stream = none) : Sends request response peer req c w (.error e) c.next w
  | broken {frame : Bytes} {s s' : Stream} {w' : σ} {fault : Stream.Fault} {e : ClientError}
    (h : Frame.encode request { format := c.format, id := c.nextId, message := req } = .ok frame)
    (hs : c.stream = some s) (hp : peer (withLength frame) s w = (s', w'))
    (hr : s'.readFrame c.config.maxFrameSize.toNat = .error fault) :
    Sends request response peer req c w (.error e) c.next.close w'
  | answered {frame answer : Bytes} {s s₁ s₂ : Stream} {w' : σ}
    (h : Frame.encode request { format := c.format, id := c.nextId, message := req } = .ok frame)
    (hs : c.stream = some s) (hp : peer (withLength frame) s w = (s₁, w'))
    (hr : s₁.readFrame c.config.maxFrameSize.toNat = .ok (answer, s₂)) :
    Sends request response peer req c w ((c.next.receive s₂).accept response c.nextId answer).1
      ((c.next.receive s₂).accept response c.nextId answer).2 w'

theorem send_cases (request : Codec Req) (response : Codec Resp)
    (peer : Bytes → Stream → σ → Stream × σ) (req : Req) (c : Connection) (w : σ) :
    ∃ result c' w', c.send request response peer req w = (result, c', w') ∧
      Sends request response peer req c w result c' w' := by
  simp only [send]
  cases h : Frame.encode request { format := c.format, id := c.nextId, message := req }
  case error => exact ⟨_, _, _, rfl, .unencodable h⟩
  case ok frame =>
    cases hs : c.stream
    case none => exact ⟨_, _, _, rfl, hs ▸ .closed h hs⟩
    case some s =>
      rcases hp : peer (withLength frame) s w with ⟨s₁, w'⟩
      rcases hr : s₁.readFrame c.config.maxFrameSize.toNat with fault | ⟨answer, s₂⟩ <;> simp only [hp, hr]
      case error => exact ⟨_, _, _, rfl, .broken h hs hp hr⟩
      case ok => exact ⟨_, _, _, rfl, .answered h hs hp hr⟩

-- A frame that can be read as an answer has the format and the id of the request.
def Matches (codec : Codec Resp) (f : Format) (id : UInt32) (frame : Bytes) : Prop :=
  ∀ answer, Frame.decode codec frame = .ok answer → answer.format = f ∧ answer.id = id

variable {codec : Codec Resp} {id : UInt32} {c : Connection} {frame : Bytes}

theorem accept_eq_ok_iff {r : Resp} :
    (c.accept codec id frame).1 = .ok r ↔
      Frame.decode codec frame = .ok { format := c.format, id, message := r } := by
  simp only [accept]
  rcases Frame.decode codec frame with e | ⟨f, i, message⟩
  case error => simp
  case ok =>
    by_cases hf : f = c.format <;> by_cases hi : i = id <;> simp [hf, hi]

theorem accept_of_matches (h : Matches codec c.format id frame) : (c.accept codec id frame).2 = c := by
  simp only [accept]
  rcases hd : Frame.decode codec frame with e | ⟨f, i, message⟩
  case error => rfl
  case ok =>
    obtain ⟨hf, hi⟩ := h _ hd
    simp_all

theorem accept_of_not_matches (h : ¬Matches codec c.format id frame) :
    (c.accept codec id frame).2 = c.close := by
  simp only [accept]
  rcases hd : Frame.decode codec frame with e | ⟨f, i, message⟩
  case error => exact absurd (fun _ h => by simp [hd] at h) h
  case ok =>
    by_cases hf : f = c.format <;> by_cases hi : i = id <;> simp [hf, hi]
    refine absurd (fun answer ha => ?_) h
    cases hd.symm.trans ha
    exact ⟨hf, hi⟩

theorem accept_snd : (c.accept codec id frame).2 = c ∨ (c.accept codec id frame).2 = c.close := by
  by_cases h : Matches codec c.format id frame
  case pos => exact .inl (accept_of_matches h)
  case neg => exact .inr (accept_of_not_matches h)

structure Follows (c c' : Connection) : Prop where
  format : c'.format = c.format
  config : c'.config = c.config
  nextId : c'.nextId = c.nextId + 1

theorem Sends.follows {request : Codec Req} {response : Codec Resp}
    {peer : Bytes → Stream → σ → Stream × σ} {req : Req} {c' : Connection} {w w' : σ}
    {result : Except ClientError Resp} (s : Sends request response peer req c w result c' w') :
    c.Follows c' := by
  cases s
  case unencodable | closed | broken => exact ⟨rfl, rfl, rfl⟩
  case answered =>
    cases accept_snd
    case inl ha => rw [ha]; exact ⟨rfl, rfl, rfl⟩
    case inr ha => rw [ha]; exact ⟨rfl, rfl, rfl⟩

theorem endpoint_accept (codec : Codec Resp) (id : UInt32) (c : Connection) (frame : Bytes) :
    (c.accept codec id frame).2.endpoint = c.endpoint := by
  have ha : (c.accept codec id frame).2 = c ∨ (c.accept codec id frame).2 = c.close := accept_snd
  cases ha
  case inl ha => rw [ha]
  case inr ha => rw [ha]; rfl

theorem endpoint_send (request : Codec Req) (response : Codec Resp)
    (peer : Bytes → Stream → σ → Stream × σ) (req : Req) (c : Connection) (w : σ) :
    (c.send request response peer req w).2.1.endpoint = c.endpoint := by
  have ⟨_, _, _, he, s⟩ := send_cases request response peer req c w
  rw [he]
  cases s
  case unencodable | closed | broken => rfl
  case answered => exact endpoint_accept ..

end Connection

end ClusterClient
