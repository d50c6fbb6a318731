import ClusterClient.Proofs.Network.Script
import ClusterClient.Proofs.Network.Session
import ClusterClient.Wire.Message
import Mathlib

namespace ClusterClient

open Wire

variable {σ χ α Req Resp : Type}

-- What a call has come to that is over.
def Reply.ofResult : Except ClientError α → Reply α
  | .ok a    => answered a
  | .error e => failed e

-- What the users of a channel may rely on in a call: `ch` and `w` are the channel and the world before the call,
-- and `ch'` and `w'` after it.
structure Contract (isOpen : χ → Bool) (ch : χ) (w : σ) (reply : Reply α) (ch' : χ) (w' : σ) : Prop where
  lost     : ∀ e, reply = .failed e → e.isTransport → ¬isOpen ch'
  answered : ∀ a, reply = .answered a → isOpen ch ∧ isOpen ch'
  closed   : ¬isOpen ch → ¬isOpen ch' ∧ w' = w ∧ ∃ e, reply = .failed e

namespace Connection

variable {request : Codec Req} {response : Codec Resp} {peer : Bytes → Stream → σ → Stream × σ} {req : Req}
  {c c' : Connection} {w w' : σ} {e : ClientError}

-- Why a call fails, with whether the connection is open before and after it.
inductive Fails (before : Bool) : ClientError → Bool → Prop
  -- The request cannot be encoded, or the answer cannot be decoded.
  | uncoded {fault : WireError} : Fails before (.wire fault) before
  | tooLarge {size limit : Nat} : Fails before (.responseTooLarge size limit) false
  | lost {e : ClientError} (h : e.isTransport) : Fails before e false

namespace Fails

variable {before after : Bool}

theorem closed_of_isTransport (f : Fails before e after) (ht : e.isTransport) : ¬after := by
  cases f
  case uncoded         => contradiction
  case tooLarge | lost => exact Bool.false_ne_true

theorem closed_iff (f : Fails before e after) (ht : ¬e.isTransport) :
    ¬after ↔ ¬before ∨ ∃ size limit, e = .responseTooLarge size limit := by
  cases f
  case uncoded  => simp
  case tooLarge => simp
  case lost     => contradiction

end Fails

theorem accept_fails {codec : Codec Resp} {id : UInt32} {frame : Bytes}
    (h : c.accept codec id frame = (.error e, c')) : Fails c.isOpen e c'.isOpen := by
  simp only [accept] at h
  split at h
  case h_1 => cases h; exact .uncoded
  case h_2 =>
    split at h
    case isTrue => cases h; exact .lost rfl
    case isFalse => split at h <;> cases h; exact .lost rfl

theorem send_fails (h : c.send request response peer req w = (.error e, c', w')) : Fails c.isOpen e c'.isOpen := by
  have ⟨_, _, _, he, s⟩ := send_cases request response peer req c w
  cases s
  case unencodable =>
    cases he.symm.trans h
    exact .uncoded
  -- Without a stream, or with a stream that cannot be read, the call itself tells what the error is.
  case closed hf hs =>
    simp only [send, hf, hs] at h
    cases h
    rw [isOpen, hs]
    exact .lost rfl
  case broken fault _ hf hs hp hr =>
    simp only [send, hf, hs, hp, hr] at h
    cases h
    cases fault
    case ended | stalled => exact .lost rfl
    case tooLarge        => exact .tooLarge
  case answered s₂ hf hs hp hr =>
    have ho : c.isOpen = (c.next.receive s₂).isOpen := by simp [isOpen, receive, hs]
    simp only [he, Prod.mk.injEq] at h
    exact ho ▸ accept_fails (Prod.ext h.left h.right.left)

theorem isOpen_of_send_ok {r : Resp} (h : c.send request response peer req w = (.ok r, c', w')) :
    c.isOpen ∧ c'.isOpen := by
  have ⟨_, _, _, _, hs, _, hs', _⟩ := stream_of_send h
  simp [isOpen, hs, hs']

-- A closed connection leaves its peer alone.
theorem send_closed (ho : ¬c.isOpen) :
    ∃ e, c.send request response peer req w = (.error e, c.next, w) := by
  have ⟨_, _, _, he, s⟩ := send_cases request response peer req c w
  cases s
  case unencodable | closed => exact ⟨_, he⟩
  case broken hs _ _ | answered hs _ _ => simp [isOpen, hs] at ho

theorem send_contract {result : Except ClientError Resp} (h : c.send request response peer req w = (result, c', w')) :
    Contract isOpen c w (.ofResult result) c' w' where
  lost e he ht := by
    cases result <;> cases he
    exact (send_fails h).closed_of_isTransport ht
  answered r hr := by
    cases result <;> cases hr
    exact isOpen_of_send_ok h
  closed ho := by
    have ⟨e, he⟩ : ∃ e, c.send request response peer req w = (.error e, c.next, w) := send_closed ho
    cases h.symm.trans he
    exact ⟨ho, rfl, e, rfl⟩

end Connection

namespace Session

variable {p : Peer σ} {s : Session σ}

theorem step_closed (ho : ¬s.connection.isOpen) (command : Command) :
    ¬(s.step p command).connection.isOpen ∧ (s.step p command).line = s.line := by
  cases command
  case close => exact ⟨nofun, rfl⟩
  case send r =>
    have ⟨e, he⟩ : ∃ e, s.connection.send r.request r.response p.react r.message s.line =
      (.error e, s.connection.next, s.line) := Connection.send_closed ho
    simp only [step, send, he]
    exact ⟨ho, trivial⟩

-- From a close on nothing is sent any more and nothing arrives.
theorem run_closed (ho : ¬s.connection.isOpen) (history : List Command) :
    ¬(s.run p history).connection.isOpen ∧ (s.run p history).line = s.line := by
  induction history generalizing s
  case nil => exact ⟨ho, rfl⟩
  case cons command _ hi =>
    have ⟨ho, hl⟩ : ¬(s.step p command).connection.isOpen ∧ (s.step p command).line = s.line := step_closed ho command
    have ⟨ho, hl'⟩ := hi ho
    exact ⟨ho, hl'.trans hl⟩

end Session

namespace Script

variable {ch ch' : Channel} {req : Req} {s s' : Script Req Resp} {reply : Reply Resp}

theorem call_contract (h : call ch req s = (reply, ch', s')) : Contract Channel.isOpen ch s reply ch' s' := by
  by_cases ho : ch.isOpen
  case neg =>
    rw [call_closed req s ho] at h
    cases h
    exact ⟨fun _ _ _ => ho, nofun, fun _ => ⟨ho, rfl, _, rfl⟩⟩
  case pos =>
    have ⟨_, _, o, _⟩ := call_outcome h ho
    cases o
    case responded         => exact ⟨nofun, fun _ _ => ⟨ho, ho⟩, absurd ho⟩
    case dropped | starved => exact ⟨fun _ _ _ => nofun, nofun, absurd ho⟩
    case hung              => exact ⟨nofun, nofun, absurd ho⟩

-- What may happen around a channel: it is used, and others use and change the script.
inductive Use (Req Resp : Type) where
  | call (req : Req)
  | close
  | others (s : Script Req Resp)

def use (ch : Channel) (s : Script Req Resp) : Use Req Resp → Channel × Script Req Resp
  | .call req => (call ch req s).2
  | .close    => network.close ch s
  | .others s => (ch, s)

def run (history : List (Use Req Resp)) (ch : Channel) (s : Script Req Resp) : Channel × Script Req Resp :=
  history.foldl (fun (ch, s) => use ch s) (ch, s)

theorem use_closed (ho : ¬ch.isOpen) (u : Use Req Resp) : ¬(use ch s u).1.isOpen := by
  cases u
  case call req => rwa [use, call_closed req s ho]
  case close    => exact nofun
  case others   => exact ho

theorem run_closed (ho : ¬ch.isOpen) (history : List (Use Req Resp)) : ¬(run history ch s).1.isOpen := by
  induction history generalizing ch s
  case nil => exact ho
  case cons u _ hi => exact hi (use_closed ho u)

end Script

-- Connections and channels of scripts keep to the contract, and those that are closed are closed for good. An error
-- of a connection that is no transport error leaves it as it was, unless an answer was too large.
theorem channels_keep_contract :
    (∀ (request : Codec Req) (response : Codec Resp) (peer : Bytes → Stream → σ → Stream × σ) (req : Req)
        (c : Connection) (w : σ),
      let (result, c', w') := c.send request response peer req w
      Contract Connection.isOpen c w (.ofResult result) c' w' ∧
      ∀ e, result = .error e → ¬e.isTransport →
        (¬c'.isOpen ↔ ¬c.isOpen ∨ ∃ size limit, e = .responseTooLarge size limit)) ∧
    (∀ (p : Peer σ) (history : List Session.Command) (s : Session σ), ¬s.connection.isOpen →
      ¬(s.run p history).connection.isOpen ∧ (s.run p history).line = s.line) ∧
    (∀ (ch : Script.Channel) (req : Req) (s : Script Req Resp),
      let (reply, ch', s') := Script.call ch req s
      Contract Script.Channel.isOpen ch s reply ch' s') ∧
    ∀ (history : List (Script.Use Req Resp)) (ch : Script.Channel) (s : Script Req Resp), ¬ch.isOpen →
      ¬(Script.run history ch s).1.isOpen := by
  refine ⟨fun _ _ _ _ _ _ => ⟨Connection.send_contract rfl, fun e he ht => ?_⟩,
    fun _ history _ ho => Session.run_closed ho history, fun _ _ _ => Script.call_contract rfl,
    fun history _ _ ho => Script.run_closed ho history⟩
  exact (Connection.send_fails (Prod.ext he rfl)).closed_iff ht

-- The peer of the connection says nothing, and that of the channel drops it. What it has to say later comes too late.
theorem channels_keep_contract_lost :
    let e : Endpoint := ⟨"a", 10710⟩
    let c : Connection := { endpoint := e, format := .binary, config := ({} : ClientConfig).transport }
    let peer : Bytes → Stream → Nat → Stream × Nat := fun _ s n => (s, n + 1)
    let req : ConfigRequest := .getNodeConfiguration 1
    let s : Script ConfigRequest ConfigResponse := ({} : Script _ _).push e .drop
    let (reply, ch, s') := Script.call { endpoint := e } req s
    let history := [.others (s'.push e (.respond (.removed .success))), .call req]
    (∃ text, reply = .failed (.transport text)) ∧ ¬(Script.run history ch s').1.isOpen ∧
      ∃ text c', c.send ConfigRequest.codec ConfigResponse.codec peer req 0 = (.error (.timeout text), c', 1) ∧
        ¬c'.isOpen := by
  intro e c peer req s
  have ⟨connections, _, channels, final⟩ := @channels_keep_contract Nat ConfigRequest ConfigResponse
  have hc := connections ConfigRequest.codec ConfigResponse.codec peer req c 0
  have hs := channels { endpoint := e } req s
  refine ⟨⟨_, rfl⟩, final _ _ _ (hs.lost _ rfl rfl), _, _, rfl, hc.left.lost _ rfl rfl⟩

end ClusterClient
