import ClusterClient.Duration
import ClusterClient.Error

namespace ClusterClient

-- What comes of a call.
inductive Reply (α : Type) where
  | answered (a : α)
  | failed (e : ClientError)
  -- No answer has come as long as the caller waits, and none ever comes to one who waits forever.
  | silent
  deriving DecidableEq, Repr

namespace Reply

variable {α β : Type}

-- Keeps an answer that has the expected form. Any other answer is an invalid response.
def select (f : α → Option β) : Reply α → Reply β
  | answered a =>
    match f a with
    | some b => answered b
    | none => failed .invalidResponse
  | failed e => failed e
  | silent => silent

end Reply

-- All that a client can observe of the world outside it. The answers may be anything at all, and depend on all that
-- happened before.
structure Network (σ χ Req Resp : Type) where
  endpoint : χ → Endpoint
  -- Whether a channel could still be used when it was last looked at.
  isOpen : χ → Bool
  connect : Endpoint → σ → Except ClientError χ × σ
  -- Sends a request. A caller may limit how long it waits for the answer.
  call : χ → Req → (limit : Option Duration) → σ → Reply Resp × χ × σ
  close : χ → σ → χ × σ
  -- Lets time pass.
  wait : Duration → σ → σ

-- A network that answers only so many calls, of which `supply` is a bound: every answer uses some of
-- it up.
structure FiniteNetwork (σ χ Req Resp : Type) extends Network σ χ Req Resp where
  supply : χ → σ → Nat
  supply_lt : ∀ {ch req limit w resp ch' w'}, call ch req limit w = (.answered resp, ch', w') →
    supply ch' w' < supply ch w

end ClusterClient
