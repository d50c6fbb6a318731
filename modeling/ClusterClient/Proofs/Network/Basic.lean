import ClusterClient.Network.Basic

namespace ClusterClient.Network

variable {σ χ Req Resp : Type}

-- Calls that were all answered in time, with the channel and the world before and after them.
inductive Answered (net : Network σ χ Req Resp) (limit : Duration) :
    χ → σ → List (Req × Resp) → χ → σ → Prop
  | nil {ch : χ} {w : σ} : Answered net limit ch w [] ch w
  | cons {ch ch₁ ch₂ : χ} {w w₁ w₂ : σ} {req : Req} {resp : Resp} {rest : List (Req × Resp)}
    (h : net.call ch req (some limit) w = (.answered resp, ch₁, w₁))
    (t : Answered net limit ch₁ w₁ rest ch₂ w₂) :
    Answered net limit ch w ((req, resp) :: rest) ch₂ w₂

namespace Answered

variable {net : Network σ χ Req Resp} {limit : Duration} {ch ch' : χ} {w w' : σ}

theorem nil_iff : net.Answered limit ch w [] ch' w' ↔ ch' = ch ∧ w' = w where
  mp  := fun | nil => ⟨rfl, rfl⟩
  mpr := fun ⟨hc, hw⟩ => hc ▸ hw ▸ nil

theorem cons_iff {req : Req} {resp : Resp} {rest : List (Req × Resp)} :
    net.Answered limit ch w ((req, resp) :: rest) ch' w' ↔
      ∃ ch₁ w₁, net.call ch req (some limit) w = (.answered resp, ch₁, w₁) ∧
        net.Answered limit ch₁ w₁ rest ch' w' where
  mp  := fun | cons h t => ⟨_, _, h, t⟩
  mpr := fun ⟨_, _, h, t⟩ => cons h t

end Answered

-- What a caller has of a call that it waits for so long and not longer. A call that comes to nothing in
-- that time costs the channel.
inductive Receives (net : Network σ χ Req Resp) (limit : Duration) (req : Req) (ch : χ) (w : σ) :
    Except ClientError Resp → χ → σ → Prop
  | answered {resp : Resp} {ch₁ : χ} {w₁ : σ}
    (h : net.call ch req (some limit) w = (.answered resp, ch₁, w₁)) :
    Receives net limit req ch w (.ok resp) ch₁ w₁
  | failed {e : ClientError} {ch₁ : χ} {w₁ : σ} (h : net.call ch req (some limit) w = (.failed e, ch₁, w₁)) :
    Receives net limit req ch w (.error e) ch₁ w₁
  | late {ch₁ ch₂ : χ} {w₁ w₂ : σ} (h : net.call ch req (some limit) w = (.silent, ch₁, w₁))
    (hc : net.close ch₁ (net.wait limit w₁) = (ch₂, w₂)) :
    Receives net limit req ch w
      (.error (.timeout s!"no response from {(net.endpoint ch₂).render} within {limit.render}")) ch₂ w₂

end ClusterClient.Network
