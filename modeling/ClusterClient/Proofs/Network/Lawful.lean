import ClusterClient.Network.Loopback
import ClusterClient.Network.Refresher
import ClusterClient.Network.Script
import ClusterClient.Proofs.Network.Connection

namespace ClusterClient

open Wire

-- A new channel is open and leads where it was asked to lead. Calls do not change where a channel leads, and a close
-- leaves it closed.
structure Network.Lawful {σ χ Req Resp : Type} (net : Network σ χ Req Resp) : Prop where
  connect : ∀ e ch w, (net.connect e w).1 = .ok ch → net.isOpen ch ∧ net.endpoint ch = e
  call    : ∀ ch req limit w, net.endpoint (net.call ch req limit w).2.1 = net.endpoint ch
  close   : ∀ ch w, ¬net.isOpen (net.close ch w).1

structure LawfulEnvironment (σ χ : Type) extends Environment σ χ where
  lawful : toNetwork.Lawful

variable {σ χ Req Resp : Type}

-- Whom a client asks for members makes no difference to its channels.
def Network.Lawful.refreshed {net : Network σ χ ConfigRequest ConfigResponse} (h : net.Lawful) :
    LawfulEnvironment (Refreshed σ) χ where
  toEnvironment := net.refreshed
  lawful := {
    connect e ch w      := h.connect e ch w.world
    call ch req limit w := h.call ch req limit w.world
    close ch w          := h.close ch w.world
  }

theorem Script.lawful : (network : FiniteNetwork (Script Req Resp) Channel Req Resp).Lawful where
  connect e ch s h := by
    simp only [network, connect] at h ⊢
    split at h <;> cases h
    exact ⟨rfl, rfl⟩
  call ch req _ s := by
    simp only [network, call]
    split
    case isTrue => rfl
    case isFalse =>
      split
      case h_1 => rfl
      case h_2 => split <;> rfl
  close := by simp [network]

theorem Loopback.lawful (request : Codec Req) (response : Codec Resp) (config : TransportConfig)
    (format : Format) : (network request response config format).Lawful where
  connect e ch l h := by
    simp only [network, connect] at h ⊢
    split at h <;> try split at h
    all_goals cases h
    exact ⟨rfl, rfl⟩
  call ch req limit l := by
    have he := ch.endpoint_send request response (peer ch.endpoint) req l
    simp only [network, call]
    split <;> (try split) <;> simp_all
  close := by simp [network, Connection.isOpen, Connection.close]

end ClusterClient
