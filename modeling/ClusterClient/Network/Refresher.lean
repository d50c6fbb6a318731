import ClusterClient.Message
import ClusterClient.Network.Basic

namespace ClusterClient

-- A network with a source of fresh members beside it.
structure Environment (σ χ : Type) extends Network σ χ ConfigRequest ConfigResponse where
  -- A list to replace the known one, or `none` to keep that.
  refresh : (known : List Endpoint) → σ → Option (List Endpoint) × σ

inductive Refresher where
  -- Always keeps the known members.
  | keep
  -- Falls back to a fixed list, unless that is empty or known already.
  | seeds (members : List Endpoint)
  -- Gives its answers in turn, and none after that.
  | script (answers : List (Option (List Endpoint)))
  deriving DecidableEq

def Refresher.ask (known : List Endpoint) : Refresher → Option (List Endpoint) × Refresher
  | keep => (none, keep)
  | seeds members => (if members = [] ∨ members = known then none else some members, seeds members)
  | script [] => (none, script [])
  | script (answer :: answers) => (answer, script answers)

-- A state of the world in which a refresher is asked, and what it was asked so far.
structure Refreshed (σ : Type) where
  world : σ
  refresher : Refresher := .keep
  asked : List (List Endpoint) := []

-- A network together with a refresher.
def Network.refreshed {σ χ : Type} (net : Network σ χ ConfigRequest ConfigResponse) :
    Environment (Refreshed σ) χ where
  endpoint := net.endpoint
  isOpen := net.isOpen
  connect e w :=
    let (r, world) := net.connect e w.world
    (r, { w with world })
  call ch req limit w :=
    let (r, ch, world) := net.call ch req limit w.world
    (r, ch, { w with world })
  close ch w :=
    let (ch, world) := net.close ch w.world
    (ch, { w with world })
  wait d w := { w with world := net.wait d w.world }
  refresh known w :=
    let (answer, refresher) := w.refresher.ask known
    (answer, { w with refresher, asked := w.asked ++ [known] })

end ClusterClient
