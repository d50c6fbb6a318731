import ClusterClient.Endpoint

namespace ClusterClient

-- The number that the cluster assigns to a node.
abbrev NodeId := Int32

structure NodeLocation where
  nodeId : NodeId
  internalEndpoint : Endpoint
  deriving DecidableEq, Repr, Inhabited

-- A node that has no number yet goes by `-1`.
def NodeLocation.unregistered (e : Endpoint) : NodeLocation := ⟨-1, e⟩

structure NodeResource where
  cpuCores : UInt32 := 0
  memoryBytes : UInt64 := 0
  deriving DecidableEq, Repr, Inhabited

structure NodeConfiguration where
  location : NodeLocation
  resource : NodeResource := {}
  deriving DecidableEq, Repr, Inhabited

def NodeConfiguration.withResource (c : NodeConfiguration) (cpuCores : UInt32)
    (memoryBytes : UInt64) : NodeConfiguration :=
  { c with resource := { cpuCores, memoryBytes } }

structure NodeVersion where
  version : String
  buildInfo : String
  deriving DecidableEq, Repr, Inhabited

end ClusterClient
