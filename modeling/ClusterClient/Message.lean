import ClusterClient.Column
import ClusterClient.KeyMap
import ClusterClient.Node
import ClusterClient.Status

namespace ClusterClient

-- What a worker node says about itself when it registers and when it restarts.
structure Registration where
  clusterName : String
  configuration : NodeConfiguration
  version : NodeVersion
  deriving DecidableEq, Repr

inductive ConfigRequest where
  | registerNode (r : Registration)
  | restartNode (r : Registration)
  | removeNode (location : NodeLocation)
  | getNodeConfiguration (nodeId : NodeId)
  deriving DecidableEq, Repr

def ConfigRequest.operation : ConfigRequest → String
  | registerNode _         => "register_node"
  | restartNode _          => "restart_node"
  | removeNode _           => "remove_node"
  | getNodeConfiguration _ => "get_node_configuration"

inductive ConfigResponse where
  | registered (status : Status) (configNodes : List Endpoint) (nodeId : NodeId)
  | restarted (status : Status) (configNodes : List Endpoint)
  | removed (status : Status)
  | configuration (status : Status) (configurations : KeyMap NodeId NodeConfiguration)
  deriving DecidableEq

namespace ConfigResponse

def status : ConfigResponse → Status
  | registered s _ _  => s
  | restarted s _     => s
  | removed s         => s
  | configuration s _ => s

-- The members that a response reports, if it is of a kind that reports them.
def configNodes? : ConfigResponse → Option (List Endpoint)
  | registered _ ns _ => some ns
  | restarted _ ns    => some ns
  | removed _         => none
  | configuration _ _ => none

end ConfigResponse

inductive DataRequest where
  | fetchTimeseries (query : String) (fetchSize : UInt32) (timeoutMs : UInt64)
  | fetchMoreData (queryId : Int64) (fetchSize : UInt32)
  deriving DecidableEq, Repr

def DataRequest.operation : DataRequest → String
  | fetchTimeseries _ _ _ => "fetch_timeseries"
  | fetchMoreData _ _     => "fetch_more_data"

-- The first page of a query. It tells how the rows of this page and of all later ones are laid out.
structure FirstPage where
  status : Status
  queryId : Int64
  columnNames : List String
  columnTypes : List ColumnType
  -- Where the cell of a column stands within a row.
  columnIndex : KeyMap String UInt64
  rows : List RawRow
  hasMore : Bool
  deriving DecidableEq

structure NextPage where
  status : Status
  rows : List RawRow
  hasMore : Bool
  deriving DecidableEq, Repr

inductive DataResponse where
  | timeseries (page : FirstPage)
  | moreData (page : NextPage)
  deriving DecidableEq

def DataResponse.status : DataResponse → Status
  | timeseries page => page.status
  | moreData page   => page.status

end ClusterClient
