import ClusterClient.Config.Basic
import ClusterClient.Network.Refresher

namespace ClusterClient

inductive Leader where
  | known (e : Endpoint)
  | unknown
  deriving DecidableEq, Repr

namespace Leader

def ofHint : Option Endpoint → Leader
  | some e => known e
  | none   => unknown

def render : Leader → String
  | known e => e.render
  | unknown => "unknown"

end Leader

structure LeaderClient (χ : Type) where
  leader : Leader
  -- In a ring.
  members : List Endpoint
  -- The place in `members` of the last node that was picked from the ring.
  cursor : Nat := 0
  channel : Option χ := none
  retry : RetryPolicy := {}

namespace LeaderClient

variable {σ χ α : Type}

-- The error of an operation that no config node has decided.
def reconnectionFailure : String :=
  "Fail to connect to any config node. Please check status of ConfigNodes"

-- The first member is the one presumed to lead.
def ofMembers (members : List Endpoint) (retry : RetryPolicy := {}) :
    Except ClientConfig.Fault (LeaderClient χ) :=
  match members with
  | [] => .error .noConfigNode
  | e :: _ => .ok { leader := .known e, members, retry }

def ofConfig (config : ClientConfig) : Except ClientConfig.Fault (LeaderClient χ) := do
  config.validate
  ofMembers config.configNodes config.retryPolicy

-- Where the open channel leads, if there is one.
def connectedTo (net : Network σ χ ConfigRequest ConfigResponse) (c : LeaderClient χ) :
    Option Endpoint :=
  (c.channel.filter net.isOpen).map net.endpoint

def isConnected (net : Environment σ χ) (c : LeaderClient χ) : Bool :=
  c.channel.any net.isOpen

def dropChannel (net : Environment σ χ) (c : LeaderClient χ) (w : σ) : LeaderClient χ × σ :=
  match c.channel with
  | none => (c, w)
  | some ch => ({ c with channel := none }, (net.close ch w).2)

-- Connects to the presumed leader. A leader that cannot be reached is forgotten.
def tryLeader (net : Environment σ χ) (c : LeaderClient χ) (w : σ) : Bool × LeaderClient χ × σ :=
  match c.leader with
  | .unknown => (false, c, w)
  | .known e =>
    match net.connect e w with
    | (.ok ch, w) => (true, { c with channel := some ch }, w)
    | (.error _, w) => (false, { c with leader := .unknown }, w)

-- Tries so many members from the one past the cursor on, up to the first that accepts.
def walkRing (net : Environment σ χ) :
    (candidates : Nat) → LeaderClient χ → σ → Bool × LeaderClient χ × σ
  | 0, c, w => (false, c, w)
  | candidates + 1, c, w =>
    let c := { c with cursor := (c.cursor + 1) % c.members.length }
    match c.members[c.cursor]? with
    | none => walkRing net candidates c w
    | some e =>
      match net.connect e w with
      | (.ok ch, w) => (true, { c with channel := some ch }, w)
      | (.error _, w) => walkRing net candidates c w

-- Looks for a node that accepts a connection: the presumed leader first, then the whole ring.
def resolve (net : Environment σ χ) (c : LeaderClient χ) (w : σ) : Bool × LeaderClient χ × σ :=
  let (c, w) := c.dropChannel net w
  match c.tryLeader net w with
  | (true, c, w) => (true, c, w)
  | (false, c, w) => c.walkRing net c.members.length w

def ensureConnected (net : Environment σ χ) (c : LeaderClient χ) (w : σ) :
    Bool × LeaderClient χ × σ :=
  if c.isConnected net then (true, c, w) else c.resolve net w

-- Takes over a list of members, unless it is empty.
def adopt (members : List Endpoint) (c : LeaderClient χ) : LeaderClient χ :=
  if members = [] then c else { c with members, cursor := c.cursor % members.length }

def refreshMembers (net : Environment σ χ) (c : LeaderClient χ) (w : σ) : LeaderClient χ × σ :=
  match net.refresh c.members w with
  | (some members, w) => (c.adopt members, w)
  | (none, w) => (c, w)

-- Makes sure of a channel, with one refresh of the members if that fails at first.
def reach (net : Environment σ χ) (c : LeaderClient χ) (w : σ) : Bool × LeaderClient χ × σ :=
  match c.ensureConnected net w with
  | (true, c, w) => (true, c, w)
  | (false, c, w) =>
    let (c, w) := c.refreshMembers net w
    c.ensureConnected net w

-- What an answer means for the operation that asked: `none` if it is to be attempted again.
def verdict (req : ConfigRequest) : Reply ConfigResponse → Option (Reply ConfigResponse)
  | .silent => some .silent
  | .failed e => if e.isTransport then none else some (.failed e)
  | .answered r =>
    if r.status.isRedirect then none
    else if r.status.isSuccess then some (.answered r)
    else some (.failed (.operationFailure req.operation r.status))

-- What the client learns from an answer about the group.
def learn (c : LeaderClient χ) : Reply ConfigResponse → LeaderClient χ
  | .silent => c
  | .failed e => if e.isTransport then { c with leader := .unknown } else c
  | .answered r =>
    if r.status.isRedirect then { c with leader := .ofHint r.status.redirectNode }
    else if r.status.isSuccess then c.adopt (r.configNodes?.getD [])
    else c

-- One attempt at a request. The channel is given up if the request is to be attempted again.
def attempt (net : Environment σ χ) (req : ConfigRequest) (c : LeaderClient χ) (w : σ) :
    Option (Reply ConfigResponse) × LeaderClient χ × σ :=
  let (_, c, w) := c.reach net w
  match c.channel with
  | none => (none, c, w)
  | some ch =>
    let (reply, ch, w) := net.call ch req none w
    let c := { c with channel := some ch }.learn reply
    match verdict req reply with
    | some final => (some final, c, w)
    | none =>
      let (c, w) := c.dropChannel net w
      (none, c, w)

-- The attempts after the first: each one is preceded by a wait.
def retryAfterWait (net : Environment σ χ) (req : ConfigRequest) :
    (attempts : Nat) → LeaderClient χ → σ → Reply ConfigResponse × LeaderClient χ × σ
  | 0, c, w => (.failed (.clusterUnreachable reconnectionFailure), c, w)
  | attempts + 1, c, w =>
    match c.attempt net req (net.wait c.retry.interval w) with
    | (some final, c, w) => (final, c, w)
    | (none, c, w) => retryAfterWait net req attempts c w

-- Runs a request until an answer is final or all attempts are spent.
def execute (net : Environment σ χ) (req : ConfigRequest) (c : LeaderClient χ) (w : σ) :
    Reply ConfigResponse × LeaderClient χ × σ :=
  match c.retry.maxAttempts.toNat with
  | 0 => (.failed (.clusterUnreachable reconnectionFailure), c, w)
  | attempts + 1 =>
    match c.attempt net req w with
    | (some final, c, w) => (final, c, w)
    | (none, c, w) => retryAfterWait net req attempts c w

-- Registers a worker node and gives the number that the cluster assigned to it.
def register (net : Environment σ χ) (r : Registration) (c : LeaderClient χ) (w : σ) :
    Reply NodeId × LeaderClient χ × σ :=
  let (reply, c, w) := c.execute net (.registerNode r) w
  (reply.select fun | .registered _ _ nodeId => some nodeId | _ => none, c, w)

-- Announces that a worker node has restarted.
def restart (net : Environment σ χ) (r : Registration) (c : LeaderClient χ) (w : σ) :
    Reply Status × LeaderClient χ × σ :=
  let (reply, c, w) := c.execute net (.restartNode r) w
  (reply.select fun | .restarted status _ => some status | _ => none, c, w)

-- Removes a worker node from the cluster.
def remove (net : Environment σ χ) (location : NodeLocation) (c : LeaderClient χ) (w : σ) :
    Reply Status × LeaderClient χ × σ :=
  let (reply, c, w) := c.execute net (.removeNode location) w
  (reply.select fun | .removed status => some status | _ => none, c, w)

-- The configurations of one node or of all nodes, by node number.
def nodeConfigurations (net : Environment σ χ) (nodeId : NodeId) (c : LeaderClient χ) (w : σ) :
    Reply (KeyMap NodeId NodeConfiguration) × LeaderClient χ × σ :=
  let (reply, c, w) := c.execute net (.getNodeConfiguration nodeId) w
  (reply.select fun | .configuration _ configurations => some configurations | _ => none, c, w)

def close (net : Environment σ χ) (c : LeaderClient χ) (w : σ) : LeaderClient χ × σ :=
  c.dropChannel net w

end LeaderClient

end ClusterClient
