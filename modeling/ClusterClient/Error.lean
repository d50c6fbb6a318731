import ClusterClient.Status

namespace ClusterClient

-- What can be wrong with a frame, or with a text of the protocol.
inductive WireError where
  | serialization (text : String)
  | deserialization (text : String)
  | messageTooLarge (size limit : Nat)
  | invalidFormat (text : String)
  | unknownFormat (byte : UInt8)
  deriving DecidableEq, Repr

-- The two hexadecimal digits of a byte.
def hexByte (b : UInt8) : String :=
  String.ofList [Nat.digitChar (b.toNat / 16), Nat.digitChar (b.toNat % 16)]

def WireError.message : WireError → String
  | serialization text         => s!"Serialization error: {text}"
  | deserialization text       => s!"Deserialization error: {text}"
  | messageTooLarge size limit => s!"Message size {size} exceeds maximum {limit}"
  | invalidFormat text         => s!"Invalid message format: {text}"
  | unknownFormat byte         => s!"Unknown wire format: 0x{hexByte byte}"

-- A text that is no endpoint has the wrong format.
def Endpoint.Fault.toError (f : Endpoint.Fault) : WireError := .invalidFormat f.message

inductive ClientError where
  | connectFailure (endpoint : Endpoint) (reason : String)
  | transport (text : String)
  | io (text : String)
  | wire (error : WireError)
  | responseTooLarge (size limit : Nat)
  | timeout (text : String)
  | queryFailure (status : Status)
  | operationFailure (operation : String) (status : Status)
  | emptyResult (query : String)
  | fetchFailure (queryId : Int64) (source : ClientError)
  | clusterUnreachable (text : String)
  | invalidResponse
  | decode (text : String)
  | config (text : String)
  deriving DecidableEq, Repr

namespace ClientError

def message : ClientError → String
  | connectFailure endpoint reason => s!"Failed to connect to {endpoint.render}: {reason}"
  | transport text                 => s!"Transport error: {text}"
  | io text                        => s!"IO error: {text}"
  | wire error                     => s!"Protocol error: {error.message}"
  | responseTooLarge size limit    => s!"Response too large: {size} bytes (max: {limit})"
  | timeout text                   => s!"Timeout: {text}"
  | queryFailure status            => s!"Query failed: {status.render}"
  | operationFailure op status     => s!"{op} failed: {status.render}"
  | emptyResult query              => s!"No data fetched with query: {query}"
  | fetchFailure queryId source    =>
    s!"Failed to fetch more data with query id {queryId.toInt}: {source.message}"
  | clusterUnreachable text        => text
  | invalidResponse                => "Invalid response"
  | decode text                    => s!"Decode error: {text}"
  | config text                    => s!"Configuration error: {text}"

def isTransport : ClientError → Bool
  | connectFailure _ _ | transport _ | io _ | timeout _ => true
  | _ => false

-- Whether the error tells of another one behind it.
def hasSource : ClientError → Bool
  | io _ | wire _ | fetchFailure _ _ => true
  | _ => false

end ClientError

-- A computation with a second part succeeds if both parts do.
theorem bind_eq_ok_iff {ε α β : Type} {x : Except ε α} {f : α → Except ε β} {b : β} :
    x >>= f = .ok b ↔ ∃ a, x = .ok a ∧ f a = .ok b := by
  cases x <;> simp [bind, Except.bind]

-- It fails if the first part does, or else the second.
theorem bind_eq_error_iff {ε α β : Type} {x : Except ε α} {f : α → Except ε β} {e : ε} :
    x >>= f = .error e ↔ x = .error e ∨ ∃ a, x = .ok a ∧ f a = .error e := by
  cases x <;> simp [bind, Except.bind]

end ClusterClient
