import ClusterClient.Duration
import ClusterClient.Error
import ClusterClient.Wire.Frame

namespace ClusterClient

open Wire

-- Socket-level values of a connection.
structure TransportConfig where
  connectTimeout : Duration
  requestTimeout : Duration
  maxFrameSize : UInt64
  noDelay : Bool
  deriving DecidableEq

-- How often an operation may be attempted, and how long to wait before each attempt but the first.
structure RetryPolicy where
  maxAttempts : UInt32 := 5
  interval : Duration := .ofMillis 1
  deriving DecidableEq

-- Timeouts and intervals are kept in whole milliseconds.
structure ClientConfig where
  dataNode : Endpoint := ⟨"127.0.0.1", 10730⟩
  -- The members of the config node group. The first is presumed to lead it.
  configNodes : List Endpoint := [⟨"127.0.0.1", 10710⟩]
  compressionEnabled : Bool := false
  connectTimeoutMs : UInt64 := 20000
  requestTimeoutMs : UInt64 := 120000
  maxFrameSize : UInt64 := 67108864
  retryMaxAttempts : UInt32 := 5
  retryIntervalMs : UInt64 := 1
  fetchSize : UInt32 := 10000
  fetchTimeoutMs : UInt64 := 60000
  deriving DecidableEq

namespace ClientConfig

inductive Fault where
  | noConfigNode
  | noAttempt
  | emptyPage
  | frameSize
  -- A document could not be read as a configuration.
  | document (text : String)
  deriving DecidableEq, Repr

def Fault.message : Fault → String
  | noConfigNode  => "at least one config node is required"
  | noAttempt     => "retry_max_attempts must be at least 1"
  | emptyPage     => "fetch_size must be at least 1"
  | frameSize     => s!"max_frame_size must be between 1 and {Frame.maxSize}"
  | document text => s!"invalid config: {text}"

def Fault.toError (f : Fault) : ClientError := .config f.message

-- The first of the checks that fails decides.
def validate (c : ClientConfig) : Except Fault Unit :=
  if c.configNodes = [] then .error .noConfigNode
  else if c.retryMaxAttempts = 0 then .error .noAttempt
  else if c.fetchSize = 0 then .error .emptyPage
  else if c.maxFrameSize = 0 ∨ Frame.maxSize < c.maxFrameSize.toNat then .error .frameSize
  else .ok ()

def format (c : ClientConfig) : Format := .ofCompression c.compressionEnabled

def transport (c : ClientConfig) : TransportConfig where
  connectTimeout := .ofMillis c.connectTimeoutMs
  requestTimeout := .ofMillis c.requestTimeoutMs
  maxFrameSize := c.maxFrameSize
  noDelay := true

def retryPolicy (c : ClientConfig) : RetryPolicy where
  maxAttempts := c.retryMaxAttempts
  interval := .ofMillis c.retryIntervalMs

def fetchTimeout (c : ClientConfig) : Duration := .ofMillis c.fetchTimeoutMs

-- One change to a configuration.
inductive Setting where
  | dataNode (e : Endpoint)
  | configNodes (es : List Endpoint)
  | compressionEnabled (b : Bool)
  | connectTimeout (d : Duration)
  | requestTimeout (d : Duration)
  | maxFrameSize (n : UInt64)
  | retryMaxAttempts (n : UInt32)
  | retryInterval (d : Duration)
  | fetchSize (n : UInt32)
  | fetchTimeout (d : Duration)
  deriving DecidableEq

-- Durations are stored as whole milliseconds in 64 bits.
def set (c : ClientConfig) : Setting → ClientConfig
  | .dataNode e           => { c with dataNode := e }
  | .configNodes es       => { c with configNodes := es }
  | .compressionEnabled b => { c with compressionEnabled := b }
  | .connectTimeout d     => { c with connectTimeoutMs := d.millis }
  | .requestTimeout d     => { c with requestTimeoutMs := d.millis }
  | .maxFrameSize n       => { c with maxFrameSize := n }
  | .retryMaxAttempts n   => { c with retryMaxAttempts := n }
  | .retryInterval d      => { c with retryIntervalMs := d.millis }
  | .fetchSize n          => { c with fetchSize := n }
  | .fetchTimeout d       => { c with fetchTimeoutMs := d.millis }

-- The configurations on the way from the defaults through a list of settings.
def history (settings : List Setting) : List ClientConfig :=
  go {} settings
where
  go (c : ClientConfig) : List Setting → List ClientConfig
    | [] => [c]
    | s :: ss => c :: go (c.set s) ss

end ClientConfig

end ClusterClient
