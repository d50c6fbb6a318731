import ClusterClient.Config.Basic
import ClusterClient.Yaml.Decode.Basic

namespace ClusterClient

open Yaml

-- What is known of an endpoint while it is read.
structure Endpoint.Draft where
  host : Option String := none
  port : Option UInt16 := none

namespace Endpoint

def Draft.finish (d : Draft) : Except Mismatch Endpoint := do
  let some host := d.host | throw (.lacking "host")
  let some port := d.port | throw (.lacking "port")
  return { host, port }

def decoder : Decoder Endpoint :=
  .record "struct Endpoint" [
      .of "host" .string fun (d : Draft) host => { d with host := some host },
      .of "port" .u16 fun d port => { d with port := some port }]
    {} Draft.finish

end Endpoint

namespace ClientConfig

def decoder : Decoder ClientConfig :=
  .record "struct ClientConfig" [
      .of "data_node" Endpoint.decoder fun (c : ClientConfig) e => { c with dataNode := e },
      .of "config_nodes" (.list Endpoint.decoder) fun c es => { c with configNodes := es },
      .of "compression_enabled" .boolean fun c b => { c with compressionEnabled := b },
      .of "connect_timeout_ms" .u64 fun c n => { c with connectTimeoutMs := n },
      .of "request_timeout_ms" .u64 fun c n => { c with requestTimeoutMs := n },
      .of "max_frame_size" .size fun c n => { c with maxFrameSize := n },
      .of "retry_max_attempts" .u32 fun c n => { c with retryMaxAttempts := n },
      .of "retry_interval_ms" .u64 fun c n => { c with retryIntervalMs := n },
      .of "fetch_size" .u32 fun c n => { c with fetchSize := n },
      .of "fetch_timeout_ms" .u64 fun c n => { c with fetchTimeoutMs := n }]
    {} .ok

-- Reads a configuration from a document. A text without a document gives the defaults.
def ofYaml (text : String) : Except Fault ClientConfig := do
  let config ← match Document.ofText text with
    | none => .ok {}
    | some d => (Load.run decoder d).mapError fun f => .document f.message
  config.validate
  return config

end ClientConfig

end ClusterClient
