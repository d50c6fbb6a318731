import ClusterClient.Yaml.Scalar.Basic

namespace ClusterClient.Yaml

inductive Symbol where
  | streamEnd
  | versionDirective (major minor : Nat)
  | tagDirective (handle meaning : String)
  | documentStart | documentEnd
  | blockSequenceStart | blockMappingStart | blockEnd
  | flowSequenceStart | flowSequenceEnd | flowMappingStart | flowMappingEnd
  | blockEntry | flowEntry | key | value
  | aliasOf (name : String)
  | anchor (name : String)
  | tag (handle suffix : String)
  | scalar (text : String) (style : Style)
  deriving DecidableEq, Repr

structure Token where
  symbol : Symbol
  start : Mark
  -- Where reading goes on.
  stop : Mark
  deriving DecidableEq, Repr

end ClusterClient.Yaml
