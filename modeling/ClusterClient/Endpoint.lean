import ClusterClient.Text.Blank
import ClusterClient.Text.Digits

namespace ClusterClient

-- The address of a node. Its host may have colons in it: the port is what follows the last one.
structure Endpoint where
  host : String
  port : UInt16
  deriving DecidableEq, Repr, Inhabited

namespace Endpoint

def render (e : Endpoint) : String :=
  s!"{e.host}:{e.port.toNat}"

-- Why a text is no endpoint. Each cause quotes the text as it was given.
inductive Fault where
  | missingPort (text : String)
  | missingHost (text : String)
  | invalidPort (text : String)
  deriving DecidableEq, Repr

def Fault.message : Fault → String
  | missingPort s => s!"missing port in '{s}'"
  | missingHost s => s!"missing host in '{s}'"
  | invalidPort s => s!"invalid port in '{s}'"

-- What stands before the last colon, and what stands after it.
def splitLastColon? : List Char → Option (List Char × List Char)
  | [] => none
  | c :: cs =>
    match splitLastColon? cs with
    | some (host, port) => some (c :: host, port)
    | none => if c = ':' then some ([], cs) else none

-- A port is one digit or more after an optional plus sign, with a value below 2^16.
def port? (cs : List Char) : Option UInt16 :=
  ((Text.number? (Text.dropPlus cs)).filter (· < 65536)).map UInt16.ofNat

def parse (s : String) : Except Fault Endpoint :=
  match splitLastColon? (Text.trim s.toList) with
  | none => .error (.missingPort s)
  | some ([], _) => .error (.missingHost s)
  | some (host, digits) =>
    match port? digits with
    | some port => .ok ⟨String.ofList host, port⟩
    | none => .error (.invalidPort s)

end Endpoint

end ClusterClient
