import ClusterClient.Endpoint

namespace ClusterClient

inductive StatusCode where
  | success
  | incompatibleVersion
  | configurationError
  | internalServerError
  | redirectionRecommend
  | illegalParameter
  | queryNotFound
  | nodeNotFound
  deriving DecidableEq, Repr

namespace StatusCode

def code : StatusCode → Int32
  | success              => 200
  | incompatibleVersion  => 201
  | configurationError   => 202
  | internalServerError  => 305
  | redirectionRecommend => 400
  | illegalParameter     => 700
  | queryNotFound        => 701
  | nodeNotFound         => 702

def all : List StatusCode :=
  [success, incompatibleVersion, configurationError, internalServerError, redirectionRecommend,
    illegalParameter, queryNotFound, nodeNotFound]

def ofCode? (n : Int32) : Option StatusCode :=
  all.find? (·.code == n)

end StatusCode

-- A code without a name is kept as it is.
structure Status where
  code : Int32
  message : Option String := none
  -- The node to turn to. It means something with a redirect only.
  redirectNode : Option Endpoint := none
  deriving DecidableEq, Repr, Inhabited

namespace Status

def ofCode (c : StatusCode) : Status := { code := c.code }

def success : Status := ofCode .success

def redirect (leader : Option Endpoint) : Status :=
  { code := StatusCode.redirectionRecommend.code, redirectNode := leader }

def failure (c : StatusCode) (message : String) : Status :=
  { code := c.code, message := some message }

def isSuccess (s : Status) : Bool := s.code == StatusCode.success.code

def isRedirect (s : Status) : Bool := s.code == StatusCode.redirectionRecommend.code

def known? (s : Status) : Option StatusCode := StatusCode.ofCode? s.code

def render (s : Status) : String :=
  match s.message with
  | some message => s!"code={s.code.toInt}, message={message}"
  | none => s!"code={s.code.toInt}"

end Status

end ClusterClient
