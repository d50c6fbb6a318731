import ClusterClient.Network.Basic

namespace ClusterClient

-- What a call is to come to.
inductive Cue (Resp : Type) where
  | respond (r : Resp)
  -- The connection drops during the call.
  | drop
  -- The request is taken and never answered.
  | hang
  deriving DecidableEq

-- A cue belongs to an endpoint and not to a channel: all channels to the endpoint draw from the same queue.
structure Script (Req Resp : Type) where
  unreachable : List Endpoint := []
  -- The cues that have not been taken, each with its endpoint, in the order in which they were added.
  cues : List (Endpoint × Cue Resp) := []
  connects : List Endpoint := []
  calls : List (Endpoint × Req) := []
  -- The time that has passed, in milliseconds.
  clock : Nat := 0

namespace Script

variable {Req Resp : Type}

structure Channel where
  endpoint : Endpoint
  isOpen : Bool := true
  deriving DecidableEq

def setUnreachable (s : Script Req Resp) (e : Endpoint) (unreachable : Bool) : Script Req Resp :=
  let others := s.unreachable.filter (· ≠ e)
  { s with unreachable := if unreachable then e :: others else others }

def push (s : Script Req Resp) (e : Endpoint) (cue : Cue Resp) : Script Req Resp :=
  { s with cues := s.cues ++ [(e, cue)] }

def queue (s : Script Req Resp) (e : Endpoint) : List (Cue Resp) :=
  (s.cues.filter (·.1 = e)).map Prod.snd

-- The number of cues that an endpoint has left.
def pending (s : Script Req Resp) (e : Endpoint) : Nat :=
  (s.queue e).length

-- The same script with an empty record.
def forget (s : Script Req Resp) : Script Req Resp :=
  { s with connects := [], calls := [], clock := 0 }

-- The first cue for an endpoint, and the cues that remain without it.
def next? (e : Endpoint) : List (Endpoint × Cue Resp) → Option (Cue Resp × List (Endpoint × Cue Resp))
  | [] => none
  | (k, cue) :: rest =>
    if k = e then some (cue, rest)
    else (next? e rest).map fun (taken, left) => (taken, (k, cue) :: left)

theorem length_next? {e : Endpoint} {cues left : List (Endpoint × Cue Resp)} {cue : Cue Resp}
    (h : next? e cues = some (cue, left)) : left.length + 1 = cues.length := by
  induction cues generalizing left with
  | nil => simp [next?] at h
  | cons head rest hi =>
    simp only [next?] at h
    split at h
    case isTrue => cases h; rfl
    case isFalse =>
      obtain ⟨⟨_, _⟩, hr, he⟩ := Option.map_eq_some_iff.mp h
      cases he
      exact congrArg (· + 1) (hi hr)

def connect (e : Endpoint) (s : Script Req Resp) : Except ClientError Channel × Script Req Resp :=
  let refused := e ∈ s.unreachable
  (if refused then .error (.connectFailure e "connection refused") else .ok { endpoint := e },
    { s with connects := s.connects ++ [e] })

-- A closed channel takes no cue, and the call is not recorded.
def call (ch : Channel) (req : Req) (s : Script Req Resp) : Reply Resp × Channel × Script Req Resp :=
  if !ch.isOpen then
    (.failed (.transport s!"connection to {ch.endpoint.render} is closed"), ch, s)
  else
    let s := { s with calls := s.calls ++ [(ch.endpoint, req)] }
    let closed := { ch with isOpen := false }
    match next? ch.endpoint s.cues with
    | none => (.failed (.transport s!"no scripted reply for {ch.endpoint.render}"), closed, s)
    | some (cue, cues) =>
      let s := { s with cues }
      match cue with
      | .respond r => (.answered r, ch, s)
      | .drop => (.failed (.transport s!"connection to {ch.endpoint.render} reset by peer"), closed, s)
      | .hang => (.silent, ch, s)

theorem length_cues_call {ch ch' : Channel} {req : Req} {s s' : Script Req Resp} {r : Resp}
    (h : call ch req s = (.answered r, ch', s')) : s'.cues.length < s.cues.length := by
  simp only [call] at h
  split at h
  case isTrue => cases h
  case isFalse =>
    split at h
    case h_1 => cases h
    case h_2 hn =>
      have hl := length_next? hn
      split at h <;> cases h
      exact Nat.lt_of_succ_le (Nat.le_of_eq hl)

def network : FiniteNetwork (Script Req Resp) Channel Req Resp where
  endpoint := Channel.endpoint
  isOpen := Channel.isOpen
  connect := connect
  call ch req _ := call ch req
  close ch s := ({ ch with isOpen := false }, s)
  -- A wait ends with a tick of a clock that counts whole milliseconds.
  wait d s := { s with clock := s.clock + d.millisUp }
  supply _ s := s.cues.length
  supply_lt := length_cues_call

end Script

end ClusterClient
