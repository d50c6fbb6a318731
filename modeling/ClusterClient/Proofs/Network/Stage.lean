import ClusterClient.Proofs.Network.Script
import Mathlib

namespace ClusterClient.Script

variable {Req Resp : Type}

-- What may be done with a script and with its channels, which go by the order in which they were handed out.
inductive Action (Req Resp : Type) where
  | push (e : Endpoint) (cue : Cue Resp)
  | setUnreachable (e : Endpoint) (unreachable : Bool)
  | connect (e : Endpoint)
  | call (channel : Nat) (req : Req)
  | close (channel : Nat)

-- What is seen of an action, with the channel as it was before it.
inductive Event (Req Resp : Type) where
  | pushed (e : Endpoint) (cue : Cue Resp)
  | marked (e : Endpoint) (unreachable : Bool)
  | connected (e : Endpoint) (result : Except ClientError Channel)
  | called (ch : Channel) (req : Req) (reply : Reply Resp)
  | closed (ch : Channel)

-- The cue that a call to an endpoint must have taken to come to this reply.
def cueOf? (e : Endpoint) : Reply Resp → Option (Cue Resp)
  | .answered r   => some (.respond r)
  | .silent       => some .hang
  | .failed error => if error = .transport s!"connection to {e.render} reset by peer" then some .drop else none

namespace Event

-- The cue that an event adds to an endpoint, and the one that it takes from it.
def pushed? (e : Endpoint) : Event Req Resp → Option (Cue Resp)
  | pushed k cue => if k = e then some cue else none
  | _            => none

def taken? (e : Endpoint) : Event Req Resp → Option (Cue Resp)
  | called ch _ reply => if ch.endpoint = e then cueOf? e reply else none
  | _                 => none

def mark? (e : Endpoint) : Event Req Resp → Option Bool
  | marked k unreachable => if k = e then some unreachable else none
  | _                    => none

def connect? : Event Req Resp → Option Endpoint
  | connected e _ => some e
  | _             => none

-- A call that reaches its endpoint, whatever it comes to.
def call? : Event Req Resp → Option (Endpoint × Req)
  | called ch req _ => if ch.isOpen then some (ch.endpoint, req) else none
  | _               => none

end Event

structure Stage (Req Resp : Type) where
  script : Script Req Resp := {}
  channels : List Channel := []
  log : List (Event Req Resp) := []

namespace Stage

-- A channel that was never handed out cannot be used.
def step (st : Stage Req Resp) : Action Req Resp → Stage Req Resp
  | .push e cue => { st with script := st.script.push e cue, log := st.log ++ [.pushed e cue] }
  | .setUnreachable e unreachable =>
    { st with script := st.script.setUnreachable e unreachable, log := st.log ++ [.marked e unreachable] }
  | .connect e =>
    let (result, script) := Script.connect e st.script
    { script, channels := st.channels ++ result.toOption.toList, log := st.log ++ [.connected e result] }
  | .call i req =>
    match st.channels[i]? with
    | none    => st
    | some ch =>
      let (reply, ch', script) := Script.call ch req st.script
      { script, channels := st.channels.set i ch', log := st.log ++ [.called ch req reply] }
  | .close i =>
    match st.channels[i]? with
    | none    => st
    | some ch =>
      let (ch', script) := network.close ch st.script
      { script, channels := st.channels.set i ch', log := st.log ++ [.closed ch] }

-- Everything that is done with a new script.
def run (actions : List (Action Req Resp)) : Stage Req Resp :=
  actions.foldl step {}

def pushed (st : Stage Req Resp) (e : Endpoint) : List (Cue Resp) :=
  st.log.filterMap (Event.pushed? e)

def taken (st : Stage Req Resp) (e : Endpoint) : List (Cue Resp) :=
  st.log.filterMap (Event.taken? e)

-- Whether an endpoint was last said to be unreachable, if that was ever said or taken back.
def lastMark? (st : Stage Req Resp) (e : Endpoint) : Option Bool :=
  (st.log.filterMap (Event.mark? e)).getLast?

end Stage

-- What an event says of the script before it and after it.
structure Event.Happens (event : Event Req Resp) (s s' : Script Req Resp) : Prop where
  queue_eq        : ∀ e, s.queue e ++ (event.pushed? e).toList = (event.taken? e).toList ++ s'.queue e
  calls_eq        : s'.calls = s.calls ++ event.call?.toList
  connects_eq     : s'.connects = s.connects ++ event.connect?.toList
  unreachable_iff : ∀ e, e ∈ s'.unreachable ↔ (event.mark? e).getD (e ∈ s.unreachable)

variable {ch ch' : Channel} {req : Req} {reply : Reply Resp} {s s' : Script Req Resp}

section Cues

-- The texts tell the ways apart in which a call loses its channel, whatever the endpoint is called.
theorem cueOf?_starved (e : Endpoint) :
    cueOf? e (.failed (.transport s!"no scripted reply for {e.render}") : Reply Resp) = none := by
  rw [cueOf?, if_neg]
  intro h
  have hl := congrArg (·.toList.head?) (ClientError.transport.inj h)
  simp only [String.toList_append, List.append_assoc] at hl
  have hc : some 'n' = some 'c' := hl
  exact absurd hc (by decide)

theorem cueOf?_closed (e : Endpoint) :
    cueOf? e (.failed (.transport s!"connection to {e.render} is closed") : Reply Resp) = none := by
  rw [cueOf?, if_neg]
  intro h
  have hl := congrArg String.toList (ClientError.transport.inj h)
  simp only [String.toList_append, List.append_cancel_left_eq] at hl
  exact absurd hl (by decide)

theorem Outcome.cueOf?_eq {cue : Option (Cue Resp)} (o : Outcome ch cue reply ch') :
    cueOf? ch.endpoint reply = cue := by
  cases o
  case responded | hung => rfl
  case dropped          => exact if_pos rfl
  case starved          => exact cueOf?_starved ch.endpoint

end Cues

theorem Event.taken?_called {cue : Option (Cue Resp)} (h : cueOf? ch.endpoint reply = cue) (e : Endpoint) :
    (called ch req reply).taken? e = if ch.endpoint = e then cue else none := by
  by_cases he : ch.endpoint = e
  case pos =>
    subst he
    simp [taken?, h]
  case neg => simp [taken?, he]

namespace Event.Happens

open Event

theorem push (s : Script Req Resp) (e : Endpoint) (cue : Cue Resp) :
    (pushed e cue : Event Req Resp).Happens s (s.push e cue) where
  queue_eq k := by
    rw [queue_push]
    by_cases hk : e = k <;> simp [pushed?, taken?, hk]
  calls_eq          := (List.append_nil _).symm
  connects_eq       := (List.append_nil _).symm
  unreachable_iff _ := by simp [mark?, Script.push]

theorem setUnreachable (s : Script Req Resp) (e : Endpoint) (unreachable : Bool) :
    (marked e unreachable : Event Req Resp).Happens s (s.setUnreachable e unreachable) where
  queue_eq _        := List.append_nil _
  calls_eq          := (List.append_nil _).symm
  connects_eq       := (List.append_nil _).symm
  unreachable_iff k := by
    by_cases hk : e = k <;> cases unreachable <;> simp [mark?, Script.setUnreachable, hk, eq_comm]

theorem connect (s : Script Req Resp) (e : Endpoint) :
    (connected e (Script.connect e s).1 : Event Req Resp).Happens s (Script.connect e s).2 where
  queue_eq _        := List.append_nil _
  calls_eq          := (List.append_nil _).symm
  connects_eq       := rfl
  unreachable_iff _ := by simp [mark?, Script.connect]

theorem refused (s : Script Req Resp) (req : Req) (ho : ¬ch.isOpen) :
    (called ch req (.failed (.transport s!"connection to {ch.endpoint.render} is closed")) : Event Req Resp).Happens s s
    where
  queue_eq k        := by simp [pushed?, taken?_called (cueOf?_closed ch.endpoint)]
  calls_eq          := by simp [call?, ho]
  connects_eq       := (List.append_nil _).symm
  unreachable_iff _ := by simp [mark?]

theorem asked {cue : Option (Cue Resp)} (a : Asked ch.endpoint [req] cue.toList s s') (ho : ch.isOpen)
    (hc : cueOf? ch.endpoint reply = cue) : (called ch req reply).Happens s s' where
  queue_eq k := by
    by_cases hk : ch.endpoint = k
    case pos =>
      subst hk
      simp [pushed?, taken?_called hc, a.queue_eq]
    case neg => simp [pushed?, taken?_called hc, hk, a.others k (Ne.symm hk)]
  calls_eq          := by simp [call?, ho, a.calls_eq]
  connects_eq       := by simp [connect?, a.connects_eq]
  unreachable_iff _ := by simp [mark?, a.unreachable_eq]

theorem call (h : Script.call ch req s = (reply, ch', s')) : (called ch req reply).Happens s s' := by
  by_cases ho : ch.isOpen
  case neg =>
    rw [call_closed req s ho] at h
    cases h
    exact refused s req ho
  case pos =>
    have ⟨_, _, o, a, _⟩ := call_outcome h ho
    exact asked a ho o.cueOf?_eq

theorem close (s : Script Req Resp) (ch : Channel) : (closed ch : Event Req Resp).Happens s s where
  queue_eq _        := List.append_nil _
  calls_eq          := (List.append_nil _).symm
  connects_eq       := (List.append_nil _).symm
  unreachable_iff _ := by simp [mark?]

end Event.Happens

namespace Stage

variable {st st' : Stage Req Resp} {event : Event Req Resp} {e : Endpoint}

-- What holds of a script and of the log of all that was done with it.
structure Balanced (st : Stage Req Resp) : Prop where
  queue_eq        : ∀ e, st.pushed e = st.taken e ++ st.script.queue e
  calls_eq        : st.script.calls = st.log.filterMap Event.call?
  connects_eq     : st.script.connects = st.log.filterMap Event.connect?
  unreachable_iff : ∀ e, e ∈ st.script.unreachable ↔ st.lastMark? e = some true

theorem filterMap_concat {α β : Type} (f : α → Option β) (xs : List α) (x : α) :
    (xs ++ [x]).filterMap f = xs.filterMap f ++ (f x).toList := by
  cases h : f x <;> simp [h]

namespace Balanced

theorem start : ({} : Stage Req Resp).Balanced where
  queue_eq _        := rfl
  calls_eq          := rfl
  connects_eq       := rfl
  unreachable_iff _ := by simp [lastMark?]

theorem append (b : st.Balanced) (hl : st'.log = st.log ++ [event]) (h : event.Happens st.script st'.script) :
    st'.Balanced where
  queue_eq e := by
    have hb := b.queue_eq e
    simp only [pushed, taken, hl, filterMap_concat] at hb ⊢
    rw [hb, List.append_assoc, List.append_assoc, h.queue_eq e]
  calls_eq    := by rw [h.calls_eq, b.calls_eq, hl, filterMap_concat]
  connects_eq := by rw [h.connects_eq, b.connects_eq, hl, filterMap_concat]
  unreachable_iff e := by
    have hb : e ∈ st.script.unreachable ↔ (st.log.filterMap (Event.mark? e)).getLast? = some true := b.unreachable_iff e
    rw [h.unreachable_iff, lastMark?, hl, filterMap_concat]
    cases event.mark? e
    case none => simpa using hb
    case some => simp

end Balanced

-- A step leaves the stage as it is, or adds what happens to the log.
theorem step_cases (st : Stage Req Resp) (a : Action Req Resp) :
    st.step a = st ∨ ∃ event, (st.step a).log = st.log ++ [event] ∧ event.Happens st.script (st.step a).script := by
  cases a
  case push e cue              => exact .inr ⟨_, rfl, .push st.script e cue⟩
  case setUnreachable e marked => exact .inr ⟨_, rfl, .setUnreachable st.script e marked⟩
  case connect e               => exact .inr ⟨_, rfl, .connect st.script e⟩
  case call i req =>
    rcases hi : st.channels[i]? with _ | ch <;> simp only [step, hi]
    case none => exact .inl trivial
    case some => exact .inr ⟨_, rfl, .call rfl⟩
  case close i =>
    rcases hi : st.channels[i]? with _ | ch <;> simp only [step, hi]
    case none => exact .inl trivial
    case some => exact .inr ⟨_, rfl, .close st.script ch⟩

theorem Balanced.step (b : st.Balanced) (a : Action Req Resp) : (st.step a).Balanced := by
  rcases st.step_cases a with h | ⟨event, hl, h⟩
  case inl => rwa [h]
  case inr => exact b.append hl h

theorem Balanced.foldl (b : st.Balanced) (actions : List (Action Req Resp)) :
    (actions.foldl Stage.step st).Balanced := by
  induction actions generalizing st
  case nil => exact b
  case cons a _ hi => exact hi (b.step a)

end Stage

end ClusterClient.Script
