import ClusterClient.Client.Leader

namespace ClusterClient

-- What a client asks its environment for, with the answer.
inductive Event (χ : Type) where
  | connect (e : Endpoint) (answer : Except ClientError χ)
  | call (before : χ) (req : ConfigRequest) (reply : Reply ConfigResponse) (after : χ)
  | close (before after : χ)
  | refresh (known : List Endpoint) (answer : Option (List Endpoint))
  | wait (d : Duration)

namespace Event

variable {χ : Type}

def call? : Event χ → Option (ConfigRequest × Reply ConfigResponse)
  | call _ req reply _ => some (req, reply)
  | _ => none

def wait? : Event χ → Option Duration
  | wait d => some d
  | _ => none

def calls (events : List (Event χ)) : List (ConfigRequest × Reply ConfigResponse) :=
  events.filterMap call?

def waits (events : List (Event χ)) : List Duration :=
  events.filterMap wait?

@[simp]
theorem calls_append (es es' : List (Event χ)) : calls (es ++ es') = calls es ++ calls es' :=
  List.filterMap_append

@[simp]
theorem waits_append (es es' : List (Event χ)) : waits (es ++ es') = waits es ++ waits es' :=
  List.filterMap_append

@[simp]
theorem calls_cons (e : Event χ) (es : List (Event χ)) :
    calls (e :: es) = e.call?.toList ++ calls es := by
  cases e <;> rfl

@[simp]
theorem waits_cons (e : Event χ) (es : List (Event χ)) :
    waits (e :: es) = e.wait?.toList ++ waits es := by
  cases e <;> rfl

@[simp]
theorem calls_nil : calls ([] : List (Event χ)) = [] := rfl

@[simp]
theorem waits_nil : waits ([] : List (Event χ)) = [] := rfl

end Event

structure Recorded (σ χ : Type) where
  world : σ
  events : List (Event χ) := []

namespace Recorded

variable {σ χ : Type}

def add (w : Recorded σ χ) (world : σ) (events : List (Event χ)) : Recorded σ χ where
  world := world
  events := w.events ++ events

@[simp]
theorem add_world (w : Recorded σ χ) (world : σ) (es : List (Event χ)) :
    (w.add world es).world = world := rfl

@[simp]
theorem add_nil (w : Recorded σ χ) : w.add w.world [] = w := by
  simp [add]

@[simp]
theorem add_add (w : Recorded σ χ) (world world' : σ) (es es' : List (Event χ)) :
    (w.add world es).add world' es' = w.add world' (es ++ es') := by
  simp [add]

end Recorded

-- The same environment, which writes down everything that it is asked for.
def Environment.recorded {σ χ : Type} (net : Environment σ χ) : Environment (Recorded σ χ) χ where
  endpoint := net.endpoint
  isOpen := net.isOpen
  connect e w :=
    let (answer, world) := net.connect e w.world
    (answer, w.add world [.connect e answer])
  call ch req limit w :=
    let (reply, ch', world) := net.call ch req limit w.world
    (reply, ch', w.add world [.call ch req reply ch'])
  close ch w :=
    let (ch', world) := net.close ch w.world
    (ch', w.add world [.close ch ch'])
  wait d w := w.add (net.wait d w.world) [.wait d]
  refresh known w :=
    let (answer, world) := net.refresh known w.world
    (answer, w.add world [.refresh known answer])

namespace Environment

variable {σ χ : Type} (net : Environment σ χ) (w : Recorded σ χ)

theorem recorded_connect {e : Endpoint} {answer : Except ClientError χ} {world : σ}
    (h : net.connect e w.world = (answer, world)) :
    net.recorded.connect e w = (answer, w.add world [.connect e answer]) := by
  simp [recorded, h]

theorem recorded_call {ch ch' : χ} {req : ConfigRequest} {limit : Option Duration}
    {reply : Reply ConfigResponse} {world : σ}
    (h : net.call ch req limit w.world = (reply, ch', world)) :
    net.recorded.call ch req limit w = (reply, ch', w.add world [.call ch req reply ch']) := by
  simp [recorded, h]

theorem recorded_close {ch ch' : χ} {world : σ} (h : net.close ch w.world = (ch', world)) :
    net.recorded.close ch w = (ch', w.add world [.close ch ch']) := by
  simp [recorded, h]

theorem recorded_wait (d : Duration) :
    net.recorded.wait d w = w.add (net.wait d w.world) [.wait d] := rfl

theorem recorded_refresh {known : List Endpoint} {answer : Option (List Endpoint)} {world : σ}
    (h : net.refresh known w.world = (answer, world)) :
    net.recorded.refresh known w = (answer, w.add world [.refresh known answer]) := by
  simp [recorded, h]

end Environment

-- The environment, asked for it in the one state, answers as the event says and passes into the other.
def Event.Happens {σ χ : Type} (net : Environment σ χ) : Event χ → σ → σ → Prop
  | connect e answer, w, w'      => net.connect e w = (answer, w')
  | call ch req reply ch', w, w' => net.call ch req none w = (reply, ch', w')
  | close ch ch', w, w'          => net.close ch w = (ch', w')
  | refresh known answer, w, w'  => net.refresh known w = (answer, w')
  | wait d, w, w'                => net.wait d w = w'

namespace Environment

variable {σ χ : Type} (net : Environment σ χ)

-- Events that happen one after the other.
inductive Plays : σ → List (Event χ) → σ → Prop
  | nil {w : σ} : Plays w [] w
  | cons {w w₁ w₂ : σ} {e : Event χ} {es : List (Event χ)} (h : e.Happens net w w₁)
    (rest : Plays w₁ es w₂) : Plays w (e :: es) w₂

namespace Plays

variable {net} {w w' : σ} {es es' : List (Event χ)}

theorem single {e : Event χ} (h : e.Happens net w w') : net.Plays w [e] w' :=
  .cons h .nil

theorem append_iff :
    net.Plays w (es ++ es') w' ↔ ∃ w₁, net.Plays w es w₁ ∧ net.Plays w₁ es' w' := by
  constructor
  case mp =>
    intro p
    induction es generalizing w
    case nil => exact ⟨w, .nil, p⟩
    case cons hi =>
      cases p with | cons h rest =>
      have ⟨w₁, p, p'⟩ := hi rest
      exact ⟨w₁, .cons h p, p'⟩
  case mpr =>
    intro ⟨w₁, p, p'⟩
    induction p
    case nil => exact p'
    case cons h _ hi => exact .cons h (hi p')

theorem append {w₁ : σ} (p : net.Plays w es w₁) (p' : net.Plays w₁ es' w') :
    net.Plays w (es ++ es') w' :=
  append_iff.mpr ⟨w₁, p, p'⟩

theorem happens (p : net.Plays w es w') : ∀ e ∈ es, ∃ w₁ w₂, e.Happens net w₁ w₂ := by
  induction p
  case nil => simp
  case cons h _ hi => exact List.forall_mem_cons.mpr ⟨⟨_, _, h⟩, hi⟩

end Plays

end Environment

end ClusterClient
