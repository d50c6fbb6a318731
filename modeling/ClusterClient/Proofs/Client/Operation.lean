import ClusterClient.Proofs.Client.Step

namespace ClusterClient

namespace ConfigRequest

-- What the operation of a request gives to its caller.
abbrev Value : ConfigRequest → Type
  | registerNode _ => NodeId
  | restartNode _ | removeNode _ => Status
  | getNodeConfiguration _ => KeyMap NodeId NodeConfiguration

-- The value in a response, if the response is of the kind that the request calls for.
def value? : (req : ConfigRequest) → ConfigResponse → Option req.Value
  | registerNode _, .registered _ _ nodeId => some nodeId
  | restartNode _, .restarted status _ => some status
  | removeNode _, .removed status => some status
  | getNodeConfiguration _, .configuration _ configurations => some configurations
  | _, _ => none

end ConfigRequest

namespace LeaderClient

variable {σ χ : Type}

section

variable (net : Environment σ χ)

def ask : (req : ConfigRequest) → LeaderClient χ → σ → Reply req.Value × LeaderClient χ × σ
  | .registerNode r, c, w         => c.register net r w
  | .restartNode r, c, w          => c.restart net r w
  | .removeNode location, c, w    => c.remove net location w
  | .getNodeConfiguration n, c, w => c.nodeConfigurations net n w

theorem ask_eq (req : ConfigRequest) (c : LeaderClient χ) (w : σ) :
    ask net req c w =
      let (reply, c, w) := c.execute net req w
      (reply.select req.value?, c, w) := by
  have hv (f g : ConfigResponse → Option req.Value) (h : ∀ r, f r = g r) : f = g := funext h
  cases req
  all_goals
    simp only [ask, register, restart, remove, nodeConfigurations]
    congr 2
    apply hv
    intro r
    cases r <;> rfl

inductive Command where
  | ask (req : ConfigRequest)
  | close

def perform : Command → LeaderClient χ → σ → LeaderClient χ × σ
  | .ask req, c, w => (c.ask net req w).2
  | .close, c, w   => c.close net w

-- The client and the world after a history of commands.
def run (history : List Command) (c : LeaderClient χ) (w : σ) : LeaderClient χ × σ :=
  history.foldl (fun (c, w) command => perform net command c w) (c, w)

inductive Performs (c : LeaderClient χ) : Command → Trace χ → LeaderClient χ → Prop
  | asked {req : ConfigRequest} {t : Trace χ} {r : Reply ConfigResponse} {c' : LeaderClient χ}
    (e : Executes net req c t r c') : Performs c (.ask req) t c'
  | closed {t : Trace χ} {c' : LeaderClient χ} (d : Drops c t c') : Performs c .close t c'

inductive Runs : List Command → LeaderClient χ → Trace χ → LeaderClient χ → Prop
  | nil {c : LeaderClient χ} : Runs [] c [] c
  | cons {command : Command} {history : List Command} {c c₁ c₂ : LeaderClient χ} {t t' : Trace χ}
    (p : Performs net c command t c₁) (rest : Runs history c₁ t' c₂) :
    Runs (command :: history) c (t ++ t') c₂

theorem perform_trace (command : Command) (c : LeaderClient χ) (w : Recorded σ χ) :
    ∃ c' world t, perform net command c w.world = (c', world) ∧
      perform net.recorded command c w = (c', w.add world t.events) ∧ Performs net c command t c' ∧
      net.Plays w.world t.events world := by
  cases command
  case ask req =>
    have ⟨r, c', world, t, hn, hr, e, p⟩ := c.execute_plays net req w
    exact ⟨c', world, t, by simp [perform, ask_eq, hn], by simp [perform, ask_eq, hr], .asked e, p⟩
  case close =>
    have ⟨c', world, t, hn, hr, d, p⟩ := c.dropChannel_trace net w
    exact ⟨c', world, t, hn, hr, .closed d, p⟩

theorem run_trace (history : List Command) (c : LeaderClient χ) (w : Recorded σ χ) :
    ∃ c' world t, run net history c w.world = (c', world) ∧
      run net.recorded history c w = (c', w.add world t.events) ∧ Runs net history c t c' ∧
      net.Plays w.world t.events world := by
  induction history generalizing c w
  case nil => exact ⟨c, w.world, [], rfl, by simp [run], .nil, .nil⟩
  case cons command history hi =>
    have ⟨c₁, world₁, t₁, hn₁, hr₁, p, p₁⟩ := perform_trace net command c w
    have ⟨c₂, world₂, t₂, hn₂, hr₂, rest, p₂⟩ := hi c₁ (w.add world₁ t₁.events)
    simp only [Recorded.add_world, Recorded.add_add] at hn₂ hr₂ p₂
    refine ⟨c₂, world₂, t₁ ++ t₂, ?_, ?_, .cons p rest, by simpa using p₁.append p₂⟩
    case refine_1 => simpa only [run, List.foldl_cons, hn₁] using hn₂
    case refine_2 => simpa only [run, List.foldl_cons, hr₁, Trace.events_append] using hr₂

end

variable {net : Environment σ χ} {c c' : LeaderClient χ} {command : Command} {history : List Command}
  {t : Trace χ} {I : List (Event χ) → LeaderClient χ → Prop} {P : List (Event χ) → Moment χ → Prop}
  {Q : Event χ → Prop}

section

variable
  (step : ∀ {past c t c'}, I past c → (∀ e ∈ t.events, Q e) → Step net c t c' →
    I (past ++ t.events) c' ∧ t.Always P past)
  (close : ∀ {past c t c'}, I past c → (∀ e ∈ t.events, Q e) → Drops c t c' →
    I (past ++ t.events) c' ∧ t.Always P past)

include step close

-- What each step and each close preserves, and what follows of the moments within them.
theorem Performs.always (p : Performs net c command t c') (hq : ∀ e ∈ t.events, Q e)
    {past : List (Event χ)} (h : I past c) : I (past ++ t.events) c' ∧ t.Always P past := by
  cases p
  case asked e => exact e.steps.always step hq h
  case closed d => exact close h hq d

theorem Runs.always (r : Runs net history c t c') (hq : ∀ e ∈ t.events, Q e)
    {past : List (Event χ)} (h : I past c) : I (past ++ t.events) c' ∧ t.Always P past := by
  induction r generalizing past
  case nil => exact ⟨by rwa [Trace.events_nil, List.append_nil], trivial⟩
  case cons p _ hi =>
    simp only [Trace.events_append] at hq ⊢
    have ⟨hq, hq'⟩ := List.forall_mem_append.mp hq
    have ⟨h₁, ha⟩ := p.always step close hq h
    have ⟨h₂, ha'⟩ := hi hq' h₁
    exact ⟨by simpa using h₂, ha.append ha'⟩

end

end LeaderClient

end ClusterClient
