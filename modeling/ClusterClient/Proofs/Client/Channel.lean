import ClusterClient.Proofs.Client.Operation
import ClusterClient.Proofs.Network.Lawful
import Mathlib

namespace ClusterClient

variable {σ χ : Type}

namespace Event

-- What an event in a lawful environment tells of channels.
def Lawful (net : Environment σ χ) : Event χ → Prop
  | connect e (.ok ch) => net.isOpen ch ∧ net.endpoint ch = e
  | call ch _ _ ch'    => net.endpoint ch' = net.endpoint ch
  | close _ ch'        => ¬net.isOpen ch'
  | _                  => True

theorem Happens.lawful {net : LawfulEnvironment σ χ} {e : Event χ} {w w' : σ}
    (h : e.Happens net.toEnvironment w w') : e.Lawful net.toEnvironment := by
  cases e
  case connect e answer =>
    cases answer
    case error => trivial
    case ok ch => exact net.lawful.connect e ch w (congrArg Prod.fst h)
  case call ch req reply ch' =>
    have he := net.lawful.call ch req none w
    rwa [h] at he
  case close ch ch' =>
    have ho := net.lawful.close ch w
    rwa [h] at ho
  case refresh | wait => trivial

variable [DecidableEq χ]

-- The channels that were handed out, as they are after an event. Channels that are alike are told apart by
-- their number only.
def handOut (channels : Multiset χ) : Event χ → Multiset χ
  | connect _ (.ok ch)             => ch ::ₘ channels
  | call ch _ _ ch' | close ch ch' => ch' ::ₘ channels.erase ch
  | _                              => channels

def handedOut (events : List (Event χ)) : Multiset χ :=
  events.foldl handOut 0

@[simp]
theorem handedOut_append (es es' : List (Event χ)) :
    handedOut (es ++ es') = es'.foldl handOut (handedOut es) :=
  List.foldl_append

end Event

namespace LeaderClient

open Event

variable [DecidableEq χ] (net : Environment σ χ)

-- Apart from the one that is held, the channels are closed.
def Accounted (channels : Multiset χ) (held : Option χ) : Prop :=
  ∃ others, channels = held.toList + others ∧ ∀ ch ∈ others, ¬net.isOpen ch

structure OneChannel (past : List (Event χ)) (c : LeaderClient χ) : Prop where
  channels : Accounted net (handedOut past) c.channel
  leader   : ∀ ch e, c.channel = some ch → c.leader = .known e → net.endpoint ch = e

-- A node is connected to when there is no channel, and called over the only one. What comes before the close
-- of an open channel is a call that is to be made again, unless the client itself is closed.
def Governed (closing : Prop) (past : List (Event χ)) (m : Moment χ) : Prop :=
  match m.event with
  | .connect _ _   => OneChannel net past m.client ∧ m.client.channel = none
  | .call ch _ _ _ => OneChannel net past m.client ∧ m.client.channel = some ch
  | .close ch _    => net.isOpen ch → closing ∨
                        ∃ ch₀ req reply, past.getLast? = some (.call ch₀ req reply ch) ∧ reply.IsRetried
  | _              => True

variable {net} {c c' : LeaderClient χ} {t : Trace χ} {past : List (Event χ)} {closing : Prop}

namespace Accounted

variable {channels : Multiset χ} {ch ch' : χ}

theorem connect (h : Accounted net channels none) (e : Endpoint) (ch : χ) :
    Accounted net (handOut channels (.connect e (.ok ch))) (some ch) := by
  obtain ⟨others, rfl, hc⟩ := h
  exact ⟨others, by simp [handOut], hc⟩

theorem call (h : Accounted net channels (some ch)) (req : ConfigRequest)
    (reply : Reply ConfigResponse) (ch' : χ) :
    Accounted net (handOut channels (.call ch req reply ch')) (some ch') := by
  obtain ⟨others, rfl, hc⟩ := h
  exact ⟨others, by simp [handOut], hc⟩

theorem close (h : Accounted net channels (some ch)) (ho : ¬net.isOpen ch') :
    Accounted net (handOut channels (.close ch ch')) none := by
  obtain ⟨others, rfl, hc⟩ := h
  refine ⟨ch' ::ₘ others, by simp [handOut], ?_⟩
  exact Multiset.forall_mem_cons.mpr ⟨ho, hc⟩

end Accounted

omit [DecidableEq χ] in
theorem learn_leader_of_not_isRetried (c : LeaderClient χ) {reply : Reply ConfigResponse}
    (h : ¬reply.IsRetried) : (c.learn reply).leader = c.leader := by
  cases reply <;> simp only [learn]
  case failed => rw [if_neg fun ht => h (.transport ht)]
  case answered =>
    rw [if_neg fun hr => h (.redirect hr)]
    split <;> simp only [adopt_leader]

theorem Step.oneChannel (s : Step net c t c') (h : OneChannel net past c)
    (hq : ∀ e ∈ t.events, e.Lawful net) :
    OneChannel net (past ++ t.events) c' ∧ t.Always (Governed net closing) past := by
  have hc := h.channels
  cases s
  case discarded ch ch' hch ho =>
    have ho' : ¬net.isOpen ch' := hq (.close ch ch') (by simp)
    rw [hch] at hc
    exact ⟨⟨by simpa using hc.close ho', nofun⟩, fun ho'' => absurd ho'' ho, trivial⟩
  case leaderReached e ch hch hl =>
    have ⟨_, he⟩ : net.isOpen ch ∧ net.endpoint ch = e := hq (.connect e (.ok ch)) (by simp)
    refine ⟨⟨?channels, ?leader⟩, ⟨h, hch⟩, trivial⟩
    case channels =>
      rw [hch] at hc
      simpa using hc.connect e ch
    case leader =>
      intro ch' e' hch' hl'
      cases hch'
      cases hl.symm.trans hl'
      exact he
  case leaderLost e fault hch hl =>
    exact ⟨⟨by simpa [handOut] using hc, nofun⟩, ⟨h, hch⟩, trivial⟩
  case memberReached e ch hch hl hm =>
    refine ⟨⟨?channels, ?leader⟩, ⟨⟨hc, h.leader⟩, hch⟩, trivial⟩
    case channels =>
      rw [hch] at hc
      simpa using hc.connect e ch
    case leader =>
      intro _ _ _ hl'
      cases hl.symm.trans hl'
  case memberLost e fault hch hl hm =>
    exact ⟨⟨by simpa [handOut] using hc, h.leader⟩, ⟨⟨hc, h.leader⟩, hch⟩, trivial⟩
  case refreshed hch =>
    exact ⟨⟨by simpa [handOut] using hc, by simpa using h.leader⟩, trivial, trivial⟩
  case waited => exact ⟨⟨by simpa [handOut] using hc, h.leader⟩, trivial, trivial⟩
  case decided ch ch' req reply hch hr =>
    have he : net.endpoint ch' = net.endpoint ch := hq (.call ch req reply ch') (by simp)
    refine ⟨⟨?channels, ?leader⟩, ⟨h, hch⟩, trivial⟩
    case channels =>
      rw [hch] at hc
      simpa using hc.call req reply ch'
    case leader =>
      intro _ e hch' hl
      rw [learn_channel] at hch'
      rw [learn_leader_of_not_isRetried _ hr] at hl
      cases hch'
      exact he.trans (h.leader ch e hch hl)
  case retried ch ch' ch'' req reply hch hr =>
    have ho : ¬net.isOpen ch'' := hq (.close ch' ch'') (by simp)
    refine ⟨⟨?_, nofun⟩, ⟨h, hch⟩, fun _ => .inr ⟨ch, req, reply, by simp, hr⟩, trivial⟩
    rw [hch] at hc
    simpa using (hc.call req reply ch').close ho

theorem Drops.oneChannel (d : Drops c t c') (h : OneChannel net past c)
    (hq : ∀ e ∈ t.events, e.Lawful net) (hcl : closing) :
    OneChannel net (past ++ t.events) c' ∧ t.Always (Governed net closing) past := by
  cases d
  case absent => exact ⟨by simpa using h, trivial⟩
  case closed ch ch' hch =>
    have hc := h.channels
    have ho : ¬net.isOpen ch' := hq (.close ch ch') (by simp)
    rw [hch] at hc
    exact ⟨⟨by simpa using hc.close ho, nofun⟩, fun _ => .inl hcl, trivial⟩

theorem Runs.oneChannel {history : List Command} (r : Runs net history c t c')
    (h : OneChannel net [] c) (hq : ∀ e ∈ t.events, e.Lawful net) : OneChannel net t.events c' := by
  have ⟨h', _⟩ := r.always (I := OneChannel net) (P := Governed net True)
    (fun h hq s => s.oneChannel h hq) (fun h hq d => d.oneChannel h hq trivial) hq h
  exact h'

theorem Performs.oneChannel {command : Command} (p : Performs net c command t c')
    (h : OneChannel net past c) (hq : ∀ e ∈ t.events, e.Lawful net) :
    OneChannel net (past ++ t.events) c' ∧ t.Always (Governed net (command = .close)) past := by
  cases p
  case asked e => exact e.steps.always (fun h hq s => s.oneChannel h hq) hq h
  case closed d => exact d.oneChannel h hq rfl

-- After any history of commands, and throughout the next one, there is one channel at most. A node is connected
-- to only when there is none. An open channel is closed only after a redirect, after a call that failed
-- in transport, or because the client itself is closed.
theorem perform_oneChannel (net : LawfulEnvironment σ χ) (first : Endpoint) (others : List Endpoint)
    (retry : RetryPolicy) (history : List Command) (command : Command) (w : σ) :
    let env := net.toEnvironment
    ∃ c c₁ w₁ past c₂ w₂ t, ofMembers (first :: others) retry = .ok c ∧
      run env history c w = (c₁, w₁) ∧
      run env.recorded history c { world := w } = (c₁, { world := w₁, events := past }) ∧
      perform env command c₁ w₁ = (c₂, w₂) ∧
      perform env.recorded command c₁ { world := w₁, events := past } =
        (c₂, { world := w₂, events := past ++ t.events }) ∧
      Performs env c₁ command t c₂ ∧ OneChannel env (past ++ t.events) c₂ ∧
      ∀ (before : Trace χ) (m : Moment χ) (later : Trace χ), t = before ++ m :: later →
        Governed env (command = .close) (past ++ before.events) m := by
  intro env
  let c : LeaderClient χ := { leader := .known first, members := first :: others, retry }
  have start : OneChannel env [] c := ⟨⟨0, rfl, by simp⟩, nofun⟩
  have ⟨c₁, w₁, t₁, hn₁, hr₁, r, p₁⟩ := run_trace env history c { world := w }
  have ⟨c₂, w₂, t₂, hn₂, hr₂, q, p₂⟩ :=
    perform_trace env command c₁ { world := w₁, events := t₁.events }
  have lawful {w w' : σ} {es : List (Event χ)} (p : env.Plays w es w') : ∀ e ∈ es, e.Lawful env := by
    intro e he
    have ⟨_, _, h⟩ := p.happens e he
    exact h.lawful
  have ⟨h₂, ha⟩ := q.oneChannel (r.oneChannel start (lawful p₁)) (lawful p₂)
  refine ⟨c, c₁, w₁, t₁.events, c₂, w₂, t₂, rfl, hn₁, hr₁, hn₂, hr₂, q, h₂, ?_⟩
  rintro before m later rfl
  exact ha.at_split

end LeaderClient

end ClusterClient
