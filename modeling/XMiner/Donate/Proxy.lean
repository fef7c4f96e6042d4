import XMiner.Donate.Invariant

namespace XMiner
namespace Donate

open DonateStrategy

/-!
# The proxy client's lifecycle

`connect()` stores the client `createProxy()` returns in `m_proxy`; `onClose` releases it with
`deleteLater()` on its second failure when `proxyDonate` is `AUTO`, `setState(IDLE)` releases it
when a donation window ends, and `~DonateStrategy` releases whatever is left.  So the strategy
should own its proxies as a `Ledger` does: numbered in the order they are created, at most one
live, a new one only while none is, and only the live one called or released.

A proxy is an external client, so its callbacks are inputs; the runs considered here are those
in which only the current proxy delivers them.  Along every such run the members refine the
ledger: replaying the trace from an empty ledger ends at `m_proxy` and the number of proxies
created.  Each created proxy is then released exactly once, counting the destructor, no release
goes through a null `m_proxy`, and `submit()` reaches a proxy exactly while one is live.
-/

/-! ## The ledger of a single owner -/

/-- Whether an effect is a call on proxy `id`: `connect()`, `tick()`, `submit()` or
`deleteLater()`. -/
def Effect.callsProxy (id : Nat) : Effect → Bool
  | .proxyConnect p | .proxyTick p _ | .proxySubmit p | .proxyDeleteLater (some p) => p = id
  | _ => false

/-- Proxies owned one at a time: the number the next one gets, and the live one, if any. -/
structure Ledger where
  next : Nat
  live : Option Nat
  deriving DecidableEq, Repr

namespace Ledger

/-- What one effect does to the ledger, or `none` when it creates a proxy while one is live or
out of turn, or calls or releases one that is not live. -/
def record (l : Ledger) : Effect → Option Ledger
  | .proxyCreate id => if l.live = none ∧ id = l.next then some ⟨l.next + 1, some id⟩ else none
  | .proxyConnect id | .proxyTick id _ | .proxySubmit id => if l.live = some id then some l else none
  | .proxyDeleteLater (some id) => if l.live = some id then some ⟨l.next, none⟩ else none
  | .proxyDeleteLater none => none
  | _ => some l

/-- The ledger after a list of effects. -/
def track (l : Ledger) : List Effect → Option Ledger
  | [] => some l
  | effect :: rest => (l.record effect).bind fun recorded => track recorded rest

@[simp] theorem track_nil (l : Ledger) : track l [] = some l := rfl

@[simp] theorem track_cons (l : Ledger) (effect : Effect) (rest : List Effect) :
    track l (effect :: rest) = (l.record effect).bind fun recorded => track recorded rest := rfl

theorem track_append (l : Ledger) (first second : List Effect) :
    track l (first ++ second) = (track l first).bind fun recorded => track recorded second := by
  induction first generalizing l with
  | nil => rfl
  | cons effect rest inductionHypothesis =>
    simp only [List.cons_append, track_cons, inductionHypothesis, Option.bind_assoc]

/-- An effect creates a proxy, releases one, or is none of these, and then no ledger it leaves
intact moves. -/
theorem effect_cases (effect : Effect) :
    (∃ id, effect = .proxyCreate id) ∨ (∃ proxy, effect = .proxyDeleteLater proxy) ∨
      ((∀ id, effect ≠ .proxyCreate id) ∧ (∀ proxy, effect ≠ .proxyDeleteLater proxy) ∧
        ∀ l l' : Ledger, l.record effect = some l' → l' = l) := by
  cases effect with
  | proxyCreate id => exact .inl ⟨id, rfl⟩
  | proxyDeleteLater proxy => exact .inr (.inl ⟨proxy, rfl⟩)
  | proxyConnect id | proxyTick id _ | proxySubmit id =>
    refine .inr (.inr ⟨nofun, nofun, fun l l' recorded => ?_⟩)
    simp only [record] at recorded
    split at recorded
    · exact (Option.some.inj recorded).symm
    · cases recorded
  | _ => exact .inr (.inr ⟨nofun, nofun, fun _ _ recorded => (Option.some.inj recorded).symm⟩)

/-- Along a tracked list of effects the proxies created are those numbered from `l.next` up to
`l'.next`, each once, and the releases of a proxy match its creations, less the one left live
at the end and plus the one live at the start. -/
theorem track_counts {l l' : Ledger} {effects : List Effect} (tracked : track l effects = some l')
    (id : Nat) :
    l.next ≤ l'.next ∧
      effects.count (.proxyCreate id) = (if l.next ≤ id ∧ id < l'.next then 1 else 0) ∧
      effects.count (.proxyDeleteLater (some id)) + (if l'.live = some id then 1 else 0) =
        effects.count (.proxyCreate id) + (if l.live = some id then 1 else 0) := by
  induction effects generalizing l with
  | nil =>
    cases tracked
    exact ⟨Nat.le_refl _, by rw [List.count_nil, if_neg (by omega)], rfl⟩
  | cons effect rest inductionHypothesis =>
    obtain ⟨recorded, recording, later⟩ := Option.bind_eq_some.mp tracked
    obtain ⟨grows, created, released⟩ := inductionHypothesis later
    rcases effect_cases effect with ⟨n, rfl⟩ | ⟨proxy, rfl⟩ | ⟨notCreate, notRelease, ignored⟩
    · simp only [record] at recording
      split at recording
      · rename_i fresh
        cases recording
        obtain ⟨none_live, rfl⟩ := fresh
        dsimp only at grows created released
        simp only [List.count_cons, beq_iff_eq, Effect.proxyCreate.injEq, reduceCtorEq, if_false,
          Nat.add_zero, none_live, Option.some.injEq] at created released ⊢
        refine ⟨by omega, ?_, released⟩
        split_ifs at created ⊢ <;> omega
      · cases recording
    · cases proxy with
      | none => cases recording
      | some m =>
        simp only [record] at recording
        split at recording
        · rename_i live
          cases recording
          simp only [List.count_cons, beq_iff_eq, Effect.proxyDeleteLater.injEq, reduceCtorEq,
            if_false, Nat.add_zero, live, Option.some.injEq] at created released ⊢
          refine ⟨grows, created, ?_⟩
          split_ifs at released ⊢ <;> omega
        · cases recording
    · obtain rfl := ignored l recorded recording
      simp only [List.count_cons, beq_iff_eq, notCreate, notRelease, if_false, Nat.add_zero]
      exact ⟨grows, created, released⟩

/-- From an empty ledger, the proxy live at the end is the one created and not released. -/
theorem live_iff_created {effects : List Effect} {l : Ledger}
    (tracked : track ⟨0, none⟩ effects = some l) (id : Nat) :
    l.live = some id ↔ .proxyCreate id ∈ effects ∧ .proxyDeleteLater (some id) ∉ effects := by
  obtain ⟨-, created, released⟩ := track_counts tracked id
  rw [← List.count_pos_iff, ← List.count_eq_zero]
  simp only [reduceCtorEq, if_false, Nat.add_zero] at released
  by_cases current : l.live = some id
  · simp only [current, if_true, true_iff] at released ⊢
    split_ifs at created <;> omega
  · simp only [current, if_false, false_iff, Nat.add_zero] at released ⊢
    omega

/-- From an empty ledger back to an empty one, each proxy is created at most once and released
as often as it was created. -/
theorem released_once {effects : List Effect} {next : Nat}
    (tracked : track ⟨0, none⟩ effects = some ⟨next, none⟩) (id : Nat) :
    effects.count (.proxyCreate id) ≤ 1 ∧
      effects.count (.proxyDeleteLater (some id)) = effects.count (.proxyCreate id) := by
  obtain ⟨-, created, released⟩ := track_counts tracked id
  simp only [reduceCtorEq, if_false, Nat.add_zero] at released
  exact ⟨by split_ifs at created <;> omega, released⟩

/-- A ledger admits a call on a proxy only while that proxy is live. -/
theorem record_callsProxy {l l' : Ledger} {effect : Effect} {id : Nat}
    (calls : effect.callsProxy id = true) (recorded : l.record effect = some l') :
    l.live = some id := by
  cases effect with
  | proxyConnect p | proxySubmit p | proxyTick p _ =>
    simp only [Effect.callsProxy, decide_eq_true_eq] at calls
    subst calls
    simp only [record] at recorded
    split at recorded
    · assumption
    · cases recorded
  | proxyDeleteLater proxy =>
    cases proxy with
    | none => cases recorded
    | some p =>
      simp only [Effect.callsProxy, decide_eq_true_eq] at calls
      subst calls
      simp only [record] at recorded
      split at recorded
      · assumption
      · cases recorded
  | _ => simp [Effect.callsProxy] at calls

/-- A tracked list of effects never releases through a null proxy. -/
theorem track_no_null {l l' : Ledger} {effects : List Effect} (tracked : track l effects = some l') :
    .proxyDeleteLater none ∉ effects := by
  induction effects generalizing l with
  | nil => simp
  | cons effect rest inductionHypothesis =>
    obtain ⟨recorded, recording, later⟩ := Option.bind_eq_some.mp tracked
    rintro (_ | ⟨_, inRest⟩)
    · cases recording
    · exact inductionHypothesis later inRest

end Ledger

/-! ## The members as a ledger, one method at a time -/

/-- The ledger the members stand for: `m_proxy`, after as many proxies as were created. -/
def DonateStrategy.ledger (s : DonateStrategy) : Ledger := ⟨s.proxies, s.proxy⟩

section Methods

variable (cfg : Config) (s : DonateStrategy)

theorem forward_track (now : Nat) : s.ledger.track (forward s now) = some s.ledger := by
  unfold forward; split <;> simp [Ledger.track, Ledger.record, ledger, *]

/-- `connect()` keeps the ledger when it is entered with no proxy. -/
theorem connect_track (idle : s.proxy = none) :
    s.ledger.track (connect cfg s).2 = some (connect cfg s).1.ledger := by
  unfold connect createProxy
  split_ifs <;> simp [Ledger.track, Ledger.record, ledger, idle]

theorem enterIdle_track (prev : State) :
    s.ledger.track (enterIdle s prev).2 = some (enterIdle s prev).1.ledger := by
  unfold enterIdle idle
  split
  · rfl
  · split
    · rfl
    · dsimp only; split <;> simp [Ledger.track, Ledger.record, ledger, *]

theorem setState_track {target : State} (idle : target = .connect → s.proxy = none) :
    s.ledger.track (setState cfg s target).2 = some (setState cfg s target).1.ledger := by
  dsimp only [setState]
  split
  · split <;> rfl
  · rw [Ledger.track_append]
    have checked : s.ledger.track
        (if s.state ≠ target ∧ target ≠ .new then [] else [.assertFailed]) = some s.ledger := by
      split <;> rfl
    rw [checked, Option.some_bind]
    cases target with
    | idle => exact enterIdle_track { s with state := .idle } s.state
    | connect => exact connect_track cfg { s with state := .connect } (idle rfl)
    | _ => rfl

theorem activate_track (client : Client) :
    s.ledger.track (activate cfg s client).2 = some (activate cfg s client).1.ledger := by
  unfold activate
  split
  · rfl
  · rw [Ledger.track_append, @setState_track cfg s .active fun never => nomatch never]
    rfl

/-- The timer asks for `CONNECT` only from `IDLE`, where no proxy is held. -/
theorem onTimer_track (h : Invariant s) (armed : s.timerArmed = true)
    (resting : s.state = .idle → s.proxy = none) :
    s.ledger.track (onTimer cfg s).2 = some (onTimer cfg s).1.ledger := by
  refine @setState_track cfg { s with timerArmed := false } _ fun connecting => ?_
  rcases h.armed_cases armed with idle | active
  · exact resting idle
  · simp [isActive, active] at connecting

theorem tick_track (now : Nat) :
    s.ledger.track (tick cfg s now).2 = some (tick cfg s now).1.ledger := by
  simp only [tick]
  split
  · rw [Ledger.track_append, forward_track, Option.some_bind]
    exact @setState_track cfg { s with now := now } .idle fun never => nomatch never
  · exact forward_track s now

/-- `onClose` from the current proxy releases it, or does nothing. -/
theorem onClose_track {id : Nat} (current : s.proxy = some id) (failures : Int) :
    s.ledger.track (onClose cfg s failures).2 = some (onClose cfg s failures).1.ledger := by
  unfold onClose
  split
  · simp [Ledger.track, Ledger.record, ledger, current]
  · rfl

theorem destructor_track : s.ledger.track (destructor s) = some ⟨s.proxies, none⟩ := by
  unfold destructor ledger; split <;> simp [Ledger.track, Ledger.record, *]

theorem submit_eq_proxySubmit (id : Nat) : submit s = [.proxySubmit id] ↔ s.proxy = some id := by
  unfold submit; split <;> simp [*]

end Methods

/-! ## One step -/

/-- The callbacks of a proxy come from the current one: a client on which `deleteLater()` was
called delivers none. -/
def Input.deliverable (s : DonateStrategy) : Input → Bool
  | .onLoginSuccess id | .onClose id _ => s.proxy = some id
  | .onJob (.proxy id) | .onResultAccepted (.proxy id) | .onVerifyAlgorithm (.proxy id) =>
    s.proxy = some id
  | _ => true

section Step

variable {cfg : Config} {s : DonateStrategy}

theorem step_track (h : Invariant s) (resting : s.state = .idle → s.proxy = none) {input : Input}
    (allowed : input.allowed s = true) (deliverable : input.deliverable s = true) :
    s.ledger.track (step cfg s input).2 = some (step cfg s input).1.ledger := by
  cases input with
  | tick now => exact tick_track cfg s now
  | timer => exact onTimer_track cfg s h allowed resting
  | onActive client => exact activate_track cfg s client
  | onLoginSuccess id => exact activate_track cfg s (.proxy id)
  | onClose id failures =>
    exact onClose_track cfg s (by simpa [Input.deliverable] using deliverable) failures
  | submit => simp only [step, submit]; split <;> simp [Ledger.track, Ledger.record, ledger, *]
  | onJob client => simp only [step, setJob]; split <;> rfl
  | _ => rfl

/-- Leaving `WAIT` for `IDLE` drops the proxy. -/
theorem setState_idle_from_wait (waiting : s.state = .wait) : (setState cfg s .idle).1.proxy = none := by
  simp [setState, enterIdle, idle, waiting]

theorem step_resting (resting : s.state = .new ∨ s.state = .idle → s.proxy = none) (input : Input) :
    (step cfg s input).1.state = .new ∨ (step cfg s input).1.state = .idle →
      (step cfg s input).1.proxy = none := by
  cases input with
  | tick now =>
    simp only [step, tick]
    split
    · exact fun _ => setState_idle_from_wait ‹_ ∧ _›.1
    · exact resting
  | timer =>
    simp only [step, onTimer, setState_state]
    split <;> simp
  | onActive client | onLoginSuccess client =>
    simp only [step, activate]
    split
    · exact resting
    · simp
  | onClose _ failures =>
    simp only [step, onClose]
    split
    · exact fun _ => rfl
    · exact resting
  | _ => exact resting

/-- Only the timer moves the strategy into `CONNECT`. -/
theorem step_enters_connect {input : Input} (before : s.state ≠ .connect)
    (after : (step cfg s input).1.state = .connect) : input = .timer := by
  cases input with
  | timer => rfl
  | tick now =>
    simp only [step, tick] at after
    split at after
    · simp at after
    · exact absurd after before
  | onActive client | onLoginSuccess client =>
    simp only [step, activate] at after
    split at after
    · exact absurd after before
    · simp at after
  | onClose _ failures =>
    simp only [step, onClose] at after
    split at after <;> exact absurd after before
  | _ => exact absurd after before

theorem setState_keeps_proxy {target : State} (notIdle : target ≠ .idle) {proxy : Option Nat} :
    .proxyDeleteLater proxy ∉ (setState cfg s target).2 := by
  dsimp only [setState]
  split
  · split <;> simp
  · cases target with
    | idle => exact absurd rfl notIdle
    | connect => unfold connect createProxy; split_ifs <;> simp
    | _ => simp

/-- A step releases a proxy only on its second failure in `AUTO` mode or when `WAIT` moves to
`IDLE`. -/
theorem step_releases {input : Input} {proxy : Option Nat}
    (released : .proxyDeleteLater proxy ∈ (step cfg s input).2) :
    (∃ id, input = .onClose id 2) ∧ cfg.proxyDonate = .auto ∨
      s.state = .wait ∧ (step cfg s input).1.state = .idle := by
  cases input with
  | tick now =>
    have quiet : .proxyDeleteLater proxy ∉ forward s now := by unfold forward; split <;> simp
    simp only [step, tick] at released ⊢
    split at released
    · rename_i waiting
      rw [if_pos waiting]
      exact .inr ⟨waiting.1, setState_state cfg _ _⟩
    · exact absurd released quiet
  | timer =>
    simp only [step, onTimer] at released
    exact absurd released (setState_keeps_proxy (by split <;> decide))
  | onActive client | onLoginSuccess client =>
    simp only [step, activate] at released
    split at released
    · simp at released
    · simp only [List.mem_append, List.mem_singleton, reduceCtorEq, or_false] at released
      exact absurd released (setState_keeps_proxy (by decide))
  | onClose id failures =>
    simp only [step, onClose] at released
    split at released
    · rename_i second
      exact .inl ⟨⟨id, by rw [second.1]⟩, second.2⟩
    · simp at released
  | submit => simp only [step, submit] at released; split at released <;> simp at released
  | onJob client => simp only [step, setJob] at released; split at released <;> simp at released
  | _ => simp [step, DonateStrategy.stop] at released

end Step

/-! ## Every delivered run -/

open DonateStrategy in
/-- The runs of `Run` in which only the current proxy delivers client callbacks. -/
inductive DeliveredRun (cfg : Config) : DonateStrategy → List Effect → Prop where
  | construct (operator : Operator) :
      DeliveredRun cfg (construct cfg operator).1 (construct cfg operator).2
  | step {s : DonateStrategy} {trace : List Effect} (input : Input) :
      DeliveredRun cfg s trace → input.allowed s = true → input.deliverable s = true →
      DeliveredRun cfg (step cfg s input).1 (trace ++ (step cfg s input).2)

section Runs

variable {cfg : Config} {s : DonateStrategy} {trace : List Effect}

theorem DeliveredRun.toRun (run : DeliveredRun cfg s trace) : Run cfg s trace := by
  induction run with
  | construct operator => exact .construct operator
  | step input _ allowed _ inductionHypothesis => exact inductionHypothesis.step input allowed

/-- What every delivered run keeps: the members refine the ledger of the trace, and no proxy is
held while the strategy rests. -/
structure ProxyInvariant (s : DonateStrategy) (trace : List Effect) : Prop where
  tracked : Ledger.track ⟨0, none⟩ trace = some s.ledger
  resting : s.state = .new ∨ s.state = .idle → s.proxy = none

theorem DeliveredRun.proxyInvariant (run : DeliveredRun cfg s trace) : ProxyInvariant s trace := by
  induction run with
  | construct operator =>
    exact ⟨@setState_track cfg (fresh operator) .idle (fun never => nomatch never), fun _ => rfl⟩
  | step input previous allowed deliverable inductionHypothesis =>
    obtain ⟨tracked, resting⟩ := inductionHypothesis
    refine ⟨?_, step_resting resting input⟩
    rw [Ledger.track_append, tracked, Option.some_bind,
      step_track previous.toRun.invariant (fun idle => resting (.inr idle)) allowed deliverable]

/-- Along every run in which only the current proxy delivers client callbacks: `m_proxy` is null
whenever the state is `NEW` or `IDLE`, so `connect()`, entered only from `IDLE`, has no live proxy
to overwrite; every proxy `createProxy()` makes is released by `deleteLater()` exactly once, on
its second failure in `AUTO` mode, when `WAIT` moves to `IDLE`, or by the destructor, and no
other proxy is released; no release goes through a null `m_proxy`; and `submit()` goes to a proxy
exactly while it is live. -/
theorem proxy_released_exactly_once (run : DeliveredRun cfg s trace) :
    (s.state = .new ∨ s.state = .idle → s.proxy = none) ∧
      (∀ input : Input, input.allowed s = true → s.state ≠ .connect →
        (step cfg s input).1.state = .connect → s.proxy = none) ∧
      (∀ id, trace.count (.proxyCreate id) ≤ 1 ∧
        (trace ++ destructor s).count (.proxyDeleteLater (some id)) =
          trace.count (.proxyCreate id)) ∧
      (∀ (input : Input) (proxy : Option Nat), .proxyDeleteLater proxy ∈ (step cfg s input).2 →
        (∃ id, input = .onClose id 2) ∧ cfg.proxyDonate = .auto ∨
          s.state = .wait ∧ (step cfg s input).1.state = .idle) ∧
      .proxyDeleteLater none ∉ trace ∧
      ∀ id, submit s = [.proxySubmit id] ↔
        .proxyCreate id ∈ trace ∧ .proxyDeleteLater (some id) ∉ trace := by
  obtain ⟨tracked, resting⟩ := run.proxyInvariant
  refine ⟨resting, fun input allowed before after => ?_, fun id => ?_,
    fun _ _ released => step_releases released, Ledger.track_no_null tracked, fun id => ?_⟩
  · obtain rfl := step_enters_connect before after
    rcases onTimer_target run.toRun.invariant allowed with ⟨idle, _⟩ | ⟨_, waiting⟩
    · exact resting (.inr idle)
    · exact absurd (waiting.symm.trans after) (by decide)
  · have ended : Ledger.track ⟨0, none⟩ (trace ++ destructor s) = some ⟨s.proxies, none⟩ := by
      rw [Ledger.track_append, tracked, Option.some_bind, destructor_track]
    have kept : (destructor s).count (.proxyCreate id) = 0 := by unfold destructor; split <;> simp
    obtain ⟨once, released⟩ := Ledger.released_once ended id
    simp only [List.count_append, kept, Nat.add_zero] at once released
    rw [List.count_append]
    exact ⟨once, released⟩
  · rw [submit_eq_proxySubmit]
    exact Ledger.live_iff_created tracked id

/-- Along every run in which only the current proxy delivers client callbacks, the strategy calls
a proxy (`connect()`, `tick()`, `submit()` or `deleteLater()`) only while it is live: after its
creation and before its release. -/
theorem proxy_called_only_while_live (run : DeliveredRun cfg s trace) {before after : List Effect}
    {effect : Effect} (split : trace = before ++ effect :: after) {id : Nat}
    (calls : effect.callsProxy id = true) :
    .proxyCreate id ∈ before ∧ .proxyDeleteLater (some id) ∉ before := by
  have tracked := run.proxyInvariant.tracked
  rw [split, Ledger.track_append] at tracked
  obtain ⟨l, upTo, rest⟩ := Option.bind_eq_some.mp tracked
  rw [Ledger.track_cons] at rest
  obtain ⟨_, recording, -⟩ := Option.bind_eq_some.mp rest
  exact (Ledger.live_iff_created upTo id).mp (Ledger.record_callsProxy calls recording)

end Runs

/-- One donation window through a proxy, at donate level 5 with `proxyDonate` `AUTO`: the idle
timer creates proxy 0, it logs in, the donation timer moves to `WAIT`, and a tick past the
deadline moves to `IDLE` and releases it. -/
theorem delivered_window :
    DeliveredRun ⟨5, .auto⟩ ⟨.idle, 3001, 3000, none, false, true, ⟨true, false⟩, 1⟩
      [.timerStart (.idle true), .proxyCreate 0, .proxyConnect 0,
        .timerStart (.donate 300000), .onActive (.proxy 0), .onPause, .strategyTick 3001,
        .proxyTick 0 3001, .strategyStop, .proxyDeleteLater (some 0), .timerStart (.idle false)] :=
  (((((@DeliveredRun.construct ⟨5, .auto⟩ ⟨true, false⟩).step .timer rfl rfl).step
    (.onLoginSuccess 0) rfl rfl).step .timer rfl rfl).step (.tick 3001) rfl rfl)

/-- In that window proxy 0 is released once. -/
theorem proxy_released_after_window :
    DeliveredRun ⟨5, .auto⟩ ⟨.idle, 3001, 3000, none, false, true, ⟨true, false⟩, 1⟩
        [.timerStart (.idle true), .proxyCreate 0, .proxyConnect 0,
          .timerStart (.donate 300000), .onActive (.proxy 0), .onPause, .strategyTick 3001,
          .proxyTick 0 3001, .strategyStop, .proxyDeleteLater (some 0), .timerStart (.idle false)] ∧
      (([.timerStart (.idle true), .proxyCreate 0, .proxyConnect 0,
          .timerStart (.donate 300000), .onActive (.proxy 0), .onPause, .strategyTick 3001,
          .proxyTick 0 3001, .strategyStop, .proxyDeleteLater (some 0), .timerStart (.idle false)] :
            List Effect) ++ destructor ⟨.idle, 3001, 3000, none, false, true, ⟨true, false⟩, 1⟩).count
          (.proxyDeleteLater (some 0)) = 1 :=
  ⟨delivered_window, ((proxy_released_exactly_once delivered_window).2.2.1 0).2.trans rfl⟩

/-- In that window the tick forwarded to proxy 0 comes after its creation and before its
release. -/
theorem proxy_ticked_while_live :
    DeliveredRun ⟨5, .auto⟩ ⟨.idle, 3001, 3000, none, false, true, ⟨true, false⟩, 1⟩
        [.timerStart (.idle true), .proxyCreate 0, .proxyConnect 0,
          .timerStart (.donate 300000), .onActive (.proxy 0), .onPause, .strategyTick 3001,
          .proxyTick 0 3001, .strategyStop, .proxyDeleteLater (some 0), .timerStart (.idle false)] ∧
      (Effect.proxyTick 0 3001).callsProxy 0 = true ∧
      (.proxyCreate 0 ∈ ([.timerStart (.idle true), .proxyCreate 0, .proxyConnect 0,
          .timerStart (.donate 300000), .onActive (.proxy 0), .onPause, .strategyTick 3001] :
            List Effect) ∧
        .proxyDeleteLater (some 0) ∉ ([.timerStart (.idle true), .proxyCreate 0, .proxyConnect 0,
          .timerStart (.donate 300000), .onActive (.proxy 0), .onPause, .strategyTick 3001] :
            List Effect)) :=
  ⟨delivered_window, rfl, proxy_called_only_while_live delivered_window rfl
    (show (Effect.proxyTick 0 3001).callsProxy 0 = true from rfl)⟩

end Donate
end XMiner
