import XMiner.Failover.Model
import XMiner.Donate.Model

namespace XMiner
namespace Donate

/-!
# The donation strategy over its nested failover strategy

The constructor of `DonateStrategy` builds its `m_strategy` as
`FailoverStrategy(m_pools, 1, 0, this, true)`: zero retries over the donation pools, with the
donation strategy as its listener.  This module runs the two machines together.  A donation
effect that calls `m_strategy` runs the nested strategy where it is made, and what the nested
strategy tells its listener runs in the donation strategy; the donation pools' clients deliver
their events to the nested strategy.  The donation strategy answers none of those listener calls
with a call on `m_strategy` (`hear_no_strategy_call`), so one level of nesting is all there is.
A pool client's own events are inputs of the whole, delivered between its steps: a callback that
a client (whose code is not under src/) would make at once, inside a call on `m_strategy`,
arrives here only after the whole donation step.

Two results connect the layers.  Every run of the whole projects to a run of the donation
strategy and to a reachable state of the nested strategy, so what is proved of each part holds
inside the whole.  And the `stop()` that `setState(IDLE)` makes after a grace period meets the
members `FailoverStrategy::stop()` does not reset: after one failover during a donation window
the nested strategy can be left refusing the only pool it contacts, and the donation strategy
then never becomes active again.
-/

/-- The donation pools the constructor lists: a TLS pool in a build with TLS, then the main and
the backup pool. -/
def donatePools (featureTls : Bool) : Nat :=
  if featureTls then 3 else 2

/-- `FailoverStrategy(m_pools, 1, 0, this, true)`: zero retries over the donation pools. -/
def strategyConfig (featureTls : Bool) : Failover.Config :=
  ⟨donatePools featureTls, 0⟩

/-- The call a donation effect makes on `m_strategy`, as an input of the nested strategy. -/
def strategyInput : Effect → Option Failover.Input
  | .strategyConnect => some .connect
  | .strategyStop => some .stop
  | .strategyTick now => some (.tick now)
  | .strategySubmit => some .submit
  | .strategySetAlgo => some .setAlgo
  | .strategySetProxy => some .setProxy
  | _ => none

/-- A call of the nested strategy on its listener, as an input of the donation strategy.  The
calls on pool clients go to the pools, and `onLogin` reaches `setParams`, whose login parameters
are not modelled. -/
def listenerInput : Failover.Call → Option Input
  | .onActive id => some (.onActive (.pool id))
  | .onPause => some .onPause
  | .onJob id => some (.onJob (.pool id))
  | .onResultAccepted id => some (.onResultAccepted (.pool id))
  | .onVerifyAlgorithm id => some (.onVerifyAlgorithm (.pool id))
  | _ => none

/-- The donation strategy with its `m_strategy`. -/
structure Nested where
  donate : DonateStrategy
  strategy : Failover.FailoverStrategy
  deriving DecidableEq, Repr

/-- An effect of the whole: one of the donation strategy, or a call the nested strategy makes on
a pool client or on its listener. -/
inductive Outcome where
  | donate (effect : Effect)
  | strategy (call : Failover.Call)
  deriving DecidableEq, Repr

/-- The donation strategy's own effects among the outcomes, in order. -/
def donateEffects (outcomes : List Outcome) : List Effect :=
  outcomes.filterMap fun
    | .donate effect => some effect
    | .strategy _ => none

/-- An event from outside both strategies: an input of the donation strategy (the host's ticks,
the timer, the proxy's callbacks, the operator's strategy, the network's calls), or a client
event of a donation pool, which goes to the nested strategy. -/
inductive Event where
  | outer (input : Input)
  | pool (event : Failover.Input)
  deriving DecidableEq, Repr

/-- The inputs of the donation strategy that only `m_strategy` delivers. -/
def Input.fromStrategy : Input → Bool
  | .onActive _ | .onPause => true
  | .onJob (.pool _) | .onResultAccepted (.pool _) | .onVerifyAlgorithm (.pool _) => true
  | _ => false

/-- The events the environment can deliver: an outer input that does not come from
`m_strategy`, the timer only while it is armed, and client events of the donation pools. -/
def Event.valid (featureTls : Bool) (sys : Nested) : Event → Bool
  | .outer input => !input.fromStrategy && input.allowed sys.donate
  | .pool event => event.client.isSome && event.client.all (· < donatePools featureTls)

variable (cfg : Config) (featureTls : Bool)

namespace Nested

/-- What the donation strategy does on hearing one call of the nested strategy. -/
def hear (donate : DonateStrategy) (call : Failover.Call) : DonateStrategy × List Effect :=
  match listenerInput call with
  | some input => DonateStrategy.step cfg donate input
  | none => (donate, [])

/-- The calls of the nested strategy, each heard by the donation strategy as it is made. -/
def listen (donate : DonateStrategy) : List Failover.Call → DonateStrategy × List Outcome
  | [] => (donate, [])
  | call :: rest =>
    let heard := hear cfg donate call
    ((listen heard.1 rest).1, .strategy call :: heard.2.map .donate ++ (listen heard.1 rest).2)

/-- One call on `m_strategy`: the nested strategy runs it, and the donation strategy hears what
it says to its listener. -/
def callStrategy (sys : Nested) (input : Failover.Input) : Nested × List Outcome :=
  let nested := Failover.FailoverStrategy.step (strategyConfig featureTls) sys.strategy input
  let heard := listen cfg sys.donate nested.2
  (⟨heard.1, nested.1⟩, heard.2)

/-- The donation strategy's effects in order, each call on `m_strategy` run where it is made. -/
def deliver (sys : Nested) : List Effect → Nested × List Outcome
  | [] => (sys, [])
  | effect :: rest =>
    let called := match strategyInput effect with
      | some input => callStrategy cfg featureTls sys input
      | none => (sys, [])
    ((deliver called.1 rest).1, .donate effect :: called.2 ++ (deliver called.1 rest).2)

/-- The constructor builds `m_strategy` and ends in `setState(STATE_IDLE)`. -/
def construct (operator : Operator) : Nested × List Outcome :=
  deliver cfg featureTls
    ⟨(DonateStrategy.construct cfg operator).1, Failover.FailoverStrategy.initial⟩
    (DonateStrategy.construct cfg operator).2

def step (sys : Nested) : Event → Nested × List Outcome
  | .outer input =>
    deliver cfg featureTls { sys with donate := (DonateStrategy.step cfg sys.donate input).1 }
      (DonateStrategy.step cfg sys.donate input).2
  | .pool event => callStrategy cfg featureTls sys event

/-- The state after a sequence of events, with every outcome along the way. -/
def run (sys : Nested) : List Event → Nested × List Outcome
  | [] => (sys, [])
  | event :: rest =>
    ((run (step cfg featureTls sys event).1 rest).1,
      (step cfg featureTls sys event).2 ++ (run (step cfg featureTls sys event).1 rest).2)

end Nested

/-- The runs of the whole from its construction, with every outcome so far. -/
inductive Runs : Nested → List Outcome → Prop where
  | construct (operator : Operator) :
      Runs (Nested.construct cfg featureTls operator).1 (Nested.construct cfg featureTls operator).2
  | step {sys : Nested} {trace : List Outcome} (event : Event) :
      Runs sys trace → event.valid featureTls sys = true →
      Runs (Nested.step cfg featureTls sys event).1 (trace ++ (Nested.step cfg featureTls sys event).2)

/-! ## Hearing the nested strategy -/

namespace Nested

@[simp] theorem donateEffects_nil : donateEffects [] = [] := rfl

@[simp] theorem donateEffects_append (first second : List Outcome) :
    donateEffects (first ++ second) = donateEffects first ++ donateEffects second :=
  List.filterMap_append _ _ _

@[simp] theorem donateEffects_cons_donate (effect : Effect) (rest : List Outcome) :
    donateEffects (.donate effect :: rest) = effect :: donateEffects rest := rfl

@[simp] theorem donateEffects_cons_strategy (call : Failover.Call) (rest : List Outcome) :
    donateEffects (.strategy call :: rest) = donateEffects rest := rfl

@[simp] theorem donateEffects_map_donate (effects : List Effect) :
    donateEffects (effects.map .donate) = effects := by
  induction effects with
  | nil => rfl
  | cons effect rest inductionHypothesis => simp [inductionHypothesis]

@[simp] theorem donateEffects_map_strategy (calls : List Failover.Call) :
    donateEffects (calls.map .strategy) = [] := by
  induction calls with
  | nil => rfl
  | cons call rest inductionHypothesis => simp [inductionHypothesis]

/-- What the nested strategy says to its listener is never a timer expiry. -/
theorem listenerInput_allowed {call : Failover.Call} {input : Input}
    (heard : listenerInput call = some input) (s : DonateStrategy) : input.allowed s = true := by
  cases call <;> cases heard <;> rfl

theorem hear_run {s : DonateStrategy} {trace : List Effect} (run : Run cfg s trace)
    (call : Failover.Call) : Run cfg (hear cfg s call).1 (trace ++ (hear cfg s call).2) := by
  unfold hear
  split
  · exact run.step _ (listenerInput_allowed ‹_› s)
  · simpa using run

theorem listen_run {s : DonateStrategy} {trace : List Effect} (run : Run cfg s trace)
    (calls : List Failover.Call) :
    Run cfg (listen cfg s calls).1 (trace ++ donateEffects (listen cfg s calls).2) := by
  induction calls generalizing s trace with
  | nil => simpa [listen] using run
  | cons call rest inductionHypothesis =>
    simpa [listen] using inductionHypothesis (hear_run cfg run call)

/-- Calls the donation strategy hears without effect pass through unchanged. -/
theorem listen_silent {s : DonateStrategy} {calls : List Failover.Call}
    (silent : ∀ call ∈ calls, hear cfg s call = (s, [])) :
    listen cfg s calls = (s, calls.map .strategy) := by
  induction calls with
  | nil => rfl
  | cons call rest inductionHypothesis =>
    have later := inductionHypothesis fun call member => silent call (List.mem_cons_of_mem _ member)
    simp only [listen, silent call (List.mem_cons_self _ _), later, List.map_nil, List.nil_append,
      List.map_cons, List.singleton_append]

/-- The donation strategy answers no call of its nested strategy with a call on `m_strategy`,
so hearing the nested strategy's calls once is all the nesting there is. -/
theorem hear_no_strategy_call (s : DonateStrategy) (call : Failover.Call) :
    ∀ effect ∈ (hear cfg s call).2, strategyInput effect = none := by
  cases call
  case onActive id =>
    simp only [hear, listenerInput, DonateStrategy.step, DonateStrategy.activate]
    split
    · exact List.forall_mem_nil _
    · dsimp only [DonateStrategy.setState]
      split <;> split <;> simp [strategyInput]
  all_goals simp [hear, listenerInput, DonateStrategy.step, DonateStrategy.setJob, strategyInput]

/-! ## The calls on `m_strategy` -/

/-- The donation strategy calls only methods of `m_strategy` that are not client events. -/
theorem strategyInput_client {effect : Effect} {input : Failover.Input}
    (called : strategyInput effect = some input) : input.client = none := by
  cases effect <;> cases called <;> rfl

theorem strategyInput_valid {effect : Effect} {input : Failover.Input}
    (called : strategyInput effect = some input) : input.Valid (strategyConfig featureTls) := by
  rw [Failover.Input.Valid, strategyInput_client called]; rfl

/-- What the nested strategy says to its listener while running a call of the donation
strategy is at most `onPause`, which the donation strategy ignores. -/
theorem strategyInput_silent (s : DonateStrategy) (nested : Failover.FailoverStrategy)
    {effect : Effect} {input : Failover.Input} (called : strategyInput effect = some input) :
    ∀ call ∈ (Failover.FailoverStrategy.step (strategyConfig featureTls) nested input).2,
      hear cfg s call = (s, []) := by
  have quiet (f : Nat → Failover.Call) (silent : ∀ i, hear cfg s (f i) = (s, [])) :
      ∀ call ∈ (List.range (strategyConfig featureTls).pools).map f, hear cfg s call = (s, []) :=
    List.forall_mem_map.mpr fun i _ => silent i
  cases effect <;> cases called
  case strategyConnect => exact List.forall_mem_singleton.mpr rfl
  case strategyStop =>
    exact List.forall_mem_append.mpr ⟨quiet _ fun _ => rfl, List.forall_mem_singleton.mpr rfl⟩
  case strategyTick now =>
    simp only [Failover.FailoverStrategy.step, Failover.FailoverStrategy.tick,
      Failover.FailoverStrategy.connectNext]
    split
    · exact List.forall_mem_append.mpr ⟨quiet _ fun _ => rfl, List.forall_mem_nil _⟩
    · exact List.forall_mem_append.mpr ⟨quiet _ fun _ => rfl, List.forall_mem_singleton.mpr rfl⟩
  case strategySubmit =>
    simp only [Failover.FailoverStrategy.step, Failover.FailoverStrategy.submit]
    split
    · exact List.forall_mem_singleton.mpr rfl
    · exact List.forall_mem_nil _
  all_goals exact quiet _ fun _ => rfl

/-- A call of the donation strategy on `m_strategy` leaves the donation strategy as it is. -/
theorem callStrategy_quiet (sys : Nested) {effect : Effect} {input : Failover.Input}
    (called : strategyInput effect = some input) :
    (callStrategy cfg featureTls sys input).1.donate = sys.donate ∧
      donateEffects (callStrategy cfg featureTls sys input).2 = [] := by
  simp only [callStrategy,
    listen_silent cfg (strategyInput_silent cfg featureTls sys.donate sys.strategy called),
    donateEffects_map_strategy, and_self]

/-- Delivering the donation strategy's effects changes only the nested strategy, and the
donation strategy's effects among the outcomes are the ones delivered. -/
theorem deliver_quiet (sys : Nested) (effects : List Effect) :
    (deliver cfg featureTls sys effects).1.donate = sys.donate ∧
      donateEffects (deliver cfg featureTls sys effects).2 = effects := by
  induction effects generalizing sys with
  | nil => exact ⟨rfl, rfl⟩
  | cons effect rest inductionHypothesis =>
    simp only [deliver]
    split
    · rename_i input called
      obtain ⟨same, none⟩ := callStrategy_quiet cfg featureTls sys called
      obtain ⟨later, effects⟩ := inductionHypothesis (callStrategy cfg featureTls sys input).1
      exact ⟨later.trans same, by simp [none, effects]⟩
    · obtain ⟨later, effects⟩ := inductionHypothesis sys
      exact ⟨later, by simp [effects]⟩

theorem deliver_reachable {sys : Nested}
    (reach : Failover.Reachable (strategyConfig featureTls) sys.strategy) (effects : List Effect) :
    Failover.Reachable (strategyConfig featureTls) (deliver cfg featureTls sys effects).1.strategy := by
  induction effects generalizing sys with
  | nil => exact reach
  | cons effect rest inductionHypothesis =>
    simp only [deliver]
    split
    · exact inductionHypothesis (reach.step _ (strategyInput_valid featureTls ‹_›))
    · exact inductionHypothesis reach

end Nested

/-! ## Each layer runs as it does alone -/

/-- Every run of the donation strategy over its nested strategy is a run of the donation
strategy, with its own effects in order, and the nested strategy reaches only states it reaches
alone over the donation pools with zero retries.  What is proved of either part therefore holds
inside the whole. -/
theorem Runs.project {sys : Nested} {trace : List Outcome} (runs : Runs cfg featureTls sys trace) :
    Run cfg sys.donate (donateEffects trace) ∧
      Failover.Reachable (strategyConfig featureTls) sys.strategy := by
  induction runs with
  | construct operator =>
    obtain ⟨same, effects⟩ := Nested.deliver_quiet cfg featureTls
      ⟨(DonateStrategy.construct cfg operator).1, .initial⟩ (DonateStrategy.construct cfg operator).2
    refine ⟨?_, Nested.deliver_reachable cfg featureTls .initial _⟩
    rw [Nested.construct, same, effects]
    exact .construct operator
  | @step previous _ event _ valid inductionHypothesis =>
    cases event with
    | outer input =>
      simp only [Event.valid, Bool.and_eq_true] at valid
      obtain ⟨same, effects⟩ := Nested.deliver_quiet cfg featureTls _
        (DonateStrategy.step cfg _ input).2
      rw [Nested.step, Nested.donateEffects_append, same, effects]
      exact ⟨inductionHypothesis.1.step input valid.2,
        @Nested.deliver_reachable cfg featureTls
          { previous with donate := (DonateStrategy.step cfg previous.donate input).1 }
          inductionHypothesis.2 _⟩
    | pool event =>
      simp only [Event.valid, Bool.and_eq_true] at valid
      rw [Nested.step, Nested.donateEffects_append]
      exact ⟨Nested.listen_run cfg inductionHypothesis.1 _, inductionHypothesis.2.step event valid.2⟩

/-- Donation level 1 without TLS: the idle timer, a login and a close of pool 0, the donation
timer and a tick past the grace period, so that both strategies have moved and the nested one has
been stopped in the middle of its cascade. -/
theorem project_after_failover :
    ∃ sys trace, Runs ⟨1, .none⟩ false sys trace ∧
      sys = ⟨⟨.idle, 3001, 3000, none, false, true, ⟨false, false⟩, 0⟩, ⟨0, -1, false, 1, 1⟩⟩ ∧
      (Run ⟨1, .none⟩ sys.donate (donateEffects trace) ∧
        Failover.Reachable (strategyConfig false) sys.strategy) :=
  have runs := ((((((Runs.construct ⟨false, false⟩ : Runs ⟨1, .none⟩ false _ _).step
    (.outer .timer) rfl).step (.pool (.onLoginSuccess 0)) rfl).step (.pool (.onClose 0 0))
    rfl).step (.outer .timer) rfl).step (.outer (.tick 3001)) rfl)
  ⟨_, _, runs, by decide, Runs.project _ _ runs⟩

/-! ## A nested strategy stranded by `stop()` -/

/-- A nested strategy that `stop()` left in the middle of a cascade: nothing is active or
pending, and the pool `connect()` contacts lies below `m_minAcceptableIndex`. -/
structure Stranded (nested : Failover.FailoverStrategy) : Prop where
  inactive : nested.active = -1
  idle : nested.pendingConnect = false
  below : nested.index < nested.minAcceptableIndex

/-- The inputs that make the donation strategy active: `onActive` and a proxy login. -/
def Input.activates : Input → Bool
  | .onActive _ | .onLoginSuccess _ => true
  | _ => false

/-- Whether an event can make the donation strategy active past a nested strategy that refuses
every pool below `minimum`: an activation delivered to it directly, a proxy login, or a login of
a pool at or above `minimum`. -/
def Event.activates (minimum : Nat) : Event → Bool
  | .outer input => input.activates
  | .pool (.onLoginSuccess id) => minimum ≤ id
  | .pool _ => false

section Stranded

variable {fcfg : Failover.Config} {nested : Failover.FailoverStrategy}

/-- A stranded zero-retry strategy stays stranded under every input but a login it accepts:
`stop()` only sends it back to pool 0, and nothing else changes it.  It never says `onActive`. -/
theorem Stranded.step (zeroRetry : fcfg.retries = 0) (stranded : Stranded nested)
    {input : Failover.Input}
    (refused : ∀ id, input = .onLoginSuccess id → id < nested.minAcceptableIndex) :
    ((Failover.FailoverStrategy.step fcfg nested input).1 = nested ∨
        (Failover.FailoverStrategy.step fcfg nested input).1 = { nested with index := 0, active := -1 }) ∧
      ∀ call ∈ (Failover.FailoverStrategy.step fcfg nested input).2, ∀ id, call ≠ .onActive id := by
  have notActive (id : Nat) : nested.active ≠ id := by rw [stranded.inactive]; omega
  have mapQuiet (f : Nat → Failover.Call) (quiet : ∀ i id, f i ≠ .onActive id) :
      ∀ call ∈ (List.range fcfg.pools).map f, ∀ id, call ≠ .onActive id :=
    List.forall_mem_map.mpr fun i _ => quiet i
  have single {call : Failover.Call} (quiet : ∀ id, call ≠ .onActive id) :
      ∀ c ∈ [call], ∀ id, c ≠ .onActive id :=
    List.forall_mem_singleton.mpr quiet
  cases input with
  | connect | onLogin | onResultAccepted | onVerifyAlgorithm =>
    exact ⟨.inl rfl, single fun _ => Failover.Call.noConfusion⟩
  | setAlgo | setProxy => exact ⟨.inl rfl, mapQuiet _ fun _ _ => Failover.Call.noConfusion⟩
  | stop =>
    exact ⟨.inr rfl, List.forall_mem_append.mpr
      ⟨mapQuiet _ fun _ _ => Failover.Call.noConfusion, single fun _ => Failover.Call.noConfusion⟩⟩
  | tick now =>
    have ticked : Failover.FailoverStrategy.step fcfg nested (.tick now) =
        (nested, (List.range fcfg.pools).map (.tick · now)) := by
      simp [Failover.FailoverStrategy.step, Failover.FailoverStrategy.tick,
        Failover.FailoverStrategy.connectNext, stranded.idle]
    rw [ticked]
    exact ⟨.inl rfl, mapQuiet _ fun _ _ => Failover.Call.noConfusion⟩
  | submit | resume =>
    refine ⟨.inl rfl, fun call member => ?_⟩
    simp [Failover.FailoverStrategy.step, Failover.FailoverStrategy.submit,
      Failover.FailoverStrategy.resume, Failover.FailoverStrategy.isActive, stranded.inactive]
      at member
  | onClose id failures =>
    have closed : Failover.FailoverStrategy.onClose fcfg nested id failures = (nested, []) ∨
        Failover.FailoverStrategy.onClose fcfg nested id failures = (nested, [.disconnect id]) := by
      by_cases explicit : failures = -1
      · exact .inl (by simp [Failover.FailoverStrategy.onClose, explicit])
      by_cases below : id < nested.minAcceptableIndex
      · exact .inr (Failover.FailoverStrategy.onClose_below_min fcfg nested zeroRetry explicit
          (notActive id) below)
      have other : nested.index ≠ id := by have := stranded.below; omega
      exact .inl (by simp [Failover.FailoverStrategy.onClose, Failover.FailoverStrategy.deactivate,
        Failover.FailoverStrategy.onCloseZeroRetry, explicit, notActive, zeroRetry, below, other])
    simp only [Failover.FailoverStrategy.step]
    rcases closed with closed | closed <;> rw [closed]
    · exact ⟨.inl rfl, List.forall_mem_nil _⟩
    · exact ⟨.inl rfl, single fun _ => Failover.Call.noConfusion⟩
  | onLoginSuccess id =>
    simp only [Failover.FailoverStrategy.step]
    rw [Failover.FailoverStrategy.onLoginSuccess_below_min fcfg nested zeroRetry (refused id rfl)]
    exact ⟨.inl rfl, single fun _ => Failover.Call.noConfusion⟩
  | onJobReceived id =>
    refine ⟨.inl rfl, fun call member => ?_⟩
    simp [Failover.FailoverStrategy.step, Failover.FailoverStrategy.onJobReceived, notActive id]
      at member

end Stranded

theorem Stranded.stays {fcfg : Failover.Config} {nested : Failover.FailoverStrategy}
    (zeroRetry : fcfg.retries = 0) (stranded : Stranded nested) {input : Failover.Input}
    (refused : ∀ id, input = .onLoginSuccess id → id < nested.minAcceptableIndex) :
    Stranded (Failover.FailoverStrategy.step fcfg nested input).1 ∧
      (Failover.FailoverStrategy.step fcfg nested input).1.minAcceptableIndex =
        nested.minAcceptableIndex := by
  rcases (stranded.step zeroRetry refused).1 with same | reset
  · rw [same]
    exact ⟨stranded, rfl⟩
  · rw [reset]
    exact ⟨⟨rfl, stranded.idle, Nat.zero_lt_of_lt stranded.below⟩, rfl⟩

/-- Only an activation makes the donation strategy active. -/
theorem step_stays_inactive {s : DonateStrategy} (inactive : s.state ≠ .active) {input : Input}
    (quiet : input.activates = false) : (DonateStrategy.step cfg s input).1.state ≠ .active := by
  cases input with
  | tick now =>
    simp only [DonateStrategy.step, DonateStrategy.tick]
    split
    · rw [DonateStrategy.setState_state]; decide
    · exact inactive
  | timer =>
    simp only [DonateStrategy.step, DonateStrategy.onTimer, DonateStrategy.setState_state,
      DonateStrategy.isActive, inactive, decide_False]
    decide
  | onActive | onLoginSuccess => simp [Input.activates] at quiet
  | onClose _ failures =>
    simp only [DonateStrategy.step, DonateStrategy.onClose]
    split <;> exact inactive
  | _ => exact inactive

namespace Nested

/-- Hearing anything but `onActive` leaves `m_state` as it is. -/
theorem hear_state (s : DonateStrategy) {call : Failover.Call}
    (notActive : ∀ id, call ≠ .onActive id) : (hear cfg s call).1.state = s.state := by
  cases call <;> first | exact absurd rfl (notActive _) | rfl

theorem listen_state {calls : List Failover.Call}
    (notActive : ∀ call ∈ calls, ∀ id, call ≠ .onActive id) (s : DonateStrategy) :
    (listen cfg s calls).1.state = s.state := by
  induction calls generalizing s with
  | nil => rfl
  | cons call rest inductionHypothesis =>
    simp only [listen]
    rw [inductionHypothesis (fun call member => notActive call (List.mem_cons_of_mem _ member)),
      hear_state cfg s (notActive call (List.mem_cons_self _ _))]

theorem deliver_stranded {sys : Nested} (stranded : Stranded sys.strategy) (effects : List Effect) :
    Stranded (deliver cfg featureTls sys effects).1.strategy ∧
      (deliver cfg featureTls sys effects).1.strategy.minAcceptableIndex =
        sys.strategy.minAcceptableIndex := by
  induction effects generalizing sys with
  | nil => exact ⟨stranded, rfl⟩
  | cons effect rest inductionHypothesis =>
    simp only [deliver]
    split
    · rename_i input called
      have client := strategyInput_client called
      obtain ⟨strandedAfter, kept⟩ :=
        @Stranded.stays (strategyConfig featureTls) sys.strategy rfl stranded input
          fun id login => by rw [login] at client; exact absurd client (Option.some_ne_none id)
      obtain ⟨later, keptLater⟩ :=
        @inductionHypothesis (callStrategy cfg featureTls sys input).1 strandedAfter
      exact ⟨later, keptLater.trans kept⟩
    · exact inductionHypothesis stranded

/-- One event that activates nothing keeps the nested strategy stranded, with the same
`m_minAcceptableIndex`, and the donation strategy inactive. -/
theorem step_stranded {sys : Nested} (stranded : Stranded sys.strategy)
    (inactive : sys.donate.state ≠ .active) {event : Event}
    (quiet : event.activates sys.strategy.minAcceptableIndex = false) :
    Stranded (step cfg featureTls sys event).1.strategy ∧
      (step cfg featureTls sys event).1.strategy.minAcceptableIndex =
        sys.strategy.minAcceptableIndex ∧
      (step cfg featureTls sys event).1.donate.state ≠ .active := by
  cases event with
  | outer input =>
    obtain ⟨same, -⟩ := deliver_quiet cfg featureTls
      { sys with donate := (DonateStrategy.step cfg sys.donate input).1 }
      (DonateStrategy.step cfg sys.donate input).2
    obtain ⟨strandedAfter, kept⟩ := @deliver_stranded cfg featureTls
      { sys with donate := (DonateStrategy.step cfg sys.donate input).1 } stranded
      (DonateStrategy.step cfg sys.donate input).2
    rw [step]
    exact ⟨strandedAfter, kept, same ▸ step_stays_inactive cfg inactive quiet⟩
  | pool event =>
    have refused : ∀ id, event = .onLoginSuccess id → id < sys.strategy.minAcceptableIndex := by
      rintro id rfl
      simpa [Event.activates] using quiet
    have zeroRetry : (strategyConfig featureTls).retries = 0 := rfl
    obtain ⟨strandedAfter, kept⟩ := stranded.stays zeroRetry refused
    refine ⟨strandedAfter, kept, ?_⟩
    rw [step, callStrategy, listen_state cfg (stranded.step zeroRetry refused).2]
    exact inactive

/-- From a stranded nested strategy and an inactive donation strategy, no sequence of events
that activates nothing makes the donation strategy active, and the nested strategy stays
stranded, refusing the same pools. -/
theorem run_stranded {sys : Nested} (stranded : Stranded sys.strategy)
    (inactive : sys.donate.state ≠ .active) {events : List Event}
    (quiet : ∀ event ∈ events, event.activates sys.strategy.minAcceptableIndex = false) :
    Stranded (run cfg featureTls sys events).1.strategy ∧
      (run cfg featureTls sys events).1.strategy.minAcceptableIndex =
        sys.strategy.minAcceptableIndex ∧
      (run cfg featureTls sys events).1.donate.state ≠ .active := by
  induction events generalizing sys with
  | nil => exact ⟨stranded, rfl, inactive⟩
  | cons event rest inductionHypothesis =>
    obtain ⟨strandedAfter, kept, inactiveAfter⟩ :=
      step_stranded cfg featureTls stranded inactive (quiet event (List.mem_cons_self _ _))
    obtain ⟨later, keptLater, inactiveLater⟩ := inductionHypothesis strandedAfter inactiveAfter
      fun event member => kept ▸ quiet event (List.mem_cons_of_mem _ member)
    exact ⟨later, keptLater.trans kept, inactiveLater⟩

end Nested

/-! ## The failover that ends donation -/

/-- Donation level 1, no proxy donation, a build without TLS, so two donation pools.  The idle
timer fires and pool 0 logs in, opening a donation window; pool 0 closes, so the nested strategy
schedules pool 1; the donation timer starts the grace period; and the tick past it first drains
the pending connect to pool 1 and then, entering `IDLE`, stops the nested strategy, which keeps
`m_minAcceptableIndex = 1` above `m_index = 0`.  From there, whatever events follow, as long as
pool 1 does not log in (no call connects it again) and no activation comes from elsewhere, the
donation strategy never becomes active again. -/
theorem donation_stranded_after_failover :
    (Nested.run ⟨1, .none⟩ false (Nested.construct ⟨1, .none⟩ false ⟨false, false⟩).1
        [.outer .timer, .pool (.onLoginSuccess 0), .pool (.onClose 0 0), .outer .timer,
          .outer (.tick 3001)]).1 =
      ⟨⟨.idle, 3001, 3000, none, false, true, ⟨false, false⟩, 0⟩, ⟨0, -1, false, 1, 1⟩⟩ ∧
    (∃ trace, Runs ⟨1, .none⟩ false
      ⟨⟨.idle, 3001, 3000, none, false, true, ⟨false, false⟩, 0⟩, ⟨0, -1, false, 1, 1⟩⟩ trace) ∧
    ∀ events : List Event, (∀ event ∈ events, event.activates 1 = false) →
      (Nested.run ⟨1, .none⟩ false
        ⟨⟨.idle, 3001, 3000, none, false, true, ⟨false, false⟩, 0⟩, ⟨0, -1, false, 1, 1⟩⟩
        events).1.donate.state ≠ .active := by
  have reach := (((((Runs.construct ⟨false, false⟩ : Runs ⟨1, .none⟩ false _ _).step
    (.outer .timer) rfl).step (.pool (.onLoginSuccess 0)) rfl).step (.pool (.onClose 0 0))
    rfl).step (.outer .timer) rfl).step (.outer (.tick 3001)) rfl
  exact ⟨by decide, ⟨_, reach⟩, fun events quiet =>
    (Nested.run_stranded ⟨1, .none⟩ false ⟨rfl, rfl, by decide⟩ (by decide) quiet).2.2⟩

end Donate
end XMiner
