import Mathlib.Data.List.Basic

namespace XMiner
namespace Donate

/-!
# The donation strategy as a state machine

`DonateStrategy` time-multiplexes the miner between the operator's pools and the donation
pools.  It owns a nested strategy over the donation pools, an optional proxy client that tunnels
through the operator's connection, and a single-shot timer; its `m_state` runs
`NEW → IDLE → CONNECT → ACTIVE → WAIT → IDLE …`.

Each method becomes a function from the members to the next members and the effects it has, in
order: calls on the listener, on the nested strategy, on the proxy and on the timer.  The nested
strategy, the proxy, the timer and the operator's strategy are external, so their callbacks are
inputs that may arrive in any order; the one constraint is that a single-shot timer fires only
while it is armed.  The `assert` in `setState` is recorded as an effect instead of aborting.

Payloads (jobs, results, algorithms, JSON params) are not modelled.  The random idle delays are
recorded by the range their factor is drawn from.
-/

/-- `DonateStrategy::State`. -/
inductive State where
  | new
  | idle
  | connect
  | active
  | wait
  deriving DecidableEq, Repr

/-- `Pools::ProxyDonate`. -/
inductive ProxyDonate where
  | none
  | auto
  deriving DecidableEq, Repr

/-- What the constructor and `onClose` read from the configuration. -/
structure Config where
  donateLevel : Nat
  proxyDonate : ProxyDonate
  deriving DecidableEq, Repr

/-- `m_donateTime` in a build without the donation test mode. -/
def Config.donateTime (cfg : Config) : Nat :=
  cfg.donateLevel * 60 * 1000

/-- A client a callback comes from: one of the nested strategy's pools, or a proxy. -/
inductive Client where
  | pool (id : Nat)
  | proxy (id : Nat)
  deriving DecidableEq, Repr

/-- What `createProxy()` reads from the operator's strategy through the controller: whether it
is active on a client with the CONNECT extension, and whether that client has TLS. -/
structure Operator where
  connectable : Bool
  tls : Bool
  deriving DecidableEq, Repr

/-- The delay a timer start asks for.  `idle(min, max)` draws a random factor of `m_idleTime`:
from `[0.5, 1.5]` after construction and from `[0.8, 1.2]` after a donation. -/
inductive Delay where
  | idle (first : Bool)
  | retry
  | donate (ms : Nat)
  deriving DecidableEq, Repr

/-- An effect of the strategy: a call on its listener, on the nested strategy, on a proxy or on
the timer, or a failed `assert`.  `proxyDeleteLater none` is a call through a null `m_proxy`. -/
inductive Effect where
  | onActive (client : Client)
  | onPause
  | onJob (client : Client)
  | onResultAccepted (client : Client)
  | onVerifyAlgorithm (client : Client)
  | strategyConnect
  | strategyStop
  | strategyTick (now : Nat)
  | strategySubmit
  | strategySetAlgo
  | strategySetProxy
  | proxyCreate (id : Nat)
  | proxyConnect (id : Nat)
  | proxyTick (id : Nat) (now : Nat)
  | proxySubmit (id : Nat)
  | proxyDeleteLater (proxy : Option Nat)
  | timerStart (delay : Delay)
  | timerStop
  | assertFailed
  deriving DecidableEq, Repr

/-- The members of the strategy, with the timer's armed flag, the operator view `createProxy()`
reads, and the number of proxies created so far, which names the next one. -/
structure DonateStrategy where
  state : State
  now : Nat
  timestamp : Nat
  proxy : Option Nat
  tls : Bool
  timerArmed : Bool
  operator : Operator
  proxies : Nat
  deriving DecidableEq, Repr

/-- An event the strategy receives: from the host loop, its timer, the nested strategy, the
proxy, the operator's strategy, or a call of one of its own methods. -/
inductive Input where
  | tick (now : Nat)
  | timer
  | onActive (client : Client)
  | onPause
  | onLoginSuccess (proxy : Nat)
  | onClose (proxy : Nat) (failures : Int)
  | onJob (client : Client)
  | onResultAccepted (client : Client)
  | onVerifyAlgorithm (client : Client)
  | submit
  | stop
  | setAlgo
  | setProxy
  | operator (view : Operator)
  deriving DecidableEq, Repr

namespace DonateStrategy

/-- Modelled from the spec: the member initialisers are in `DonateStrategy.h`, which is not under
src/.  The state starts `NEW`, the clock and deadline at 0, with no proxy and an idle timer. -/
def fresh (operator : Operator) : DonateStrategy where
  state := .new
  now := 0
  timestamp := 0
  proxy := none
  tls := false
  timerArmed := false
  operator := operator
  proxies := 0

/-- Modelled from the spec: `isActive()` is inline in the header; the strategy is active when
its state is `ACTIVE`. -/
def isActive (s : DonateStrategy) : Bool :=
  s.state = .active

variable (cfg : Config) (s : DonateStrategy)

/-! ## Helpers of `setState` -/

def idle (first : Bool) : DonateStrategy × List Effect :=
  ({ s with timerArmed := true }, [.timerStart (.idle first)])

/-- A new proxy client through the operator's active connection, when proxying is configured and
the operator's client offers the CONNECT extension. -/
def createProxy : DonateStrategy × Option Nat :=
  if cfg.proxyDonate = .none then (s, none)
  else if s.operator.connectable = false then (s, none)
  else ({ s with tls := s.operator.tls, proxies := s.proxies + 1 }, some s.proxies)

def connect : DonateStrategy × List Effect :=
  let created := createProxy cfg s
  match created.2 with
  | some id => ({ created.1 with proxy := some id }, [.proxyCreate id, .proxyConnect id])
  | none => ({ created.1 with proxy := none }, [.strategyConnect])

/-- The entry actions of `setState(IDLE)`, by the state it leaves. -/
def enterIdle (prev : State) : DonateStrategy × List Effect :=
  if prev = .new then idle s true
  else if prev = .connect then ({ s with timerArmed := true }, [.timerStart .retry])
  else
    let released := match s.proxy with
      | some id => [.proxyDeleteLater (some id)]
      | none => []
    let idled := idle { s with proxy := none } false
    (idled.1, .strategyStop :: released ++ idled.2)

/-- `setState`: the `assert` is checked first, then an unchanged state returns early. -/
def setState (target : State) : DonateStrategy × List Effect :=
  let checked : List Effect :=
    if s.state ≠ target ∧ target ≠ .new then [] else [.assertFailed]
  if s.state = target then (s, checked)
  else
    let entered := { s with state := target }
    let actions := match target with
      | .new => (entered, [])
      | .idle => enterIdle entered s.state
      | .connect => connect cfg entered
      | .active => ({ entered with timerArmed := true }, [.timerStart (.donate cfg.donateTime)])
      | .wait => ({ entered with timestamp := s.now + 3000 }, [.onPause])
    (actions.1, checked ++ actions.2)

/-- The constructor ends in `setState(STATE_IDLE)`. -/
def construct (operator : Operator) : DonateStrategy × List Effect :=
  setState cfg (fresh operator) .idle

/-! ## What the helpers of `setState` change -/

@[simp] theorem createProxy_state : (createProxy cfg s).1.state = s.state := by
  unfold createProxy; split
  · rfl
  · split <;> rfl

@[simp] theorem createProxy_timerArmed : (createProxy cfg s).1.timerArmed = s.timerArmed := by
  unfold createProxy; split
  · rfl
  · split <;> rfl

@[simp] theorem connect_state : (connect cfg s).1.state = s.state := by
  dsimp only [connect]; split <;> simp

@[simp] theorem connect_timerArmed : (connect cfg s).1.timerArmed = s.timerArmed := by
  dsimp only [connect]; split <;> simp

@[simp] theorem enterIdle_state (prev : State) : (enterIdle s prev).1.state = s.state := by
  unfold enterIdle idle; split
  · rfl
  · split <;> rfl

@[simp] theorem enterIdle_timerArmed (prev : State) : (enterIdle s prev).1.timerArmed = true := by
  unfold enterIdle idle; split
  · rfl
  · split <;> rfl

/-- `setState` always ends in the state it was asked for. -/
@[simp] theorem setState_state (target : State) : (setState cfg s target).1.state = target := by
  dsimp only [setState]
  split
  · assumption
  · cases target <;> simp

/-- `setState` arms the timer only on entering `IDLE` or `ACTIVE`. -/
theorem setState_timerArmed {target : State} (armed : (setState cfg s target).1.timerArmed = true) :
    target = .idle ∨ target = .active ∨ s.timerArmed = true := by
  dsimp only [setState] at armed
  split at armed
  · exact .inr (.inr armed)
  · cases target <;> simp_all

theorem connect_no_assert : .assertFailed ∉ (connect cfg s).2 := by
  dsimp only [connect]; split <;> simp

theorem enterIdle_no_assert (prev : State) : .assertFailed ∉ (enterIdle s prev).2 := by
  unfold enterIdle idle
  split
  · simp
  · split
    · simp
    · dsimp only; split <;> simp

/-- The `assert` in `setState` fails only when asked for the current state or for `NEW`. -/
theorem setState_assertFailed {target : State} (failed : .assertFailed ∈ (setState cfg s target).2) :
    s.state = target ∨ target = .new := by
  dsimp only [setState] at failed
  by_cases checked : s.state ≠ target ∧ target ≠ .new
  · rw [if_pos checked] at failed
    split at failed
    · simp at failed
    · cases target <;> simp [connect_no_assert, enterIdle_no_assert] at failed
  · exact (not_and_or.mp checked).imp not_not.mp not_not.mp

/-- Entering `WAIT` sets the deadline of the grace period 3 s past the clock. -/
theorem setState_wait_timestamp (leaving : s.state ≠ .wait) :
    (setState cfg s .wait).1.timestamp = s.now + 3000 := by
  simp [setState, leaving]

/-- Entering `ACTIVE` starts the donation timer for `donateTime`. -/
theorem setState_active_timerStart (leaving : s.state ≠ .active) :
    .timerStart (.donate cfg.donateTime) ∈ (setState cfg s .active).2 := by
  simp [setState, leaving]

/-! ## Methods and callbacks -/

def submit : List Effect :=
  match s.proxy with
  | some id => [.proxySubmit id]
  | none => [.strategySubmit]

def stop : DonateStrategy × List Effect :=
  ({ s with timerArmed := false }, [.timerStop, .strategyStop])

/-- What `~DonateStrategy` does to the proxy: `deleteLater()` on `m_proxy`, if there is one.
(`delete m_timer` and `delete m_strategy` end objects that no later input reaches.) -/
def destructor : List Effect :=
  match s.proxy with
  | some id => [.proxyDeleteLater (some id)]
  | none => []

/-- `tick` passes the clock to the nested strategy and to the proxy, if there is one. -/
def forward (now : Nat) : List Effect :=
  .strategyTick now :: match s.proxy with
    | some id => [.proxyTick id now]
    | none => []

def tick (now : Nat) : DonateStrategy × List Effect :=
  let clocked := { s with now := now }
  if clocked.state = .wait ∧ now > clocked.timestamp then
    let left := setState cfg clocked .idle
    (left.1, forward s now ++ left.2)
  else (clocked, forward s now)

/-- `onActive` from the nested strategy and `onLoginSuccess` from the proxy. -/
def activate (client : Client) : DonateStrategy × List Effect :=
  if s.isActive then (s, [])
  else
    let entered := setState cfg s .active
    (entered.1, entered.2 ++ [.onActive client])

/-- The single-shot timer fires, and so is no longer armed. -/
def onTimer : DonateStrategy × List Effect :=
  let fired := { s with timerArmed := false }
  setState cfg fired (if fired.isActive then .wait else .connect)

def onClose (failures : Int) : DonateStrategy × List Effect :=
  if failures = 2 ∧ cfg.proxyDonate = .auto then
    ({ s with proxy := none }, [.proxyDeleteLater s.proxy, .strategyConnect])
  else (s, [])

def setJob (client : Client) : List Effect :=
  if s.isActive then [.onJob client] else []

/-! ## Steps and runs -/

def step : Input → DonateStrategy × List Effect
  | .tick now => tick cfg s now
  | .timer => onTimer cfg s
  | .onActive client => activate cfg s client
  | .onPause => (s, [])
  | .onLoginSuccess id => activate cfg s (.proxy id)
  | .onClose _ failures => onClose cfg s failures
  | .onJob client => (s, setJob s client)
  | .onResultAccepted client => (s, [.onResultAccepted client])
  | .onVerifyAlgorithm client => (s, [.onVerifyAlgorithm client])
  | .submit => (s, submit s)
  | .stop => stop s
  | .setAlgo => (s, [.strategySetAlgo])
  | .setProxy => (s, [.strategySetProxy])
  | .operator view => ({ s with operator := view }, [])

end DonateStrategy

/-- The inputs the environment can deliver: a single-shot timer fires only while armed. -/
def Input.allowed (s : DonateStrategy) : Input → Bool
  | .timer => s.timerArmed
  | _ => true

open DonateStrategy in
/-- The runs of a strategy from its construction, with every effect so far. -/
inductive Run (cfg : Config) : DonateStrategy → List Effect → Prop where
  | construct (operator : Operator) :
      Run cfg (construct cfg operator).1 (construct cfg operator).2
  | step {s : DonateStrategy} {trace : List Effect} (input : Input) :
      Run cfg s trace → input.allowed s = true →
      Run cfg (step cfg s input).1 (trace ++ (step cfg s input).2)

end Donate
end XMiner
