import Mathlib.Data.List.Range

namespace XMiner
namespace Failover

/-!
# The failover strategy as a state machine

`FailoverStrategy` owns an ordered list of pool clients, client `i` having id `i`, and decides
which of them the miner talks to.  Each method of the source becomes a function from the
strategy's state to the next state and the list of calls it makes, in order, on its clients and
on its listener.  Clients and the listener are external: a client event is an input that may
arrive at any time, from any client, and a call is recorded but not executed.

Fixed at construction are the number of pools and `m_retries`.  The job, result and algorithm
payloads are forwarded verbatim and are not modelled; a call records only which client it
concerns.
-/

/-- The parameters fixed by the constructor: `m_pools.size()` and `m_retries`. -/
structure Config where
  pools : Nat
  retries : Int
  deriving DecidableEq, Repr

/-- A call the strategy makes: first on one of its clients, then on its listener. -/
inductive Call where
  | connect (id : Nat)
  | disconnect (id : Nat)
  | tick (id : Nat) (now : Nat)
  | submit (id : Nat)
  | setAlgo (id : Nat)
  | setProxy (id : Nat)
  | onActive (id : Nat)
  | onPause
  | onJob (id : Nat)
  | onLogin (id : Nat)
  | onResultAccepted (id : Nat)
  | onVerifyAlgorithm (id : Nat)
  deriving DecidableEq, Repr

/-- The client a call concerns: the one it reaches through `m_pools[...]`, or the one it hands
to the listener.  Only `onPause` concerns none. -/
def Call.client : Call → Option Nat
  | .connect id | .disconnect id | .tick id _ | .submit id | .setAlgo id | .setProxy id
  | .onActive id | .onJob id | .onLogin id | .onResultAccepted id | .onVerifyAlgorithm id => some id
  | .onPause => none

/-- The mutable members of the strategy. -/
structure FailoverStrategy where
  index : Nat
  active : Int
  pendingConnect : Bool
  pendingIndex : Nat
  minAcceptableIndex : Nat
  deriving DecidableEq, Repr

/-- An operation of the strategy, or an event one of its clients delivers to it. -/
inductive Input where
  | connect
  | stop
  | tick (now : Nat)
  | submit
  | resume
  | setAlgo
  | setProxy
  | onClose (id : Nat) (failures : Int)
  | onLoginSuccess (id : Nat)
  | onJobReceived (id : Nat)
  | onLogin (id : Nat)
  | onResultAccepted (id : Nat)
  | onVerifyAlgorithm (id : Nat)
  deriving DecidableEq, Repr

/-- The id of the client an input comes from, if it is a client event. -/
def Input.client : Input → Option Nat
  | .onClose id _ | .onLoginSuccess id | .onJobReceived id | .onLogin id
  | .onResultAccepted id | .onVerifyAlgorithm id => some id
  | _ => none

/-- Client events come from the strategy's own clients, whose ids are their list positions. -/
def Input.Valid (cfg : Config) (input : Input) : Prop :=
  input.client.all (· < cfg.pools)

instance (cfg : Config) (input : Input) : Decidable (input.Valid cfg) :=
  inferInstanceAs (Decidable (input.client.all (· < cfg.pools) = true))

theorem Input.Valid.client_lt {cfg : Config} {input : Input} {id : Nat} (valid : input.Valid cfg)
    (from_client : input.client = some id) : id < cfg.pools := by
  simpa [Input.Valid, from_client] using valid

namespace FailoverStrategy

/-- Modelled from the spec: the member initialisers are in `FailoverStrategy.h`, which is not
under src/.  The cascade starts at pool 0, no client is active (`-1`) and nothing is pending. -/
def initial : FailoverStrategy where
  index := 0
  active := -1
  pendingConnect := false
  pendingIndex := 0
  minAcceptableIndex := 0

/-- Modelled from the spec: `isActive()` is inline in the header; a client is active when
`m_active` is not `-1`. -/
def isActive (s : FailoverStrategy) : Bool :=
  0 ≤ s.active

variable (cfg : Config) (s : FailoverStrategy)

/-! ## Operations -/

def connect : List Call :=
  [.connect s.index]

def submit : List Call :=
  if s.isActive then [.submit s.active.toNat] else []

def resume : List Call :=
  if s.isActive then [.onJob s.active.toNat] else []

def stop : FailoverStrategy × List Call :=
  ({ s with index := 0, active := -1 }, (List.range cfg.pools).map .disconnect ++ [.onPause])

/-- Drains a deferred connect scheduled by the zero-retry branch of `onClose`. -/
def connectNext : FailoverStrategy × List Call :=
  if s.pendingConnect = false ∨ cfg.pools ≤ s.pendingIndex then (s, [])
  else ({ s with pendingConnect := false, index := s.pendingIndex }, [.connect s.pendingIndex])

def tick (now : Nat) : FailoverStrategy × List Call :=
  ((connectNext cfg s).1, (List.range cfg.pools).map (.tick · now) ++ (connectNext cfg s).2)

/-! ## Client events -/

/-- The first step of `onClose`: a close of the active client pauses the listener. -/
def deactivate (id : Nat) : FailoverStrategy × List Call :=
  if s.active = id then ({ s with active := -1 }, [.onPause]) else (s, [])

/-- The `m_retries == 0` branch of `onClose`: closes from below `m_minAcceptableIndex` are
silenced, and a close of the current pool schedules the next one for the next tick. -/
def onCloseZeroRetry (id : Nat) : FailoverStrategy × List Call :=
  if id < s.minAcceptableIndex then (s, [.disconnect id])
  else if s.index = id then
    let next := if cfg.pools - s.index > 1 then s.index + 1 else 0
    ({ s with pendingIndex := next, minAcceptableIndex := next, pendingConnect := true },
      (List.range (s.index + 1)).map .disconnect)
  else (s, [])

/-- The branch of `onClose` for `m_retries != 0`: pool 0 retries in place until its failures
reach `m_retries`, and a close of the current pool connects the next one at once. -/
def onCloseRetry (id : Nat) (failures : Int) : FailoverStrategy × List Call :=
  if s.index = 0 ∧ failures < cfg.retries then (s, [])
  else if s.index = id ∧ cfg.pools - s.index > 1 then
    ({ s with index := s.index + 1 }, [.connect (s.index + 1)])
  else (s, [])

def onClose (id : Nat) (failures : Int) : FailoverStrategy × List Call :=
  if failures = -1 then (s, [])
  else
    let paused := deactivate s id
    let rest := if cfg.retries = 0 then onCloseZeroRetry cfg paused.1 id
      else onCloseRetry cfg paused.1 id failures
    (rest.1, paused.2 ++ rest.2)

/-- The client `onLoginSuccess` makes active: pool 0 always preempts, another pool only when
none is active. -/
def promoted (id : Nat) : Int :=
  if id = 0 ∨ s.isActive = false then id else s.active

def onLoginSuccess (id : Nat) : FailoverStrategy × List Call :=
  if cfg.retries = 0 ∧ id < s.minAcceptableIndex then (s, [.disconnect id])
  else
    let active := promoted s id
    let cleared := { s with pendingConnect := false, minAcceptableIndex := 0 }
    let others := ((List.range cfg.pools).filter (fun i : Nat => active ≠ i)).map .disconnect
    if 0 ≤ active ∧ active ≠ s.active then
      ({ cleared with index := active.toNat, active := active }, others ++ [.onActive id])
    else (cleared, others)

def onJobReceived (id : Nat) : List Call :=
  if s.active = id then [.onJob id] else []

/-! ## Frame lemmas: which helpers leave `m_active` alone -/

@[simp] theorem connectNext_active : (connectNext cfg s).1.active = s.active := by
  unfold connectNext; split <;> rfl

@[simp] theorem onCloseZeroRetry_active (id : Nat) :
    (onCloseZeroRetry cfg s id).1.active = s.active := by
  unfold onCloseZeroRetry; split
  · rfl
  · split <;> rfl

@[simp] theorem onCloseRetry_active (id : Nat) (failures : Int) :
    (onCloseRetry cfg s id failures).1.active = s.active := by
  unfold onCloseRetry; split
  · rfl
  · split <;> rfl

/-- A login that changes the active client promotes the client that logged in. -/
theorem promoted_eq_of_ne {id : Nat} (changed : promoted s id ≠ s.active) : promoted s id = id := by
  unfold promoted at *
  split at * <;> simp_all

/-- In zero-retry mode a close from below `m_minAcceptableIndex` of a client that is not the
active one only disconnects that client again. -/
theorem onClose_below_min (zeroRetry : cfg.retries = 0) {id : Nat} {failures : Int}
    (notLocal : failures ≠ -1) (other : s.active ≠ id) (below : id < s.minAcceptableIndex) :
    onClose cfg s id failures = (s, [.disconnect id]) := by
  simp [onClose, deactivate, onCloseZeroRetry, notLocal, other, zeroRetry, below]

/-- In zero-retry mode a login from below `m_minAcceptableIndex` only disconnects the client. -/
theorem onLoginSuccess_below_min (zeroRetry : cfg.retries = 0) {id : Nat}
    (below : id < s.minAcceptableIndex) : onLoginSuccess cfg s id = (s, [.disconnect id]) := by
  simp [onLoginSuccess, zeroRetry, below]

/-! ## Steps and runs -/

def step : Input → FailoverStrategy × List Call
  | .connect => (s, connect s)
  | .stop => stop cfg s
  | .tick now => tick cfg s now
  | .submit => (s, submit s)
  | .resume => (s, resume s)
  | .setAlgo => (s, (List.range cfg.pools).map .setAlgo)
  | .setProxy => (s, (List.range cfg.pools).map .setProxy)
  | .onClose id failures => onClose cfg s id failures
  | .onLoginSuccess id => onLoginSuccess cfg s id
  | .onJobReceived id => (s, onJobReceived s id)
  | .onLogin id => (s, [.onLogin id])
  | .onResultAccepted id => (s, [.onResultAccepted id])
  | .onVerifyAlgorithm id => (s, [.onVerifyAlgorithm id])

/-- The state after a sequence of inputs, with every call made along the way. -/
def run : FailoverStrategy → List Input → FailoverStrategy × List Call
  | s, [] => (s, [])
  | s, input :: rest =>
      ((run (step cfg s input).1 rest).1, (step cfg s input).2 ++ (run (step cfg s input).1 rest).2)

@[simp] theorem run_nil : run cfg s [] = (s, []) := rfl

@[simp] theorem run_cons (input : Input) (rest : List Input) :
    run cfg s (input :: rest) =
      ((run cfg (step cfg s input).1 rest).1,
        (step cfg s input).2 ++ (run cfg (step cfg s input).1 rest).2) := rfl

theorem run_append (first second : List Input) :
    run cfg s (first ++ second) =
      ((run cfg (run cfg s first).1 second).1,
        (run cfg s first).2 ++ (run cfg (run cfg s first).1 second).2) := by
  induction first generalizing s with
  | nil => simp
  | cons input rest inductionHypothesis => simp [inductionHypothesis]

end FailoverStrategy

open FailoverStrategy in
/-- The states a strategy reaches from construction through valid inputs. -/
inductive Reachable (cfg : Config) : FailoverStrategy → Prop where
  | initial : Reachable cfg initial
  | step {s : FailoverStrategy} (input : Input) :
      Reachable cfg s → input.Valid cfg → Reachable cfg (step cfg s input).1

theorem Reachable.run {cfg : Config} {s : FailoverStrategy} (reach : Reachable cfg s)
    {inputs : List Input} (valid : ∀ input ∈ inputs, input.Valid cfg) :
    Reachable cfg (FailoverStrategy.run cfg s inputs).1 := by
  induction inputs generalizing s with
  | nil => exact reach
  | cons input rest inductionHypothesis =>
    exact inductionHypothesis (.step input reach (valid input (List.mem_cons_self _ _)))
      fun later member => valid later (List.mem_cons_of_mem _ member)

end Failover
end XMiner
