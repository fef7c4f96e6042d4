import XMiner.Donate.Model

namespace XMiner
namespace Donate

open DonateStrategy

/-!
# Where the donation timer can be armed, and how the state moves

After construction the state is never `NEW`, and the single-shot timer is armed only in `IDLE`
or `ACTIVE`: `idle()` and `setState(ACTIVE)` arm it, and a timer that fires is spent before
`onTimer` moves the state on.  So `onTimer` asks for `CONNECT` only from `IDLE` and for `WAIT`
only from `ACTIVE`, and no call of `setState` trips its `assert`.

The same facts list every move of `m_state`.  The timer moves `IDLE` to `CONNECT` and `ACTIVE` to
`WAIT`, a tick past the deadline moves `WAIT` to `IDLE`, and an activation from the nested
strategy or from the proxy moves any other state to `ACTIVE`: `onActive` guards only against
being active already, so an activation during `IDLE` or `WAIT` starts a donation window too.

`setState(IDLE)` is asked for only by the constructor and by a tick in `WAIT`, so its branch for
a connection that failed, which arms a 20-second retry, is never taken: in `CONNECT` the timer is
not armed and only an activation moves the state on.
-/

/-- What every state reached after construction satisfies. -/
structure Invariant (s : DonateStrategy) : Prop where
  constructed : s.state ≠ .new
  armed_cases : s.timerArmed = true → s.state = .idle ∨ s.state = .active

variable {cfg : Config} {s : DonateStrategy}

theorem setState_invariant {target : State} (notNew : target ≠ .new)
    (armedTarget : s.timerArmed = true → target = .idle ∨ target = .active) :
    Invariant (setState cfg s target).1 where
  constructed := by rw [setState_state]; exact notNew
  armed_cases := fun armed => by
    rw [setState_state]
    rcases setState_timerArmed cfg s armed with idle | active | before
    · exact .inl idle
    · exact .inr active
    · exact armedTarget before

theorem construct_invariant (operator : Operator) : Invariant (construct cfg operator).1 :=
  setState_invariant (by decide) fun _ => .inl rfl

/-- A timer that is allowed to fire leaves the strategy in `CONNECT` or `WAIT`. -/
theorem onTimer_target (h : Invariant s) (armed : s.timerArmed = true) :
    (s.state = .idle ∧ (onTimer cfg s).1.state = .connect) ∨
      (s.state = .active ∧ (onTimer cfg s).1.state = .wait) := by
  simp only [onTimer, setState_state, isActive, decide_eq_true_eq]
  rcases h.armed_cases armed with idle | active
  · exact .inl ⟨idle, by simp [idle]⟩
  · exact .inr ⟨active, by simp [active]⟩

theorem step_invariant (h : Invariant s) {input : Input} (allowed : input.allowed s = true) :
    Invariant (step cfg s input).1 := by
  cases input with
  | tick now =>
    simp only [step, tick]
    split
    · exact setState_invariant (by decide) fun _ => .inl rfl
    · exact { h with }
  | timer =>
    simp only [step, onTimer]
    exact setState_invariant (by split <;> decide) fun never => absurd never Bool.false_ne_true
  | onActive client | onLoginSuccess client =>
    simp only [step, activate]
    split
    · exact h
    · exact setState_invariant (by decide) fun _ => .inr rfl
  | onClose _ failures =>
    simp only [step, onClose]
    split
    · exact { h with }
    · exact h
  | stop => exact { h with armed_cases := fun never => absurd never Bool.false_ne_true }
  | operator view => exact { h with }
  | _ => exact h

theorem Run.invariant {trace : List Effect} (run : Run cfg s trace) : Invariant s := by
  induction run with
  | construct operator => exact construct_invariant operator
  | step input _ allowed inductionHypothesis => exact step_invariant inductionHypothesis allowed

/-! ## The `assert` in `setState` -/

theorem step_no_assert (h : Invariant s) {input : Input} (allowed : input.allowed s = true) :
    .assertFailed ∉ (step cfg s input).2 := by
  cases input with
  | tick now =>
    have quiet : .assertFailed ∉ forward s now := by unfold forward; split <;> simp
    simp only [step, tick]
    split
    · rename_i waiting
      intro failed
      rcases List.mem_append.mp failed with forwarded | left
      · exact quiet forwarded
      · rcases setState_assertFailed cfg _ left with same | never
        · exact absurd (waiting.1.symm.trans same) (by decide)
        · exact absurd never (by decide)
    · exact quiet
  | timer =>
    intro failed
    simp only [step, onTimer] at failed
    rcases setState_assertFailed cfg _ failed with same | never
    · rcases h.armed_cases allowed with idle | active
      · simp [isActive, idle] at same
      · simp [isActive, active] at same
    · split at never <;> exact absurd never (by decide)
  | onActive client | onLoginSuccess client =>
    simp only [step, activate]
    split
    · simp
    · rename_i inactive
      intro failed
      rcases List.mem_append.mp failed with entered | announced
      · rcases setState_assertFailed cfg _ entered with same | never
        · simp [isActive, same] at inactive
        · exact absurd never (by decide)
      · simp at announced
  | onClose _ failures =>
    simp only [step, onClose]
    split <;> simp
  | submit =>
    simp only [step, submit]
    split <;> simp
  | onJob client =>
    simp only [step, setJob]
    split <;> simp
  | _ => simp [step, DonateStrategy.stop]

/-- In every run from construction, with timer expiries only while the timer is armed and ticks,
activations, proxy events and `stop()` in any order, no call of `setState` asks for the current
state or for `NEW`, so its `assert` never fails.  Behind this: the timer is armed only in
`IDLE` or `ACTIVE`. -/
theorem setState_assert_holds {trace : List Effect} (run : Run cfg s trace) :
    .assertFailed ∉ trace ∧ (s.timerArmed = true → s.state = .idle ∨ s.state = .active) := by
  refine ⟨?_, run.invariant.armed_cases⟩
  induction run with
  | construct operator =>
    intro failed
    rcases setState_assertFailed cfg _ failed with same | never
    · simp [fresh] at same
    · exact absurd never (by decide)
  | step input previous allowed inductionHypothesis =>
    intro failed
    rcases List.mem_append.mp failed with before | now
    · exact inductionHypothesis before
    · exact step_no_assert previous.invariant allowed now

/-- A run through a donation window and past it, at donate level 5: the idle timer, an activation
from pool 0, the donation timer, a tick past the grace period back to `IDLE`, and `stop()`. -/
theorem setState_assert_holds_past_window :
    ∃ s trace, Run ⟨5, .none⟩ s trace ∧ .onPause ∈ trace ∧ .timerStop ∈ trace ∧
      (.assertFailed ∉ trace ∧ (s.timerArmed = true → s.state = .idle ∨ s.state = .active)) :=
  have run := (((((Run.construct ⟨false, false⟩ : Run ⟨5, .none⟩ _ _).step .timer rfl).step
    (.onActive (.pool 0)) rfl).step .timer rfl).step (.tick 3001) rfl).step .stop rfl
  ⟨_, _, run, by decide, by decide, setState_assert_holds run⟩

/-! ## The moves of `m_state` -/

/-- The moves of `m_state` one step can make, over the members before and after the step and its
effects: the input that makes each, what the code checks first, and what it sets up.  The
donation timer sets the deadline of the grace period 3 s ahead and a tick leaves `WAIT` only
past it; an activation starts the donation timer for `donateTime`. -/
inductive Moves (cfg : Config) : Input → DonateStrategy → DonateStrategy → List Effect → Prop where
  | idleTimer {before after : DonateStrategy} {effects : List Effect} :
      before.state = .idle → after.state = .connect → Moves cfg .timer before after effects
  | donateTimer {before after : DonateStrategy} {effects : List Effect} :
      before.state = .active → after.state = .wait → after.timestamp = before.now + 3000 →
      Moves cfg .timer before after effects
  | graceOver (now : Nat) {before after : DonateStrategy} {effects : List Effect} :
      before.state = .wait → now > before.timestamp → after.state = .idle →
      Moves cfg (.tick now) before after effects
  | nestedActivation (client : Client) {before after : DonateStrategy} {effects : List Effect} :
      before.state ≠ .new → before.state ≠ .active → after.state = .active →
      .timerStart (.donate cfg.donateTime) ∈ effects →
      Moves cfg (.onActive client) before after effects
  | proxyActivation (id : Nat) {before after : DonateStrategy} {effects : List Effect} :
      before.state ≠ .new → before.state ≠ .active → after.state = .active →
      .timerStart (.donate cfg.donateTime) ∈ effects →
      Moves cfg (.onLoginSuccess id) before after effects

section Moves

variable {input : Input} {before after : DonateStrategy} {effects : List Effect}

/-- Only a tick in `WAIT` moves into `IDLE`. -/
theorem Moves.into_idle (moves : Moves cfg input before after effects)
    (idled : after.state = .idle) : before.state = .wait := by
  cases moves with
  | graceOver _ waiting => exact waiting
  | idleTimer _ entered | donateTimer _ entered _ | nestedActivation _ _ _ entered _
  | proxyActivation _ _ _ entered _ => exact absurd (entered.symm.trans idled) (by decide)

/-- Only an activation moves out of `CONNECT`. -/
theorem Moves.out_of_connect (moves : Moves cfg input before after effects)
    (connecting : before.state = .connect) :
    (∃ client, input = .onActive client) ∨ ∃ id, input = .onLoginSuccess id := by
  cases moves with
  | nestedActivation client => exact .inl ⟨client, rfl⟩
  | proxyActivation id => exact .inr ⟨id, rfl⟩
  | idleTimer left _ | donateTimer left _ _ | graceOver _ left _ =>
    exact absurd (left.symm.trans connecting) (by decide)

end Moves

/-- The donation timer sets the deadline of the grace period 3 s past the clock. -/
theorem onTimer_deadline (active : s.state = .active) :
    (onTimer cfg s).1.timestamp = s.now + 3000 := by
  simp only [onTimer, isActive, active, decide_True, if_true]
  exact setState_wait_timestamp cfg _ (by simp [active])

theorem activate_moves (h : Invariant s) (client : Client) :
    (activate cfg s client).1.state = s.state ∨
      ((activate cfg s client).1.state = .active ∧ s.state ≠ .new ∧ s.state ≠ .active ∧
        .timerStart (.donate cfg.donateTime) ∈ (activate cfg s client).2) := by
  unfold activate
  split
  · exact .inl rfl
  · rename_i inactive
    have leaving : s.state ≠ .active := by simpa [isActive] using inactive
    exact .inr ⟨setState_state cfg s _, h.constructed, leaving,
      List.mem_append_left _ (setState_active_timerStart cfg s leaving)⟩

/-- From a state the invariant holds in, each step the environment can deliver keeps `m_state`
or makes one of the `Moves`. -/
theorem step_moves (h : Invariant s) {input : Input} (allowed : input.allowed s = true) :
    (step cfg s input).1.state = s.state ∨
      Moves cfg input s (step cfg s input).1 (step cfg s input).2 := by
  cases input with
  | tick now =>
    simp only [step, tick]
    split
    · rename_i waiting
      exact .inr (.graceOver now waiting.1 waiting.2 (setState_state ..))
    · exact .inl rfl
  | timer =>
    rcases onTimer_target h allowed with ⟨idle, connected⟩ | ⟨active, waiting⟩
    · exact .inr (.idleTimer idle connected)
    · exact .inr (.donateTimer active waiting (onTimer_deadline active))
  | onActive client =>
    rcases activate_moves h client with same | ⟨entered, notNew, notActive, started⟩
    · exact .inl same
    · exact .inr (.nestedActivation client notNew notActive entered started)
  | onLoginSuccess id =>
    rcases activate_moves h (.proxy id) with same | ⟨entered, notNew, notActive, started⟩
    · exact .inl same
    · exact .inr (.proxyActivation id notNew notActive entered started)
  | onClose _ failures =>
    simp only [step, onClose]
    split <;> exact .inl rfl
  | _ => exact .inl rfl

theorem connect_no_timerStart (delay : Delay) : .timerStart delay ∉ (connect cfg s).2 := by
  dsimp only [connect]; split <;> simp

theorem enterIdle_retry {prev : State} (started : .timerStart .retry ∈ (enterIdle s prev).2) :
    prev = .connect := by
  unfold enterIdle idle at started
  split at started
  · simp at started
  · split at started
    · assumption
    · dsimp only at started
      split at started <;> simp at started

/-- `setState` starts the retry timer only when it enters `IDLE` from `CONNECT`. -/
theorem setState_retry {target : State} (started : .timerStart .retry ∈ (setState cfg s target).2) :
    target = .idle ∧ s.state = .connect := by
  dsimp only [setState] at started
  have quiet : .timerStart .retry ∉
      (if s.state ≠ target ∧ target ≠ .new then ([] : List Effect) else [.assertFailed]) := by
    split <;> simp
  split at started
  · exact absurd started quiet
  · rcases List.mem_append.mp started with checked | entered
    · exact absurd checked quiet
    · cases target with
      | idle => exact ⟨rfl, enterIdle_retry entered⟩
      | connect => exact absurd entered (connect_no_timerStart _)
      | _ => simp at entered

theorem step_no_retry (input : Input) : .timerStart .retry ∉ (step cfg s input).2 := by
  cases input with
  | tick now =>
    have quiet : .timerStart .retry ∉ forward s now := by unfold forward; split <;> simp
    simp only [step, tick]
    split
    · rename_i waiting
      intro started
      rcases List.mem_append.mp started with forwarded | left
      · exact quiet forwarded
      · exact absurd (waiting.1.symm.trans (setState_retry left).2) (by decide)
    · exact quiet
  | timer =>
    intro started
    simp only [step, onTimer] at started
    have target := (setState_retry started).1
    split at target <;> exact absurd target (by decide)
  | onActive client | onLoginSuccess client =>
    simp only [step, activate]
    split
    · simp
    · intro started
      rcases List.mem_append.mp started with entered | announced
      · exact absurd (setState_retry entered).1 (by decide)
      · simp at announced
  | onClose _ failures =>
    simp only [step, onClose]
    split <;> simp
  | submit =>
    simp only [step, submit]
    split <;> simp
  | onJob client =>
    simp only [step, setJob]
    split <;> simp
  | _ => simp [step, DonateStrategy.stop]

/-- In every run from construction, `setState(IDLE)` is entered only from `NEW` and `WAIT`: a
step into `IDLE` from another state starts in `WAIT`, so the branch for a failed connection ("dev
donate connection failed, retry in 20 seconds") is never taken and the 20-second retry timer is
never started.  And in `CONNECT` the timer is not armed and every step that leaves `CONNECT` is
an activation from the nested strategy or the proxy: a donation whose pools never activate waits
there with no retry. -/
theorem connect_retry_unreachable {trace : List Effect} (run : Run cfg s trace) :
    .timerStart .retry ∉ trace ∧
      (∀ input : Input, input.allowed s = true → s.state ≠ .idle →
        (step cfg s input).1.state = .idle → s.state = .wait) ∧
      (s.state = .connect → s.timerArmed = false ∧
        ∀ input : Input, input.allowed s = true → (step cfg s input).1.state ≠ .connect →
          (∃ client, input = .onActive client) ∨ ∃ id, input = .onLoginSuccess id) := by
  have neverStarted : .timerStart .retry ∉ trace := by
    induction run with
    | construct operator =>
      intro started
      exact absurd (setState_retry started).2 (by simp [fresh])
    | step input _ _ inductionHypothesis =>
      intro started
      rcases List.mem_append.mp started with before | now
      · exact inductionHypothesis before
      · exact step_no_retry input now
  have h := run.invariant
  refine ⟨neverStarted, fun input allowed notIdle idled => ?_,
    fun connecting => ⟨?_, fun input allowed left => ?_⟩⟩
  · rcases step_moves h allowed with same | moves
    · exact absurd (same.symm.trans idled) notIdle
    · exact moves.into_idle idled
  · refine Bool.eq_false_iff.mpr fun armed => ?_
    rcases h.armed_cases armed with armedIn | armedIn <;>
      exact absurd (connecting.symm.trans armedIn) (by decide)
  · rcases step_moves h allowed with same | moves
    · exact absurd (same.trans connecting) left
    · exact moves.out_of_connect connecting

/-- The idle timer fires after construction, and the strategy waits in `CONNECT`. -/
theorem connect_retry_unreachable_after_first_timer :
    ∃ s trace, Run ⟨5, .none⟩ s trace ∧ s.state = .connect ∧
      (.timerStart .retry ∉ trace ∧
        (∀ input : Input, input.allowed s = true → s.state ≠ .idle →
          (step ⟨5, .none⟩ s input).1.state = .idle → s.state = .wait) ∧
        (s.state = .connect → s.timerArmed = false ∧
          ∀ input : Input, input.allowed s = true → (step ⟨5, .none⟩ s input).1.state ≠ .connect →
            (∃ client, input = .onActive client) ∨ ∃ id, input = .onLoginSuccess id)) :=
  have run := (Run.construct ⟨false, false⟩ : Run ⟨5, .none⟩ _ _).step .timer rfl
  ⟨_, _, run, by decide, connect_retry_unreachable run⟩

end Donate
end XMiner
