import XMiner.Failover.Model

namespace XMiner
namespace Failover

open FailoverStrategy

/-!
# What the listener is told

The listener learns which client is active only from the calls it receives: an `onActive`
names the new client, an `onPause` says there is none.  Replaying those calls gives the
listener's view, and the replay fails at an `onJob` whose client is not the one in view.

Every step of the strategy, from every state and for an event from any client, ends with the
view equal to `m_active`.  So along any run the listener has been told of every change of the
active client, and every job it is handed comes from the client it was last told is active.
-/

/-- What one call does to the listener's view: an `onActive` names the new client, an
`onPause` clears it, and an `onJob` must carry the client in view. -/
def observe (view : Int) : Call → Option Int
  | .onActive id => some id
  | .onPause => some (-1)
  | .onJob id => if view = id then some view else none
  | _ => some view

/-- The listener's view after `calls`, starting from `view`, or `none` once an `onJob` has
carried a client other than the one in view. -/
def replay (view : Int) : List Call → Option Int
  | [] => some view
  | call :: rest => (observe view call).bind fun seen => replay seen rest

@[simp] theorem replay_nil (view : Int) : replay view [] = some view := rfl

@[simp] theorem replay_cons (view : Int) (call : Call) (rest : List Call) :
    replay view (call :: rest) = (observe view call).bind fun seen => replay seen rest := rfl

theorem replay_append (view : Int) (first second : List Call) :
    replay view (first ++ second) = (replay view first).bind fun seen => replay seen second := by
  induction first generalizing view with
  | nil => rfl
  | cons call rest inductionHypothesis =>
    simp only [List.cons_append, replay_cons, inductionHypothesis, Option.bind_assoc]

/-- Calls on clients leave the view as it is. -/
theorem replay_map_quiet (f : Nat → Call) (quiet : ∀ i view, observe view (f i) = some view)
    (indices : List Nat) (view : Int) : replay view (indices.map f) = some view := by
  induction indices with
  | nil => rfl
  | cons i rest inductionHypothesis =>
    rw [List.map_cons, replay_cons, quiet, Option.some_bind, inductionHypothesis]

variable (cfg : Config) (s : FailoverStrategy)

/-! ## One step -/

theorem tick_replay (now : Nat) :
    replay s.active (tick cfg s now).2 = some (tick cfg s now).1.active := by
  simp only [tick, replay_append, replay_map_quiet (.tick · now) (fun _ _ => rfl),
    Option.some_bind, ← connectNext_active cfg s]
  unfold connectNext
  split <;> rfl

theorem deactivate_replay (id : Nat) :
    replay s.active (deactivate s id).2 = some (deactivate s id).1.active := by
  unfold deactivate; split <;> rfl

/-- Neither branch of `onClose` past the pause says anything to the listener. -/
theorem onCloseZeroRetry_replay (id : Nat) :
    replay s.active (onCloseZeroRetry cfg s id).2 = some s.active := by
  unfold onCloseZeroRetry
  split
  · rfl
  · split
    · exact replay_map_quiet .disconnect (fun _ _ => rfl) _ _
    · rfl

theorem onCloseRetry_replay (id : Nat) (failures : Int) :
    replay s.active (onCloseRetry cfg s id failures).2 = some s.active := by
  unfold onCloseRetry
  split
  · rfl
  · split <;> rfl

theorem onClose_replay (id : Nat) (failures : Int) :
    replay s.active (onClose cfg s id failures).2 = some (onClose cfg s id failures).1.active := by
  unfold onClose
  split
  · rfl
  · dsimp only
    rw [replay_append, deactivate_replay, Option.some_bind]
    split
    · rw [onCloseZeroRetry_replay, onCloseZeroRetry_active]
    · rw [onCloseRetry_replay, onCloseRetry_active]

theorem onLoginSuccess_replay (id : Nat) :
    replay s.active (onLoginSuccess cfg s id).2 = some (onLoginSuccess cfg s id).1.active := by
  unfold onLoginSuccess
  split
  · rfl
  · dsimp only
    have others := replay_map_quiet .disconnect (fun _ _ => rfl)
      ((List.range cfg.pools).filter fun i : Nat => promoted s id ≠ i) s.active
    split
    · rename_i change
      rw [replay_append, others, Option.some_bind]
      simp [observe, promoted_eq_of_ne s change.2]
    · exact others

/-- The listener's view after any step equals `m_active` if it did before. -/
theorem step_replay (input : Input) :
    replay s.active (step cfg s input).2 = some (step cfg s input).1.active := by
  cases input with
  | stop =>
    simp only [step, stop, replay_append, replay_map_quiet .disconnect (fun _ _ => rfl)]
    rfl
  | tick now => exact tick_replay cfg s now
  | onClose id failures => exact onClose_replay cfg s id failures
  | onLoginSuccess id => exact onLoginSuccess_replay cfg s id
  | submit | resume =>
    simp only [step, submit, resume, isActive, decide_eq_true_eq]
    split
    · simp [observe, Int.toNat_of_nonneg ‹_›]
    · rfl
  | onJobReceived id =>
    simp only [step, onJobReceived]
    split
    · simp [observe, ‹_›]
    · rfl
  | setAlgo => exact replay_map_quiet .setAlgo (fun _ _ => rfl) _ _
  | setProxy => exact replay_map_quiet .setProxy (fun _ _ => rfl) _ _
  | _ => rfl

theorem run_replay (inputs : List Input) :
    replay s.active (run cfg s inputs).2 = some (run cfg s inputs).1.active := by
  induction inputs generalizing s with
  | nil => rfl
  | cons input rest inductionHypothesis =>
    rw [run_cons, replay_append, step_replay, Option.some_bind, inductionHypothesis]

/-- Along every run from construction, with events from any clients in any order, the client
the listener was last told is active, or `-1` after an `onPause`, is `m_active`; and every
`onJob` it receives, from `onJobReceived` or `resume()`, carries that client. -/
theorem listener_view_is_active (inputs : List Input) :
    replay (-1) (run cfg initial inputs).2 = some (run cfg initial inputs).1.active :=
  run_replay cfg initial inputs

end Failover
end XMiner
