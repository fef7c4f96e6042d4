import XMiner.Donate.Model

namespace XMiner
namespace Donate

open DonateStrategy

/-!
# What the donation strategy tells its listener

The listener is told `onActive` when a donation window opens and `onPause` when it closes, and
is handed jobs in between.  Replaying a trace keeps one bit, whether the last announcement was
`onActive`, and fails at an `onActive` that repeats one, at an `onPause` with nothing to pause,
and at an `onJob` outside a window.

Every step keeps the bit equal to `isActive()`: `setState(ACTIVE)` is always followed by
`onActive`, `WAIT` is entered only from `ACTIVE` and says `onPause`, and `setJob` forwards only
while active.  So along every run the announcements alternate, starting with `onActive`, and the
last one was `onActive` exactly when the state is `ACTIVE`.
-/

/-- What one effect does to the record of the last announcement. -/
def observe (announced : Bool) : Effect → Option Bool
  | .onActive _ => if announced then none else some true
  | .onPause => if announced then some false else none
  | .onJob _ => if announced then some true else none
  | _ => some announced

/-- Whether the last announcement in `effects` was `onActive`, starting from `announced`, or
`none` once an announcement or a job comes out of turn. -/
def replay (announced : Bool) : List Effect → Option Bool
  | [] => some announced
  | effect :: rest => (observe announced effect).bind fun next => replay next rest

@[simp] theorem replay_nil (announced : Bool) : replay announced [] = some announced := rfl

@[simp] theorem replay_cons (announced : Bool) (effect : Effect) (rest : List Effect) :
    replay announced (effect :: rest) =
      (observe announced effect).bind fun next => replay next rest := rfl

theorem replay_append (announced : Bool) (first second : List Effect) :
    replay announced (first ++ second) =
      (replay announced first).bind fun next => replay next second := by
  induction first generalizing announced with
  | nil => rfl
  | cons effect rest inductionHypothesis =>
    simp only [List.cons_append, replay_cons, inductionHypothesis, Option.bind_assoc]

variable (cfg : Config) (s : DonateStrategy)

/-! ## `setState` says nothing but `onPause` -/

theorem connect_replay (announced : Bool) : replay announced (connect cfg s).2 = some announced := by
  dsimp only [connect]; split <;> rfl

theorem enterIdle_replay (prev : State) (announced : Bool) :
    replay announced (enterIdle s prev).2 = some announced := by
  unfold enterIdle idle
  split
  · rfl
  · split
    · rfl
    · dsimp only; split <;> rfl

theorem setState_replay {target : State} (notWait : target ≠ .wait) (announced : Bool) :
    replay announced (setState cfg s target).2 = some announced := by
  dsimp only [setState]
  split
  · split <;> rfl
  · rw [replay_append]
    have checked : replay announced
        (if s.state ≠ target ∧ target ≠ .new then [] else [.assertFailed]) = some announced := by
      split <;> rfl
    rw [checked, Option.some_bind]
    cases target with
    | new => rfl
    | idle => exact enterIdle_replay _ _ announced
    | connect => exact connect_replay cfg _ announced
    | active => rfl
    | wait => exact absurd rfl notWait

/-! ## One step, and every run -/

theorem activate_replay (client : Client) :
    replay s.isActive (activate cfg s client).2 = some (activate cfg s client).1.isActive := by
  unfold activate
  split
  · rfl
  · rename_i inactive
    simp only [Bool.not_eq_true] at inactive
    rw [replay_append, inactive, setState_replay cfg s (by decide), Option.some_bind]
    simp [observe, isActive]

theorem onTimer_replay : replay s.isActive (onTimer cfg s).2 = some (onTimer cfg s).1.isActive := by
  simp only [onTimer, isActive]
  by_cases active : s.state = .active
  · simp [setState, active, observe, isActive]
  · simp only [active, decide_False, Bool.false_eq_true, if_false]
    rw [setState_replay cfg _ (by decide)]
    simp

theorem forward_replay (now : Nat) (announced : Bool) :
    replay announced (forward s now) = some announced := by
  unfold forward; split <;> rfl

theorem tick_replay (now : Nat) :
    replay s.isActive (tick cfg s now).2 = some (tick cfg s now).1.isActive := by
  have forwarded := forward_replay s now
  simp only [tick]
  split
  · rename_i waiting
    rw [replay_append, forwarded, Option.some_bind, setState_replay cfg _ (by decide)]
    simp [isActive, waiting.1]
  · exact forwarded _

theorem step_replay (input : Input) :
    replay s.isActive (step cfg s input).2 = some (step cfg s input).1.isActive := by
  cases input with
  | tick now => exact tick_replay cfg s now
  | timer => exact onTimer_replay cfg s
  | onActive client => exact activate_replay cfg s client
  | onLoginSuccess id => exact activate_replay cfg s (.proxy id)
  | onClose _ failures =>
    simp only [step, onClose]
    split <;> rfl
  | onJob client =>
    simp only [step, setJob]
    split
    · rename_i active; simp [observe, active]
    · rfl
  | submit =>
    simp only [step, submit]
    split <;> rfl
  | _ => rfl

/-- In every run from construction the announcements to the listener alternate, `onActive`
first; the last of them was `onActive` exactly when the state is `ACTIVE`; and every `onJob`
comes between an `onActive` and the next `onPause`. -/
theorem listener_announcements_alternate {s : DonateStrategy} {trace : List Effect}
    (run : Run cfg s trace) : replay false trace = some s.isActive := by
  induction run with
  | construct operator =>
    rw [construct, setState_replay cfg _ (by decide)]
    simp [isActive]
  | step input _ _ inductionHypothesis =>
    rw [replay_append, inductionHypothesis, Option.some_bind, step_replay]

/-- Two donation windows at donate level 5: the idle timer, an activation from pool 0, a job from
it, the donation timer into the grace period, and an activation from pool 1 in it.  The trace
says `onActive`, `onJob`, `onPause` and `onActive` again, and the strategy ends active. -/
theorem listener_announcements_alternate_across_windows :
    ∃ s trace, Run ⟨5, .none⟩ s trace ∧ .onJob (.pool 0) ∈ trace ∧ .onPause ∈ trace ∧
      s.isActive = true ∧ replay false trace = some s.isActive :=
  have run := (((((Run.construct ⟨false, false⟩ : Run ⟨5, .none⟩ _ _).step .timer rfl).step
    (.onActive (.pool 0)) rfl).step (.onJob (.pool 0)) rfl).step .timer rfl).step
    (.onActive (.pool 1)) rfl
  ⟨_, _, run, by decide, by decide, by decide, listener_announcements_alternate _ run⟩

end Donate
end XMiner
