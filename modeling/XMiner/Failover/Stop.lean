import XMiner.Failover.Invariant

namespace XMiner
namespace Failover

open FailoverStrategy

/-!
# What `stop()` resets, and what it leaves

`stop()` disconnects every client, sets `m_index = 0` and `m_active = -1`, and pauses the
listener.  It does not touch the members the deferred failover added: `m_pendingConnect`,
`m_pendingIndex` and `m_minAcceptableIndex` survive it.

Two consequences follow in zero-retry mode.  A connect deferred before `stop()` is still made by
the next `tick()`, although `connect()` was not called again.  And a `stop()` in the middle of a
cascade leaves `m_minAcceptableIndex` above the pool `connect()` contacts next, pool 0, whose
login and close are then answered only by a disconnect: the strategy cannot become active again
through its own connects.

Those two members are the whole difference.  `m_pendingIndex` is read only while a connect is
pending, so from a reachable state with nothing pending and `m_minAcceptableIndex = 0` (with
`m_retries != 0`, every reachable state) `stop()` leaves a state that no future input can tell
from the constructed one, and from every other reachable state some future can.
-/

variable (cfg : Config) (s : FailoverStrategy)

@[simp] theorem stop_state : (stop cfg s).1 = { s with index := 0, active := -1 } := rfl

/-- A second `stop()` finds the state the first one left and repeats the same calls. -/
theorem stop_stop : stop cfg (stop cfg s).1 = stop cfg s := rfl

/-- After `stop()` during a zero-retry cascade, the pool `connect()` contacts is below
`m_minAcceptableIndex`, so its login and its closes only disconnect it again. -/
theorem stop_during_cascade_rejects_first_pool (zeroRetry : cfg.retries = 0)
    (cascading : 0 < s.minAcceptableIndex) :
    connect (stop cfg s).1 = [.connect 0] ∧
      onLoginSuccess cfg (stop cfg s).1 0 = ((stop cfg s).1, [.disconnect 0]) ∧
      ∀ failures : Int, failures ≠ -1 →
        onClose cfg (stop cfg s).1 0 failures = ((stop cfg s).1, [.disconnect 0]) :=
  ⟨rfl, onLoginSuccess_below_min cfg _ zeroRetry cascading,
    fun _ notLocal => onClose_below_min cfg _ zeroRetry notLocal (by simp) cascading⟩

/-! ## When `stop()` is a reset

Every method but one leaves `m_pendingIndex` alone and does not read it; the zero-retry branch of
`onClose` overwrites it, and `connectNext()` reads it only while a connect is pending. -/

section PendingIndex

variable (p : Nat)

theorem deactivate_pendingIndex (id : Nat) :
    deactivate { s with pendingIndex := p } id =
      ({ (deactivate s id).1 with pendingIndex := p }, (deactivate s id).2) := by
  by_cases active : s.active = id <;> simp [deactivate, active]

theorem onCloseRetry_pendingIndex (id : Nat) (failures : Int) :
    onCloseRetry cfg { s with pendingIndex := p } id failures =
      ({ (onCloseRetry cfg s id failures).1 with pendingIndex := p },
        (onCloseRetry cfg s id failures).2) := by
  simp only [onCloseRetry]
  split_ifs <;> rfl

theorem onCloseZeroRetry_pendingIndex (idle : s.pendingConnect = false) (id : Nat) :
    (onCloseZeroRetry cfg { s with pendingIndex := p } id).2 = (onCloseZeroRetry cfg s id).2 ∧
      ((onCloseZeroRetry cfg { s with pendingIndex := p } id).1 = (onCloseZeroRetry cfg s id).1 ∨
        (onCloseZeroRetry cfg s id).1.pendingConnect = false ∧
          (onCloseZeroRetry cfg { s with pendingIndex := p } id).1 =
            { (onCloseZeroRetry cfg s id).1 with pendingIndex := p }) := by
  unfold onCloseZeroRetry
  split
  · exact ⟨rfl, .inr ⟨idle, rfl⟩⟩
  · split
    · exact ⟨rfl, .inl rfl⟩
    · exact ⟨rfl, .inr ⟨idle, rfl⟩⟩

theorem onLoginSuccess_pendingIndex (idle : s.pendingConnect = false) (id : Nat) :
    (onLoginSuccess cfg s id).1.pendingConnect = false ∧
      onLoginSuccess cfg { s with pendingIndex := p } id =
        ({ (onLoginSuccess cfg s id).1 with pendingIndex := p }, (onLoginSuccess cfg s id).2) := by
  have unread : promoted { s with pendingIndex := p } id = promoted s id := rfl
  simp only [onLoginSuccess, unread]
  split_ifs <;> first | exact ⟨idle, rfl⟩ | exact ⟨rfl, rfl⟩

/-- While nothing is pending, no input reads `m_pendingIndex`: a state that differs only there
makes the same calls, and the two states after are equal or still differ only there. -/
theorem step_pendingIndex_unread (idle : s.pendingConnect = false) (input : Input) :
    (step cfg { s with pendingIndex := p } input).2 = (step cfg s input).2 ∧
      ((step cfg { s with pendingIndex := p } input).1 = (step cfg s input).1 ∨
        (step cfg s input).1.pendingConnect = false ∧
          (step cfg { s with pendingIndex := p } input).1 =
            { (step cfg s input).1 with pendingIndex := p }) := by
  cases input with
  | tick now =>
    have drained (t : FailoverStrategy) (idle : t.pendingConnect = false) :
        connectNext cfg t = (t, []) := by
      simp [connectNext, idle]
    simp [step, tick, drained, idle]
  | onClose id failures =>
    by_cases explicit : failures = -1
    · simp [step, onClose, explicit, idle]
    have paused : (deactivate s id).1.pendingConnect = false := by
      unfold deactivate; split <;> exact idle
    simp only [step, onClose, if_neg explicit, deactivate_pendingIndex]
    by_cases zeroRetry : cfg.retries = 0
    · simp only [if_pos zeroRetry]
      obtain ⟨calls, rest⟩ := onCloseZeroRetry_pendingIndex cfg _ p paused id
      exact ⟨by rw [calls], rest⟩
    · have retried : (onCloseRetry cfg (deactivate s id).1 id failures).1.pendingConnect = false := by
        unfold onCloseRetry; split_ifs <;> exact paused
      simp only [if_neg zeroRetry, onCloseRetry_pendingIndex, retried, and_self, or_true]
  | onLoginSuccess id =>
    obtain ⟨idle', login⟩ := onLoginSuccess_pendingIndex cfg s p idle id
    simp [step, login, idle']
  | _ => exact ⟨rfl, .inr ⟨idle, rfl⟩⟩

theorem run_pendingIndex_unread (idle : s.pendingConnect = false) (inputs : List Input) :
    (run cfg { s with pendingIndex := p } inputs).2 = (run cfg s inputs).2 := by
  induction inputs generalizing s with
  | nil => rfl
  | cons input rest inductionHypothesis =>
    obtain ⟨calls, same | ⟨idle', differ⟩⟩ := step_pendingIndex_unread cfg s p idle input
    · simp only [run_cons, calls, same]
    · simp only [run_cons, calls, differ, inductionHypothesis _ idle']

end PendingIndex

/-- Outside a cascade, with nothing pending and `m_minAcceptableIndex = 0`, `stop()` leaves a
state that every future sequence of inputs sees as the constructed one. -/
theorem stop_resets_outside_cascade (idle : s.pendingConnect = false)
    (settled : s.minAcceptableIndex = 0) (inputs : List Input) :
    (run cfg (stop cfg s).1 inputs).2 = (run cfg initial inputs).2 := by
  have stopped : (stop cfg s).1 = { initial with pendingIndex := s.pendingIndex } := by
    obtain ⟨_, _, _, _, _⟩ := s
    simp_all [stop, initial]
  rw [stopped]
  exact run_pendingIndex_unread cfg initial _ rfl inputs

/-- With `m_retries != 0` the members of the deferred failover stay at rest: nothing is ever
pending and `m_minAcceptableIndex` stays 0. -/
theorem Reachable.settled {cfg : Config} (retrying : cfg.retries ≠ 0) {s : FailoverStrategy}
    (reach : Reachable cfg s) : s.pendingConnect = false ∧ s.minAcceptableIndex = 0 := by
  induction reach with
  | initial => exact ⟨rfl, rfl⟩
  | @step s input _ _ inductionHypothesis =>
    obtain ⟨idle, settled⟩ := inductionHypothesis
    cases input with
    | tick now => simp [FailoverStrategy.step, tick, connectNext, idle, settled]
    | onClose id failures =>
      simp only [FailoverStrategy.step, onClose, if_neg retrying]
      split
      · exact ⟨idle, settled⟩
      · unfold onCloseRetry deactivate
        split_ifs <;> exact ⟨idle, settled⟩
    | onLoginSuccess id =>
      simp only [FailoverStrategy.step, onLoginSuccess, retrying, false_and, if_false]
      split <;> exact ⟨rfl, rfl⟩
    | _ => exact ⟨idle, settled⟩

/-- `stop()` returns a reachable strategy to its constructed state, as far as every future
sequence of inputs can tell, exactly when it is called outside a zero-retry cascade: with no
connect pending and `m_minAcceptableIndex = 0`.  With `m_retries != 0` every reachable state is
such a state, so there `stop()` is always a reset.  Otherwise a tick connects the pending pool,
or a login of pool 0 is refused. -/
theorem stop_resets_iff_settled (reach : Reachable cfg s) :
    ((∀ inputs : List Input, (run cfg (stop cfg s).1 inputs).2 = (run cfg initial inputs).2) ↔
      s.pendingConnect = false ∧ s.minAcceptableIndex = 0) ∧
    (cfg.retries ≠ 0 → s.pendingConnect = false ∧ s.minAcceptableIndex = 0) := by
  refine ⟨⟨fun resets => ?_, fun ⟨idle, settled⟩ => stop_resets_outside_cascade cfg s idle settled⟩,
    fun retrying => reach.settled retrying⟩
  have h := reach.invariant
  cases pending : s.pendingConnect with
  | true =>
    have notFull := Nat.not_le_of_lt (h.pending_target pending).2.2
    have ticked := resets [.tick 0]
    simp [run, step, tick, connectNext, stop, initial, pending, (h.pending_target pending).2.1,
      notFull] at ticked
  | false =>
    refine ⟨rfl, Nat.eq_zero_of_not_pos fun cascading => ?_⟩
    have zeroRetry : cfg.retries = 0 := by
      by_contra retrying
      exact absurd (reach.settled retrying).2 (Nat.pos_iff_ne_zero.mp cascading)
    have stopped : (run cfg (stop cfg s).1 [.connect, .onLoginSuccess 0]).2 =
        [.connect 0, .disconnect 0] := by
      simp only [run, step, List.append_nil,
        (stop_during_cascade_rejects_first_pool cfg s zeroRetry cascading).2.1]
      rfl
    have fresh : Call.onActive 0 ∈ (run cfg initial [.connect, .onLoginSuccess 0]).2 := by
      simp [run, step, onLoginSuccess, initial, promoted, isActive]
    rw [← resets, stopped] at fresh
    simp at fresh

/-- Two pools.  With zero retries, pool 0 has failed and the tick has contacted pool 1; with one
retry, pool 0 has failed past its retry and pool 1 has been contacted at once. -/
theorem stop_resets_iff_settled_mid_cascade :
    (Reachable ⟨2, 0⟩ (run ⟨2, 0⟩ initial [.connect, .onClose 0 0, .tick 0]).1 ∧
      (((∀ inputs : List Input,
          (run ⟨2, 0⟩ (stop ⟨2, 0⟩ (run ⟨2, 0⟩ initial [.connect, .onClose 0 0, .tick 0]).1).1
            inputs).2 = (run ⟨2, 0⟩ initial inputs).2) ↔
        (run ⟨2, 0⟩ initial [.connect, .onClose 0 0, .tick 0]).1.pendingConnect = false ∧
          (run ⟨2, 0⟩ initial [.connect, .onClose 0 0, .tick 0]).1.minAcceptableIndex = 0) ∧
        ((Config.mk 2 0).retries ≠ 0 →
          (run ⟨2, 0⟩ initial [.connect, .onClose 0 0, .tick 0]).1.pendingConnect = false ∧
            (run ⟨2, 0⟩ initial [.connect, .onClose 0 0, .tick 0]).1.minAcceptableIndex = 0))) ∧
    ∃ s, Reachable ⟨2, 1⟩ s ∧ s.index = 1 ∧
      (((∀ inputs : List Input, (run ⟨2, 1⟩ (stop ⟨2, 1⟩ s).1 inputs).2 =
          (run ⟨2, 1⟩ initial inputs).2) ↔ s.pendingConnect = false ∧ s.minAcceptableIndex = 0) ∧
        ((Config.mk 2 1).retries ≠ 0 → s.pendingConnect = false ∧ s.minAcceptableIndex = 0)) :=
  have reach := Reachable.initial.run (by decide)
  have retried : Reachable ⟨2, 1⟩ (run ⟨2, 1⟩ initial [.connect, .onClose 0 1]).1 :=
    Reachable.initial.run (by decide)
  ⟨⟨reach, stop_resets_iff_settled _ _ reach⟩, _, retried, by decide,
    stop_resets_iff_settled _ _ retried⟩

/-! ## The failing inputs -/

/-- Two pools, zero retries: pool 0 fails, the next tick contacts pool 1, and `stop()` comes
before pool 1 logs in.  The state left has `m_minAcceptableIndex = 1` above `m_index = 0` and
no pending connect.  `connect()` then contacts pool 0, and its login and its close are answered
by a disconnect alone, with the state unchanged. -/
theorem stop_mid_cascade_strands_strategy :
    (run ⟨2, 0⟩ initial [.connect, .onClose 0 0, .tick 0, .stop]).1 =
        ⟨0, -1, false, 1, 1⟩ ∧
      Reachable ⟨2, 0⟩ ⟨0, -1, false, 1, 1⟩ ∧
      run ⟨2, 0⟩ ⟨0, -1, false, 1, 1⟩ [.connect, .onLoginSuccess 0, .onClose 0 0] =
        (⟨0, -1, false, 1, 1⟩, [.connect 0, .disconnect 0, .disconnect 0]) :=
  have stopped : (run ⟨2, 0⟩ initial [.connect, .onClose 0 0, .tick 0, .stop]).1 =
      ⟨0, -1, false, 1, 1⟩ := by decide
  ⟨stopped, stopped ▸ Reachable.initial.run (by decide), by decide⟩

/-- Two pools, zero retries: after pool 0 fails a connect to pool 1 is pending.  `stop()` keeps
it, and the next tick connects pool 1; from construction the same tick connects nothing. -/
theorem stop_keeps_pending_connect :
    (run ⟨2, 0⟩ (run ⟨2, 0⟩ initial [.connect, .onClose 0 0, .stop]).1 [.tick 0]).2 =
        [.tick 0 0, .tick 1 0, .connect 1] ∧
      (run ⟨2, 0⟩ initial [.tick 0]).2 = [.tick 0 0, .tick 1 0] :=
  ⟨by decide, by decide⟩

end Failover
end XMiner
