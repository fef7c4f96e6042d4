import XMiner.Failover.Model

namespace XMiner
namespace Failover

open FailoverStrategy

/-!
# What every reachable failover state satisfies

The candidate `m_index` stays in range, `m_active` is `-1` or the candidate, a cascade in
progress (`m_minAcceptableIndex > 0`) has no active client, and a deferred connect targets
exactly the lowest pool the cascade still accepts.  Each operation keeps this, whatever client
an event comes from, so it holds of every reachable state.  Every call the strategy makes then
concerns one of its own clients.

A callback never reconnects the client that calls back: in zero-retry mode callbacks connect
nothing, every connect being made by `connect()` or drained by `tick()`, and in retry mode the one
connect a callback makes is that of the pool after the current one, when the current one closes.

The bound on `m_index` is stated for a non-empty pool list: with no pools the constructor's
`m_index = 0` is already out of range.
-/

/-- The invariant of the failover strategy's members. -/
structure Invariant (cfg : Config) (s : FailoverStrategy) : Prop where
  index_lt : 0 < cfg.pools → s.index < cfg.pools
  active_cases : s.active = -1 ∨ s.active = s.index
  idle_while_cascading : 0 < s.minAcceptableIndex → s.active = -1
  pending_target : s.pendingConnect = true →
    s.active = -1 ∧ s.pendingIndex = s.minAcceptableIndex ∧ s.minAcceptableIndex < cfg.pools

/-- Every call concerns a client of the strategy, so each `m_pools[...]` access is in range. -/
def CallsInBounds (cfg : Config) (calls : List Call) : Prop :=
  ∀ call ∈ calls, ∀ id, call.client = some id → id < cfg.pools

@[simp] theorem callsInBounds_append {cfg : Config} {first second : List Call} :
    CallsInBounds cfg (first ++ second) ↔ CallsInBounds cfg first ∧ CallsInBounds cfg second := by
  simp only [CallsInBounds, List.mem_append, or_imp, forall_and]

variable {cfg : Config} {s : FailoverStrategy}

theorem Invariant.index_eq_of_active (h : Invariant cfg s) (active : 0 ≤ s.active) :
    s.active = s.index :=
  h.active_cases.resolve_left (by omega)

theorem Invariant.inactive_of_ne (h : Invariant cfg s) {id : Nat} (candidate : s.index = id)
    (other : s.active ≠ id) : s.active = -1 :=
  h.active_cases.resolve_right (by rw [candidate]; exact other)

theorem initial_invariant : Invariant cfg initial where
  index_lt := id
  active_cases := .inl rfl
  idle_while_cascading := fun _ => rfl
  pending_target := fun pending => absurd pending Bool.false_ne_true

/-! ## Operations -/

theorem stop_invariant (h : Invariant cfg s) : Invariant cfg (stop cfg s).1 where
  index_lt := id
  active_cases := .inl rfl
  idle_while_cascading := fun _ => rfl
  pending_target := fun pending => ⟨rfl, (h.pending_target pending).2⟩

theorem connectNext_invariant (h : Invariant cfg s) : Invariant cfg (connectNext cfg s).1 := by
  unfold connectNext
  split
  · exact h
  · rename_i drained
    simp only [not_or, Bool.not_eq_false, not_le] at drained
    exact
      { index_lt := fun _ => drained.2
        active_cases := .inl (h.pending_target drained.1).1
        idle_while_cascading := h.idle_while_cascading
        pending_target := fun pending => absurd pending Bool.false_ne_true }

theorem tick_invariant (h : Invariant cfg s) (now : Nat) : Invariant cfg (tick cfg s now).1 :=
  connectNext_invariant h

/-! ## Closes -/

theorem deactivate_invariant (h : Invariant cfg s) (id : Nat) :
    Invariant cfg (deactivate s id).1 := by
  unfold deactivate
  split
  · exact { h with
      active_cases := .inl rfl
      idle_while_cascading := fun _ => rfl
      pending_target := fun pending => ⟨rfl, (h.pending_target pending).2⟩ }
  · exact h

theorem deactivate_active_ne (id : Nat) : (deactivate s id).1.active ≠ id := by
  unfold deactivate
  split
  · simp only [ne_eq]; omega
  · assumption

theorem onCloseZeroRetry_invariant (h : Invariant cfg s) {id : Nat} (valid : id < cfg.pools)
    (other : s.active ≠ id) : Invariant cfg (onCloseZeroRetry cfg s id).1 := by
  unfold onCloseZeroRetry
  split
  · exact h
  · split
    · rename_i candidate
      have inactive := h.inactive_of_ne candidate other
      exact
        { index_lt := h.index_lt
          active_cases := .inl inactive
          idle_while_cascading := fun _ => inactive
          pending_target := fun _ => ⟨inactive, rfl, by dsimp only; split <;> omega⟩ }
    · exact h

theorem onCloseRetry_invariant (h : Invariant cfg s) {id : Nat} (other : s.active ≠ id)
    (failures : Int) : Invariant cfg (onCloseRetry cfg s id failures).1 := by
  unfold onCloseRetry
  split
  · exact h
  · split
    · rename_i advance
      have inactive := h.inactive_of_ne advance.1 other
      exact { h with
        index_lt := fun _ => by dsimp only; omega
        active_cases := .inl inactive }
    · exact h

theorem onClose_invariant (h : Invariant cfg s) {id : Nat} (valid : id < cfg.pools)
    (failures : Int) : Invariant cfg (onClose cfg s id failures).1 := by
  unfold onClose
  split
  · exact h
  · dsimp only
    split
    · exact onCloseZeroRetry_invariant (deactivate_invariant h id) valid (deactivate_active_ne id)
    · exact onCloseRetry_invariant (deactivate_invariant h id) (deactivate_active_ne id) failures

/-! ## Logins -/

theorem onLoginSuccess_invariant (h : Invariant cfg s) {id : Nat} (valid : id < cfg.pools) :
    Invariant cfg (onLoginSuccess cfg s id).1 := by
  unfold onLoginSuccess
  split
  · exact h
  · dsimp only
    split
    · rename_i change
      have promotedId := promoted_eq_of_ne s change.2
      exact
        { index_lt := fun _ => by dsimp only; omega
          active_cases := .inr (by dsimp only; omega)
          idle_while_cascading := fun none => absurd none (Nat.lt_irrefl 0)
          pending_target := fun pending => absurd pending Bool.false_ne_true }
    · exact { h with
        idle_while_cascading := fun none => absurd none (Nat.lt_irrefl 0)
        pending_target := fun pending => absurd pending Bool.false_ne_true }

/-! ## Every step and every run -/

theorem step_invariant (h : Invariant cfg s) {input : Input} (valid : input.Valid cfg) :
    Invariant cfg (step cfg s input).1 := by
  cases input with
  | stop => exact stop_invariant h
  | tick now => exact tick_invariant h now
  | onClose id failures => exact onClose_invariant h (valid.client_lt rfl) failures
  | onLoginSuccess id => exact onLoginSuccess_invariant h (valid.client_lt rfl)
  | _ => exact h

theorem Reachable.invariant (reach : Reachable cfg s) : Invariant cfg s := by
  induction reach with
  | initial => exact initial_invariant
  | step input _ valid inductionHypothesis => exact step_invariant inductionHypothesis valid

/-! ## Calls stay in range -/

@[simp] theorem callsInBounds_nil : CallsInBounds cfg [] := by
  simp [CallsInBounds]

@[simp] theorem callsInBounds_cons {call : Call} {rest : List Call} :
    CallsInBounds cfg (call :: rest) ↔
      (∀ id, call.client = some id → id < cfg.pools) ∧ CallsInBounds cfg rest := by
  simp [CallsInBounds]

theorem callsInBounds_map {indices : List Nat} {f : Nat → Call}
    (names : ∀ i, (f i).client = some i) (bound : ∀ i ∈ indices, i < cfg.pools) :
    CallsInBounds cfg (indices.map f) := by
  rintro _ member id named
  obtain ⟨i, inList, rfl⟩ := List.mem_map.mp member
  rw [names] at named
  exact Option.some.inj named ▸ bound i inList

theorem callsInBounds_range {f : Nat → Call} (names : ∀ i, (f i).client = some i) {count : Nat}
    (within : count ≤ cfg.pools) : CallsInBounds cfg ((List.range count).map f) :=
  callsInBounds_map names fun i member => by rw [List.mem_range] at member; omega

/-- `active()` is `m_pools[m_active]`: in range whenever a client is active. -/
theorem Invariant.active_lt (h : Invariant cfg s) (hpools : 0 < cfg.pools) (active : 0 ≤ s.active) :
    s.active.toNat < cfg.pools := by
  have same := h.index_eq_of_active active
  have inRange := h.index_lt hpools
  omega

theorem tick_callsInBounds (now : Nat) : CallsInBounds cfg (tick cfg s now).2 := by
  unfold tick connectNext
  refine callsInBounds_append.mpr ⟨callsInBounds_range (by intro; rfl) le_rfl, ?_⟩
  split
  · exact callsInBounds_nil
  · rename_i drained
    simp only [not_or, not_le] at drained
    simpa [Call.client] using drained.2

theorem deactivate_callsInBounds (id : Nat) : CallsInBounds cfg (deactivate s id).2 := by
  unfold deactivate
  split <;> simp [Call.client]

theorem onCloseZeroRetry_callsInBounds (h : Invariant cfg s) {id : Nat} (valid : id < cfg.pools) :
    CallsInBounds cfg (onCloseZeroRetry cfg s id).2 := by
  unfold onCloseZeroRetry
  split
  · simpa [Call.client] using valid
  · split
    · exact callsInBounds_range (by intro; rfl) (h.index_lt (by omega))
    · exact callsInBounds_nil

theorem onCloseRetry_callsInBounds {id : Nat} (failures : Int) :
    CallsInBounds cfg (onCloseRetry cfg s id failures).2 := by
  unfold onCloseRetry
  split
  · exact callsInBounds_nil
  · split
    · simp only [callsInBounds_cons, Call.client, Option.some.injEq, forall_eq', callsInBounds_nil,
        and_true]
      omega
    · exact callsInBounds_nil

theorem onClose_callsInBounds (h : Invariant cfg s) {id : Nat} (valid : id < cfg.pools)
    (failures : Int) : CallsInBounds cfg (onClose cfg s id failures).2 := by
  unfold onClose
  split
  · exact callsInBounds_nil
  · refine callsInBounds_append.mpr ⟨deactivate_callsInBounds id, ?_⟩
    split
    · exact onCloseZeroRetry_callsInBounds (deactivate_invariant h id) valid
    · exact onCloseRetry_callsInBounds failures

theorem onLoginSuccess_callsInBounds {id : Nat} (valid : id < cfg.pools) :
    CallsInBounds cfg (onLoginSuccess cfg s id).2 := by
  unfold onLoginSuccess
  have others : CallsInBounds cfg (((List.range cfg.pools).filter
      (fun i : Nat => promoted s id ≠ i)).map .disconnect) :=
    callsInBounds_map (by intro; rfl) fun i member => List.mem_range.mp (List.mem_filter.mp member).1
  split
  · simpa [Call.client] using valid
  · dsimp only
    split
    · exact callsInBounds_append.mpr ⟨others, by simpa [Call.client] using valid⟩
    · exact others

theorem step_callsInBounds (h : Invariant cfg s) (hpools : 0 < cfg.pools) {input : Input}
    (valid : input.Valid cfg) : CallsInBounds cfg (step cfg s input).2 := by
  have lt := fun id => @Input.Valid.client_lt cfg input id valid
  cases input with
  | connect => simpa [step, connect, Call.client] using h.index_lt hpools
  | stop => exact callsInBounds_append.mpr ⟨callsInBounds_range (by intro; rfl) le_rfl, by simp [Call.client]⟩
  | tick now => exact tick_callsInBounds now
  | submit =>
    simp only [step, submit, isActive, decide_eq_true_eq]
    split
    · simpa [Call.client] using h.active_lt hpools ‹_›
    · exact callsInBounds_nil
  | resume =>
    simp only [step, resume, isActive, decide_eq_true_eq]
    split
    · simpa [Call.client] using h.active_lt hpools ‹_›
    · exact callsInBounds_nil
  | setAlgo => exact callsInBounds_range (by intro; rfl) le_rfl
  | setProxy => exact callsInBounds_range (by intro; rfl) le_rfl
  | onClose id failures => exact onClose_callsInBounds h (lt id rfl) failures
  | onLoginSuccess id => exact onLoginSuccess_callsInBounds (lt id rfl)
  | onJobReceived id =>
    simp only [step, onJobReceived]
    split
    · simpa [Call.client] using lt id rfl
    · exact callsInBounds_nil
  | onLogin id | onResultAccepted id | onVerifyAlgorithm id => simpa [step, Call.client] using lt id rfl

/-! ## Reachable states -/

/-- Over a non-empty pool list every reachable state keeps `m_index` in range, so
`m_pools.size() - m_index` never wraps, holds `m_active` at `-1` or at the candidate, has no
active client while a cascade is in progress, and defers connects only to the lowest pool the
cascade accepts.  Whatever valid input comes next, every call it makes, through `m_pools[...]`,
`active()` or to the listener, concerns one of the strategy's own clients. -/
theorem reachable_members_in_range (hpools : 0 < cfg.pools) (reach : Reachable cfg s) :
    s.index < cfg.pools ∧ (s.active = -1 ∨ s.active = s.index) ∧
      (0 < s.minAcceptableIndex → s.active = -1) ∧
      (s.pendingConnect = true →
        s.active = -1 ∧ s.pendingIndex = s.minAcceptableIndex ∧ s.minAcceptableIndex < cfg.pools) ∧
      ∀ input : Input, input.Valid cfg → CallsInBounds cfg (step cfg s input).2 :=
  have h := reach.invariant
  ⟨h.index_lt hpools, h.active_cases, h.idle_while_cascading, h.pending_target,
    fun _ valid => step_callsInBounds h hpools valid⟩

/-- The bounds at the state where pool 0 of two has just failed in zero-retry mode. -/
theorem members_in_range_after_first_close :
    0 < (Config.mk 2 0).pools ∧ Reachable ⟨2, 0⟩ (run ⟨2, 0⟩ initial [.connect, .onClose 0 0]).1 ∧
      ((run ⟨2, 0⟩ initial [.connect, .onClose 0 0]).1.index < (Config.mk 2 0).pools ∧
      ((run ⟨2, 0⟩ initial [.connect, .onClose 0 0]).1.active = -1 ∨
        (run ⟨2, 0⟩ initial [.connect, .onClose 0 0]).1.active =
          (run ⟨2, 0⟩ initial [.connect, .onClose 0 0]).1.index) ∧
      (0 < (run ⟨2, 0⟩ initial [.connect, .onClose 0 0]).1.minAcceptableIndex →
        (run ⟨2, 0⟩ initial [.connect, .onClose 0 0]).1.active = -1) ∧
      ((run ⟨2, 0⟩ initial [.connect, .onClose 0 0]).1.pendingConnect = true →
        (run ⟨2, 0⟩ initial [.connect, .onClose 0 0]).1.active = -1 ∧
        (run ⟨2, 0⟩ initial [.connect, .onClose 0 0]).1.pendingIndex =
          (run ⟨2, 0⟩ initial [.connect, .onClose 0 0]).1.minAcceptableIndex ∧
        (run ⟨2, 0⟩ initial [.connect, .onClose 0 0]).1.minAcceptableIndex < (Config.mk 2 0).pools) ∧
      ∀ input : Input, input.Valid ⟨2, 0⟩ →
        CallsInBounds ⟨2, 0⟩ (step ⟨2, 0⟩ (run ⟨2, 0⟩ initial [.connect, .onClose 0 0]).1 input).2) :=
  have reach := Reachable.initial.run (by decide)
  ⟨by decide, reach, reachable_members_in_range (by decide) reach⟩

/-- In zero-retry mode a pool below `m_minAcceptableIndex` can only be silenced: its close or
its login leaves every member as it was, tells the listener nothing and only disconnects it
again.  This rests on the invariant: while cascading no client is active, so the close cannot
be taken for one of the active client. -/
theorem lowerPool_only_disconnected (zeroRetry : cfg.retries = 0) (reach : Reachable cfg s)
    {id : Nat} (below : id < s.minAcceptableIndex) :
    (∀ failures : Int, 0 ≤ failures → step cfg s (.onClose id failures) = (s, [.disconnect id])) ∧
      step cfg s (.onLoginSuccess id) = (s, [.disconnect id]) := by
  have inactive := reach.invariant.idle_while_cascading (by omega)
  exact ⟨fun failures nonnegative =>
    onClose_below_min cfg s zeroRetry (by omega) (by omega) below,
    onLoginSuccess_below_min cfg s zeroRetry below⟩

/-- Pool 0, left behind by a cascade over two pools, is silenced. -/
theorem lowerPool_only_disconnected_after_first_close :
    (Config.mk 2 0).retries = 0 ∧
      Reachable ⟨2, 0⟩ (run ⟨2, 0⟩ initial [.connect, .onClose 0 0]).1 ∧
      0 < (run ⟨2, 0⟩ initial [.connect, .onClose 0 0]).1.minAcceptableIndex ∧
      ((∀ failures : Int, 0 ≤ failures →
        step ⟨2, 0⟩ (run ⟨2, 0⟩ initial [.connect, .onClose 0 0]).1 (.onClose 0 failures) =
          ((run ⟨2, 0⟩ initial [.connect, .onClose 0 0]).1, [.disconnect 0])) ∧
      step ⟨2, 0⟩ (run ⟨2, 0⟩ initial [.connect, .onClose 0 0]).1 (.onLoginSuccess 0) =
        ((run ⟨2, 0⟩ initial [.connect, .onClose 0 0]).1, [.disconnect 0])) :=
  have reach := Reachable.initial.run (by decide)
  ⟨rfl, reach, by decide, lowerPool_only_disconnected rfl reach (by decide)⟩

/-! ## What a callback connects -/

@[simp] theorem deactivate_index (id : Nat) : (deactivate s id).1.index = s.index := by
  unfold deactivate; split <;> rfl

theorem deactivate_no_connect (id target : Nat) : Call.connect target ∉ (deactivate s id).2 := by
  unfold deactivate; split <;> simp

theorem onCloseZeroRetry_no_connect (id target : Nat) :
    Call.connect target ∉ (onCloseZeroRetry cfg s id).2 := by
  unfold onCloseZeroRetry
  split
  · simp
  · split <;> simp

theorem onCloseRetry_connects {id target : Nat} {failures : Int}
    (called : Call.connect target ∈ (onCloseRetry cfg s id failures).2) :
    s.index = id ∧ target = id + 1 := by
  unfold onCloseRetry at called
  split at called
  · simp at called
  · split at called
    · rename_i current
      simp only [List.mem_singleton, Call.connect.injEq] at called
      exact ⟨current.1, by rw [called, current.1]⟩
    · simp at called

theorem onLoginSuccess_no_connect (id target : Nat) :
    Call.connect target ∉ (onLoginSuccess cfg s id).2 := by
  unfold onLoginSuccess
  split
  · simp
  · dsimp only
    split <;> simp

/-- From every state, a callback from client `id` calls `connect()` only in retry mode, only from
`onClose` while `id` is the current pool, and only on the next pool `id + 1`, never on the client
calling back.  In zero-retry mode no callback connects anything: every `connect()` is made by
`connect()` or by the deferred connect that `tick()` drains. -/
theorem callback_connects_only_next_pool (s : FailoverStrategy) {input : Input} {id target : Nat}
    (from_client : input.client = some id) (called : Call.connect target ∈ (step cfg s input).2) :
    cfg.retries ≠ 0 ∧ (∃ failures, input = .onClose id failures) ∧ s.index = id ∧
      target = id + 1 := by
  cases input with
  | onClose client failures =>
    obtain rfl : client = id := Option.some.inj from_client
    simp only [step, onClose] at called
    split at called
    · simp at called
    · rcases List.mem_append.mp called with paused | rest
      · exact absurd paused (deactivate_no_connect _ _)
      · split at rest
        · exact absurd rest (onCloseZeroRetry_no_connect _ _)
        · rename_i retrying
          obtain ⟨current, next⟩ := onCloseRetry_connects rest
          exact ⟨retrying, ⟨failures, rfl⟩, by rwa [deactivate_index] at current, next⟩
  | onLoginSuccess client => exact absurd called (onLoginSuccess_no_connect _ _)
  | onJobReceived client => simp only [step, onJobReceived] at called; split at called <;> simp at called
  | onLogin client | onResultAccepted client | onVerifyAlgorithm client => simp [step] at called
  | _ => simp [Input.client] at from_client

/-- In retry mode over two pools, pool 0 closing once its failures reach `m_retries` makes the
strategy connect pool 1 from inside the callback. -/
theorem retry_close_connects_next_pool :
    (Input.onClose 0 1).client = some 0 ∧
      Call.connect 1 ∈ (step ⟨2, 1⟩ initial (.onClose 0 1)).2 ∧
      ((Config.mk 2 1).retries ≠ 0 ∧ (∃ failures, Input.onClose 0 1 = .onClose 0 failures) ∧
        initial.index = 0 ∧ 1 = 0 + 1) :=
  ⟨rfl, by decide, callback_connects_only_next_pool initial rfl (by decide)⟩

end Failover
end XMiner
