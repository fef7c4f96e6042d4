import XMiner.Failover.Model

namespace XMiner
namespace Failover

open FailoverStrategy

/-!
# Zero-retry failover is a round robin

With `m_retries == 0` a close of the current pool does not connect the next one at once: it
raises `m_pendingConnect`, and the next `tick()` drains it through `connectNext()`.  Over a run
whose client events are closes of the pool contacted last and noise from pools the cascade has
already left behind, the strategy therefore contacts pools `0, 1, …, n-1, 0, 1, …` in turn.

`RoundRobin` is the spec's account of such a run: how many pools have been contacted, and whether
the last one has failed since.  A failure marks it failed, however often it is repeated, and
the next tick contacts one more pool.  `CascadeRun` follows a concrete run and this account side
by side, and the concrete `connect()` calls are exactly the ones the account predicts.  Since
the account's count moves only at ticks, no client callback connects anything.
-/

/-- The pools a list of calls connects, in order. -/
def connectTargets (calls : List Call) : List Nat :=
  calls.filterMap fun
    | .connect id => some id
    | _ => none

@[simp] theorem connectTargets_append (first second : List Call) :
    connectTargets (first ++ second) = connectTargets first ++ connectTargets second :=
  List.filterMap_append _ _ _

@[simp] theorem connectTargets_cons_connect (id : Nat) (rest : List Call) :
    connectTargets (.connect id :: rest) = id :: connectTargets rest := rfl

@[simp] theorem connectTargets_cons_disconnect (id : Nat) (rest : List Call) :
    connectTargets (.disconnect id :: rest) = connectTargets rest := rfl

@[simp] theorem connectTargets_nil : connectTargets [] = [] := rfl

/-- Calls that are not connects contribute no target. -/
theorem connectTargets_map_quiet (f : Nat → Call) (quiet : ∀ i rest,
    connectTargets (f i :: rest) = connectTargets rest) (indices : List Nat) :
    connectTargets (indices.map f) = [] := by
  induction indices with
  | nil => rfl
  | cons i rest inductionHypothesis => rw [List.map_cons, quiet, inductionHypothesis]

/-- The cascade as the spec tells it: the number of `connect()` calls issued, and whether the
pool contacted last has failed since it was contacted. -/
structure RoundRobin where
  contacted : Nat
  failed : Bool
  deriving DecidableEq, Repr

/-- Runs of a zero-retry strategy from construction and its first `connect()`, in which the
client events are closes of the pool contacted last and events from pools below
`m_minAcceptableIndex`, each with the spec's account of the run so far. -/
inductive CascadeRun (cfg : Config) : FailoverStrategy → List Call → RoundRobin → Prop where
  | connected : CascadeRun cfg initial (connect initial) ⟨1, false⟩
  | tick {s : FailoverStrategy} {calls : List Call} {account : RoundRobin} (now : Nat) :
      CascadeRun cfg s calls account →
      CascadeRun cfg (step cfg s (.tick now)).1 (calls ++ (step cfg s (.tick now)).2)
        (if account.failed then ⟨account.contacted + 1, false⟩ else account)
  | failure {s : FailoverStrategy} {calls : List Call} {account : RoundRobin} {id : Nat}
      {failures : Int} :
      CascadeRun cfg s calls account → (connectTargets calls).getLast? = some id → 0 ≤ failures →
      CascadeRun cfg (step cfg s (.onClose id failures)).1
        (calls ++ (step cfg s (.onClose id failures)).2) { account with failed := true }
  | lowerClose {s : FailoverStrategy} {calls : List Call} {account : RoundRobin} {id : Nat}
      {failures : Int} :
      CascadeRun cfg s calls account → id < s.minAcceptableIndex →
      CascadeRun cfg (step cfg s (.onClose id failures)).1
        (calls ++ (step cfg s (.onClose id failures)).2) account
  | lowerLogin {s : FailoverStrategy} {calls : List Call} {account : RoundRobin} {id : Nat} :
      CascadeRun cfg s calls account → id < s.minAcceptableIndex →
      CascadeRun cfg (step cfg s (.onLoginSuccess id)).1
        (calls ++ (step cfg s (.onLoginSuccess id)).2) account

/-! ## The members along a cascade run -/

/-- How the members of the strategy encode the account of a cascade run. -/
structure Tracks (cfg : Config) (s : FailoverStrategy) (calls : List Call)
    (account : RoundRobin) : Prop where
  connects : connectTargets calls = (List.range account.contacted).map (· % cfg.pools)
  contacted_pos : 0 < account.contacted
  index_eq : s.index = (account.contacted - 1) % cfg.pools
  inactive : s.active = -1
  pending_eq : s.pendingConnect = account.failed
  min_eq : s.minAcceptableIndex =
    if account.failed then account.contacted % cfg.pools else s.index
  pendingIndex_eq : account.failed = true → s.pendingIndex = account.contacted % cfg.pools

/-- The pool after `index`, as `onClose` computes it without a `%`. -/
theorem next_eq_succ_mod {pools index : Nat} (inRange : index < pools) :
    (if pools - index > 1 then index + 1 else 0) = (index + 1) % pools := by
  split
  · rw [Nat.mod_eq_of_lt (by omega)]
  · rw [show index + 1 = pools by omega, Nat.mod_self]

variable {cfg : Config} {s : FailoverStrategy} {calls : List Call} {account : RoundRobin}

theorem Tracks.last_contacted (h : Tracks cfg s calls account) {id : Nat}
    (last : (connectTargets calls).getLast? = some id) : id = s.index := by
  obtain ⟨k, hk⟩ : ∃ k, account.contacted = k + 1 :=
    ⟨_, (Nat.succ_pred_eq_of_pos h.contacted_pos).symm⟩
  simp only [h.connects, hk, List.range_succ, List.map_append, List.map_cons, List.map_nil,
    List.getLast?_concat] at last
  rw [h.index_eq, hk]
  exact (Option.some.inj last).symm

theorem connected_tracks : Tracks cfg initial (connect initial) ⟨1, false⟩ where
  connects := by simp [connect, initial, List.range_succ]
  contacted_pos := Nat.one_pos
  index_eq := (Nat.zero_mod _).symm
  inactive := rfl
  pending_eq := rfl
  min_eq := rfl
  pendingIndex_eq := fun failed => absurd failed Bool.false_ne_true

theorem tick_tracks (hpools : 0 < cfg.pools) (h : Tracks cfg s calls account) (now : Nat) :
    Tracks cfg (step cfg s (.tick now)).1 (calls ++ (step cfg s (.tick now)).2)
      (if account.failed then ⟨account.contacted + 1, false⟩ else account) := by
  have ticks := connectTargets_map_quiet (.tick · now) (fun _ _ => rfl) (List.range cfg.pools)
  simp only [step, tick, connectNext]
  cases failed : account.failed with
  | false =>
    have idle : s.pendingConnect = false := h.pending_eq.trans failed
    simp only [idle, true_or, if_true, Bool.false_eq_true, if_false]
    exact { h with
      connects := by simp only [List.append_nil, connectTargets_append, ticks, h.connects] }
  | true =>
    have drain : ¬(s.pendingConnect = false ∨ cfg.pools ≤ s.pendingIndex) := by
      rw [h.pending_eq, failed, h.pendingIndex_eq failed]
      simp only [Bool.true_eq_false, false_or, not_le]
      exact Nat.mod_lt _ hpools
    simp only [drain, if_false, if_true]
    exact
      { connects := by
          simp [h.connects, ticks, List.range_succ, h.pendingIndex_eq failed]
        contacted_pos := Nat.succ_pos _
        index_eq := by simp [h.pendingIndex_eq failed]
        inactive := h.inactive
        pending_eq := rfl
        min_eq := by simp [h.min_eq, failed, h.pendingIndex_eq failed]
        pendingIndex_eq := fun never => absurd never Bool.false_ne_true }

theorem Tracks.append_quiet (h : Tracks cfg s calls account) {more : List Call}
    (quiet : connectTargets more = []) : Tracks cfg s (calls ++ more) account :=
  { h with connects := by rw [connectTargets_append, quiet, List.append_nil, h.connects] }

theorem failure_tracks (zeroRetry : cfg.retries = 0) (hpools : 0 < cfg.pools)
    (h : Tracks cfg s calls account) {id : Nat} (last : (connectTargets calls).getLast? = some id)
    {failures : Int} (nonnegative : 0 ≤ failures) :
    Tracks cfg (step cfg s (.onClose id failures)).1 (calls ++ (step cfg s (.onClose id failures)).2)
      { account with failed := true } := by
  obtain rfl := h.last_contacted last
  have inRange : s.index < cfg.pools := h.index_eq ▸ Nat.mod_lt _ hpools
  have next : (if cfg.pools - s.index > 1 then s.index + 1 else 0) =
      account.contacted % cfg.pools := by
    rw [next_eq_succ_mod inRange, h.index_eq, Nat.mod_add_mod,
      Nat.sub_add_cancel h.contacted_pos]
  have notActive : s.active ≠ s.index := by rw [h.inactive]; omega
  simp only [step, onClose, show failures ≠ -1 by omega, if_false, deactivate, if_neg notActive,
    zeroRetry, if_true, onCloseZeroRetry]
  split
  · rename_i below
    have failed : account.failed = true := by
      cases failed : account.failed
      · rw [h.min_eq, failed] at below; exact absurd below (Nat.lt_irrefl _)
      · rfl
    rw [← failed]
    exact h.append_quiet rfl
  · simp only [if_true, next]
    exact
      { connects := by
          simp only [List.nil_append, connectTargets_append, h.connects, List.append_right_eq_self]
          exact connectTargets_map_quiet .disconnect (fun _ _ => rfl) _
        contacted_pos := h.contacted_pos
        index_eq := h.index_eq
        inactive := h.inactive
        pending_eq := rfl
        min_eq := (if_pos rfl).symm
        pendingIndex_eq := fun _ => rfl }

theorem lowerClose_tracks (zeroRetry : cfg.retries = 0) (h : Tracks cfg s calls account)
    {id : Nat} (below : id < s.minAcceptableIndex) (failures : Int) :
    Tracks cfg (step cfg s (.onClose id failures)).1 (calls ++ (step cfg s (.onClose id failures)).2)
      account := by
  by_cases explicit : failures = -1
  · simp only [step, onClose, explicit, if_true]
    exact h.append_quiet rfl
  · rw [step, onClose_below_min cfg s zeroRetry explicit (by rw [h.inactive]; omega) below]
    exact h.append_quiet rfl

theorem lowerLogin_tracks (zeroRetry : cfg.retries = 0) (h : Tracks cfg s calls account)
    {id : Nat} (below : id < s.minAcceptableIndex) :
    Tracks cfg (step cfg s (.onLoginSuccess id)).1
      (calls ++ (step cfg s (.onLoginSuccess id)).2) account := by
  rw [step, onLoginSuccess_below_min cfg s zeroRetry below]
  exact h.append_quiet rfl

theorem CascadeRun.tracks (zeroRetry : cfg.retries = 0) (hpools : 0 < cfg.pools)
    (run : CascadeRun cfg s calls account) : Tracks cfg s calls account := by
  induction run with
  | connected => exact connected_tracks
  | tick now _ inductionHypothesis => exact tick_tracks hpools inductionHypothesis now
  | failure _ last nonnegative inductionHypothesis =>
    exact failure_tracks zeroRetry hpools inductionHypothesis last nonnegative
  | lowerClose _ below inductionHypothesis =>
    exact lowerClose_tracks zeroRetry inductionHypothesis below _
  | lowerLogin _ below inductionHypothesis =>
    exact lowerLogin_tracks zeroRetry inductionHypothesis below

/-! ## The round robin -/

/-- In zero-retry mode, along every cascade run the pools connected so far, the first
`connect()` included, are `0, 1, …` modulo the number of pools, one for each pool the spec's
account has contacted.  The account gains a pool only at a tick after a failure of the pool
contacted last, so each failure leads to exactly one further connect, on the next pool, from
the next tick and from no client callback; repeated closes before that tick change nothing. -/
theorem zeroRetry_round_robin (zeroRetry : cfg.retries = 0) (hpools : 0 < cfg.pools)
    (run : CascadeRun cfg s calls account) :
    connectTargets calls = (List.range account.contacted).map (· % cfg.pools) :=
  (run.tracks zeroRetry hpools).connects

/-- Two pools, zero retries: pool 0 fails and the tick contacts pool 1, which fails too, and the
next tick wraps around to pool 0. -/
theorem zeroRetry_round_robin_wraps :
    ∃ s calls, CascadeRun ⟨2, 0⟩ s calls ⟨3, false⟩ ∧ connectTargets calls = [0, 1, 0] :=
  have first := @CascadeRun.failure ⟨2, 0⟩ _ _ _ 0 0 .connected rfl (by decide)
  have second := @CascadeRun.failure ⟨2, 0⟩ _ _ _ 1 0 (first.tick 0) rfl (by decide)
  have run := second.tick 0
  ⟨_, _, run, (zeroRetry_round_robin rfl (by decide) run).trans (by decide)⟩

/-! ## `m_minAcceptableIndex` within a cascade -/

/-- The inputs that may end a cascade: a login, or a close of the last pool, at which the
zero-retry branch wraps around to pool 0. -/
def Input.endsCascade (cfg : Config) : Input → Bool
  | .onLoginSuccess _ => true
  | .onClose id _ => cfg.pools ≤ id + 1
  | _ => false

@[simp] theorem connectNext_minAcceptableIndex (s : FailoverStrategy) :
    (connectNext cfg s).1.minAcceptableIndex = s.minAcceptableIndex := by
  unfold connectNext; split <;> rfl

@[simp] theorem deactivate_minAcceptableIndex (s : FailoverStrategy) (id : Nat) :
    (deactivate s id).1.minAcceptableIndex = s.minAcceptableIndex := by
  unfold deactivate; split <;> rfl

@[simp] theorem onCloseRetry_minAcceptableIndex (s : FailoverStrategy) (id : Nat) (failures : Int) :
    (onCloseRetry cfg s id failures).1.minAcceptableIndex = s.minAcceptableIndex := by
  unfold onCloseRetry; split
  · rfl
  · split <;> rfl

/-- The zero-retry branch of `onClose` raises `m_minAcceptableIndex` to the pool after the
current one, or resets it to 0 at the last pool. -/
theorem onCloseZeroRetry_minAcceptableIndex (s : FailoverStrategy) (id : Nat) :
    s.minAcceptableIndex ≤ (onCloseZeroRetry cfg s id).1.minAcceptableIndex ∨
      (onCloseZeroRetry cfg s id).1.minAcceptableIndex = 0 ∧ cfg.pools ≤ id + 1 := by
  unfold onCloseZeroRetry
  split
  · exact .inl le_rfl
  · split
    · dsimp only
      split
      · exact .inl (by omega)
      · exact .inr ⟨rfl, by omega⟩
    · exact .inl le_rfl

/-- One step either keeps `m_minAcceptableIndex` or raises it, or resets it to 0 on an input that
ends a cascade. -/
theorem minAcceptableIndex_step (s : FailoverStrategy) (input : Input) :
    s.minAcceptableIndex ≤ (step cfg s input).1.minAcceptableIndex ∨
      (step cfg s input).1.minAcceptableIndex = 0 ∧ input.endsCascade cfg = true := by
  cases input with
  | tick now => exact .inl (by simp [step, tick])
  | onClose id failures =>
    simp only [step, onClose]
    split
    · exact .inl le_rfl
    · split
      · rcases onCloseZeroRetry_minAcceptableIndex (deactivate s id).1 id with raised | ⟨reset, last⟩
        · exact .inl (by simpa using raised)
        · exact .inr ⟨reset, by simpa [Input.endsCascade] using last⟩
      · exact .inl (by simp)
  | onLoginSuccess id =>
    simp only [step, onLoginSuccess]
    split
    · exact .inl le_rfl
    · exact .inr ⟨by split <;> rfl, rfl⟩
  | _ => exact .inl le_rfl

/-- From any state and whatever the number of retries, over any inputs none of which is a login
or a close of the last pool, `m_minAcceptableIndex` never decreases; and a single step lowers it
only by resetting it to 0, on a login or on the close of the last pool, where the zero-retry
cascade wraps around. -/
theorem minAcceptableIndex_monotone (s : FailoverStrategy) {inputs : List Input}
    (within : ∀ input ∈ inputs, input.endsCascade cfg = false) :
    s.minAcceptableIndex ≤ (run cfg s inputs).1.minAcceptableIndex ∧
      ∀ (t : FailoverStrategy) (input : Input),
        t.minAcceptableIndex ≤ (step cfg t input).1.minAcceptableIndex ∨
          (step cfg t input).1.minAcceptableIndex = 0 ∧ input.endsCascade cfg = true := by
  refine ⟨?_, minAcceptableIndex_step⟩
  induction inputs generalizing s with
  | nil => exact le_rfl
  | cons input rest inductionHypothesis =>
    have later := inductionHypothesis (step cfg s input).1
      fun input member => within input (List.mem_cons_of_mem _ member)
    rcases minAcceptableIndex_step s input with raised | ⟨-, ends⟩
    · exact raised.trans later
    · rw [within input (List.mem_cons_self _ _)] at ends
      exact absurd ends Bool.false_ne_true

/-- Two pools, zero retries: pool 0 fails and the tick contacts pool 1. -/
theorem minAcceptableIndex_monotone_first_close :
    (∀ input ∈ [Input.connect, .onClose 0 0, .tick 0], input.endsCascade ⟨2, 0⟩ = false) ∧
      initial.minAcceptableIndex ≤
        (run ⟨2, 0⟩ initial [.connect, .onClose 0 0, .tick 0]).1.minAcceptableIndex ∧
      ∀ (t : FailoverStrategy) (input : Input),
        t.minAcceptableIndex ≤ (step ⟨2, 0⟩ t input).1.minAcceptableIndex ∨
          (step ⟨2, 0⟩ t input).1.minAcceptableIndex = 0 ∧ input.endsCascade ⟨2, 0⟩ = true :=
  have within : ∀ input ∈ [Input.connect, .onClose 0 0, .tick 0],
      input.endsCascade ⟨2, 0⟩ = false := by decide
  ⟨within, minAcceptableIndex_monotone initial within⟩

/-! ## Nonzero retries: a cascade that climbs and stops

With `m_retries != 0` a close of the current pool connects the next pool at once, pool 0 first
retrying in place until its failures reach `m_retries`, and a close of the last pool connects
nothing.  Between a `connect()` and the next `connect()`, `stop()` or login, whatever the clients
and the ticks do, the pools contacted are therefore `0, 1, …, m_index`, each once and in order:
the cascade never wraps around, which is what a positive `retries` is chosen for. -/

/-- The inputs that leave a cascade to the strategy: all but `connect()`, `stop()` and a login,
which restart or end it. -/
def Input.withinCascade : Input → Bool
  | .connect | .stop | .onLoginSuccess _ => false
  | _ => true

/-- A call that is not a connect names no target. -/
theorem connectTargets_single (call : Call) (quiet : ∀ id, call ≠ .connect id) :
    connectTargets [call] = [] := by
  cases call <;> first | rfl | exact absurd rfl (quiet _)

theorem onCloseRetry_climbs (s : FailoverStrategy) (id : Nat) (failures : Int)
    (inRange : s.index < cfg.pools) :
    (onCloseRetry cfg s id failures).1 = s ∧ (onCloseRetry cfg s id failures).2 = [] ∨
      (onCloseRetry cfg s id failures).1 = { s with index := s.index + 1 } ∧
        s.index + 1 < cfg.pools ∧ (onCloseRetry cfg s id failures).2 = [.connect (s.index + 1)] := by
  unfold onCloseRetry
  split
  · exact .inl ⟨rfl, rfl⟩
  · split
    · exact .inr ⟨rfl, by omega, rfl⟩
    · exact .inl ⟨rfl, rfl⟩

/-- One step of a nonzero-retry cascade with nothing pending keeps nothing pending and either
stays at its pool without connecting or connects the next pool. -/
theorem withinCascade_step (retrying : cfg.retries ≠ 0) (s : FailoverStrategy)
    (idle : s.pendingConnect = false) (inRange : s.index < cfg.pools) {input : Input}
    (within : input.withinCascade = true) :
    (step cfg s input).1.pendingConnect = false ∧
      ((step cfg s input).1.index = s.index ∧ connectTargets (step cfg s input).2 = [] ∨
        (step cfg s input).1.index = s.index + 1 ∧ s.index + 1 < cfg.pools ∧
          connectTargets (step cfg s input).2 = [s.index + 1]) := by
  have quietMap (f : Nat → Call) (quiet : ∀ i id, f i ≠ .connect id) :
      connectTargets ((List.range cfg.pools).map f) = [] :=
    connectTargets_map_quiet f (fun i rest => by
      rw [← List.singleton_append, connectTargets_append, connectTargets_single _ (quiet i),
        List.nil_append]) _
  cases input with
  | connect | stop | onLoginSuccess => exact absurd within Bool.false_ne_true
  | tick now =>
    have ticked : step cfg s (.tick now) = (s, (List.range cfg.pools).map (.tick · now)) := by
      simp [step, tick, connectNext, idle]
    rw [ticked]
    exact ⟨idle, .inl ⟨rfl, quietMap _ fun _ _ => Call.noConfusion⟩⟩
  | submit =>
    refine ⟨idle, .inl ⟨rfl, ?_⟩⟩
    simp only [step, submit]; split <;> rfl
  | resume =>
    refine ⟨idle, .inl ⟨rfl, ?_⟩⟩
    simp only [step, resume]; split <;> rfl
  | setAlgo => exact ⟨idle, .inl ⟨rfl, quietMap _ fun _ _ => Call.noConfusion⟩⟩
  | setProxy => exact ⟨idle, .inl ⟨rfl, quietMap _ fun _ _ => Call.noConfusion⟩⟩
  | onClose id failures =>
    simp only [step, onClose]
    split
    · exact ⟨idle, .inl ⟨rfl, rfl⟩⟩
    · have paused : (deactivate s id).1.index = s.index ∧
          (deactivate s id).1.pendingConnect = s.pendingConnect ∧
          connectTargets (deactivate s id).2 = [] := by
        unfold deactivate; split <;> exact ⟨rfl, rfl, rfl⟩
      simp only [retrying, if_false, connectTargets_append, paused.2.2, List.nil_append]
      rcases onCloseRetry_climbs (deactivate s id).1 id failures (paused.1 ▸ inRange) with
        ⟨same, calls⟩ | ⟨advanced, next, calls⟩
      · rw [same, calls, paused.1, paused.2.1]
        exact ⟨idle, .inl ⟨rfl, rfl⟩⟩
      · rw [advanced, calls, paused.1, paused.2.1]
        exact ⟨idle, .inr ⟨rfl, paused.1 ▸ next, rfl⟩⟩
  | onJobReceived id =>
    refine ⟨idle, .inl ⟨rfl, ?_⟩⟩
    simp only [step, onJobReceived]; split <;> rfl
  | onLogin | onResultAccepted | onVerifyAlgorithm => exact ⟨idle, .inl ⟨rfl, rfl⟩⟩

/-- Along a nonzero-retry cascade from a state with nothing pending, the pools connected are the
ones above the starting pool, in order, up to the pool reached. -/
theorem withinCascade_run (retrying : cfg.retries ≠ 0) {inputs : List Input}
    (within : ∀ input ∈ inputs, input.withinCascade = true) (s : FailoverStrategy)
    (idle : s.pendingConnect = false) (inRange : s.index < cfg.pools) :
    (run cfg s inputs).1.index < cfg.pools ∧ s.index ≤ (run cfg s inputs).1.index ∧
      connectTargets (run cfg s inputs).2 =
        List.range' (s.index + 1) ((run cfg s inputs).1.index - s.index) := by
  induction inputs generalizing s with
  | nil => simpa using inRange
  | cons input rest inductionHypothesis =>
    have later := fun input member => within input (List.mem_cons_of_mem _ member)
    obtain ⟨idle', moved⟩ :=
      withinCascade_step retrying s idle inRange (within input (List.mem_cons_self _ _))
    simp only [run_cons, connectTargets_append]
    rcases moved with ⟨same, calls⟩ | ⟨advanced, next, calls⟩
    · obtain ⟨bound, above, targets⟩ :=
        inductionHypothesis later _ idle' (same ▸ inRange)
      rw [same] at above targets
      exact ⟨bound, above, by rw [calls, targets, List.nil_append]⟩
    · obtain ⟨bound, above, targets⟩ := inductionHypothesis later _ idle' (advanced ▸ next)
      rw [advanced] at above targets
      refine ⟨bound, by omega, ?_⟩
      rw [calls, targets, show (run cfg (step cfg s input).1 rest).1.index - s.index =
        (run cfg (step cfg s input).1 rest).1.index - (s.index + 1) + 1 by omega,
        List.range'_succ]
      rfl

/-- With `m_retries != 0` a close of the current pool, past pool 0's retries, connects the next
pool and moves `m_index` there, unless it is the last pool, where it connects nothing. -/
theorem onClose_current_climbs (retrying : cfg.retries ≠ 0) (s : FailoverStrategy)
    {failures : Int} (notLocal : failures ≠ -1) (retried : s.index = 0 → cfg.retries ≤ failures) :
    (step cfg s (.onClose s.index failures)).1.index =
        (if s.index + 1 < cfg.pools then s.index + 1 else s.index) ∧
      connectTargets (step cfg s (.onClose s.index failures)).2 =
        (if s.index + 1 < cfg.pools then [s.index + 1] else []) := by
  have paused : (deactivate s s.index).1.index = s.index ∧
      connectTargets (deactivate s s.index).2 = [] := by
    unfold deactivate; split <;> exact ⟨rfl, rfl⟩
  have noRetry : ¬(s.index = 0 ∧ failures < cfg.retries) := by omega
  simp only [step, onClose, if_neg notLocal, if_neg retrying, connectTargets_append, paused.2,
    List.nil_append, onCloseRetry, if_neg noRetry, paused.1, true_and]
  by_cases next : s.index + 1 < cfg.pools
  · simp [next, show cfg.pools - s.index > 1 by omega]
  · simp [next, show ¬cfg.pools - s.index > 1 by omega, paused.1]

/-- With `m_retries != 0`, after the first `connect()` and any sequence of ticks, submits,
closes from any pool with any failure count and other client events, but no further
`connect()`, `stop()` or login, the pools connected are `0, 1, …, m_index`, each once and in
order, and `m_index` is a pool.  The cascade climbs one pool per close of the current pool:
such a close, once pool 0 has used its retries, connects `m_index + 1` and moves there, and at
the last pool it connects nothing instead of wrapping around. -/
theorem retry_cascade_climbs (retrying : cfg.retries ≠ 0) (hpools : 0 < cfg.pools)
    {inputs : List Input} (within : ∀ input ∈ inputs, input.withinCascade = true) :
    (connectTargets (run cfg initial (.connect :: inputs)).2 =
        List.range ((run cfg initial (.connect :: inputs)).1.index + 1) ∧
      (run cfg initial (.connect :: inputs)).1.index < cfg.pools) ∧
    ∀ (s : FailoverStrategy) (failures : Int), failures ≠ -1 →
      (s.index = 0 → cfg.retries ≤ failures) →
      (step cfg s (.onClose s.index failures)).1.index =
          (if s.index + 1 < cfg.pools then s.index + 1 else s.index) ∧
        connectTargets (step cfg s (.onClose s.index failures)).2 =
          (if s.index + 1 < cfg.pools then [s.index + 1] else []) := by
  refine ⟨?_, fun s _ notLocal retried => onClose_current_climbs retrying s notLocal retried⟩
  obtain ⟨bound, -, targets⟩ := withinCascade_run retrying within initial rfl hpools
  simp only [run_cons, step, connectTargets_append]
  refine ⟨?_, bound⟩
  rw [targets, List.range_eq_range', List.range'_succ]
  rfl

/-- Three pools, one retry: pool 0 fails past its retries and pool 1 is contacted. -/
theorem retry_cascade_climbs_after_close :
    (Config.mk 3 1).retries ≠ 0 ∧ 0 < (Config.mk 3 1).pools ∧
      (∀ input ∈ [Input.onClose 0 1], input.withinCascade = true) ∧
      ((connectTargets (run ⟨3, 1⟩ initial [.connect, .onClose 0 1]).2 =
          List.range ((run ⟨3, 1⟩ initial [.connect, .onClose 0 1]).1.index + 1) ∧
        (run ⟨3, 1⟩ initial [.connect, .onClose 0 1]).1.index < (Config.mk 3 1).pools) ∧
      ∀ (s : FailoverStrategy) (failures : Int), failures ≠ -1 →
        (s.index = 0 → (Config.mk 3 1).retries ≤ failures) →
        (step ⟨3, 1⟩ s (.onClose s.index failures)).1.index =
            (if s.index + 1 < (Config.mk 3 1).pools then s.index + 1 else s.index) ∧
          connectTargets (step ⟨3, 1⟩ s (.onClose s.index failures)).2 =
            (if s.index + 1 < (Config.mk 3 1).pools then [s.index + 1] else [])) :=
  have within : ∀ input ∈ [Input.onClose 0 1], input.withinCascade = true := by decide
  ⟨by decide, by decide, within, retry_cascade_climbs (by decide) (by decide) within⟩

end Failover
end XMiner
