import Mathlib.Data.List.Basic

namespace XMiner
namespace Dataset

/-!
# The Verthash dataset wrapper refines a two-state manager

`Verthash` guards one `verthash_info_t`: `init(path)` keeps a region already loaded from the
same path, and otherwise frees the region it holds and loads a new one; `release()` frees it.
The loader `verthash_info_init` is external.  Each call of it is an input of `init`, so runs
range over every loader behaviour: on success it hands back a region with non-null data, a
positive size and the requested path as its file name, and on failure nothing.

Abstractly the wrapper is `empty` or holds one region `loaded path region`.  Every reachable
wrapper state maps to the manager, `init` and `release` make the same calls and return the
same results there, and `isValid()` holds exactly in loaded states.  Along a run, every region
the loader returned has been freed once, in order, except the one held; so after the destructor
the frees are exactly the loads.

The mutex only serialises the two methods, which the model runs one at a time.
-/

/-- The fields of `verthash_info_t` the wrapper reads: the data pointer (0 for null), its size,
the index bitmask and the file name (`none` for null). -/
structure VerthashInfo where
  data : Nat
  dataSize : Nat
  bitmask : Nat
  fileName : Option String
  deriving DecidableEq, Repr

/-- The info after `memset(&m_info, 0, sizeof(m_info))`. -/
def VerthashInfo.zero : VerthashInfo :=
  ⟨0, 0, 0, none⟩

/-- A region `verthash_info_init(&m_info, path)` loaded: non-null data, a positive size, and
`path` as its file name. -/
structure Loaded (path : String) where
  info : VerthashInfo
  data_ne : info.data ≠ 0
  size_pos : 0 < info.dataSize
  fileName_eq : info.fileName = some path

/-- A call of the wrapper on the C API: `verthash_info_init` with what it handed back, or
`verthash_info_free` with the region it frees. -/
inductive Effect where
  | load (path : String) (returned : Option VerthashInfo)
  | free (region : VerthashInfo)
  deriving DecidableEq, Repr

/-- The members of the singleton. -/
structure Verthash where
  info : VerthashInfo
  initialized : Bool
  deriving DecidableEq, Repr

namespace Verthash

/-- The private constructor zeroes `m_info`. -/
def singleton : Verthash :=
  ⟨.zero, false⟩

variable (s : Verthash)

def isValid : Bool :=
  s.info.data ≠ 0 ∧ 0 < s.info.dataSize

/-- The tail of `init`: call the loader, and keep its region or zero `m_info`. -/
def load (path : String) : Option (Loaded path) → (Verthash × Bool) × List Effect
  | some region => ((⟨region.info, true⟩, true), [.load path (some region.info)])
  | none => ((⟨.zero, false⟩, false), [.load path none])

def init (path : String) (outcome : Option (Loaded path)) : (Verthash × Bool) × List Effect :=
  if s.initialized = true ∧ s.info.data ≠ 0 then
    if s.info.fileName = some path then ((s, true), [])
    else
      let reloaded := load path outcome
      (reloaded.1, .free s.info :: reloaded.2)
  else load path outcome

def release : Verthash × List Effect :=
  if s.initialized then (⟨.zero, false⟩, [.free s.info]) else (s, [])

end Verthash

open Verthash in
/-- The runs of the singleton from its construction, with every call on the C API so far. -/
inductive Run : Verthash → List Effect → Prop where
  | singleton : Run singleton []
  | init {s : Verthash} {trace : List Effect} (path : String) (outcome : Option (Loaded path)) :
      Run s trace → Run (init s path outcome).1.1 (trace ++ (init s path outcome).2)
  | release {s : Verthash} {trace : List Effect} :
      Run s trace → Run (release s).1 (trace ++ (release s).2)

/-! ## The abstract manager -/

/-- The dataset manager as the spec describes it: empty, or holding one region loaded from a
path. -/
inductive Manager where
  | empty
  | loaded (path : String) (region : VerthashInfo)
  deriving DecidableEq, Repr

namespace Manager

/-- Free what is held, then load: the region on success, nothing on failure. -/
def reload (freed : List Effect) (path : String) :
    Option (Loaded path) → (Manager × Bool) × List Effect
  | some region => ((.loaded path region.info, true), freed ++ [.load path (some region.info)])
  | none => ((.empty, false), freed ++ [.load path none])

/-- `init(path)` keeps a region loaded from `path`, and otherwise replaces what is held. -/
def init : Manager → (path : String) → Option (Loaded path) → (Manager × Bool) × List Effect
  | .loaded held region, path, outcome =>
    if held = path then ((.loaded held region, true), []) else reload [.free region] path outcome
  | .empty, path, outcome => reload [] path outcome

def release : Manager → Manager × List Effect
  | .loaded _ region => (.empty, [.free region])
  | .empty => (.empty, [])

end Manager

namespace Verthash

/-- The manager state a wrapper state stands for. -/
def abstract (s : Verthash) : Manager :=
  if s.initialized then .loaded (s.info.fileName.getD "") s.info else .empty

/-- A call's result seen through `abstract`. -/
def observed (result : (Verthash × Bool) × List Effect) : (Manager × Bool) × List Effect :=
  ((result.1.1.abstract, result.1.2), result.2)

/-! ## Reachable wrapper states -/

/-- What every reachable wrapper state satisfies: zeroed unless initialised, and otherwise
holding a region the loader returned. -/
structure WellFormed (s : Verthash) : Prop where
  zeroed : s.initialized = false → s.info = .zero
  holds : s.initialized = true →
    s.info.data ≠ 0 ∧ 0 < s.info.dataSize ∧ ∃ path, s.info.fileName = some path

theorem load_wellFormed (path : String) (outcome : Option (Loaded path)) :
    WellFormed (load path outcome).1.1 := by
  cases outcome with
  | none => exact ⟨fun _ => rfl, fun never => absurd never Bool.false_ne_true⟩
  | some region =>
    exact ⟨fun never => Bool.noConfusion never,
      fun _ => ⟨region.data_ne, region.size_pos, path, region.fileName_eq⟩⟩

theorem init_wellFormed {s : Verthash} (h : WellFormed s) (path : String)
    (outcome : Option (Loaded path)) : WellFormed (init s path outcome).1.1 := by
  unfold init
  split
  · split
    · exact h
    · exact load_wellFormed path outcome
  · exact load_wellFormed path outcome

theorem release_wellFormed {s : Verthash} (h : WellFormed s) : WellFormed (release s).1 := by
  unfold release
  split
  · exact ⟨fun _ => rfl, fun never => absurd never Bool.false_ne_true⟩
  · exact h

theorem wellFormed_of_run {s : Verthash} {trace : List Effect} (run : Run s trace) :
    WellFormed s := by
  induction run with
  | singleton => exact ⟨fun _ => rfl, fun never => absurd never Bool.false_ne_true⟩
  | init path outcome _ inductionHypothesis => exact init_wellFormed inductionHypothesis path outcome
  | release _ inductionHypothesis => exact release_wellFormed inductionHypothesis

/-! ## Refinement, one call at a time -/

theorem abstract_of_loaded {s : Verthash} (h : WellFormed s) (initialized : s.initialized = true) :
    ∃ path, s.info.fileName = some path ∧ s.abstract = .loaded path s.info := by
  obtain ⟨path, named⟩ := (h.holds initialized).2.2
  exact ⟨path, named, by simp [abstract, initialized, named]⟩

theorem abstract_of_empty {s : Verthash} (initialized : s.initialized = false) :
    s.abstract = .empty := by
  simp [abstract, initialized]

theorem load_observed (freed : List Effect) (path : String) (outcome : Option (Loaded path)) :
    observed ((load path outcome).1, freed ++ (load path outcome).2) =
      Manager.reload freed path outcome := by
  cases outcome with
  | none => rfl
  | some region => simp [observed, load, Manager.reload, abstract, region.fileName_eq]

theorem init_observed {s : Verthash} (h : WellFormed s) (path : String)
    (outcome : Option (Loaded path)) :
    observed (init s path outcome) = Manager.init s.abstract path outcome := by
  cases initialized : s.initialized with
  | false =>
    have notHeld : ¬(s.initialized = true ∧ s.info.data ≠ 0) := by simp [initialized]
    rw [abstract_of_empty initialized, init, if_neg notHeld, Manager.init]
    exact load_observed [] path outcome
  | true =>
    obtain ⟨held, named, loaded⟩ := abstract_of_loaded h initialized
    have holding : s.initialized = true ∧ s.info.data ≠ 0 := ⟨initialized, (h.holds initialized).1⟩
    rw [loaded, init, if_pos holding, Manager.init]
    simp only [named, Option.some.injEq]
    split
    · rename_i same
      simp [observed, ← same, loaded]
    · exact load_observed [.free s.info] path outcome

theorem release_observed {s : Verthash} (h : WellFormed s) :
    ((release s).1.abstract, (release s).2) = Manager.release s.abstract := by
  cases initialized : s.initialized with
  | false => simp [release, abstract_of_empty initialized, initialized, Manager.release]
  | true =>
    obtain ⟨held, _, loaded⟩ := abstract_of_loaded h initialized
    simp [release, initialized, loaded, Manager.release, abstract]

theorem isValid_iff {s : Verthash} (h : WellFormed s) :
    s.isValid = true ↔ ∃ path region, s.abstract = .loaded path region := by
  cases initialized : s.initialized with
  | false => simp [isValid, abstract_of_empty initialized, h.zeroed initialized, VerthashInfo.zero]
  | true =>
    obtain ⟨held, _, loaded⟩ := abstract_of_loaded h initialized
    have valid := h.holds initialized
    simp [isValid, loaded, valid.1, valid.2.1]

/-! ## Every region is freed once -/

/-- The regions the loader handed back, in order. -/
def returned (trace : List Effect) : List VerthashInfo :=
  trace.filterMap fun
    | .load _ region => region
    | .free _ => none

/-- The regions passed to `verthash_info_free`, in order. -/
def freed (trace : List Effect) : List VerthashInfo :=
  trace.filterMap fun
    | .free region => some region
    | .load _ _ => none

@[simp] theorem returned_append (first second : List Effect) :
    returned (first ++ second) = returned first ++ returned second :=
  List.filterMap_append _ _ _

@[simp] theorem freed_append (first second : List Effect) :
    freed (first ++ second) = freed first ++ freed second :=
  List.filterMap_append _ _ _

/-- The region a wrapper state holds. -/
def held (s : Verthash) : List VerthashInfo :=
  if s.initialized then [s.info] else []

theorem load_accounted (path : String) (outcome : Option (Loaded path)) :
    returned (load path outcome).2 = held (load path outcome).1.1 ∧
      freed (load path outcome).2 = [] := by
  cases outcome <;> exact ⟨rfl, rfl⟩

/-- A call frees what it replaces: what was held and what it loads is what it frees and
what it holds afterwards. -/
theorem init_accounted {s : Verthash} (h : WellFormed s) (path : String)
    (outcome : Option (Loaded path)) :
    held s ++ returned (init s path outcome).2 =
      freed (init s path outcome).2 ++ held (init s path outcome).1.1 := by
  have loaded := load_accounted path outcome
  unfold init
  split
  · rename_i holding
    split
    · simp [returned, freed]
    · dsimp only
      simp only [held, holding.1, if_true]
      simp only [returned, freed, List.filterMap_cons] at loaded ⊢
      rw [loaded.1, loaded.2]
      rfl
  · rename_i notHolding
    have empty : held s = [] := by
      cases initialized : s.initialized
      · simp [held, initialized]
      · exact absurd ⟨initialized, (h.holds initialized).1⟩ notHolding
    rw [empty, loaded.1, loaded.2]

theorem held_release (s : Verthash) : held (release s).1 = [] := by
  unfold release held
  split <;> simp [*]

theorem release_accounted (s : Verthash) :
    held s ++ returned (release s).2 = freed (release s).2 ++ held (release s).1 := by
  unfold release held
  split <;> simp [returned, freed, *]

theorem accounted_of_run {s : Verthash} {trace : List Effect} (run : Run s trace) :
    returned trace = freed trace ++ held s := by
  induction run with
  | singleton => rfl
  | init path outcome previous inductionHypothesis =>
    rw [returned_append, inductionHypothesis, List.append_assoc,
      init_accounted (wellFormed_of_run previous), freed_append, List.append_assoc]
  | release _ inductionHypothesis =>
    rw [returned_append, inductionHypothesis, List.append_assoc, release_accounted,
      freed_append, List.append_assoc]

end Verthash

open Verthash

/-- Take any sequence of `init(path)` and `release()` calls, with a loader that returns a
loaded region or fails at each call.  Every state reached refines the manager: `init` and
`release` return what the manager returns and make the same calls, so `init` on the path held
calls neither the loader nor `verthash_info_free`, any other `init` frees what is held and calls
the loader once, and `release()` empties it.  `isValid()` holds exactly when a region is held.
And with the destructor's `release()` after the run, the regions freed are exactly the regions
the loader returned, in order: none leaks and none is freed twice. -/
theorem wrapper_refines_manager {s : Verthash} {trace : List Effect} (run : Run s trace) :
    (∀ (path : String) (outcome : Option (Loaded path)),
      observed (init s path outcome) = Manager.init s.abstract path outcome) ∧
      ((release s).1.abstract, (release s).2) = Manager.release s.abstract ∧
      (s.isValid = true ↔ ∃ path region, s.abstract = .loaded path region) ∧
      freed (trace ++ (release s).2) = returned (trace ++ (release s).2) := by
  have h := wellFormed_of_run run
  refine ⟨init_observed h, release_observed h, isValid_iff h, ?_⟩
  rw [returned_append, accounted_of_run run, List.append_assoc, release_accounted, freed_append,
    held_release, List.append_nil]

/-- A region the loader may hand back for `path`: 1 KiB at address 1 with bitmask 255. -/
def Verthash.sampleRegion (path : String) : Loaded path :=
  ⟨⟨1, 1024, 255, some path⟩, Nat.one_ne_zero, (by decide : 0 < 1024), rfl⟩

/-- A load of `verthash.dat`, a reload from another path that fails after freeing it, a load of
`verthash.dat` again, `release()`, and a last load: two regions freed, the last one held. -/
theorem wrapper_refines_manager_after_failed_reload :
    ∃ s trace, Run s trace ∧ .load "other.dat" none ∈ trace ∧ (freed trace).length = 2 ∧
      s.initialized = true ∧
      ((∀ (path : String) (outcome : Option (Loaded path)),
        observed (init s path outcome) = Manager.init s.abstract path outcome) ∧
      ((release s).1.abstract, (release s).2) = Manager.release s.abstract ∧
      (s.isValid = true ↔ ∃ path region, s.abstract = .loaded path region) ∧
      freed (trace ++ (release s).2) = returned (trace ++ (release s).2)) :=
  have run := ((((Run.singleton.init "verthash.dat" (some (sampleRegion _))).init "other.dat"
    none).init "verthash.dat" (some (sampleRegion _))).release).init "verthash.dat"
    (some (sampleRegion _))
  ⟨_, _, run, by decide, by decide, rfl, wrapper_refines_manager run⟩

end Dataset
end XMiner
