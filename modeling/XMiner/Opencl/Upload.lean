import XMiner.Opencl.VerthashRunner
import XMiner.Dataset.Startup

namespace XMiner
namespace Opencl

/-!
# The runner's copy of the Verthash dataset

`set()` uploads the dataset only while `m_verthashData` is null.  `loadVerthashData()` reads the
singleton through `isValid()`, `dataSize()`, `dataMask()` and `data()`, records the size and
bitmask, creates a device buffer and copies the dataset into it, and releases the buffer again
when the copy fails.  Its check for a buffer already loaded, and its release of an old buffer,
are never reached through `set()`.

So along every run of the singleton and a runner, once the runner's buffer exists it holds a
region the loader returned, the runner keeps that region's size and bitmask, and nothing the
singleton or `set()` does afterwards changes them: after `init()` loads another file the runner
goes on hashing against the dataset it copied first.
-/

open Dataset

namespace OclVerthashRunner

variable (r : OclVerthashRunner)

/-- `loadVerthashData()` against the singleton `vh`, with `created` and `written` the codes
`createBuffer` and the blocking `enqueueWriteBuffer` return (0 for `CL_SUCCESS`).  A failed
`createBuffer` leaves `m_verthashData` null. -/
def loadVerthashData (vh : Verthash) (created written : Int) :
    (OclVerthashRunner × Bool) × List Command :=
  if vh.isValid = false then ((r, false), [])
  else if r.verthashData = true ∧ r.verthashDataSize = vh.info.dataSize then ((r, true), [])
  else
    let released : List Command := if r.verthashData then [.release .verthashData] else []
    let sized := { r with
      verthashData := false, verthashDataSize := vh.info.dataSize,
      verthashBitmask := UInt32.ofNat vh.info.bitmask }
    let create : List Command := [.createBuffer .verthashData vh.info.dataSize]
    if created ≠ 0 then ((sized, false), released ++ create)
    else
      let upload : List Command :=
        [.enqueueWriteBuffer .verthashData vh.info.dataSize (.dataset vh.info.data)]
      if written ≠ 0 then ((sized, false), released ++ create ++ upload ++ [.release .verthashData])
      else (({ sized with verthashData := true }, true), released ++ create ++ upload)

/-- `set(job, blob)`: loads the dataset when `m_verthashData` is null and throws when that
fails, then passes the job's target as kernel argument 5. -/
def set (vh : Verthash) (created written : Int) (target : UInt64) :
    (OclVerthashRunner × List Command) × Except String Unit :=
  if r.verthashData = false then
    let loaded := r.loadVerthashData vh created written
    if loaded.1.2 = false then ((loaded.1.1, loaded.2), .error "Failed to load verthash data")
    else ((loaded.1.1, loaded.2 ++ [.setKernelArg 5 (.uint64 target)]), .ok ())
  else ((r, [.setKernelArg 5 (.uint64 target)]), .ok ())

/-- The data pointers the runner's dataset uploads copied from, in order. -/
def uploads (commands : List Command) : List Nat :=
  commands.filterMap fun (command : Command) =>
    match command with
    | .enqueueWriteBuffer .verthashData _ (.dataset data) => some data
    | _ => none

@[simp] theorem uploads_append (first second : List Command) :
    uploads (first ++ second) = uploads first ++ uploads second :=
  List.filterMap_append _ _ _

/-- Once the buffer exists, `set()` only passes the target. -/
theorem set_of_loaded (loaded : r.verthashData = true) (vh : Verthash) (created written : Int)
    (target : UInt64) :
    r.set vh created written target = ((r, [.setKernelArg 5 (.uint64 target)]), .ok ()) := by
  simp [set, loaded]

/-- A `set()` that creates the buffer copies the singleton's region into it, once, and keeps
its size and bitmask. -/
theorem set_copies (vh : Verthash) (created written : Int) (target : UInt64)
    (empty : r.verthashData = false)
    (loaded : (r.set vh created written target).1.1.verthashData = true) :
    vh.isValid = true ∧ (r.set vh created written target).1.1.verthashDataSize = vh.info.dataSize ∧
      (r.set vh created written target).1.1.verthashBitmask = UInt32.ofNat vh.info.bitmask ∧
      uploads (r.set vh created written target).1.2 = [vh.info.data] := by
  by_cases valid : vh.isValid = true
  swap
  · simp [set, loadVerthashData, empty, valid] at loaded
  by_cases made : created = 0
  swap
  · simp [set, loadVerthashData, empty, valid, made] at loaded
  by_cases copied : written = 0
  swap
  · simp [set, loadVerthashData, empty, valid, made, copied] at loaded
  simp [set, loadVerthashData, empty, valid, made, copied, uploads]

/-- With the singleton valid and OpenCL succeeding, the first `set()` creates the buffer, copies
the singleton's region into it, keeps its size and bitmask, and passes the target. -/
theorem set_uploads (empty : r.verthashData = false) {vh : Verthash} (valid : vh.isValid = true)
    (target : UInt64) :
    r.set vh 0 0 target = (({ r with
        verthashData := true, verthashDataSize := vh.info.dataSize,
        verthashBitmask := UInt32.ofNat vh.info.bitmask },
      [.createBuffer .verthashData vh.info.dataSize,
        .enqueueWriteBuffer .verthashData vh.info.dataSize (.dataset vh.info.data),
        .setKernelArg 5 (.uint64 target)]), .ok ()) := by
  simp [set, loadVerthashData, empty, valid]

/-- With the singleton not valid, `set()` on a runner with no buffer throws and calls nothing. -/
theorem set_of_invalid (empty : r.verthashData = false) {vh : Verthash} (invalid : vh.isValid = false)
    (created written : Int) (target : UInt64) :
    r.set vh created written target = ((r, []), .error "Failed to load verthash data") := by
  simp [set, loadVerthashData, empty, invalid]

end OclVerthashRunner

/-! ## The singleton and one runner -/

/-- What a miner with one Verthash runner does: call the singleton's `init()` or `release()`,
each with what the loader does, or `set()` on the runner, with what OpenCL returns. -/
inductive Event where
  | init (path : String) (outcome : Option (Loaded path))
  | release
  | set (created written : Int) (target : UInt64)

/-- The singleton and the runner. -/
structure System where
  verthash : Verthash
  runner : OclVerthashRunner

namespace System

open OclVerthashRunner

/-- One event, with the calls it makes on the Verthash C API and on OpenCL. -/
def step (m : System) : Event → System × List Dataset.Effect × List Command
  | .init path outcome =>
    let called := m.verthash.init path outcome
    (⟨called.1.1, m.runner⟩, called.2, [])
  | .release =>
    let released := m.verthash.release
    (⟨released.1, m.runner⟩, released.2, [])
  | .set created written target =>
    let loaded := m.runner.set m.verthash created written target
    (⟨m.verthash, loaded.1.1⟩, [], loaded.1.2)

/-- The state after a list of events. -/
def steps (m : System) : List Event → System
  | [] => m
  | event :: rest => (m.step event).1.steps rest

/-- The runs from the singleton and a runner as constructed, with every call so far. -/
inductive Run (data : OclLaunchData) (options : String) :
    System → List Dataset.Effect → List Command → Prop where
  | construct : Run data options ⟨Verthash.singleton, .construct data options⟩ [] []
  | step {m : System} {calls : List Dataset.Effect} {commands : List Command} (event : Event) :
      Run data options m calls commands →
      Run data options (m.step event).1 (calls ++ (m.step event).2.1) (commands ++ (m.step event).2.2)

variable {data : OclLaunchData} {options : String} {m : System} {calls : List Dataset.Effect}
  {commands : List Command}

/-- The singleton's side of a run is a run of the singleton. -/
theorem Run.verthash (run : Run data options m calls commands) : Dataset.Run m.verthash calls := by
  induction run with
  | construct => exact .singleton
  | step event _ inductionHypothesis =>
    cases event with
    | init path outcome => exact inductionHypothesis.init path outcome
    | release => exact inductionHypothesis.release
    | set => simpa only [System.step, List.append_nil] using inductionHypothesis

/-- A valid singleton holds a region the loader returned. -/
theorem info_mem_returned {vh : Verthash} {calls : List Dataset.Effect}
    (run : Dataset.Run vh calls) (valid : vh.isValid = true) : vh.info ∈ Verthash.returned calls := by
  have h := Verthash.wellFormed_of_run run
  rw [Verthash.accounted_of_run run]
  cases initialized : vh.initialized with
  | false => simp [Verthash.isValid, h.zeroed initialized, VerthashInfo.zero] at valid
  | true => simp [Verthash.held, initialized]

/-- A runner whose buffer exists is left alone by every event. -/
theorem step_runner (loaded : m.runner.verthashData = true) (event : Event) :
    (m.step event).1.runner = m.runner := by
  cases event with
  | set created written target => simp only [step, set_of_loaded _ loaded]
  | _ => rfl

theorem steps_runner (loaded : m.runner.verthashData = true) (events : List Event) :
    (m.steps events).runner = m.runner := by
  induction events generalizing m with
  | nil => rfl
  | cons event rest inductionHypothesis =>
    have same := step_runner loaded event
    rw [steps, inductionHypothesis (same ▸ loaded), same]

/-- A runner whose buffer exists holds a region the loader returned: the last upload copied its
data, and the runner keeps its size and bitmask. -/
def Copied (m : System) (calls : List Dataset.Effect) (commands : List Command) : Prop :=
  m.runner.verthashData = true → ∃ region ∈ Verthash.returned calls,
    m.runner.verthashDataSize = region.dataSize ∧
      m.runner.verthashBitmask = UInt32.ofNat region.bitmask ∧
      (uploads commands).getLast? = some region.data

theorem Run.copied (run : Run data options m calls commands) : Copied m calls commands := by
  induction run with
  | construct => exact fun never => Bool.noConfusion never
  | @step m calls commands event previous inductionHypothesis =>
    intro loaded
    by_cases before : m.runner.verthashData = true
    · have same := step_runner before event
      have quiet : uploads (m.step event).2.2 = [] := by
        cases event <;> simp [System.step, set_of_loaded _ before, uploads]
      obtain ⟨region, member, size, mask, last⟩ := inductionHypothesis before
      refine ⟨region, ?_, same ▸ size, same ▸ mask, ?_⟩
      · rw [Verthash.returned_append]; exact List.mem_append_left _ member
      · rw [uploads_append, quiet, List.append_nil]; exact last
    · cases event with
      | set created written target =>
        obtain ⟨valid, size, mask, uploaded⟩ :=
          set_copies _ _ _ _ _ (by simpa using before) loaded
        refine ⟨m.verthash.info, ?_, size, mask, ?_⟩
        · simpa only [System.step, List.append_nil] using info_mem_returned previous.verthash valid
        · simp only [System.step, uploads_append, uploaded, List.getLast?_concat]
      | _ => exact absurd loaded before

/-- Along every run of the singleton and a runner from construction: once the runner's dataset
buffer exists it holds a region the loader returned, the last upload having copied that
region's data, and the runner keeps the region's size and bitmask; and no later call of the
singleton and no later `set()` changes the runner, even after `init()` has replaced the region
the singleton holds. -/
theorem runner_keeps_first_upload (run : Run data options m calls commands) :
    m.runner.verthashData = true →
      (∃ region ∈ Verthash.returned calls, m.runner.verthashDataSize = region.dataSize ∧
        m.runner.verthashBitmask = UInt32.ofNat region.bitmask ∧
        (uploads commands).getLast? = some region.data) ∧
      ∀ events : List Event, (m.steps events).runner = m.runner :=
  fun loaded => ⟨run.copied loaded, steps_runner loaded⟩

/-- The singleton holding file `b` after it loaded file `a`, the runner copied `a`, and the
singleton loaded `b`. -/
def reloaded : System :=
  ⟨⟨⟨2, 8192, 8191, some "b"⟩, true⟩, { OclVerthashRunner.construct ⟨1000, 256, .amd⟩ "" with
    verthashData := true, verthashDataSize := 4096, verthashBitmask := 4095 }⟩

/-- The loader's calls on the way to `reloaded`. -/
def reloadedCalls : List Dataset.Effect :=
  [.load "a" (some ⟨1, 4096, 4095, some "a"⟩), .free ⟨1, 4096, 4095, some "a"⟩,
    .load "b" (some ⟨2, 8192, 8191, some "b"⟩)]

/-- The runner's OpenCL calls on the way to `reloaded`. -/
def reloadedCommands : List Command :=
  [.createBuffer .verthashData 4096, .enqueueWriteBuffer .verthashData 4096 (.dataset 1),
    .setKernelArg 5 (.uint64 7)]

/-- After the reload the runner keeps the size 4096 and bitmask 4095 of `a` while the singleton
holds `b`. -/
theorem runner_keeps_first_upload_after_reload :
    Run ⟨1000, 256, .amd⟩ "" reloaded reloadedCalls reloadedCommands ∧
      (reloaded.runner.verthashData = true →
        (∃ region ∈ Verthash.returned reloadedCalls,
          reloaded.runner.verthashDataSize = region.dataSize ∧
          reloaded.runner.verthashBitmask = UInt32.ofNat region.bitmask ∧
          (uploads reloadedCommands).getLast? = some region.data) ∧
        ∀ events : List Event, (reloaded.steps events).runner = reloaded.runner) := by
  have run : Run ⟨1000, 256, .amd⟩ "" reloaded reloadedCalls reloadedCommands :=
    (((@Run.construct ⟨1000, 256, .amd⟩ "").step
      (.init "a" (some ⟨⟨1, 4096, 4095, some "a"⟩, by decide, by decide, rfl⟩))).step
      (.set 0 0 7)).step (.init "b" (some ⟨⟨2, 8192, 8191, some "b"⟩, by decide, by decide, rfl⟩))
  exact ⟨run, runner_keeps_first_upload run⟩

/-! ## Startup, then the first `set()` -/

/-- From every reachable system whose runner has no dataset buffer yet, `Vh::init(config)` is a
step of the system's runs (none when the generator fails), and it decides what the runner's
first `set()` does.  After a successful startup the singleton holds the chosen file, and a
`set()` in which OpenCL succeeds creates the buffer, copies that file's region into it and keeps
its size and bitmask.  After a failed load every `set()` throws "Failed to load verthash data"
and calls nothing on OpenCL. -/
theorem startup_decides_first_upload (run : Run data options m calls commands)
    (empty : m.runner.verthashData = false) (config : VerthashConfig) (generated : Int)
    (outcome : (path : String) → Option (Loaded path)) (target : UInt64) :
    let started := Vh.init config generated outcome m.verthash
    Run data options ⟨started.1.1, m.runner⟩ (calls ++ started.2) commands ∧
      (started.1.2 = true → started.1.1.info.fileName = some (Vh.chosen config) ∧
        m.runner.set started.1.1 0 0 target = (({ m.runner with
            verthashData := true, verthashDataSize := started.1.1.info.dataSize,
            verthashBitmask := UInt32.ofNat started.1.1.info.bitmask },
          [.createBuffer .verthashData started.1.1.info.dataSize,
            .enqueueWriteBuffer .verthashData started.1.1.info.dataSize
              (.dataset started.1.1.info.data),
            .setKernelArg 5 (.uint64 target)]), .ok ())) ∧
      (Vh.generatorFailed config generated = false → started.1.2 = false →
        ∀ created written : Int, m.runner.set started.1.1 created written target =
          ((m.runner, []), .error "Failed to load verthash data")) := by
  have contract := Vh.init_contract config (Verthash.wellFormed_of_run run.verthash) generated outcome
  refine ⟨?_, fun ok => ?_, fun ran failed created written =>
    set_of_invalid _ empty (contract.loadFails ran failed) created written target⟩
  · rw [Vh.init_eq]
    split
    · simpa only [List.append_nil] using run
    · simpa only [System.step, List.append_nil] using run.step (.init _ (outcome (Vh.chosen config)))
  · obtain ⟨-, ready, named⟩ := contract.succeeds.mp ok
    exact ⟨named, set_uploads _ empty ready target⟩

/-- The system as constructed, started with no paths configured and a loader that succeeds. -/
theorem startup_uploads_verthash_dat :
    let initial : System := ⟨Verthash.singleton, .construct ⟨1000, 256, .amd⟩ ""⟩
    let outcome := fun path => some (Verthash.sampleRegion path)
    let started := Vh.init ⟨"", ""⟩ 0 outcome initial.verthash
    Run ⟨1000, 256, .amd⟩ "" initial [] [] ∧ initial.runner.verthashData = false ∧
      Run ⟨1000, 256, .amd⟩ "" ⟨started.1.1, initial.runner⟩ ([] ++ started.2) [] ∧
      (started.1.2 = true → started.1.1.info.fileName = some (Vh.chosen ⟨"", ""⟩) ∧
        initial.runner.set started.1.1 0 0 7 = (({ initial.runner with
            verthashData := true, verthashDataSize := started.1.1.info.dataSize,
            verthashBitmask := UInt32.ofNat started.1.1.info.bitmask },
          [.createBuffer .verthashData started.1.1.info.dataSize,
            .enqueueWriteBuffer .verthashData started.1.1.info.dataSize
              (.dataset started.1.1.info.data),
            .setKernelArg 5 (.uint64 7)]), .ok ())) ∧
      (Vh.generatorFailed ⟨"", ""⟩ 0 = false → started.1.2 = false →
        ∀ created written : Int, initial.runner.set started.1.1 created written 7 =
          ((initial.runner, []), .error "Failed to load verthash data")) :=
  ⟨.construct, rfl, startup_decides_first_upload .construct rfl ⟨"", ""⟩ 0 _ 7⟩

end System

end Opencl
end XMiner
