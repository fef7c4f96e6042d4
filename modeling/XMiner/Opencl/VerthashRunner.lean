import Mathlib.Data.List.Nodup
import Mathlib.Data.List.Perm.Subperm
import Mathlib.Data.List.OfFn
import Mathlib.Data.List.Range

namespace XMiner
namespace Opencl

/-!
# The OpenCL Verthash runner's launch

The constructor of `OclVerthashRunner` keeps the thread's worksize as `m_workGroupSize` when the
kernel supports it (64, 128, 256 or 512) and the default 256 otherwise.  `run(nonce, …)` writes
the header and clears the result count, sets the kernel's arguments, and launches
`m_intensity - m_intensity % m_workGroupSize` work items from global id `nonce`, in groups of
`m_workGroupSize`; it then reads back at most 15 found nonces.  `processedHashes()`, what the
miner counts for a round and advances the nonce by, is `m_intensity`.

So the launch covers `processedHashes()` work items exactly when the work-group size divides the
intensity.  Otherwise every round counts `m_intensity % m_workGroupSize` hashes that no work
item computed, and over consecutive rounds those nonces are never hashed.  The round nonce is a
`uint32_t`: once the rounds have counted 2^32 nonces it wraps past the first one, and from then
on nonces are hashed again.

`m_intensity` is set by `OclBaseRunner`, which is not under src/; it is a member of the runner
here.  Device handles are named by the buffer they stand for; the kernel's own work is outside
the model, so its return code and the words it left in the output buffer are inputs of `run`.
-/

/-- The device vendors the constructor tells apart. -/
inductive OclVendor where
  | nvidia
  | amd
  | other
  deriving DecidableEq, Repr

/-- What the constructor reads from `OclLaunchData`: the thread's intensity and worksize, and the
device's vendor. -/
structure OclLaunchData where
  intensity : Nat
  worksize : Nat
  vendor : OclVendor
  deriving DecidableEq, Repr

/-- The work-group sizes the kernel is built for. -/
def supportedWorkGroupSize (size : Nat) : Prop :=
  size = 64 ∨ size = 128 ∨ size = 256 ∨ size = 512

/-- `m_workGroupSize` after the constructor's `switch`: the thread's worksize when it is one the
kernel supports, the member's default 256 otherwise. -/
def workGroupSize (worksize : Nat) : Nat :=
  match worksize with
  | 64 | 128 | 256 | 512 => worksize
  | _ => 256

theorem workGroupSize_supported (worksize : Nat) : supportedWorkGroupSize (workGroupSize worksize) := by
  unfold workGroupSize supportedWorkGroupSize
  split <;> simp

/-- The members of the runner that its methods read: `m_verthashData` as whether it is non-null,
and the size and bitmask of the dataset it was loaded for.  The work-group size is always one
the kernel supports. -/
structure OclVerthashRunner where
  intensity : Nat
  workGroupSize : Nat
  supported : supportedWorkGroupSize workGroupSize
  options : String
  verthashData : Bool
  verthashDataSize : Nat
  verthashBitmask : UInt32

/-! ## `uint32_t` arithmetic -/

theorem toNat_ofNat (n : Nat) : (UInt32.ofNat n).toNat = n % UInt32.size :=
  rfl

/-- `a + n` in `uint32_t` wraps at `UInt32.size`, 2^32. -/
theorem toNat_add_ofNat (a : UInt32) (n : Nat) :
    (a + UInt32.ofNat n).toNat = (a.toNat + n) % UInt32.size := by
  show (a.toBitVec + (UInt32.ofNat n).toBitVec).toNat = _
  rw [BitVec.toNat_add]
  show (a.toNat + n % UInt32.size) % UInt32.size = _
  simp only [UInt32.size]
  omega

theorem toNat_sub (a b : UInt32) :
    (a - b).toNat = (UInt32.size - b.toNat + a.toNat) % UInt32.size := by
  show (a.toBitVec - b.toBitVec).toNat = _
  rw [BitVec.toNat_sub]
  rfl

/-- Adding an offset below 2^32 to a nonce is undone by taking the distance from the nonce. -/
theorem add_ofNat_eq_iff (nonce n : UInt32) {offset : Nat} (small : offset < UInt32.size) :
    nonce + UInt32.ofNat offset = n ↔ (n - nonce).toNat = offset := by
  have := n.toNat_lt_size
  have := nonce.toNat_lt_size
  rw [← show (nonce + UInt32.ofNat offset).toNat = n.toNat ↔ _ from
    ⟨UInt32.toNat.inj, congrArg _⟩, toNat_add_ofNat, toNat_sub]
  simp only [UInt32.size] at *
  omega

theorem sub_add_ofNat (nonce : UInt32) {offset : Nat} (small : offset < UInt32.size) :
    (nonce + UInt32.ofNat offset - nonce).toNat = offset :=
  (add_ofNat_eq_iff nonce _ small).mp rfl

/-- A list of distinct `uint32_t` values has at most 2^32 of them. -/
theorem length_le_of_nodup {values : List UInt32} (distinct : values.Nodup) :
    values.length ≤ UInt32.size := by
  have numbers : (values.map UInt32.toNat).Nodup :=
    distinct.map fun _ _ same => UInt32.toNat.inj same
  have bounded : values.map UInt32.toNat ⊆ List.range UInt32.size := fun value member => by
    obtain ⟨v, -, rfl⟩ := List.mem_map.mp member
    exact List.mem_range.mpr v.toNat_lt_size
  simpa using (numbers.subperm bounded).length_le

namespace OclVerthashRunner

/-- The build option for the vendor's platform, appended to `m_options`. -/
def vendorOption : OclVendor → String
  | .nvidia => " -DPLATFORM=OPENCL_PLATFORM_NVIDIA"
  | .amd => " -DPLATFORM=OPENCL_PLATFORM_AMD"
  | .other => ""

/-- The constructor, after `OclBaseRunner` has set `m_intensity` and `m_options`.  The dataset
members keep their initialisers until `loadVerthashData()`. -/
def construct (data : OclLaunchData) (baseOptions : String) : OclVerthashRunner where
  intensity := data.intensity
  workGroupSize := Opencl.workGroupSize data.worksize
  supported := workGroupSize_supported data.worksize
  options := baseOptions ++ vendorOption data.vendor
  verthashData := false
  verthashDataSize := 0
  verthashBitmask := 0

/-- `processedHashes()`. -/
def processedHashes (r : OclVerthashRunner) : Nat := r.intensity

/-- `global_work_size` in `run`. -/
def globalWorkSize (r : OclVerthashRunner) : Nat := r.intensity - r.intensity % r.workGroupSize

/-- The device buffers `run` names. -/
inductive Buffer where
  | input
  | output
  | verthashData
  deriving DecidableEq, Repr

/-- A kernel argument: a buffer, or a 32-bit or 64-bit value. -/
inductive KernelArg where
  | buffer (buffer : Buffer)
  | uint32 (value : UInt32)
  | uint64 (value : UInt64)
  deriving DecidableEq, Repr

/-- Where a write to a device buffer copies from: the header at `m_blob`, a zero word, or the
dataset at the wrapper's data pointer. -/
inductive Source where
  | blob
  | zero
  | dataset (data : Nat)
  deriving DecidableEq, Repr

/-- The OpenCL calls the runner makes, with the sizes in bytes. -/
inductive Command where
  | createBuffer (buffer : Buffer) (size : Nat)
  | release (buffer : Buffer)
  | enqueueWriteBuffer (buffer : Buffer) (size : Nat) (source : Source)
  | setKernelArg (index : Nat) (arg : KernelArg)
  | enqueueNDRangeKernel (globalWorkOffset globalWorkSize localWorkSize : Nat)
  | enqueueReadBuffer (buffer : Buffer) (size : Nat)
  deriving DecidableEq, Repr

/-- The global ids a command launches: `global_work_size` of them from the offset. -/
def Command.workItems : Command → List Nat
  | .enqueueNDRangeKernel offset global _ => List.range' offset global
  | _ => []

/-- What `run` copies into `hashOutput`: the count at `hashOutput[0xFF]`, at most 15, and that
many found nonces from `hashOutput[0]`. -/
structure Results where
  count : UInt32
  nonces : List UInt32
  deriving DecidableEq, Repr

/-- `run(nonce, nonce_offset, hashOutput)`, with `ret` the code `clEnqueueNDRangeKernel`
returns and `output` the 16 words the kernel left in `m_output`.  A failed launch throws
`std::runtime_error`, here the error code; the header is `BLOB_SIZE = 80` bytes. -/
def run (r : OclVerthashRunner) (nonce : UInt32) (ret : Int) (output : Fin 16 → UInt32) :
    List Command × Except Int Results :=
  let launch := [.enqueueWriteBuffer .input 80 .blob, .enqueueWriteBuffer .output 4 .zero,
    .setKernelArg 0 (.buffer .verthashData), .setKernelArg 1 (.buffer .input),
    .setKernelArg 2 (.uint32 r.verthashBitmask), .setKernelArg 3 (.uint32 nonce),
    .setKernelArg 4 (.buffer .output),
    .enqueueNDRangeKernel nonce.toNat r.globalWorkSize r.workGroupSize]
  if ret ≠ 0 then (launch, .error ret)
  else
    let count : UInt32 := if output 0 > 15 then 15 else output 0
    (launch ++ [.enqueueReadBuffer .output 64],
      .ok ⟨count, (List.ofFn fun i : Fin 15 => output i.succ).take count.toNat⟩)

/-! ## The launch -/

variable (r : OclVerthashRunner)

/-- Every `run` launches `global_work_size` work items from the nonce, whatever the kernel
returns. -/
theorem run_workItems (nonce : UInt32) (ret : Int) (output : Fin 16 → UInt32) :
    (run r nonce ret output).1.flatMap Command.workItems = List.range' nonce.toNat r.globalWorkSize := by
  unfold run
  split <;> simp [Command.workItems]

/-- The launch is a whole number of work groups, short of `processedHashes()` by the remainder
of the intensity. -/
theorem globalWorkSize_add_mod :
    r.globalWorkSize + r.intensity % r.workGroupSize = r.processedHashes ∧
      r.workGroupSize ∣ r.globalWorkSize :=
  ⟨Nat.sub_add_cancel (Nat.mod_le _ _), Nat.dvd_sub_mod _⟩

theorem globalWorkSize_eq_iff : r.globalWorkSize = r.processedHashes ↔ r.workGroupSize ∣ r.intensity := by
  rw [Nat.dvd_iff_mod_eq_zero]
  have := (globalWorkSize_add_mod r).1
  omega

/-- At intensity 1000 `run` launches 768 work items from its nonce while `processedHashes()`
reports 1000: with worksize 256, and with the worksize 100, which the kernel does not support,
so that the constructor falls back to 256 although the intensity is a multiple of the worksize. -/
theorem run_counts_unlaunched_hashes :
    ((run (construct ⟨1000, 256, .amd⟩ "") 0 0 fun _ => 0).1.flatMap Command.workItems =
        List.range' 0 768 ∧
      (construct ⟨1000, 256, .amd⟩ "").processedHashes = 1000) ∧
    ((run (construct ⟨1000, 100, .amd⟩ "") 0 0 fun _ => 0).1.flatMap Command.workItems =
        List.range' 0 768 ∧
      (construct ⟨1000, 100, .amd⟩ "").processedHashes = 1000) :=
  ⟨⟨run_workItems _ 0 0 _, rfl⟩, ⟨run_workItems _ 0 0 _, rfl⟩⟩

/-! ## Rounds -/

/-- The offsets from the first nonce of the ids consecutive rounds launch, counted without
wrapping: `global_work_size` from each round's offset, which advances by `processedHashes()`. -/
def roundOffsets (start : Nat) : Nat → List Nat
  | 0 => []
  | rounds + 1 =>
    List.range' start r.globalWorkSize ++ roundOffsets (start + r.processedHashes) rounds

/-- The nonces consecutive rounds hash.  `OclWorker` is not under src/; as the runner's contract
has it, each round calls `run(nonce)` with the current `uint32_t` nonce, which launches
`global_work_size` ids from it (`run_workItems`), and then advances the nonce by
`processedHashes()` in `uint32_t` arithmetic, which wraps at 2^32.  A work item hashes its
global id as a 32-bit nonce (the kernel is not under src/). -/
def roundNonces (nonce : UInt32) : Nat → List UInt32
  | 0 => []
  | rounds + 1 =>
    (List.range' nonce.toNat r.globalWorkSize).map UInt32.ofNat ++
      roundNonces (nonce + UInt32.ofNat r.processedHashes) rounds

/-- An offset is launched in some round exactly when it is counted and its offset in its round is
below `global_work_size`. -/
theorem mem_roundOffsets {start rounds n : Nat} :
    n ∈ r.roundOffsets start rounds ↔ start ≤ n ∧ n < start + rounds * r.processedHashes ∧
      (n - start) % r.processedHashes < r.globalWorkSize := by
  induction rounds generalizing start with
  | zero => simp only [roundOffsets, List.not_mem_nil, false_iff]; omega
  | succ rounds inductionHypothesis =>
    have short := (globalWorkSize_add_mod r).1
    rw [roundOffsets, List.mem_append, List.mem_range'_1, inductionHypothesis, Nat.succ_mul]
    by_cases first : n < start + r.processedHashes
    · by_cases after : start ≤ n
      · rw [Nat.mod_eq_of_lt (by omega : n - start < r.processedHashes)]
        omega
      · omega
    · rw [Nat.mod_eq_sub_mod (by omega : r.processedHashes ≤ n - start),
        show n - start - r.processedHashes = n - (start + r.processedHashes) by omega]
      omega

theorem roundOffsets_nodup (start rounds : Nat) : (r.roundOffsets start rounds).Nodup := by
  induction rounds generalizing start with
  | zero => exact List.nodup_nil
  | succ rounds inductionHypothesis =>
    rw [roundOffsets, List.nodup_append]
    refine ⟨List.nodup_range' _ _, inductionHypothesis _, fun n first later => ?_⟩
    have := (globalWorkSize_add_mod r).1
    rw [List.mem_range'_1] at first
    have := (mem_roundOffsets r).mp later
    omega

theorem length_roundOffsets (start rounds : Nat) :
    (r.roundOffsets start rounds).length = rounds * r.globalWorkSize := by
  induction rounds generalizing start with
  | zero => simp [roundOffsets]
  | succ rounds inductionHypothesis =>
    rw [roundOffsets, List.length_append, List.length_range', inductionHypothesis, Nat.succ_mul]
    omega

/-- The nonces of consecutive rounds are the first nonce plus the offsets, in `uint32_t`. -/
theorem roundNonces_shift (nonce : UInt32) (start rounds : Nat) :
    r.roundNonces (nonce + UInt32.ofNat start) rounds =
      (r.roundOffsets start rounds).map (nonce + UInt32.ofNat ·) := by
  induction rounds generalizing start with
  | zero => rfl
  | succ rounds inductionHypothesis =>
    have advanced : nonce + UInt32.ofNat start + UInt32.ofNat r.processedHashes =
        nonce + UInt32.ofNat (start + r.processedHashes) :=
      UInt32.toNat.inj (by simp only [toNat_add_ofNat, UInt32.size]; omega)
    have launched : (List.range' (nonce + UInt32.ofNat start).toNat r.globalWorkSize).map
        UInt32.ofNat = (List.range' start r.globalWorkSize).map (nonce + UInt32.ofNat ·) := by
      simp only [List.range'_eq_map_range, List.map_map]
      congr 1
      funext j
      exact UInt32.toNat.inj
        (by simp only [Function.comp, toNat_ofNat, toNat_add_ofNat, UInt32.size]; omega)
    rw [roundNonces, roundOffsets, List.map_append, advanced, inductionHypothesis, launched]

theorem roundNonces_eq (nonce : UInt32) (rounds : Nat) :
    r.roundNonces nonce rounds = (r.roundOffsets 0 rounds).map (nonce + UInt32.ofNat ·) := by
  have unmoved : nonce + UInt32.ofNat 0 = nonce := UInt32.toNat.inj <| by
    have := nonce.toNat_lt_size
    rw [toNat_add_ofNat]
    simp only [UInt32.size] at *
    omega
  rw [← roundNonces_shift, unmoved]

/-- While the counted nonces do not wrap past the first one, a nonce is hashed exactly when its
distance from the first nonce in `uint32_t` is counted and its offset in its round is below
`global_work_size`. -/
theorem mem_roundNonces {nonce : UInt32} {rounds : Nat}
    (unwrapped : rounds * r.processedHashes ≤ UInt32.size) (n : UInt32) :
    n ∈ r.roundNonces nonce rounds ↔ (n - nonce).toNat < rounds * r.processedHashes ∧
      (n - nonce).toNat % r.processedHashes < r.globalWorkSize := by
  rw [roundNonces_eq, List.mem_map]
  constructor
  · rintro ⟨offset, launched, rfl⟩
    obtain ⟨-, counted, inRound⟩ := (mem_roundOffsets r).mp launched
    rw [sub_add_ofNat nonce (Nat.lt_of_lt_of_le (by omega) unwrapped)]
    exact ⟨by omega, by simpa using inRound⟩
  · rintro ⟨counted, inRound⟩
    exact ⟨_, (mem_roundOffsets r).mpr ⟨Nat.zero_le _, by omega, by simpa using inRound⟩,
      (add_ofNat_eq_iff nonce n (n - nonce).toNat_lt_size).mpr rfl⟩

theorem length_roundNonces (nonce : UInt32) (rounds : Nat) :
    (r.roundNonces nonce rounds).length = rounds * r.globalWorkSize := by
  rw [roundNonces_eq, List.length_map, length_roundOffsets]

/-- While the counted nonces do not wrap past the first one, no nonce is hashed twice. -/
theorem roundNonces_nodup {nonce : UInt32} {rounds : Nat}
    (unwrapped : rounds * r.processedHashes ≤ UInt32.size) : (r.roundNonces nonce rounds).Nodup := by
  rw [roundNonces_eq]
  refine (roundOffsets_nodup r 0 rounds).map_on fun first launched second launched' same => ?_
  have := ((mem_roundOffsets r).mp launched).2.1
  have := ((mem_roundOffsets r).mp launched').2.1
  rw [← sub_add_ofNat nonce (Nat.lt_of_lt_of_le (by omega : first < _) unwrapped), same,
    sub_add_ofNat nonce (Nat.lt_of_lt_of_le (by omega : second < _) unwrapped)]

/-- While the counted nonces do not wrap past the first one, every counted nonce is hashed exactly
when there are no rounds or the work-group size divides the intensity. -/
theorem roundNonces_cover_iff {nonce : UInt32} {rounds : Nat}
    (unwrapped : rounds * r.processedHashes ≤ UInt32.size) :
    (∀ n : UInt32, (n - nonce).toNat < rounds * r.processedHashes →
      n ∈ r.roundNonces nonce rounds) ↔ rounds = 0 ∨ r.workGroupSize ∣ r.intensity := by
  have short := (globalWorkSize_add_mod r).1
  constructor
  · intro covered
    by_cases none : rounds = 0
    · exact .inl none
    refine .inr ((globalWorkSize_eq_iff r).mp ?_)
    by_contra skipped
    have counted : r.processedHashes ≤ rounds * r.processedHashes :=
      Nat.le_mul_of_pos_left _ (Nat.pos_of_ne_zero none)
    have offset := sub_add_ofNat nonce
      (Nat.lt_of_lt_of_le (by omega : r.globalWorkSize < rounds * r.processedHashes) unwrapped)
    have launched := (mem_roundNonces r unwrapped _).mp
      (covered (nonce + UInt32.ofNat r.globalWorkSize) (by rw [offset]; omega))
    rw [offset, Nat.mod_eq_of_lt (by omega)] at launched
    omega
  · rintro (none | divides) n counted
    · rw [none, Nat.zero_mul] at counted; omega
    · have whole := (globalWorkSize_eq_iff r).mpr divides
      have positive : 0 < r.processedHashes :=
        Nat.pos_of_ne_zero fun zero => by rw [zero, Nat.mul_zero] at counted; omega
      exact (mem_roundNonces r unwrapped n).mpr ⟨counted, by rw [whole]; exact Nat.mod_lt _ positive⟩

/-- Over any number of rounds from any nonce the miner counts `processedHashes()` nonces a round
and the kernel hashes `global_work_size` of them, `m_intensity % m_workGroupSize` fewer.  While
the counted nonces do not wrap past the first one (`rounds * processedHashes() ≤ 2^32`), no
nonce is hashed twice, a nonce is hashed exactly when its distance from the first nonce in
`uint32_t` is counted and its offset in its round is below `global_work_size`, and every counted
nonce is hashed exactly when there are no rounds or the work-group size divides the intensity.
Once more nonces are hashed than a `uint32_t` holds, some nonce is hashed twice. -/
theorem rounds_skip_unlaunched_nonces (nonce : UInt32) (rounds : Nat) :
    (r.roundNonces nonce rounds).length + rounds * (r.intensity % r.workGroupSize) =
        rounds * r.processedHashes ∧
      (rounds * r.processedHashes ≤ UInt32.size →
        (r.roundNonces nonce rounds).Nodup ∧
        (∀ n : UInt32, n ∈ r.roundNonces nonce rounds ↔
          (n - nonce).toNat < rounds * r.processedHashes ∧
            (n - nonce).toNat % r.processedHashes < r.globalWorkSize) ∧
        ((∀ n : UInt32, (n - nonce).toNat < rounds * r.processedHashes →
            n ∈ r.roundNonces nonce rounds) ↔ rounds = 0 ∨ r.workGroupSize ∣ r.intensity)) ∧
      (UInt32.size < rounds * r.globalWorkSize → ¬ (r.roundNonces nonce rounds).Nodup) := by
  refine ⟨by rw [length_roundNonces, ← Nat.mul_add, (globalWorkSize_add_mod r).1],
    fun unwrapped => ⟨roundNonces_nodup r unwrapped, mem_roundNonces r unwrapped,
      roundNonces_cover_iff r unwrapped⟩, fun crowded distinct => ?_⟩
  have := length_le_of_nodup distinct
  rw [length_roundNonces] at this
  omega

/-- Intensity 1000 with work-group size 256, two rounds from 500 below the top of `uint32_t`: the
second round's nonce wraps to 500, and no nonce is hashed twice. -/
theorem rounds_skip_unlaunched_nonces_across_wrap :
    2 * (construct ⟨1000, 256, .amd⟩ "").processedHashes ≤ UInt32.size ∧
      ((construct ⟨1000, 256, .amd⟩ "").roundNonces 4294966796 2).Nodup :=
  have unwrapped : 2 * (construct ⟨1000, 256, .amd⟩ "").processedHashes ≤ UInt32.size := by
    decide
  ⟨unwrapped, ((rounds_skip_unlaunched_nonces _ 4294966796 2).2.1 unwrapped).1⟩

end OclVerthashRunner

end Opencl
end XMiner
