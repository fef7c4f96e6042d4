import XMiner.Dataset.Wrapper

namespace XMiner
namespace Dataset

/-!
# Starting the dataset: `Vh` and `Verthash::hash`

At startup the miner calls `Vh::init(config)`.  When `gen-data-file` is set it first runs
`Verthash::generateDataFile` on that path and gives up when the generator fails; it then loads
the generated file if no `data-file` is set, and otherwise `data-file`, or `verthash.dat` when
that is empty too.  Loading is one `Verthash::init` on the singleton.  `Vh::destroy()` releases
the singleton; `Vh::isReady()` and `Vh::dataFile()` read `isValid()` and the file name.

So `Vh::init` is one step of the singleton's runs, or none when the generator fails, and what
the wrapper satisfies carries over.  From every reachable singleton it returns true exactly when
the generator did not fail and the singleton ends valid on the chosen file; it calls the loader
only on that file and only when the file is not already loaded; and a failed load leaves nothing
loaded.

`Verthash::hash` writes 32 zero bytes when no valid region is held and otherwise runs the external
`verthash_hash` on the held region.  Along every run that region is the one the loader returned
last, and every region returned before it has been freed: the hash never reads a freed region.
-/

/-- The paths `VerthashConfig` holds.  An xmrig `String` is held as its text: the code reads these
only through `isEmpty()` and `data()`, where a null string and an empty one agree. -/
structure VerthashConfig where
  dataFile : String
  genDataFile : String
  deriving DecidableEq, Repr

/-- `kDefaultDataFile`. -/
def kDefaultDataFile : String :=
  "verthash.dat"

namespace Verthash

/-! ## What one `init` leaves -/

theorem load_effects (path : String) (outcome : Option (Loaded path)) :
    (load path outcome).2 = [.load path (outcome.map Loaded.info)] := by
  cases outcome <;> rfl

/-- `init` returns whether the singleton ends valid, and a success leaves it on `path`. -/
theorem load_result (path : String) (outcome : Option (Loaded path)) :
    (load path outcome).1.2 = (load path outcome).1.1.isValid ∧
      ((load path outcome).1.2 = true → (load path outcome).1.1.info.fileName = some path) := by
  cases outcome with
  | none => exact ⟨rfl, nofun⟩
  | some region =>
    exact ⟨by simp [load, isValid, region.data_ne, region.size_pos], fun _ => region.fileName_eq⟩

/-- A reachable singleton is valid exactly when it is initialised. -/
theorem isValid_eq_initialized {vh : Verthash} (h : WellFormed vh) : vh.isValid = vh.initialized := by
  cases initialized : vh.initialized with
  | false => simp [isValid, h.zeroed initialized, VerthashInfo.zero]
  | true =>
    obtain ⟨data, size, -⟩ := h.holds initialized
    simp [isValid, data, size]

theorem init_result {vh : Verthash} (h : WellFormed vh) (path : String)
    (outcome : Option (Loaded path)) :
    (vh.init path outcome).1.2 = (vh.init path outcome).1.1.isValid ∧
      ((vh.init path outcome).1.2 = true → (vh.init path outcome).1.1.info.fileName = some path) := by
  unfold init
  split
  · rename_i holding
    split
    · rename_i same
      exact ⟨((isValid_eq_initialized h).trans holding.1).symm, fun _ => same⟩
    · exact load_result path outcome
  · exact load_result path outcome

/-- A reachable singleton that names a file holds it. -/
theorem initialized_of_fileName {vh : Verthash} (h : WellFormed vh) {path : String}
    (named : vh.info.fileName = some path) : vh.initialized = true ∧ vh.info.data ≠ 0 := by
  cases initialized : vh.initialized with
  | false => simp [h.zeroed initialized, VerthashInfo.zero] at named
  | true => exact ⟨rfl, (h.holds initialized).1⟩

/-- `init(path)` calls the loader only on `path`, and only when `path` is not loaded already. -/
theorem init_loads {vh : Verthash} (h : WellFormed vh) {path loaded : String}
    {outcome : Option (Loaded path)} {returned : Option VerthashInfo}
    (called : Effect.load loaded returned ∈ (vh.init path outcome).2) :
    loaded = path ∧ vh.info.fileName ≠ some path := by
  unfold init at called
  split at called
  · split at called
    · exact absurd called (List.not_mem_nil _)
    · rename_i other
      simp only [load_effects, List.mem_cons, List.not_mem_nil, reduceCtorEq, false_or, or_false,
        Effect.load.injEq] at called
      exact ⟨called.1, other⟩
  · rename_i notHolding
    simp only [load_effects, List.mem_singleton, Effect.load.injEq] at called
    exact ⟨called.1, fun named => notHolding (initialized_of_fileName h named)⟩

/-! ## `Verthash::hash` -/

/-- `VH_HASH_OUT_SIZE`, from `Verthash.h`, which is not under src/: the 32 bytes of a hash. -/
def hashOutSize : Nat :=
  32

/-- `Verthash::hash(input, output)`: zeros unless a valid region is held, and otherwise what
the external `verthash_hash(data, dataSize, input, output)`, here `core`, writes. -/
def hash (vh : Verthash) (core : Nat → Nat → List UInt8 → List UInt8) (input : List UInt8) :
    List UInt8 :=
  if vh.isValid then core vh.info.data vh.info.dataSize input else List.replicate hashOutSize 0

theorem hash_of_invalid {vh : Verthash} (invalid : vh.isValid = false)
    (core : Nat → Nat → List UInt8 → List UInt8) (input : List UInt8) :
    vh.hash core input = List.replicate hashOutSize 0 := by
  simp [hash, invalid]

/-- Along every run of `init()` and `release()` calls, with any loader, `hash` reads no freed
region.  Either no region is held and it writes 32 zero bytes, or it runs `verthash_hash` on the
region the loader returned last, and every region the loader returned before it has been freed,
in order. -/
theorem hash_reads_live_region {vh : Verthash} {trace : List Effect} (run : Run vh trace)
    (core : Nat → Nat → List UInt8 → List UInt8) (input : List UInt8) :
    (vh.isValid = false ∧ vh.hash core input = List.replicate hashOutSize 0) ∨
      ∃ region, returned trace = freed trace ++ [region] ∧
        vh.hash core input = core region.data region.dataSize input := by
  have valid := isValid_eq_initialized (wellFormed_of_run run)
  cases initialized : vh.initialized with
  | false =>
    rw [initialized] at valid
    exact .inl ⟨valid, hash_of_invalid valid core input⟩
  | true =>
    rw [initialized] at valid
    refine .inr ⟨vh.info, by rw [accounted_of_run run, held, if_pos initialized], ?_⟩
    rw [hash, if_pos valid]

/-- The singleton after loading `verthash.dat`: `hash` runs on the region just loaded. -/
theorem hash_reads_loaded_region :
    let loaded := singleton.init kDefaultDataFile (some (sampleRegion _))
    let core : Nat → Nat → List UInt8 → List UInt8 := fun _ _ _ => [7]
    Run loaded.1.1 ([] ++ loaded.2) ∧
      ((loaded.1.1.isValid = false ∧ loaded.1.1.hash core [] = List.replicate hashOutSize 0) ∨
        ∃ region, returned ([] ++ loaded.2) = freed ([] ++ loaded.2) ++ [region] ∧
          loaded.1.1.hash core [] = core region.data region.dataSize []) :=
  have run := Run.singleton.init kDefaultDataFile (some (sampleRegion _))
  ⟨run, hash_reads_live_region run _ _⟩

end Verthash

/-! ## `Vh` -/

namespace Vh

variable (config : VerthashConfig)

/-- The tail of `Vh::init`: load `config.dataFile()`, or `kDefaultDataFile` when it is empty. -/
def loadDataFile (vh : Verthash) (outcome : (path : String) → Option (Loaded path)) :
    (Verthash × Bool) × List Effect :=
  let dataFile := if config.dataFile.isEmpty then kDefaultDataFile else config.dataFile
  vh.init dataFile (outcome dataFile)

/-- `Vh::init(config)` on the singleton `vh`: `generated` is what `generateDataFile` returns
(0 on success) and `outcome path` what the loader does on `path`. -/
def init (generated : Int) (outcome : (path : String) → Option (Loaded path)) (vh : Verthash) :
    (Verthash × Bool) × List Effect :=
  if config.genDataFile.isEmpty = false then
    if generated ≠ 0 then ((vh, false), [])
    else if config.dataFile.isEmpty then vh.init config.genDataFile (outcome config.genDataFile)
    else loadDataFile config vh outcome
  else loadDataFile config vh outcome

/-- `Vh::destroy()`. -/
def destroy (vh : Verthash) : Verthash × List Effect :=
  vh.release

/-- `Vh::isReady()`. -/
def isReady (vh : Verthash) : Bool :=
  vh.isValid

/-- `Vh::dataFile()`: the singleton's file name, null when there is none. -/
def dataFile (vh : Verthash) : Option String :=
  vh.info.fileName

/-- The file `Vh::init` loads: `data-file`, else the generated file, else `verthash.dat`. -/
def chosen : String :=
  if config.dataFile.isEmpty then
    if config.genDataFile.isEmpty then kDefaultDataFile else config.genDataFile
  else config.dataFile

/-- The generator ran and returned an error. -/
def generatorFailed (generated : Int) : Bool :=
  !config.genDataFile.isEmpty && generated != 0

/-- `Vh::init` is a single `Verthash::init` of the chosen file, unless the generator fails. -/
theorem init_eq (generated : Int) (outcome : (path : String) → Option (Loaded path))
    (vh : Verthash) :
    init config generated outcome vh =
      if generatorFailed config generated then ((vh, false), [])
      else vh.init (chosen config) (outcome (chosen config)) := by
  unfold init loadDataFile generatorFailed chosen
  cases config.genDataFile.isEmpty <;> cases config.dataFile.isEmpty <;>
    by_cases ok : generated = 0 <;> simp [ok]

/-- What `Vh::init` guarantees of the state, result and calls `result` it gives from `vh`. -/
structure InitContract (generated : Int) (vh : Verthash)
    (result : (Verthash × Bool) × List Effect) : Prop where
  /-- It returns true exactly when the generator did not fail and the dataset ends ready on the
  chosen file. -/
  succeeds : result.1.2 = true ↔ generatorFailed config generated = false ∧
    isReady result.1.1 = true ∧ dataFile result.1.1 = some (chosen config)
  /-- A failed generator ends it with no other effect. -/
  generatorFails : generatorFailed config generated = true → result = ((vh, false), [])
  /-- A failed load leaves no dataset loaded. -/
  loadFails : generatorFailed config generated = false → result.1.2 = false →
    isReady result.1.1 = false
  /-- It loads only the chosen file, and only when that file is not loaded already. -/
  loads : ∀ path returned, Effect.load path returned ∈ result.2 →
    path = chosen config ∧ dataFile vh ≠ some (chosen config)

/-- From a well-formed singleton `Vh::init` keeps its contract. -/
theorem init_contract {vh : Verthash} (h : Verthash.WellFormed vh) (generated : Int)
    (outcome : (path : String) → Option (Loaded path)) :
    InitContract config generated vh (init config generated outcome vh) := by
  rw [init_eq]
  cases failed : generatorFailed config generated with
  | true =>
    simp only [if_true]
    exact ⟨⟨nofun, fun ⟨ran, _⟩ => absurd (failed.symm.trans ran) nofun⟩, fun _ => rfl,
      fun ran => absurd (failed.symm.trans ran) nofun,
      fun _ _ called => absurd called (List.not_mem_nil _)⟩
  | false =>
    simp only [Bool.false_eq_true, if_false]
    obtain ⟨result_eq, named⟩ := Verthash.init_result h (chosen config) (outcome (chosen config))
    refine ⟨⟨fun ok => ⟨failed, ?_, named ok⟩, fun ⟨_, ready, _⟩ => ?_⟩,
      fun ran => absurd (failed.symm.trans ran) nofun, fun _ failedLoad => ?_,
      fun _ _ called => Verthash.init_loads h called⟩
    · rw [isReady, ← result_eq]; exact ok
    · rw [result_eq]; exact ready
    · rw [isReady, ← result_eq]; exact failedLoad

end Vh

end Dataset
end XMiner
