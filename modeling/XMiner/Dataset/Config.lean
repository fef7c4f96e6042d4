import Mathlib.Data.String.Basic
import XMiner.Dataset.Startup

namespace XMiner
namespace Dataset

/-!
# The `verthash` section of the config

`VerthashConfig::read` takes `data-file` and `gen-data-file` from a JSON object through
`Json::getString`, which gives the first member of that name when it is a string and null
otherwise; every object sets both paths, so a member that is missing, or is not a string, clears
the path.  A value that is not an object is refused and leaves the config as it was.
`VerthashConfig::toJSON` writes an object with the paths that are not empty, `data-file` first.

So reading back what `toJSON` wrote gives the config it was written from, whatever the paths:
an empty path is omitted and reads back as empty.
-/

/-- The rapidjson values the config reads and writes, numbers held as integers. -/
inductive Json where
  | null
  | bool (value : Bool)
  | number (value : Int)
  | string (text : String)
  | array (items : List Json)
  | object (members : List (String × Json))
  deriving Repr

namespace VerthashConfig

/-- `VerthashConfig::kDataFile`. -/
def kDataFile : String :=
  "data-file"

/-- `VerthashConfig::kGenDataFile`. -/
def kGenDataFile : String :=
  "gen-data-file"

/-- `Json::getString(obj, key)`, from xmrig's `Json.cpp`, which is not under src/: the first
member named `key` when it is a string, and otherwise the null default, held as the empty
string. -/
def getString (members : List (String × Json)) (key : String) : String :=
  match members.lookup key with
  | some (.string text) => text
  | _ => ""

/-- `VerthashConfig::read(value)`: the config after it, and what it returns. -/
def read (config : VerthashConfig) : Json → VerthashConfig × Bool
  | .object members => (⟨getString members kDataFile, getString members kGenDataFile⟩, true)
  | _ => (config, false)

/-- The member `toJSON` adds for a path: `AddMember(key, path)` when the path is not empty. -/
def pathMember (key path : String) : List (String × Json) :=
  if !path.isEmpty then [(key, .string path)] else []

/-- `VerthashConfig::toJSON(doc)`: an object with each path that is not empty. -/
def toJSON (config : VerthashConfig) : Json :=
  .object (pathMember kDataFile config.dataFile ++ pathMember kGenDataFile config.genDataFile)

/-! ## Reading back what `toJSON` writes -/

theorem lookup_pathMember_other {key other : String} (different : other ≠ key) (path : String) :
    (pathMember key path).lookup other = none := by
  unfold pathMember
  split
  · simp only [List.lookup_cons, beq_false_of_ne different, List.lookup_nil]
  · rfl

/-- Members before the first one named `key` do not change what `getString` finds. -/
theorem getString_after (key : String) (first rest : List (String × Json))
    (absent : first.lookup key = none) : getString (first ++ rest) key = getString rest key := by
  simp only [getString, List.lookup_append, absent, Option.none_or]

/-- The member written for a path reads back as the path; an omitted one reads as the empty
string, which the path then is. -/
theorem getString_pathMember (key path : String) (rest : List (String × Json))
    (absent : rest.lookup key = none) : getString (pathMember key path ++ rest) key = path := by
  by_cases empty : path.isEmpty = true
  · rw [getString_after key _ rest (by simp [pathMember, empty]), getString, absent]
    exact ((String.isEmpty_iff path).mp empty).symm
  · simp [getString, pathMember, empty, List.lookup_cons]

/-- For every config, whatever its paths (empty ones included), reading back what `toJSON`
writes succeeds and gives the config itself, whatever config the reader held before. -/
theorem read_toJSON (config before : VerthashConfig) :
    read before (toJSON config) = (config, true) := by
  have distinct : kGenDataFile ≠ kDataFile := by decide
  have dataFile := getString_pathMember kDataFile config.dataFile _
    (lookup_pathMember_other distinct.symm config.genDataFile)
  have genDataFile := getString_pathMember kGenDataFile config.genDataFile [] rfl
  rw [List.append_nil, ← getString_after kGenDataFile (pathMember kDataFile config.dataFile) _
    (lookup_pathMember_other distinct config.dataFile)] at genDataFile
  rw [toJSON, read, dataFile, genDataFile]

end VerthashConfig

end Dataset
end XMiner
