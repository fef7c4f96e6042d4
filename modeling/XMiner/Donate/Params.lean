import Mathlib.Data.List.Basic

namespace XMiner
namespace Donate

/-!
# The login parameters of the donation strategy

On every login `DonateStrategy::setParams` adds to the JSON params the miner's algorithms with
the current one first, the difficulty and height of the last job, and its seed in hex when there
is one.  The array is built from a copy of `m_controller->miner()->algorithms()`: `std::find`
gives the index of the first entry equal to `m_algorithm`, or the size when there is none, and
`std::swap` exchanges that entry with the first when the index is in bounds and not 0.

Algorithms are any type with decidable equality, compared as `Algorithm::operator==` compares
their ids, and written into the array by `name`, as `Algorithm::name()` writes them.  Whatever
the list and wherever the current algorithm stands in it (absent, first, last or repeated), the
array is a permutation of the list's names, it starts with the current algorithm when the list
holds it, and it is the list unchanged when it does not.
-/

/-- The JSON values `setParams` adds. -/
inductive Value where
  | array (items : List String)
  | uint64 (value : UInt64)
  | string (text : String)
  deriving DecidableEq, Repr

/-- Modelled from the spec: `Cvt::toHex` is not under src/.  Two lowercase hex digits a byte. -/
def toHex (data : List UInt8) : String :=
  String.mk (data.flatMap fun byte =>
    [Nat.digitChar (byte.toNat / 16), Nat.digitChar (byte.toNat % 16)])

/-- The members `setParams` reads, as `update()` copies them from the last job. -/
structure JobMembers (Algorithm : Type) where
  algorithm : Algorithm
  diff : UInt64
  height : UInt64
  seed : List UInt8
  deriving DecidableEq, Repr

section SetParams

variable {Algorithm : Type}

/-- `std::swap(algorithms[0], algorithms[index])`. -/
def swapFront (algorithms : List Algorithm) (index : Nat) (inBounds : index < algorithms.length) :
    List Algorithm :=
  (algorithms.set 0 (algorithms.get ⟨index, inBounds⟩)).set index
    (algorithms.get ⟨0, Nat.lt_of_le_of_lt (Nat.zero_le index) inBounds⟩)

/-! ## The swap -/

theorem swapFront_cons (first : Algorithm) (rest : List Algorithm) (k : Nat)
    (inBounds : k + 1 < (first :: rest).length) :
    swapFront (first :: rest) (k + 1) inBounds =
      rest.get ⟨k, Nat.lt_of_succ_lt_succ inBounds⟩ :: rest.set k first := by
  simp [swapFront]

/-- Putting the entry at `k` in front and `first` in its place permutes `first :: rest`. -/
theorem perm_get_cons_set (first : Algorithm) :
    ∀ (rest : List Algorithm) (k : Nat) (inBounds : k < rest.length),
      (rest.get ⟨k, inBounds⟩ :: rest.set k first).Perm (first :: rest)
  | _ :: _, 0, _ => .swap _ _ _
  | second :: rest, k + 1, inBounds =>
    have inner := perm_get_cons_set first rest k (Nat.lt_of_succ_lt_succ inBounds)
    (List.Perm.swap second _ _).trans ((inner.cons second).trans (.swap first second rest))

variable [DecidableEq Algorithm]

/-- The copy of the miner's algorithms after the `std::find` and `std::swap` of `setParams`. -/
def reorder (algorithms : List Algorithm) (algorithm : Algorithm) : List Algorithm :=
  let index := algorithms.indexOf algorithm
  if inBounds : index > 0 ∧ index < algorithms.length then swapFront algorithms index inBounds.2
  else algorithms

/-- `setParams`: the params with the members it adds, in the order it adds them. -/
def setParams (name : Algorithm → String) (algorithms : List Algorithm)
    (members : JobMembers Algorithm) (params : List (String × Value)) : List (String × Value) :=
  params ++ [("algo", .array ((reorder algorithms members.algorithm).map name)),
    ("diff", .uint64 members.diff), ("height", .uint64 members.height)] ++
    if members.seed.isEmpty then [] else [("seed_hash", .string (toHex members.seed))]

theorem reorder_perm (algorithms : List Algorithm) (algorithm : Algorithm) :
    (reorder algorithms algorithm).Perm algorithms := by
  dsimp only [reorder]
  split
  · rename_i inBounds
    cases algorithms with
    | nil => simp at inBounds
    | cons first rest =>
      obtain ⟨k, hk⟩ := Nat.exists_eq_add_of_lt inBounds.1
      simp only [Nat.zero_add] at hk
      simp only [hk, swapFront_cons]
      exact perm_get_cons_set first rest k _
  · exact .refl _

/-- When the list holds the algorithm, the reordered copy starts with it: `std::find` stopped at
an entry equal to it, and that entry is first or is swapped to the front. -/
theorem reorder_head {algorithms : List Algorithm} {algorithm : Algorithm}
    (held : algorithm ∈ algorithms) : (reorder algorithms algorithm).head? = some algorithm := by
  have found := List.indexOf_lt_length.mpr held
  have named := List.indexOf_get found
  cases algorithms with
  | nil => simp at held
  | cons first rest =>
    dsimp only [reorder]
    split
    · rename_i inBounds
      obtain ⟨k, hk⟩ := Nat.exists_eq_add_of_lt inBounds.1
      simp only [Nat.zero_add] at hk
      simp only [hk, swapFront_cons, List.head?_cons, Option.some.injEq]
      simpa [hk] using named
    · have first_found : (first :: rest).indexOf algorithm = 0 := by omega
      simpa [first_found] using named

theorem reorder_of_not_mem {algorithms : List Algorithm} {algorithm : Algorithm}
    (absent : algorithm ∉ algorithms) : reorder algorithms algorithm = algorithms := by
  dsimp only [reorder]
  rw [dif_neg (by rw [List.indexOf_of_not_mem absent]; omega)]

/-! ## What `setParams` adds -/

/-- `setParams` adds `algo`, `diff` and `height` after the params it is given, then `seed_hash`
exactly when the seed is not empty. -/
theorem setParams_keys (name : Algorithm → String) (algorithms : List Algorithm)
    (members : JobMembers Algorithm) (params : List (String × Value)) :
    (setParams name algorithms members params).map Prod.fst =
      params.map Prod.fst ++ ["algo", "diff", "height"] ++
        if members.seed.isEmpty then [] else ["seed_hash"] := by
  unfold setParams; split <;> simp

/-- For every list of the miner's algorithms, repeats allowed, and every current algorithm, the
`algo` array `setParams` adds is a permutation of the list's names; it starts with the current
algorithm whenever the list holds it, and it is the list unchanged when the list does not. -/
theorem setParams_algo_permutation (name : Algorithm → String) (algorithms : List Algorithm)
    (members : JobMembers Algorithm) (params : List (String × Value)) :
    ∃ names rest, setParams name algorithms members params =
        params ++ ("algo", .array names) :: rest ∧
      names.Perm (algorithms.map name) ∧
      (members.algorithm ∈ algorithms → names.head? = some (name members.algorithm)) ∧
      (members.algorithm ∉ algorithms → names = algorithms.map name) :=
  ⟨(reorder algorithms members.algorithm).map name,
    [("diff", .uint64 members.diff), ("height", .uint64 members.height)] ++
      if members.seed.isEmpty then [] else [("seed_hash", .string (toHex members.seed))],
    by simp [setParams], (reorder_perm _ _).map name,
    fun held => by rw [List.head?_map, reorder_head held]; rfl,
    fun absent => by rw [reorder_of_not_mem absent]⟩

/-- The current algorithm trades places with the first entry; the others keep theirs. -/
example : reorder [0, 1, 2, 3] 2 = [2, 1, 0, 3] := rfl

end SetParams

end Donate
end XMiner
