/-! Lists of entries in increasing order of their keys, each key once. -/

namespace NicFlow

section

variable {κ α : Type} [LT κ] [DecidableLT κ] [DecidableEq κ]

/-- Puts an entry in its place; an earlier entry of the same key is replaced. -/
def insertSorted (key : κ) (value : α) : List (κ × α) → List (κ × α)
  | [] => [(key, value)]
  | (otherKey, otherValue) :: rest =>
    if key < otherKey then (key, value) :: (otherKey, otherValue) :: rest
    else if key = otherKey then (key, value) :: rest
    else (otherKey, otherValue) :: insertSorted key value rest

/-- Sorts entries by key; of several entries with one key the last stays. -/
def sortByKey (entries : List (κ × α)) : List (κ × α) :=
  entries.foldl (fun sorted (key, value) => insertSorted key value sorted) []

end

/-- Removes the entries of a key. -/
def eraseKey {κ α : Type} [DecidableEq κ] (key : κ) (entries : List (κ × α)) : List (κ × α) :=
  entries.filter fun entry => entry.1 ≠ key

/-- Every key is smaller than those after it. -/
def Ordered {κ α : Type} [LT κ] (entries : List (κ × α)) : Prop :=
  entries.Pairwise fun left right => left.1 < right.1

namespace Ordered

variable {κ α : Type} [LT κ] {entries : List (κ × α)}

theorem nil : Ordered ([] : List (κ × α)) := List.Pairwise.nil

theorem filter (ordered : Ordered entries) (keep : κ × α → Bool) :
    Ordered (entries.filter keep) :=
  List.Pairwise.filter keep ordered

theorem eraseKey [DecidableEq κ] (ordered : Ordered entries) (key : κ) :
    Ordered (eraseKey key entries) :=
  ordered.filter _

end Ordered

section

variable {κ α : Type} [LT κ] [DecidableLT κ] [DecidableEq κ] {entries : List (κ × α)}

theorem mem_insertSorted {key : κ} {value : α} {entry : κ × α}
    (member : entry ∈ insertSorted key value entries) : entry = (key, value) ∨ entry ∈ entries := by
  induction entries with
  | nil => exact Or.inl (by simpa [insertSorted] using member)
  | cons head rest ih =>
    simp only [insertSorted] at member
    split at member
    · exact List.mem_cons.mp member
    · split at member
      · rcases List.mem_cons.mp member with same | inside
        · exact Or.inl same
        · exact Or.inr (List.mem_cons_of_mem head inside)
      · rcases List.mem_cons.mp member with rfl | inside
        · exact Or.inr List.mem_cons_self
        · exact (ih inside).imp_right (List.mem_cons_of_mem head)

/-- Insertion keeps the order if the keys are ordered strictly and totally. -/
theorem Ordered.insertSorted [Trans (· < · : κ → κ → Prop) (· < · : κ → κ → Prop) (· < · : κ → κ → Prop)]
    [Std.Trichotomous (· < · : κ → κ → Prop)] (ordered : Ordered entries) (key : κ) (value : α) :
    Ordered (insertSorted key value entries) := by
  induction entries with
  | nil => exact List.pairwise_singleton ..
  | cons head rest ih =>
    obtain ⟨later, ordered⟩ := List.pairwise_cons.mp ordered
    simp only [NicFlow.insertSorted]
    split
    next smaller =>
      refine List.pairwise_cons.mpr ⟨?_, List.pairwise_cons.mpr ⟨later, ordered⟩⟩
      intro entry member
      rcases List.mem_cons.mp member with rfl | inside
      · exact smaller
      · exact Trans.trans smaller (later entry inside)
    next notSmaller =>
      split
      next same =>
        subst same
        exact List.pairwise_cons.mpr ⟨later, ordered⟩
      next different =>
        refine List.pairwise_cons.mpr ⟨?_, ih ordered⟩
        intro entry member
        rcases mem_insertSorted member with rfl | inside
        · apply Classical.byContradiction
          intro notLarger
          exact different (Std.Trichotomous.trichotomous key head.1 notSmaller notLarger)
        · exact later entry inside

end

end NicFlow
