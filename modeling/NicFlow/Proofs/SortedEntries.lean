import NicFlow.Sorted

/-! Sorted lists of entries seen as finite maps. A lookup decides membership because
every key occurs once. -/

namespace NicFlow

theorem Ordered.keys_nodup {κ α : Type} [LT κ] [Std.Irrefl (· < · : κ → κ → Prop)]
    {entries : List (κ × α)} (ordered : Ordered entries) : (entries.map Prod.fst).Nodup := by
  apply List.pairwise_map.mpr
  apply List.Pairwise.imp _ ordered
  intro left right smaller same
  rw [same] at smaller
  exact Std.Irrefl.irrefl _ smaller

theorem Ordered.mem_before_iff {κ α : Type} [LT κ] [Std.Irrefl (· < · : κ → κ → Prop)]
    [Trans (· < · : κ → κ → Prop) (· < · : κ → κ → Prop) (· < · : κ → κ → Prop)]
    {before after : List (κ × α)} {entry other : κ × α} (ordered : Ordered (before ++ entry :: after)) :
    other ∈ before ↔ other ∈ before ++ entry :: after ∧ other.1 < entry.1 := by
  obtain ⟨_, later, smaller⟩ := List.pairwise_append.mp ordered
  constructor
  · exact fun member => ⟨List.mem_append_left _ member, smaller other member entry List.mem_cons_self⟩
  · rintro ⟨member, less⟩
    rcases List.mem_append.mp member with inside | behind
    · exact inside
    · rcases List.mem_cons.mp behind with rfl | behind
      · exact absurd less (Std.Irrefl.irrefl _)
      · have greater := (List.pairwise_cons.mp later).1 other behind
        exact absurd (Trans.trans less greater) (Std.Irrefl.irrefl _)

variable {κ α : Type} [DecidableEq κ] {entries : List (κ × α)}

theorem lookup_cons_ite (first other : κ) (held : α) :
    ((first, held) :: entries).lookup other =
      if other = first then some held else entries.lookup other := by
  by_cases same : other = first
  · subst same
    simp
  · have test : (other == first) = false := beq_eq_false_iff_ne.mpr same
    simp only [List.lookup_cons, test, same, ↓reduceIte]

theorem lookup_insertSorted [LT κ] [DecidableLT κ] (key other : κ) (value : α) :
    (insertSorted key value entries).lookup other =
      if other = key then some value else entries.lookup other := by
  induction entries with
  | nil => exact lookup_cons_ite key other value
  | cons head rest ih =>
    simp only [insertSorted]
    split
    · exact lookup_cons_ite key other value
    · split
      next equal =>
        subst equal
        rw [lookup_cons_ite, lookup_cons_ite]
        split <;> rfl
      next different =>
        rw [lookup_cons_ite, lookup_cons_ite, ih]
        by_cases same : other = head.1
        · subst same
          simp [Ne.symm different]
        · simp [same]

theorem lookup_eraseKey (key other : κ) :
    (eraseKey key entries).lookup other = if other = key then none else entries.lookup other := by
  induction entries with
  | nil => simp [eraseKey]
  | cons head rest ih =>
    rw [lookup_cons_ite]
    by_cases erased : head.1 = key
    · have dropped : eraseKey key (head :: rest) = eraseKey key rest := by simp [eraseKey, erased]
      rw [dropped, ih, erased]
      split <;> rfl
    · have kept : eraseKey key (head :: rest) = head :: eraseKey key rest := by
        simp [eraseKey, erased]
      rw [kept, lookup_cons_ite, ih]
      by_cases same : other = head.1
      · subst same
        simp [erased]
      · simp [same]

private theorem mem_of_lookup_eq_some {key : κ} {value : α} (found : entries.lookup key = some value) :
    (key, value) ∈ entries := by
  obtain ⟨before, after, rfl, _⟩ := List.lookup_eq_some_iff.mp found
  simp

theorem mem_iff_lookup_eq_some (distinct : (entries.map Prod.fst).Nodup) {key : κ} {value : α} :
    (key, value) ∈ entries ↔ entries.lookup key = some value := by
  refine ⟨fun member => ?_, mem_of_lookup_eq_some⟩
  induction entries with
  | nil => cases member
  | cons head rest ih =>
    rw [List.map_cons, List.nodup_cons] at distinct
    rw [lookup_cons_ite]
    rcases List.mem_cons.mp member with rfl | inside
    · simp
    · have different : key ≠ head.1 := by
        rintro rfl
        exact distinct.1 (List.mem_map.mpr ⟨_, inside, rfl⟩)
      simpa only [different, ↓reduceIte] using ih distinct.2 inside

/-- A new key adds one entry and touches no other. -/
theorem perm_insertSorted [LT κ] [DecidableLT κ] {key : κ} (value : α)
    (absent : key ∉ entries.map Prod.fst) :
    (insertSorted key value entries).Perm ((key, value) :: entries) := by
  induction entries with
  | nil => exact List.Perm.refl _
  | cons head rest ih =>
    rw [List.map_cons, List.mem_cons, not_or] at absent
    simp only [insertSorted, absent.1, ↓reduceIte]
    split
    · exact List.Perm.refl _
    · exact ((ih absent.2).cons head).trans (List.Perm.swap ..)

theorem filter_insertSorted [LT κ] [DecidableLT κ] {key : κ} {value : α} {keep : κ × α → Bool}
    (dropped : keep (key, value) = false) (absent : key ∉ entries.map Prod.fst) :
    (insertSorted key value entries).filter keep = entries.filter keep := by
  induction entries with
  | nil => simp [insertSorted, dropped]
  | cons head rest ih =>
    rw [List.map_cons, List.mem_cons, not_or] at absent
    simp only [insertSorted, absent.1, ↓reduceIte]
    split
    · rw [List.filter_cons_of_neg (by simp [dropped])]
    · rw [List.filter_cons, List.filter_cons, ih absent.2]

theorem filter_insertSorted_of_key [LT κ] [DecidableLT κ] {key : κ} {value : α} (keep : κ → Bool)
    (dropped : keep key = false) :
    (insertSorted key value entries).filter (fun entry => keep entry.1) =
      entries.filter fun entry => keep entry.1 := by
  induction entries with
  | nil => simp [insertSorted, dropped]
  | cons head rest ih =>
    simp only [insertSorted]
    split
    · rw [List.filter_cons_of_neg (by simp [dropped])]
    · split
      next same =>
        subst same
        rw [List.filter_cons_of_neg (by simp [dropped]), List.filter_cons_of_neg (by simp [dropped])]
      · rw [List.filter_cons, List.filter_cons, ih]

theorem eraseKey_of_not_mem {key : κ} (absent : key ∉ entries.map Prod.fst) :
    eraseKey key entries = entries := by
  apply List.filter_eq_self.mpr
  intro entry member
  apply decide_eq_true
  rintro rfl
  exact absent (List.mem_map_of_mem member)

/-- Entries with different keys are only brought into another order. -/
theorem perm_sortByKey [LT κ] [DecidableLT κ] (distinct : (entries.map Prod.fst).Nodup) :
    (sortByKey entries).Perm entries := by
  have perm : ∀ (rest sorted : List (κ × α)), ((sorted ++ rest).map Prod.fst).Nodup →
      (rest.foldl (fun sorted entry => insertSorted entry.1 entry.2 sorted) sorted).Perm (sorted ++ rest) := by
    intro rest
    induction rest with
    | nil =>
      intro sorted _
      rw [List.append_nil]
      exact List.Perm.refl _
    | cons head rest ih =>
      intro sorted distinct
      have apart := List.perm_middle.map Prod.fst |>.nodup_iff.mp distinct
      have absent : head.1 ∉ sorted.map Prod.fst := by
        intro present
        apply (List.nodup_cons.mp apart).1
        rw [List.map_append]
        exact List.mem_append_left _ present
      have inserted := (perm_insertSorted head.2 absent).append_right rest
      have moved := inserted.trans List.perm_middle.symm
      exact (ih _ ((moved.map Prod.fst).nodup_iff.mpr distinct)).trans moved
  exact perm entries [] distinct

theorem perm_eraseKey {key : κ} {value : α} (distinct : (entries.map Prod.fst).Nodup)
    (member : (key, value) ∈ entries) : entries.Perm ((key, value) :: eraseKey key entries) := by
  induction entries with
  | nil => cases member
  | cons head rest ih =>
    rw [List.map_cons, List.nodup_cons] at distinct
    rcases List.mem_cons.mp member with rfl | inside
    · have dropped : eraseKey key ((key, value) :: rest) = eraseKey key rest := by simp [eraseKey]
      rw [dropped, eraseKey_of_not_mem distinct.1]
    · have different : head.1 ≠ key := by
        rintro rfl
        exact distinct.1 (List.mem_map.mpr ⟨_, inside, rfl⟩)
      have kept : eraseKey key (head :: rest) = head :: eraseKey key rest := by
        simp [eraseKey, different]
      rw [kept]
      exact ((ih distinct.2 inside).cons head).trans (List.Perm.swap ..)

end NicFlow
