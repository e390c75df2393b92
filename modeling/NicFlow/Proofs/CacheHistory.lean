import Mathlib.Data.List.Dedup
import Mathlib.Data.List.DropRight
import Mathlib.Data.List.Induction
import Mathlib.Data.Set.Card
import NicFlow.Proofs.CacheRecords

/-! A flow cache after any operations, told from what was asked of it. For each fingerprint the first record that
was added since its last deletion is the one that stays. -/

namespace NicFlow.FlowCache

/-- The record that an operation offers for a fingerprint. -/
def Operation.added? (fingerprint : Fingerprint) : Operation → Option FlowRecord
  | .add other record => if other = fingerprint then some record else none
  | .delete _ | .complement _ => none

/-- The record of the first addition of a fingerprint after its last deletion. -/
def firstAdded (fingerprint : Fingerprint) (operations : List Operation) : Option FlowRecord :=
  (operations.rtakeWhile (· ≠ .delete fingerprint)).findSome? (Operation.added? fingerprint)

def after (operations : List Operation) : FlowCache :=
  operations.foldl (fun cache operation => (cache.perform operation).2) .empty

def among (cache : FlowCache) (known : List Fingerprint) : List (Fingerprint × FlowRecord) :=
  known.dedup.filterMap fun fingerprint => (cache.get? fingerprint).map (Prod.mk fingerprint)

theorem add_of_held {cache : FlowCache} {fingerprint : Fingerprint} (held : cache.has fingerprint = true)
    (record : FlowRecord) : cache.add fingerprint record = cache :=
  if_pos held

private theorem get?_add_or (cache : FlowCache) (fingerprint other : Fingerprint) (record : FlowRecord) :
    (cache.add fingerprint record).get? other =
      (cache.get? other).or (if fingerprint = other then some record else none) := by
  cases held : cache.has fingerprint with
  | true =>
    obtain ⟨kept, found⟩ := Option.isSome_iff_exists.mp held
    rw [add_of_held held]
    split
    next same => rw [← same, found, Option.some_or]
    next => rw [Option.or_none]
  | false =>
    rw [get?_add held]
    by_cases same : fingerprint = other
    · rw [← same, if_pos rfl, if_pos rfl, has_eq_false_iff_get?.mp held, Option.none_or]
    · rw [if_neg same, if_neg (Ne.symm same), Option.or_none]

/-- What one operation does to the record of a fingerprint. -/
theorem get?_perform (cache : FlowCache) (operation : Operation) (fingerprint : Fingerprint) :
    (cache.perform operation).2.get? fingerprint =
      if operation = .delete fingerprint then none
      else (cache.get? fingerprint).or (operation.added? fingerprint) := by
  cases operation with
  | add other record =>
    simp only [reduceCtorEq, ↓reduceIte]
    exact get?_add_or cache other fingerprint record
  | delete other =>
    simp only [perform, Operation.delete.injEq, Operation.added?, Option.or_none, get?_delete, eq_comm]
  | complement known => simp only [perform, reduceCtorEq, ↓reduceIte, Operation.added?, Option.or_none]

private theorem firstAdded_concat (fingerprint : Fingerprint) (operations : List Operation) (operation : Operation) :
    firstAdded fingerprint (operations ++ [operation]) =
      if operation = .delete fingerprint then none
      else (firstAdded fingerprint operations).or (operation.added? fingerprint) := by
  rw [firstAdded, List.rtakeWhile_concat]
  by_cases deleted : operation = .delete fingerprint
  · simp only [deleted, ne_eq, not_true_eq_false, decide_false, Bool.false_eq_true, ↓reduceIte, List.findSome?_nil]
  · simp only [deleted, ne_eq, not_false_eq_true, decide_true, ↓reduceIte, List.findSome?_append,
      List.findSome?_singleton, firstAdded]

theorem get?_after (operations : List Operation) (fingerprint : Fingerprint) :
    (after operations).get? fingerprint = firstAdded fingerprint operations := by
  induction operations using List.reverseRecOn with
  | nil => rfl
  | append_singleton operations operation ih =>
    have last : after (operations ++ [operation]) = ((after operations).perform operation).2 :=
      List.foldl_concat ..
    rw [last, get?_perform, ih, firstAdded_concat]

section Answers

variable {cache : FlowCache} {fingerprint : Fingerprint} {record : FlowRecord} {known : List Fingerprint}

private theorem size_eq_ncard (cache : FlowCache) :
    cache.size = {fingerprint | ∃ record, cache.get? fingerprint = some record}.ncard := by
  have held : {fingerprint | ∃ record, cache.get? fingerprint = some record} = ↑cache.fingerprints.toFinset := by
    ext fingerprint
    rw [Set.mem_ofPred_eq, ← mem_fingerprints_iff_get?, Finset.mem_coe, List.mem_toFinset]
  calc cache.size
    _ = cache.fingerprints.length := (List.length_map Prod.fst).symm
    _ = cache.fingerprints.toFinset.card := (List.toFinset_card_of_nodup cache.fingerprints_nodup).symm
    _ = _ := by rw [held, Set.ncard_coe_finset]

theorem mem_among_iff : (fingerprint, record) ∈ cache.among known ↔
    cache.get? fingerprint = some record ∧ fingerprint ∈ known := by
  simp only [among, List.mem_filterMap, List.mem_dedup, Option.map_eq_some_iff, Prod.mk.injEq]
  constructor
  · rintro ⟨_, member, _, found, rfl, rfl⟩
    exact ⟨found, member⟩
  · exact fun ⟨found, member⟩ => ⟨_, member, _, found, rfl, rfl⟩

private theorem among_nodup (cache : FlowCache) (known : List Fingerprint) : (cache.among known).Nodup := by
  apply known.nodup_dedup.filterMap
  intro first second entry inFirst inSecond
  obtain ⟨_, _, rfl⟩ := Option.map_eq_some_iff.mp inFirst
  obtain ⟨_, _, same⟩ := Option.map_eq_some_iff.mp inSecond
  exact (congrArg Prod.fst same).symm

private theorem complement_disjoint (cache : FlowCache) (known : List Fingerprint) :
    (cache.complement known).Disjoint (cache.among known) := by
  rintro ⟨fingerprint, record⟩ unknown inside
  exact (mem_complement_iff.mp unknown).2 (mem_among_iff.mp inside).2

private theorem complement_append_among (cache : FlowCache) (known : List Fingerprint) :
    (cache.complement known ++ cache.among known).Perm cache.records := by
  have records : cache.records.Nodup := List.Nodup.of_map Prod.fst cache.fingerprints_nodup
  have parts : (cache.complement known ++ cache.among known).Nodup :=
    (records.filter _).append (cache.among_nodup known) (cache.complement_disjoint known)
  apply (List.perm_ext_iff_of_nodup parts records).mpr
  rintro ⟨fingerprint, record⟩
  rw [List.mem_append, mem_complement_iff, mem_among_iff, mem_records_iff, ← and_or_left]
  exact and_iff_left (Classical.em (fingerprint ∈ known)).symm

private theorem perform_add_iff_absent :
    (cache.perform (.add fingerprint record)).1 = true ↔ cache.get? fingerprint = none := by
  simp only [perform, Bool.not_eq_true', has_eq_false_iff_get?]

private theorem perform_add_iff_stored : (cache.perform (.add fingerprint record)).1 = true ↔
    (cache.perform (.add fingerprint record)).2.records.Perm ((fingerprint, record) :: cache.records) := by
  simp only [perform, Bool.not_eq_true']
  refine ⟨records_add_perm record, fun stored => ?_⟩
  rw [← Bool.not_eq_true]
  intro held
  rw [add_of_held held] at stored
  exact Nat.succ_ne_self _ stored.length_eq.symm

private theorem perform_add_refused (refused : (cache.perform (.add fingerprint record)).1 = false) :
    (cache.perform (.add fingerprint record)).2 = cache := by
  simp only [perform, Bool.not_eq_false'] at refused
  exact add_of_held refused record

private theorem perform_delete_iff_removed : (cache.perform (.delete fingerprint)).1 = some record ↔
    cache.records.Perm ((fingerprint, record) :: (cache.perform (.delete fingerprint)).2.records) := by
  refine ⟨records_delete_perm, fun removed => ?_⟩
  exact mem_records_iff.mp (removed.mem_iff.mpr List.mem_cons_self)

private theorem delete_of_absent (absent : cache.get? fingerprint = none) : cache.delete fingerprint = cache := by
  have missing : fingerprint ∉ cache.fingerprints :=
    has_eq_false_iff_not_mem.mp (has_eq_false_iff_get?.mpr absent)
  simp only [delete, eraseKey_of_not_mem missing]

end Answers

/-- What operations tell of the cache after them, and of what the cache does next. -/
structure FirstWriterWins (operations : List Operation) (cache : FlowCache) : Prop where
  get : ∀ fingerprint, cache.get? fingerprint = firstAdded fingerprint operations
  add_iff_absent : ∀ fingerprint record, (cache.perform (.add fingerprint record)).1 = true ↔
    firstAdded fingerprint operations = none
  add_iff_stored : ∀ fingerprint record, (cache.perform (.add fingerprint record)).1 = true ↔
    (cache.perform (.add fingerprint record)).2.records.Perm ((fingerprint, record) :: cache.records)
  add_refused : ∀ fingerprint record, (cache.perform (.add fingerprint record)).1 = false →
    (cache.perform (.add fingerprint record)).2 = cache
  delete_iff_removed : ∀ fingerprint record, (cache.perform (.delete fingerprint)).1 = some record ↔
    cache.records.Perm ((fingerprint, record) :: (cache.perform (.delete fingerprint)).2.records)
  delete_nothing : ∀ fingerprint, (cache.perform (.delete fingerprint)).1 = none →
    (cache.perform (.delete fingerprint)).2 = cache
  size : cache.size = {fingerprint | ∃ record, firstAdded fingerprint operations = some record}.ncard
  fingerprints_increasing : cache.fingerprints.Pairwise (· < ·)
  mem_fingerprints : ∀ fingerprint, fingerprint ∈ cache.fingerprints ↔
    ∃ record, firstAdded fingerprint operations = some record
  complement_increasing : ∀ known, ((cache.perform (.complement known)).1.map Prod.fst).Pairwise (· < ·)
  mem_complement : ∀ known fingerprint record, (fingerprint, record) ∈ (cache.perform (.complement known)).1 ↔
    firstAdded fingerprint operations = some record ∧ fingerprint ∉ known
  complement_keeps : ∀ known, (cache.perform (.complement known)).2 = cache
  known_records : ∀ known fingerprint record, (fingerprint, record) ∈ cache.among known ↔
    firstAdded fingerprint operations = some record ∧ fingerprint ∈ known
  partition : ∀ known, (cache.perform (.complement known)).1.Disjoint (cache.among known) ∧
    ((cache.perform (.complement known)).1 ++ cache.among known).Perm cache.records

/-- After any operations on a new cache, each fingerprint has the record that was first added since it was last
deleted. Additions and deletions answer what they change, and the records that are not known, with those that are,
make up the cache. -/
theorem first_writer_wins (operations : List Operation) : FirstWriterWins operations (after operations) where
  get := get?_after operations
  add_iff_absent fingerprint record := by rw [perform_add_iff_absent, get?_after]
  add_iff_stored _ _ := perform_add_iff_stored
  add_refused _ _ := perform_add_refused
  delete_iff_removed _ _ := perform_delete_iff_removed
  delete_nothing fingerprint := delete_of_absent
  size := by simp only [size_eq_ncard, get?_after]
  fingerprints_increasing := List.pairwise_map.mpr (after operations).ordered
  mem_fingerprints fingerprint := by rw [mem_fingerprints_iff_get?, get?_after]
  complement_increasing known := List.pairwise_map.mpr ((after operations).ordered.filter _)
  mem_complement known fingerprint record := by
    rw [← get?_after]
    exact mem_complement_iff
  complement_keeps known := rfl
  known_records known fingerprint record := by
    rw [← get?_after]
    exact mem_among_iff
  partition known := ⟨complement_disjoint _ known, complement_append_among _ known⟩

/-- After the first record is deleted, the next one that is added stays. -/
example (first second : FlowRecord) : (after [.add ⟨[1]⟩ first, .add ⟨[1]⟩ second, .delete ⟨[1]⟩,
    .add ⟨[1]⟩ second, .add ⟨[1]⟩ first]).records = [(⟨[1]⟩, second)] := by
  rfl

end NicFlow.FlowCache
