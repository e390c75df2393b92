import NicFlow.Flow.Cache
import NicFlow.Proofs.SortedEntries

/-! The flow cache seen through its lookup, and what whole batches of additions and
deletions make of it. -/

namespace NicFlow

/-- The fingerprint that a record is kept under. -/
def FlowRecord.fingerprint (record : FlowRecord) : Fingerprint := .ofRequest record.rule

namespace FlowCache

variable {cache : FlowCache} {fingerprint : Fingerprint} {record : FlowRecord}

theorem fingerprints_nodup (cache : FlowCache) : cache.fingerprints.Nodup := cache.ordered.keys_nodup

theorem mem_records_iff : (fingerprint, record) ∈ cache.records ↔ cache.get? fingerprint = some record :=
  mem_iff_lookup_eq_some cache.fingerprints_nodup

theorem mem_fingerprints_iff_get? :
    fingerprint ∈ cache.fingerprints ↔ ∃ record, cache.get? fingerprint = some record := by
  constructor
  · intro member
    obtain ⟨⟨_, record⟩, inside, rfl⟩ := List.mem_map.mp member
    exact ⟨record, mem_records_iff.mp inside⟩
  · rintro ⟨record, found⟩
    exact List.mem_map.mpr ⟨_, mem_records_iff.mpr found, rfl⟩

theorem mem_fingerprints_iff_has : fingerprint ∈ cache.fingerprints ↔ cache.has fingerprint = true := by
  rw [mem_fingerprints_iff_get?, has, Option.isSome_iff_exists]

theorem has_eq_false_iff_get? : cache.has fingerprint = false ↔ cache.get? fingerprint = none := by
  rw [has, Option.isSome_eq_false_iff, Option.isNone_iff_eq_none]

theorem has_eq_false_iff_not_mem :
    cache.has fingerprint = false ↔ fingerprint ∉ cache.fingerprints := by
  rw [mem_fingerprints_iff_has, Bool.not_eq_true]

theorem get?_add (absent : cache.has fingerprint = false) (other : Fingerprint) :
    (cache.add fingerprint record).get? other =
      if other = fingerprint then some record else cache.get? other := by
  rw [add, absent]
  exact lookup_insertSorted fingerprint other record

theorem get?_delete (cache : FlowCache) (fingerprint other : Fingerprint) :
    (cache.delete fingerprint).get? other =
      if other = fingerprint then none else cache.get? other :=
  lookup_eraseKey fingerprint other

theorem records_add_perm (record : FlowRecord) (absent : cache.has fingerprint = false) :
    (cache.add fingerprint record).records.Perm ((fingerprint, record) :: cache.records) := by
  rw [add, absent]
  exact perm_insertSorted record (has_eq_false_iff_not_mem.mp absent)

theorem records_delete_perm (found : cache.get? fingerprint = some record) :
    cache.records.Perm ((fingerprint, record) :: (cache.delete fingerprint).records) :=
  perm_eraseKey cache.fingerprints_nodup (mem_records_iff.mpr found)

theorem mem_complement_iff {known : List Fingerprint} :
    (fingerprint, record) ∈ cache.complement known ↔
      cache.get? fingerprint = some record ∧ fingerprint ∉ known := by
  simp [complement, List.mem_filter, mem_records_iff]

theorem complement_keys (cache : FlowCache) (known : List Fingerprint) :
    (cache.complement known).map Prod.fst = cache.fingerprints.filter (· ∉ known) := by
  rw [fingerprints, List.filter_map]
  rfl

theorem complement_add {known : List Fingerprint} (absent : cache.has fingerprint = false)
    (member : fingerprint ∈ known) :
    (cache.add fingerprint record).complement known = cache.complement known := by
  rw [add, absent]
  exact filter_insertSorted (by simp [member]) (has_eq_false_iff_not_mem.mp absent)

section Batches

/-- Stores records one after the other, each under its fingerprint. -/
def install (cache : FlowCache) (records : List FlowRecord) : FlowCache :=
  records.foldl (fun cache record => cache.add record.fingerprint record) cache

/-- Deletes fingerprints one after the other. -/
def remove (cache : FlowCache) (fingerprints : List Fingerprint) : FlowCache :=
  fingerprints.foldl delete cache

/-- Records of different flows, none of which is in the cache. -/
structure Fresh (cache : FlowCache) (records : List FlowRecord) : Prop where
  distinct : (records.map FlowRecord.fingerprint).Nodup
  absent : ∀ record ∈ records, cache.has record.fingerprint = false

theorem Fresh.nil (cache : FlowCache) : cache.Fresh [] :=
  ⟨List.nodup_nil, List.forall_mem_nil _⟩

theorem Fresh.cons {records : List FlowRecord} (absent : cache.has record.fingerprint = false)
    (fresh : (cache.add record.fingerprint record).Fresh records) :
    cache.Fresh (record :: records) := by
  have apart : ∀ other ∈ records,
      other.fingerprint ≠ record.fingerprint ∧ cache.has other.fingerprint = false := by
    intro other member
    have missing := has_eq_false_iff_get?.mp (fresh.absent other member)
    rw [get?_add absent] at missing
    split at missing
    · cases missing
    next different => exact ⟨different, has_eq_false_iff_get?.mpr missing⟩
  refine ⟨List.nodup_cons.mpr ⟨?_, fresh.distinct⟩, ?_⟩
  · intro repeated
    obtain ⟨other, member, same⟩ := List.mem_map.mp repeated
    exact (apart other member).1 same
  · intro other member
    rcases List.mem_cons.mp member with rfl | inside
    · exact absent
    · exact (apart other inside).2

theorem Fresh.tail {records : List FlowRecord} (fresh : cache.Fresh (record :: records)) :
    (cache.add record.fingerprint record).Fresh records := by
  obtain ⟨different, distinct⟩ := List.nodup_cons.mp fresh.distinct
  refine ⟨distinct, ?_⟩
  intro other member
  have absent := fresh.absent record List.mem_cons_self
  rw [has_eq_false_iff_get?, get?_add absent]
  split
  next same => exact absurd (List.mem_map.mpr ⟨other, member, same⟩) different
  next => exact has_eq_false_iff_get?.mp (fresh.absent other (List.mem_cons_of_mem _ member))

theorem get?_install {records : List FlowRecord} (fresh : cache.Fresh records) :
    (cache.install records).get? fingerprint = some record ↔
      cache.get? fingerprint = some record ∨ record ∈ records ∧ fingerprint = record.fingerprint := by
  induction records generalizing cache with
  | nil => simp [install]
  | cons first rest ih =>
    have absent := fresh.absent first List.mem_cons_self
    have missing := has_eq_false_iff_get?.mp absent
    rw [install, List.foldl_cons, ← install, ih fresh.tail, get?_add absent]
    by_cases same : fingerprint = first.fingerprint
    · subst same
      simp only [↓reduceIte, Option.some.injEq, missing, reduceCtorEq, false_or, List.mem_cons]
      constructor
      · rintro (rfl | ⟨inside, same⟩)
        · exact ⟨Or.inl rfl, rfl⟩
        · exact ⟨Or.inr inside, same⟩
      · rintro ⟨rfl | inside, same⟩
        · exact Or.inl rfl
        · exact Or.inr ⟨inside, same⟩
    · simp only [same, ↓reduceIte, List.mem_cons]
      refine or_congr_right ?_
      constructor
      · exact fun ⟨inside, equal⟩ => ⟨Or.inr inside, equal⟩
      · rintro ⟨rfl | inside, equal⟩
        · exact absurd equal same
        · exact ⟨inside, equal⟩

theorem mem_fingerprints_install {records : List FlowRecord} (fresh : cache.Fresh records) :
    fingerprint ∈ (cache.install records).fingerprints ↔
      fingerprint ∈ cache.fingerprints ∨ fingerprint ∈ records.map FlowRecord.fingerprint := by
  simp only [mem_fingerprints_iff_get?, get?_install fresh, exists_or, List.mem_map, eq_comm]

theorem complement_install {records : List FlowRecord} {known : List Fingerprint}
    (fresh : cache.Fresh records) (members : ∀ record ∈ records, record.fingerprint ∈ known) :
    (cache.install records).complement known = cache.complement known := by
  induction records generalizing cache with
  | nil => rfl
  | cons first rest ih =>
    have later := ih fresh.tail fun record inside => members record (List.mem_cons_of_mem _ inside)
    rw [install, List.foldl_cons, ← install, later]
    exact complement_add (fresh.absent first List.mem_cons_self) (members first List.mem_cons_self)

theorem size_install {records : List FlowRecord} (fresh : cache.Fresh records) :
    (cache.install records).size = cache.size + records.length := by
  induction records generalizing cache with
  | nil => rfl
  | cons first rest ih =>
    have grown := (records_add_perm first (fresh.absent first List.mem_cons_self)).length_eq
    rw [install, List.foldl_cons, ← install, ih fresh.tail, List.length_cons]
    simp only [size, List.length_cons] at grown ⊢
    omega

theorem get?_remove (cache : FlowCache) (fingerprints : List Fingerprint) (fingerprint : Fingerprint) :
    (cache.remove fingerprints).get? fingerprint =
      if fingerprint ∈ fingerprints then none else cache.get? fingerprint := by
  induction fingerprints generalizing cache with
  | nil => rfl
  | cons first rest ih =>
    rw [remove, List.foldl_cons, ← remove, ih, get?_delete]
    by_cases same : fingerprint = first
    · simp [same]
    · simp [same]

theorem size_remove {fingerprints : List Fingerprint} (distinct : fingerprints.Nodup)
    (held : ∀ fingerprint ∈ fingerprints, fingerprint ∈ cache.fingerprints) :
    (cache.remove fingerprints).size + fingerprints.length = cache.size := by
  induction fingerprints generalizing cache with
  | nil => rfl
  | cons first rest ih =>
    obtain ⟨absent, distinct⟩ := List.nodup_cons.mp distinct
    obtain ⟨record, found⟩ := mem_fingerprints_iff_get?.mp (held first List.mem_cons_self)
    have shrunk := (records_delete_perm found).length_eq
    have still : ∀ fingerprint ∈ rest, fingerprint ∈ (cache.delete first).fingerprints := by
      intro fingerprint member
      have different : fingerprint ≠ first := fun same => absent (same ▸ member)
      obtain ⟨kept, stored⟩ :=
        mem_fingerprints_iff_get?.mp (held fingerprint (List.mem_cons_of_mem _ member))
      exact mem_fingerprints_iff_get?.mpr ⟨kept, by rw [get?_delete]; simpa [different] using stored⟩
    have remaining := ih distinct still
    rw [remove, List.foldl_cons, ← remove, List.length_cons]
    simp only [size, List.length_cons] at shrunk remaining ⊢
    omega

end Batches

end FlowCache

end NicFlow
