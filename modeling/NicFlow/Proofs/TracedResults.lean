import Mathlib.Data.List.Forall2
import NicFlow.Log.Event

/-! Results of computations over lists. When acceptance of an element does not depend on its
position, a list is accepted element by element, and the first refused element is reported. -/

namespace NicFlow.Log.Traced

variable {ε α β γ δ : Type}

theorem mapError_eq_ok_iff {f : ε → δ} {result : Except ε α} {value : α} :
    result.mapError f = .ok value ↔ result = .ok value := by
  cases result <;> simp [Except.mapError]

theorem mapError_eq_error_iff {f : ε → δ} {result : Except ε α} {error : δ} :
    result.mapError f = .error error ↔ ∃ source, result = .error source ∧ error = f source := by
  cases result <;> simp [Except.mapError, eq_comm]

theorem bind_eq_ok_iff {first : Except ε α} {next : α → Except ε β} {value : β} :
    first >>= next = .ok value ↔ ∃ middle, first = .ok middle ∧ next middle = .ok value := by
  cases first <;> simp [Bind.bind, Except.bind]

theorem bind_eq_error_iff {first : Except ε α} {next : α → Except ε β} {error : ε} :
    first >>= next = .error error ↔
      first = .error error ∨ ∃ middle, first = .ok middle ∧ next middle = .error error := by
  cases first <;> simp [Bind.bind, Except.bind]

theorem check_then_ok_iff {first : Except ε Unit} {next : Except ε β} {value : β} :
    (first >>= fun _ => next) = .ok value ↔ first = .ok () ∧ next = .ok value :=
  bind_eq_ok_iff.trans ⟨fun ⟨_, accepted, goesOn⟩ => ⟨accepted, goesOn⟩,
    fun ⟨accepted, goesOn⟩ => ⟨(), accepted, goesOn⟩⟩

theorem check_then_error_iff {first : Except ε Unit} {next : Except ε β} {error : ε} :
    (first >>= fun _ => next) = .error error ↔
      first = .error error ∨ first = .ok () ∧ next = .error error :=
  bind_eq_error_iff.trans (or_congr_right ⟨fun ⟨_, accepted, goesOn⟩ => ⟨accepted, goesOn⟩,
    fun ⟨accepted, goesOn⟩ => ⟨(), accepted, goesOn⟩⟩)

theorem of_ok_bind (value : α) (next : α → Traced ε β) : (of (.ok value) >>= next) = next value := rfl

theorem bind_ok_iff {first : Traced ε α} {next : α → Traced ε β} {value : β} :
    (first >>= next).result = .ok value ↔
      ∃ middle, first.result = .ok middle ∧ (next middle).result = .ok value := by
  rw [result_bind]
  exact bind_eq_ok_iff

theorem bind_error_iff {first : Traced ε α} {next : α → Traced ε β} {error : ε} :
    (first >>= next).result = .error error ↔ first.result = .error error ∨
      ∃ middle, first.result = .ok middle ∧ (next middle).result = .error error := by
  rw [result_bind]
  cases first.result <;> simp [Except.bind]

theorem mapError_ok_iff {f : ε → δ} {traced : Traced ε α} {value : α} :
    (traced.mapError f).result = .ok value ↔ traced.result = .ok value :=
  mapError_eq_ok_iff

theorem mapError_error_iff {f : ε → δ} {traced : Traced ε α} {error : δ} :
    (traced.mapError f).result = .error error ↔
      ∃ source, traced.result = .error source ∧ error = f source :=
  mapError_eq_error_iff

theorem exists_of_forall₂ {related : α → β → Prop} {elements : List α} {values : List β}
    (all : List.Forall₂ related elements values) {value : β} (member : value ∈ values) :
    ∃ element ∈ elements, related element value := by
  induction all with
  | nil => cases member
  | cons first _ ih =>
    rcases List.mem_cons.mp member with rfl | inside
    · exact ⟨_, List.mem_cons_self, first⟩
    · obtain ⟨element, present, relates⟩ := ih inside
      exact ⟨element, List.mem_cons_of_mem _ present, relates⟩

theorem getElem?_of_forall₂ {related : α → β → Prop} {elements : List α} {values : List β}
    (all : List.Forall₂ related elements values) {position : Nat} {value : β}
    (found : values[position]? = some value) :
    ∃ element, elements[position]? = some element ∧ related element value := by
  induction all generalizing position with
  | nil => cases found
  | @cons element _ _ _ first _ ih =>
    cases position with
    | zero =>
      cases found
      exact ⟨element, rfl, first⟩
    | succ position => exact ih found

theorem forall₂_through {first : α → β → Prop} {second : β → γ → Prop} {elements : List α}
    {middles : List β} {values : List γ} (left : List.Forall₂ first elements middles)
    (right : List.Forall₂ second middles values) :
    List.Forall₂ (fun element value => ∃ middle, first element middle ∧ second middle value)
      elements values := by
  induction left generalizing values with
  | nil =>
    cases right
    exact .nil
  | cons firstOfAll _ ih =>
    cases right with
    | cons secondOfAll others => exact .cons ⟨_, firstOfAll, secondOfAll⟩ (ih others)

theorem forall₂_mapIdx {related : α → β → Prop} {becomes : α → γ → Prop} {f : Nat → β → γ}
    (each : ∀ index element value, related element value → becomes element (f index value))
    {elements : List α} {values : List β} (all : List.Forall₂ related elements values) :
    List.Forall₂ becomes elements (values.mapIdx f) := by
  induction all generalizing f with
  | nil => exact .nil
  | cons first _ ih =>
    rw [List.mapIdx_cons]
    exact .cons (each 0 _ _ first) (ih fun index => each (index + 1))

theorem forEachFrom_ok_iff {f : Nat → γ → Traced ε α} {accepts : γ → α → Prop}
    (uniform : ∀ position element value, (f position element).result = .ok value ↔ accepts element value)
    (start : Nat) (elements : List γ) (values : List α) :
    (forEachFrom f start elements).result = .ok values ↔ List.Forall₂ accepts elements values := by
  induction elements generalizing start values with
  | nil => simp [forEachFrom, eq_comm]
  | cons element rest ih =>
    simp only [forEachFrom, bind_ok_iff, uniform, ih, result_pure, Except.ok.injEq,
      List.forall₂_cons_left_iff]
    constructor
    · rintro ⟨value, accepted, others, related, rfl⟩
      exact ⟨value, others, accepted, related, rfl⟩
    · rintro ⟨value, others, accepted, related, rfl⟩
      exact ⟨value, accepted, others, related, rfl⟩

theorem forEachFrom_error {f : Nat → γ → Traced ε α} {start : Nat} {elements : List γ} {error : ε}
    (failed : (forEachFrom f start elements).result = .error error) :
    ∃ before element after, elements = before ++ element :: after ∧
      (∀ earlier ∈ before, ∃ position value, (f position earlier).result = .ok value) ∧
      (f (start + before.length) element).result = .error error := by
  induction elements generalizing start with
  | nil => simp [forEachFrom] at failed
  | cons element rest ih =>
    rw [forEachFrom, bind_error_iff] at failed
    rcases failed with refused | ⟨value, accepted, failed⟩
    · exact ⟨[], element, rest, rfl, List.forall_mem_nil _, refused⟩
    · rcases bind_error_iff.mp failed with failed | ⟨others, _, impossible⟩
      · obtain ⟨before, refused, after, rfl, fine, result⟩ := ih failed
        refine ⟨element :: before, refused, after, rfl, ?_, ?_⟩
        · intro earlier member
          rcases List.mem_cons.mp member with rfl | inside
          · exact ⟨start, value, accepted⟩
          · exact fine earlier inside
        · rw [← result, List.length_cons]
          congr 2
          omega
      · cases impossible

section Elements

variable {f : γ → Traced ε α}

theorem forEach_ok_iff {elements : List γ} {values : List α} :
    (forEach f elements).result = .ok values ↔
      List.Forall₂ (fun element value => (f element).result = .ok value) elements values := by
  induction elements generalizing values with
  | nil => simp [forEach, eq_comm]
  | cons element rest ih =>
    simp only [forEach, bind_ok_iff, ih, result_pure, Except.ok.injEq, List.forall₂_cons_left_iff]
    constructor
    · rintro ⟨value, accepted, others, related, rfl⟩
      exact ⟨value, others, accepted, related, rfl⟩
    · rintro ⟨value, others, accepted, related, rfl⟩
      exact ⟨value, accepted, others, related, rfl⟩

/-- The first element that fails makes the error. -/
theorem forEach_error_iff {elements : List γ} {error : ε} :
    (forEach f elements).result = .error error ↔
      ∃ before element after, elements = before ++ element :: after ∧
        (∀ earlier ∈ before, ∃ value, (f earlier).result = .ok value) ∧
        (f element).result = .error error := by
  induction elements with
  | nil =>
    constructor
    · intro impossible
      cases impossible
    · rintro ⟨before, element, after, impossible, _⟩
      simp at impossible
  | cons element rest ih =>
    have step : (forEach f (element :: rest)).result = .error error ↔ (f element).result = .error error ∨
        (∃ value, (f element).result = .ok value) ∧ (forEach f rest).result = .error error := by
      simp only [forEach, bind_error_iff, result_pure, reduceCtorEq, and_false, exists_const, or_false,
        exists_and_right]
    rw [step, ih]
    constructor
    · rintro (failed | ⟨accepted, before, other, after, rfl, fine, failed⟩)
      · exact ⟨[], element, rest, rfl, List.forall_mem_nil _, failed⟩
      · exact ⟨element :: before, other, after, rfl, List.forall_mem_cons.mpr ⟨accepted, fine⟩, failed⟩
    · rintro ⟨before, other, after, split, fine, failed⟩
      cases before with
      | nil =>
        cases split
        exact Or.inl failed
      | cons first before =>
        cases split
        obtain ⟨accepted, fine⟩ := List.forall_mem_cons.mp fine
        exact Or.inr ⟨accepted, before, other, after, rfl, fine, failed⟩

theorem exists_forEach_ok_iff {elements : List γ} :
    (∃ values, (forEach f elements).result = .ok values) ↔
      ∀ element ∈ elements, ∃ value, (f element).result = .ok value := by
  constructor
  · rintro ⟨values, accepted⟩ element member
    obtain ⟨value, _, here⟩ := exists_of_forall₂ (forEach_ok_iff.mp accepted).flip member
    exact ⟨value, here⟩
  · intro fine
    cases result : (forEach f elements).result with
    | ok values => exact ⟨values, rfl⟩
    | error error =>
      obtain ⟨before, element, after, rfl, _, failed⟩ := forEach_error_iff.mp result
      obtain ⟨value, accepted⟩ := fine element (List.mem_append_right _ List.mem_cons_self)
      rw [failed] at accepted
      cases accepted

/-- Elements that come to nothing can be left out from the beginning. -/
theorem forEach_filter {g : γ → Traced ε (Option α)} {keep : γ → Bool} {elements : List γ}
    (kept : ∀ element ∈ elements, keep element = true → (g element).result = (f element).result.map some)
    (dropped : ∀ element ∈ elements, keep element = false → (g element).result = .ok none) :
    (forEach g elements).result.map (List.filterMap id) = (forEach f (elements.filter keep)).result := by
  induction elements with
  | nil => rfl
  | cons element rest ih =>
    obtain ⟨keptFirst, kept⟩ := List.forall_mem_cons.mp kept
    obtain ⟨droppedFirst, dropped⟩ := List.forall_mem_cons.mp dropped
    have others := ih kept dropped
    simp only [forEach, result_bind, result_pure]
    cases keeps : keep element with
    | false =>
      rw [droppedFirst keeps, List.filter_cons_of_neg (by simp [keeps]), ← others]
      cases (forEach g rest).result <;> rfl
    | true =>
      rw [keptFirst keeps, List.filter_cons_of_pos keeps]
      simp only [forEach, result_bind, result_pure, ← others]
      cases (f element).result with
      | error error => rfl
      | ok value => cases (forEach g rest).result <;> rfl

end Elements

section Checks

variable {check : γ → Except ε Unit} {elements : List γ}

theorem forM_eq_ok_iff : elements.forM check = .ok () ↔ ∀ element ∈ elements, check element = .ok () := by
  induction elements with
  | nil => exact iff_of_true rfl (List.forall_mem_nil _)
  | cons element rest ih =>
    have step : (element :: rest).forM check = check element >>= fun _ => rest.forM check := rfl
    rw [step, check_then_ok_iff, List.forall_mem_cons, ← ih]

theorem mapM_eq_ok_iff {read : γ → Except ε β} {values : List β} :
    elements.mapM read = .ok values ↔
      List.Forall₂ (fun element value => read element = .ok value) elements values := by
  induction elements generalizing values with
  | nil =>
    rw [List.mapM_nil, List.forall₂_nil_left_iff]
    constructor
    · intro same
      cases same
      rfl
    · rintro rfl
      rfl
  | cons element rest ih =>
    rw [List.mapM_cons, List.forall₂_cons_left_iff, bind_eq_ok_iff]
    simp only [bind_eq_ok_iff, ih]
    constructor
    · rintro ⟨value, first, others, all, same⟩
      cases same
      exact ⟨value, others, first, all, rfl⟩
    · rintro ⟨value, others, first, all, rfl⟩
      exact ⟨value, first, others, all, rfl⟩

theorem forM_eq_error_iff {error : ε} :
    elements.forM check = .error error ↔ ∃ before element after, elements = before ++ element :: after ∧
      (∀ earlier ∈ before, check earlier = .ok ()) ∧ check element = .error error := by
  induction elements with
  | nil =>
    constructor
    · intro impossible
      cases impossible
    · rintro ⟨before, element, after, impossible, _⟩
      simp at impossible
  | cons element rest ih =>
    have step : (element :: rest).forM check = check element >>= fun _ => rest.forM check := rfl
    rw [step, check_then_error_iff, ih]
    constructor
    · rintro (refused | ⟨accepted, before, other, after, rfl, fine, refused⟩)
      · exact ⟨[], element, rest, rfl, List.forall_mem_nil _, refused⟩
      · exact ⟨element :: before, other, after, rfl, List.forall_mem_cons.mpr ⟨accepted, fine⟩, refused⟩
    · rintro ⟨before, other, after, split, fine, refused⟩
      cases before with
      | nil =>
        cases split
        exact Or.inl refused
      | cons first before =>
        cases split
        obtain ⟨accepted, fine⟩ := List.forall_mem_cons.mp fine
        exact Or.inr ⟨accepted, before, other, after, rfl, fine, refused⟩

end Checks

section FirstFailure

/-- The result fails exactly with the first of the errors, and so not at all if there are none. -/
def FailsFirst (result : Except ε α) (errors : List ε) : Prop :=
  ∀ error, result = .error error ↔ errors.head? = some error

/-- The error of a result, if it is one. -/
def failures : Except ε α → List ε
  | .ok _ => []
  | .error error => [error]

theorem mem_failures_iff {result : Except ε α} {error : ε} :
    error ∈ failures result ↔ result = .error error := by
  cases result <;> simp [failures, eq_comm]

theorem failsFirst_ok (value : α) : FailsFirst (.ok value : Except ε α) [] := by
  simp [FailsFirst]

theorem failsFirst_error (error : ε) (later : List ε) :
    FailsFirst (.error error : Except ε α) (error :: later) := by
  simp [FailsFirst]

theorem failsFirst_failures (result : Except ε α) : FailsFirst result (failures result) := by
  cases result with
  | ok value => exact failsFirst_ok value
  | error error => exact failsFirst_error error []

theorem FailsFirst.ok_iff {result : Except ε α} {errors : List ε} (fails : FailsFirst result errors) :
    (∃ value, result = .ok value) ↔ errors = [] := by
  cases result with
  | ok value => cases errors with
    | nil => simp
    | cons error later => simpa using fails error
  | error error => cases errors with
    | nil => simpa using fails error
    | cons first later => simp

theorem FailsFirst.bind {first : Except ε α} {next : α → Except ε β} {earlier later : List ε}
    (fails : FailsFirst first earlier)
    (continues : ∀ value, first = .ok value → FailsFirst (next value) later) :
    FailsFirst (first >>= next) (earlier ++ later) := by
  cases earlier with
  | nil =>
    obtain ⟨value, rfl⟩ := fails.ok_iff.mpr rfl
    exact continues value rfl
  | cons error others =>
    rw [(fails error).mpr rfl]
    exact failsFirst_error error _

theorem FailsFirst.mapError {result : Except ε α} {errors : List ε} (fails : FailsFirst result errors)
    (f : ε → δ) : FailsFirst (result.mapError f) (errors.map f) := by
  intro error
  rw [mapError_eq_error_iff, List.head?_map, Option.map_eq_some_iff]
  simp only [fails _, eq_comm]

/-- Over a list, the first error is that of the first element that has one. -/
theorem failsFirst_forEachFrom {f : Nat → γ → Traced ε α} {faults : γ → List (Nat → ε)}
    (fails : ∀ position element, FailsFirst (f position element).result
      ((faults element).map (· position))) (start : Nat) (elements : List γ) :
    FailsFirst (forEachFrom f start elements).result
      ((elements.zipIdx start).flatMap fun (element, position) => (faults element).map (· position)) := by
  induction elements generalizing start with
  | nil => exact failsFirst_ok []
  | cons element rest ih =>
    rw [forEachFrom, result_bind, List.zipIdx_cons, List.flatMap_cons]
    refine (fails start element).bind fun value _ => ?_
    rw [result_bind, ← List.append_nil (List.flatMap _ _)]
    exact (ih (start + 1)).bind fun values _ => failsFirst_ok _

end FirstFailure

end NicFlow.Log.Traced
