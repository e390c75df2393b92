import NicFlow.Proofs.PassConvergence

/-! What a pass leaves behind that fails. It depends on the phase in which it failed, and in the
phases that change flows on the answers so far. -/

namespace NicFlow

/-- The creation of a flow was acknowledged, which the record remembers. -/
def Created (calls : List Answered) (fingerprint : Fingerprint) (record : FlowRecord) : Prop :=
  ⟨.create record.rule, .ok record.flowId⟩ ∈ calls ∧ record.fingerprint = fingerprint

def Undestroyed (calls : List Answered) : Prop :=
  ∀ portId flowId answer, ⟨.destroy portId flowId, answer⟩ ∉ calls

namespace Reconciliation

variable {lookup : VfLookup} {cache after : FlowCache} {rules : List FlowRule} {calls : List Answered}
  {error : AgentError}

/-- The error is that of the first invalid rule, with its position. -/
def FirstInvalid (rules : List FlowRule) (error : AgentError) : Prop :=
  ∃ before rule rest source, rules = before ++ rule :: rest ∧ (∀ earlier ∈ before, Valid earlier) ∧
    (Validation.validateRule .node rule).result = .error source ∧ error = .flow before.length source

private theorem Outcome.of_not_valid (outcome : Outcome lookup cache rules calls after (.error error))
    (invalid : ∃ rule ∈ rules, ¬ Valid rule) :
    calls = [] ∧ after = cache ∧ FirstInvalid rules error := by
  obtain ⟨rule, member, invalid⟩ := invalid
  cases outcome with
  | invalid split valid refused => exact ⟨rfl, rfl, _, _, _, _, split, valid, refused, rfl⟩
  | unlisted valid => exact absurd (valid rule member) invalid
  | unresolved valid => exact absurd (valid rule member) invalid
  | installing valid => exact absurd (valid rule member) invalid

/-- The ports cannot be listed, or a rule names a device that is not found on those listed. -/
def Unresolved (lookup : VfLookup) (rules : List FlowRule) (calls : List Answered) : Prop :=
  (∃ refusal, ⟨.listPorts, .error refusal⟩ ∈ calls) ∨
    ∀ ports, Listed calls ports → ∃ rule ∈ rules, request? lookup ports rule = none

private theorem created_creations_iff {records : List FlowRecord} {fingerprint : Fingerprint}
    {record : FlowRecord} :
    Created (creations records) fingerprint record ↔
      record ∈ records ∧ fingerprint = record.fingerprint := by
  have members : ⟨.create record.rule, .ok record.flowId⟩ ∈ creations records ↔ record ∈ records := by
    constructor
    · intro member
      obtain ⟨⟨flowId, rule⟩, inside, same⟩ := List.mem_map.mp member
      cases same
      exact inside
    · exact List.mem_map_of_mem
  rw [Created, members, eq_comm (b := fingerprint)]

private theorem error_not_mem_creations {records : List FlowRecord} {call : Call} {refusal : RpcError} :
    ⟨call, .error refusal⟩ ∉ creations records := by
  intro member
  obtain ⟨_, _, same⟩ := List.mem_map.mp member
  cases same

private theorem error_not_mem_destructions {records : List FlowRecord} {call : Call} {refusal : RpcError} :
    ⟨call, .error refusal⟩ ∉ destructions records := by
  intro member
  obtain ⟨_, _, same⟩ := List.mem_map.mp member
  cases same

section Parts

variable {listing rest : List Answered} {installed : List FlowRecord}

private theorem created_iff (asked : Listing listing)
    (none : ∀ request reply, ⟨.create request, .ok reply⟩ ∉ rest)
    {fingerprint : Fingerprint} {record : FlowRecord} :
    Created (listing ++ (creations installed ++ rest)) fingerprint record ↔
      record ∈ installed ∧ fingerprint = record.fingerprint := by
  rw [← created_creations_iff, Created, Created, List.mem_append, List.mem_append]
  constructor
  · rintro ⟨impossible | inside | impossible, keyed⟩
    · cases asked.listPorts _ impossible
    · exact ⟨inside, keyed⟩
    · exact absurd impossible (none _ _)
  · exact fun ⟨inside, keyed⟩ => ⟨Or.inr (Or.inl inside), keyed⟩

private theorem undestroyed_of_listing (asked : Listing listing) (installed : List FlowRecord) :
    Undestroyed (listing ++ creations installed) := by
  intro portId flowId answer member
  rcases List.mem_append.mp member with impossible | impossible
  · cases asked.listPorts _ impossible
  · obtain ⟨_, _, same⟩ := List.mem_map.mp impossible
    cases same

theorem mem_last_of_error (asked : Listing listing) {call : Call} {refusal : RpcError}
    (other : call ≠ .listPorts)
    (member : ⟨call, .error refusal⟩ ∈ listing ++ (creations installed ++ rest)) :
    ⟨call, .error refusal⟩ ∈ rest := by
  rcases List.mem_append.mp member with impossible | later
  · exact absurd (asked.listPorts _ impossible) other
  · exact (List.mem_append.mp later).resolve_left error_not_mem_creations

end Parts

private theorem rules_split_of_requested {ports : List Port} {first later : List CreateRequest}
    {request : CreateRequest}
    (requested : rules.map (request? lookup ports) = (first ++ request :: later).map some) :
    ∃ before rule rest, rules = before ++ rule :: rest ∧
      before.map (request? lookup ports) = first.map some ∧
      request? lookup ports rule = some request := by
  rw [List.map_append, List.map_cons] at requested
  obtain ⟨before, behind, rfl, earlier, requested⟩ := List.map_eq_append_iff.mp requested
  obtain ⟨rule, rest, rfl, asks, _⟩ := List.map_eq_cons_iff.mp requested
  exact ⟨before, rule, rest, rfl, earlier, asks⟩

/-- What a refused creation leaves: the cache before with what was created until then, which
covers all rules before the one that failed. -/
structure StoppedByCreation (lookup : VfLookup) (rules : List FlowRule) (cache after : FlowCache)
    (calls : List Answered) (error : AgentError) (request : CreateRequest) (refusal : RpcError) :
    Prop where
  own : error = .rpc refusal
  reached : ∀ ports, Listed calls ports → ∃ before rule rest, rules = before ++ rule :: rest ∧
    request? lookup ports rule = some request ∧ ∀ earlier ∈ before, ∃ asked,
      request? lookup ports earlier = some asked ∧ after.has (.ofRequest asked) = true
  last : calls.getLast? = some ⟨.create request, .error refusal⟩
  undestroyed : Undestroyed calls
  absent : after.has (.ofRequest request) = false
  records : ∀ fingerprint record, after.get? fingerprint = some record ↔
    cache.get? fingerprint = some record ∨ Created calls fingerprint record

private theorem Outcome.of_create_error (outcome : Outcome lookup cache rules calls after (.error error))
    {request : CreateRequest} {refusal : RpcError}
    (refused : ⟨.create request, .error refusal⟩ ∈ calls) :
    StoppedByCreation lookup rules cache after calls error request refusal := by
  cases outcome with
  | invalid => cases refused
  | unlisted => cases List.mem_singleton.mp refused
  | unresolved => cases List.mem_singleton.mp refused
  | installing valid asked requested installation =>
    cases installation with
    | @uncreated _ _ _ installed _ split installs absent =>
      cases List.mem_singleton.mp (mem_last_of_error asked (by simp) refused)
      refine ⟨rfl, fun ports listed => ?_, by simp, ?_, absent, ?_⟩
      · subst split
        obtain ⟨before, rule, rest, split, earlier, asks⟩ :=
          rules_split_of_requested (requested ports listed.left)
        refine ⟨before, rule, rest, split, asks, fun rule member => ?_⟩
        obtain ⟨asked, wanted, asks⟩ := exists_request earlier member
        exact ⟨asked, asks, installs.complete asked wanted⟩
      · rw [← List.append_assoc]
        intro portId flowId answer member
        rcases List.mem_append.mp member with first | last
        · exact undestroyed_of_listing asked installed portId flowId answer first
        · cases List.mem_singleton.mp last
      · intro fingerprint record
        rw [FlowCache.get?_install installs.fresh, created_iff asked]
        intro _ _ impossible
        cases List.mem_singleton.mp impossible
    | undestroyed gone installs split =>
      have last := mem_last_of_error asked (by simp) refused
      cases List.mem_singleton.mp ((List.mem_append.mp last).resolve_left error_not_mem_destructions)

private theorem get?_remove_gone {requests : List CreateRequest} {installed : List FlowRecord}
    {gone kept : List (Fingerprint × FlowRecord)} (installs : Installs cache requests installed)
    (split : stale cache requests = gone ++ kept) {fingerprint : Fingerprint} {record : FlowRecord} :
    ((cache.install installed).remove (gone.map Prod.fst)).get? fingerprint = some record ↔
      cache.get? fingerprint = some record ∧ (fingerprint, record) ∉ gone ∨
        record ∈ installed ∧ fingerprint = record.fingerprint := by
  have held : ∀ entry ∈ gone, cache.get? entry.1 = some entry.2 := by
    intro entry member
    have inside : entry ∈ stale cache requests := split ▸ List.mem_append_left _ member
    exact (mem_stale_iff.mp inside).1
  have absent : ∀ record ∈ installed, cache.get? record.fingerprint = none :=
    fun record member => FlowCache.has_eq_false_iff_get?.mp (installs.fresh.absent record member)
  rw [FlowCache.get?_remove]
  split
  next removed =>
    obtain ⟨entry, member, rfl⟩ := List.mem_map.mp removed
    constructor
    · intro impossible
      cases impossible
    · rintro (⟨found, apart⟩ | ⟨inside, same⟩)
      · rw [held entry member] at found
        cases found
        exact absurd member apart
      · have missing := absent record inside
        rw [← same, held entry member] at missing
        cases missing
  next kept =>
    rw [FlowCache.get?_install installs.fresh]
    have apart : (fingerprint, record) ∉ gone :=
      fun member => kept (List.mem_map.mpr ⟨_, member, rfl⟩)
    simp only [apart, not_false_eq_true, and_true]

private theorem wanted_subset_remove_gone {requests : List CreateRequest} {installed : List FlowRecord}
    {gone kept : List (Fingerprint × FlowRecord)} (installs : Installs cache requests installed)
    (split : stale cache requests = gone ++ kept) :
    wanted requests ⊆ ((cache.install installed).remove (gone.map Prod.fst)).fingerprints.toFinset := by
  intro fingerprint member
  have standing : fingerprint ∉ gone.map Prod.fst := by
    intro removed
    have inside : fingerprint ∈ (stale cache requests).map Prod.fst := by
      rw [split, List.map_append]
      exact List.mem_append_left _ removed
    exact (mem_stale_keys_iff.mp inside).2 member
  obtain ⟨request, asked, rfl⟩ := mem_wanted_iff.mp member
  obtain ⟨record, found⟩ := FlowCache.mem_fingerprints_iff_get?.mp
    (FlowCache.mem_fingerprints_iff_has.mpr (installs.complete request asked))
  rw [List.mem_toFinset, FlowCache.mem_fingerprints_iff_get?]
  exact ⟨record, by rw [FlowCache.get?_remove, if_neg standing, found]⟩

private theorem Outcome.of_unresolved (outcome : Outcome lookup cache rules calls after (.error error))
    (unresolved : Unresolved lookup rules calls) :
    (∀ answered ∈ calls, answered.call = .listPorts) ∧ after = cache := by
  cases outcome with
  | invalid => exact ⟨List.forall_mem_nil _, rfl⟩
  | unlisted => exact ⟨fun answered member => by rw [List.mem_singleton.mp member], rfl⟩
  | unresolved => exact ⟨fun answered member => by rw [List.mem_singleton.mp member], rfl⟩
  | installing valid asked requested installation =>
    obtain ⟨ports, listed⟩ := asked.listed
    have known := installation.listed listed
    rcases unresolved with ⟨refusal, refused⟩ | missing
    · cases known _ refused
    · obtain ⟨rule, member, none⟩ := missing ports known
      obtain ⟨request, _, asks⟩ := exists_request (requested ports listed) member
      rw [none] at asks
      cases asks

/-- What the refusal to destroy a stale flow leaves: the stale flows before it are gone, and the
others are not touched. -/
structure StoppedByDestruction (cache after : FlowCache) (wanted : Finset Fingerprint)
    (calls : List Answered) (gone : List (Fingerprint × FlowRecord)) (fingerprint : Fingerprint)
    (record : FlowRecord) (refusal : RpcError) : Prop where
  cached : wanted ⊆ after.fingerprints.toFinset
  stale : ∃ kept,
    (cache.records.filter fun entry => entry.1 ∉ wanted) = gone ++ (fingerprint, record) :: kept
  before : ∀ other held, (other, held) ∈ gone ↔
    cache.get? other = some held ∧ other ∉ wanted ∧ other < fingerprint
  sent : ∃ first, Undestroyed first ∧ calls = first ++ destructions (gone.map Prod.snd) ++
    [⟨.destroy record.rule.portId record.flowId, .error refusal⟩]
  records : ∀ other held, after.get? other = some held ↔
    cache.get? other = some held ∧ (other, held) ∉ gone ∨ Created calls other held

private theorem Outcome.of_destroy_error (outcome : Outcome lookup cache rules calls after (.error error))
    {portId flowId : UInt32} {refusal : RpcError}
    (refused : ⟨.destroy portId flowId, .error refusal⟩ ∈ calls) :
    error = .rpc refusal ∧ (∃ ports, Listed calls ports) ∧ ∀ ports, Listed calls ports →
      (∀ rule ∈ rules, (request? lookup ports rule).isSome) ∧
      ∃ gone fingerprint record, portId = record.rule.portId ∧ flowId = record.flowId ∧
        StoppedByDestruction cache after (desired lookup ports rules) calls gone fingerprint record
          refusal := by
  cases outcome with
  | invalid => cases refused
  | unlisted => cases List.mem_singleton.mp refused
  | unresolved => cases List.mem_singleton.mp refused
  | @installing listing requests _ _ _ valid asked requested installation =>
    have resolved := installation
    cases installation with
    | uncreated split installs absent =>
      cases List.mem_singleton.mp (mem_last_of_error asked (by simp) refused)
    | @undestroyed installed fingerprint record kept _ gone installs split =>
      have last := mem_last_of_error asked (by simp) refused
      cases List.mem_singleton.mp ((List.mem_append.mp last).resolve_left error_not_mem_destructions)
      refine ⟨rfl, ?_, fun ports listed => ?_⟩
      · obtain ⟨ports, listed⟩ := asked.listed
        exact ⟨ports, resolved.listed listed⟩
      · have same := requested ports listed.left
        rw [desired_of_requested same]
        refine ⟨?_, gone, fingerprint, record, rfl, rfl,
          wanted_subset_remove_gone installs split, ⟨kept, ?_⟩, ?_, ?_, ?_⟩
        · intro rule member
          obtain ⟨request, _, asks⟩ := exists_request same member
          rw [asks]
          rfl
        · rw [← stale_eq_filter, split]
        · intro other held
          have ordered : Ordered (gone ++ (fingerprint, record) :: kept) := by
            rw [← split, stale_eq_filter]
            exact cache.ordered.filter _
          rw [ordered.mem_before_iff, ← split, mem_stale_iff, and_assoc]
        · exact ⟨listing ++ creations installed, undestroyed_of_listing asked installed, by simp⟩
        · intro other held
          rw [get?_remove_gone installs split, created_iff asked]
          simp [destructions]

/-- A pass fails for one of four reasons. -/
theorem Outcome.failure_cases (outcome : Outcome lookup cache rules calls after (.error error)) :
    (∃ rule ∈ rules, ¬ Valid rule) ∨ Unresolved lookup rules calls ∨
      (∃ request refusal, ⟨.create request, .error refusal⟩ ∈ calls) ∨
      ∃ portId flowId refusal, ⟨.destroy portId flowId, .error refusal⟩ ∈ calls := by
  cases outcome with
  | invalid split valid refused =>
    subst split
    exact Or.inl ⟨_, List.mem_append_right _ List.mem_cons_self, not_valid_of_refused refused⟩
  | unlisted => exact Or.inr (Or.inl (Or.inl ⟨_, List.mem_cons_self⟩))
  | unresolved valid member failed =>
    refine Or.inr (Or.inl (Or.inr fun ports listed => ⟨_, member, ?_⟩))
    cases listed _ List.mem_cons_self
    exact failed
  | installing valid asked requested installation =>
    cases installation with
    | @uncreated _ request _ _ refusal =>
      exact Or.inr (Or.inr (Or.inl ⟨request, refusal, by simp⟩))
    | @undestroyed _ _ record _ refusal =>
      exact Or.inr (Or.inr (Or.inr ⟨record.rule.portId, record.flowId, refusal, by simp⟩))

/-- What a pass that failed has sent, and what it left in the cache: nothing changes if a rule is
invalid or cannot be resolved; no flow is lost if a creation fails; and if a destruction fails, all
desired flows are there and the stale ones before it are gone. -/
theorem failed_pass_leaves {exchanges : List (Exchange FlowCache)}
    (ends : (pass lookup cache rules).Ends exchanges after (.error error)) :
    ((∃ rule ∈ rules, ¬ Valid rule) →
      answeredCalls exchanges = [] ∧ after = cache ∧ FirstInvalid rules error) ∧
    (Unresolved lookup rules (answeredCalls exchanges) →
      (∀ answered ∈ answeredCalls exchanges, answered.call = .listPorts) ∧ after = cache) ∧
    (∀ request refusal, ⟨.create request, .error refusal⟩ ∈ answeredCalls exchanges →
      StoppedByCreation lookup rules cache after (answeredCalls exchanges) error request refusal) ∧
    (∀ portId flowId refusal,
      ⟨.destroy portId flowId, .error refusal⟩ ∈ answeredCalls exchanges →
      error = .rpc refusal ∧ (∃ ports, Listed (answeredCalls exchanges) ports) ∧
      ∀ ports, Listed (answeredCalls exchanges) ports →
        (∀ rule ∈ rules, (request? lookup ports rule).isSome) ∧
        ∃ gone fingerprint record, portId = record.rule.portId ∧ flowId = record.flowId ∧
          StoppedByDestruction cache after (desired lookup ports rules) (answeredCalls exchanges) gone
            fingerprint record refusal) ∧
    ((∃ rule ∈ rules, ¬ Valid rule) ∨ Unresolved lookup rules (answeredCalls exchanges) ∨
      (∃ request refusal, ⟨.create request, .error refusal⟩ ∈ answeredCalls exchanges) ∨
      ∃ portId flowId refusal,
        ⟨.destroy portId flowId, .error refusal⟩ ∈ answeredCalls exchanges) := by
  have outcome := pass_ends ends
  exact ⟨outcome.of_not_valid, outcome.of_unresolved, fun _ _ => outcome.of_create_error,
    fun _ _ _ => outcome.of_destroy_error, outcome.failure_cases⟩

private theorem pass_uncreated (lookup : VfLookup) (refusal : RpcError) :
    (pass lookup twoDrops [dropOn 3, dropOn 5, dropOn 6]).Ends
      [⟨twoDrops, ⟨.create (droppedOn 5).toRequest, .ok 9⟩, threeDrops⟩,
        ⟨threeDrops, ⟨.create (droppedOn 6).toRequest, .error refusal⟩, threeDrops⟩]
      threeDrops (.error (.rpc refusal)) := by
  have three : twoDrops.has (dropPrint 3) = true := by
    simp [FlowCache.has, get?_twoDrops, dropPrint_eq_iff]
  have six : threeDrops.has (dropPrint 6) = false := by
    simp [FlowCache.has, get?_threeDrops, get?_twoDrops, dropPrint_eq_iff]
  show (pass lookup twoDrops ([3, 5, 6].map dropOn)).Ends _ _ _
  rw [pass_drops]
  apply Program.ends_within
  show ((createMissing 0 0 twoDrops [_, _, _]).andThen _).Ends _ _ _
  rw [createMissing_of_has three]
  exact ends_created (continues_teardown _ _) twoDrops_absent (ends_uncreated six)

private theorem pass_undestroyed (lookup : VfLookup) (refusal : RpcError) :
    (pass lookup twoDrops [dropOn 5]).Ends
      [⟨twoDrops, ⟨.create (droppedOn 5).toRequest, .ok 9⟩, threeDrops⟩,
        ⟨threeDrops, ⟨.destroy 4 8, .ok ()⟩, threeDrops.delete (dropPrint 4)⟩,
        ⟨threeDrops.delete (dropPrint 4), ⟨.destroy 3 7, .error refusal⟩, threeDrops.delete (dropPrint 4)⟩]
      (threeDrops.delete (dropPrint 4)) (.error (.rpc refusal)) := by
  have stale : threeDrops.complement [dropPrint 5] =
      [(dropPrint 4, dropFlow 4 8), (dropPrint 3, dropFlow 3 7)] := by
    rw [complement_threeDrops List.mem_cons_self]
    simp [FlowCache.complement, twoDrops, dropPrint_eq_iff]
  show (pass lookup twoDrops ([5].map dropOn)).Ends _ _ _
  rw [pass_drops]
  apply Program.ends_within
  apply ends_created (continues_teardown _ _) twoDrops_absent
  apply ends_complete
  show ((destroyStale 0 threeDrops (threeDrops.complement [dropPrint 5])).andThen _).Ends _ _ _
  rw [stale]
  exact ends_destroyed (continues_summary _) ends_undestroyed

/-- Of two passes over the same cache, one is stopped by the second of its creations and the other by
the second of its destructions. -/
theorem failed_pass_leaves_drops :
    (∃ exchanges, (pass (.ofTable []) twoDrops [dropOn 3, dropOn 5, dropOn 6]).Ends exchanges threeDrops
        (.error (.rpc (.status .unavailable ""))) ∧
      answeredCalls exchanges = [⟨.create (droppedOn 5).toRequest, .ok 9⟩,
        ⟨.create (droppedOn 6).toRequest, .error (.status .unavailable "")⟩] ∧
      StoppedByCreation (.ofTable []) [dropOn 3, dropOn 5, dropOn 6] twoDrops threeDrops
        (answeredCalls exchanges) (.rpc (.status .unavailable "")) (droppedOn 6).toRequest
        (.status .unavailable "")) ∧
    ∃ exchanges after, (pass (.ofTable []) twoDrops [dropOn 5]).Ends exchanges after
        (.error (.rpc (.status .unavailable ""))) ∧
      answeredCalls exchanges = [⟨.create (droppedOn 5).toRequest, .ok 9⟩, ⟨.destroy 4 8, .ok ()⟩,
        ⟨.destroy 3 7, .error (.status .unavailable "")⟩] ∧
      (∃ gone fingerprint record, StoppedByDestruction twoDrops after
        (desired (.ofTable []) [] [dropOn 5]) (answeredCalls exchanges) gone fingerprint record
        (.status .unavailable "")) ∧
      after.get? (dropPrint 4) = none ∧ after.get? (dropPrint 3) = some (dropFlow 3 7) := by
  have uncreated := pass_uncreated (.ofTable []) (.status .unavailable "")
  have undestroyed := pass_undestroyed (.ofTable []) (.status .unavailable "")
  refine ⟨⟨_, uncreated, rfl, ?_⟩, _, _, undestroyed, rfl, ?_, ?_, ?_⟩
  · exact (failed_pass_leaves uncreated).2.2.1 _ _ (by simp [answeredCalls])
  · obtain ⟨_, _, leaves⟩ := (failed_pass_leaves undestroyed).2.2.2.1 3 7 (.status .unavailable "")
      (by simp [answeredCalls])
    obtain ⟨_, gone, fingerprint, record, _, _, stopped⟩ :=
      leaves [] fun answer member => by simp [answeredCalls] at member
    exact ⟨gone, fingerprint, record, stopped⟩
  · simp [FlowCache.get?_delete]
  · simp [FlowCache.get?_delete, get?_threeDrops, get?_twoDrops, dropPrint_eq_iff]

end Reconciliation

end NicFlow
