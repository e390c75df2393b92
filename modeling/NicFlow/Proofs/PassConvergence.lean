import Mathlib.Data.Finset.Card
import NicFlow.Proofs.PassDiscipline
import NicFlow.Proofs.PassPhases

/-! A successful pass leaves exactly the desired flows, whatever the cache was before. Its report
counts what had to change for that, and the same pass has nothing to do afterwards. -/

namespace NicFlow.Reconciliation

open Log

/-- The fingerprints that requests ask for. -/
def wanted (requests : List CreateRequest) : Finset Fingerprint :=
  (requests.map Fingerprint.ofRequest).toFinset

/-- The fingerprints of the flows that rules ask for on the listed ports. -/
def desired (lookup : VfLookup) (ports : List Port) (rules : List FlowRule) : Finset Fingerprint :=
  wanted (rules.filterMap (request? lookup ports))

variable {lookup : VfLookup} {cache after : FlowCache} {requests : List CreateRequest}
  {installed : List FlowRecord}

theorem mem_wanted_iff {fingerprint : Fingerprint} :
    fingerprint ∈ wanted requests ↔ ∃ request ∈ requests, .ofRequest request = fingerprint := by
  rw [wanted, List.mem_toFinset, List.mem_map]

private theorem desired_congr {ports : List Port} {rules others : List FlowRule}
    (same : ∀ rule, rule ∈ others ↔ rule ∈ rules) :
    desired lookup ports others = desired lookup ports rules := by
  ext fingerprint
  simp only [desired, mem_wanted_iff, List.mem_filterMap, same]

theorem desired_of_requested {ports : List Port} {rules : List FlowRule}
    (requested : rules.map (request? lookup ports) = requests.map some) :
    desired lookup ports rules = wanted requests := by
  have values : rules.filterMap (request? lookup ports) = requests := by
    calc rules.filterMap (request? lookup ports)
      _ = (rules.map (request? lookup ports)).filterMap id := by rw [List.filterMap_map]; rfl
      _ = (requests.map some).filterMap id := by rw [requested]
      _ = requests := by rw [List.filterMap_map]; exact List.filterMap_some
  rw [desired, values]

theorem Installs.fingerprints (installs : Installs cache requests installed) :
    (installed.map FlowRecord.fingerprint).toFinset = wanted requests \ cache.fingerprints.toFinset := by
  ext fingerprint
  rw [Finset.mem_sdiff, mem_wanted_iff, List.mem_toFinset, List.mem_toFinset]
  constructor
  · intro member
    obtain ⟨record, inside, rfl⟩ := List.mem_map.mp member
    exact ⟨⟨record.rule, installs.asked record inside, rfl⟩,
      FlowCache.has_eq_false_iff_not_mem.mp (installs.fresh.absent record inside)⟩
  · rintro ⟨⟨request, asked, rfl⟩, absent⟩
    have present := FlowCache.mem_fingerprints_iff_has.mpr (installs.complete request asked)
    exact ((FlowCache.mem_fingerprints_install installs.fresh).mp present).resolve_left absent

theorem Installs.card (installs : Installs cache requests installed) :
    installed.length = (wanted requests \ cache.fingerprints.toFinset).card := by
  rw [← installs.fingerprints, List.toFinset_card_of_nodup installs.fresh.distinct, List.length_map]

theorem stale_eq_filter (cache : FlowCache) (requests : List CreateRequest) :
    stale cache requests = cache.records.filter fun entry => entry.1 ∉ wanted requests := by
  simp only [stale, FlowCache.complement, wanted, List.mem_toFinset]

theorem mem_stale_iff {fingerprint : Fingerprint} {record : FlowRecord} :
    (fingerprint, record) ∈ stale cache requests ↔
      cache.get? fingerprint = some record ∧ fingerprint ∉ wanted requests := by
  rw [stale, FlowCache.mem_complement_iff, wanted, List.mem_toFinset]

theorem mem_stale_keys_iff {fingerprint : Fingerprint} :
    fingerprint ∈ (stale cache requests).map Prod.fst ↔
      fingerprint ∈ cache.fingerprints ∧ fingerprint ∉ wanted requests := by
  rw [stale, FlowCache.complement_keys, List.mem_filter, wanted, List.mem_toFinset, decide_eq_true_iff]

private theorem stale_keys_nodup (cache : FlowCache) (requests : List CreateRequest) :
    ((stale cache requests).map Prod.fst).Nodup := by
  rw [stale, FlowCache.complement_keys]
  exact cache.fingerprints_nodup.filter _

private theorem stale_card (cache : FlowCache) (requests : List CreateRequest) :
    (stale cache requests).length = (cache.fingerprints.toFinset \ wanted requests).card := by
  have members : ((stale cache requests).map Prod.fst).toFinset =
      cache.fingerprints.toFinset \ wanted requests := by
    ext fingerprint
    rw [List.mem_toFinset, mem_stale_keys_iff, Finset.mem_sdiff, List.mem_toFinset]
  rw [← members, List.toFinset_card_of_nodup (stale_keys_nodup cache requests), List.length_map]

/-- The cache after all missing flows were created and all stale ones destroyed. -/
def settled (cache : FlowCache) (requests : List CreateRequest) (installed : List FlowRecord) :
    FlowCache :=
  (cache.install installed).remove ((stale cache requests).map Prod.fst)

theorem mem_fingerprints_settled (installs : Installs cache requests installed)
    {fingerprint : Fingerprint} :
    fingerprint ∈ (settled cache requests installed).fingerprints ↔ fingerprint ∈ wanted requests := by
  have present : fingerprint ∈ (cache.install installed).fingerprints ↔
      fingerprint ∈ cache.fingerprints ∨ fingerprint ∈ wanted requests := by
    rw [FlowCache.mem_fingerprints_install installs.fresh, ← List.mem_toFinset (l := List.map _ _),
      installs.fingerprints, Finset.mem_sdiff, List.mem_toFinset]
    tauto
  rw [FlowCache.mem_fingerprints_iff_get?, settled]
  simp only [FlowCache.get?_remove, mem_stale_keys_iff]
  split
  next gone => simp [gone.2]
  next kept =>
    rw [← FlowCache.mem_fingerprints_iff_get?, present]
    tauto

private theorem size_settled (installs : Installs cache requests installed) :
    (settled cache requests installed).size + (stale cache requests).length =
      cache.size + installed.length := by
  have held : ∀ fingerprint ∈ (stale cache requests).map Prod.fst,
      fingerprint ∈ (cache.install installed).fingerprints := by
    intro fingerprint member
    exact (FlowCache.mem_fingerprints_install installs.fresh).mpr
      (Or.inl (mem_stale_keys_iff.mp member).1)
  have removed := FlowCache.size_remove (stale_keys_nodup cache requests) held
  rw [List.length_map, FlowCache.size_install installs.fresh] at removed
  exact removed

section Repetition

variable {calls : List Answered} {result : Except AgentError ReconcileReport} {unvalidated : Nat}

/-- The cache holds what the requests ask for, and nothing else. -/
structure Converged (cache : FlowCache) (requests : List CreateRequest) : Prop where
  complete : ∀ request ∈ requests, cache.has (.ofRequest request) = true
  exact : stale cache requests = []

theorem Installs.converged (installs : Installs cache requests installed) :
    Converged (settled cache requests installed) requests := by
  refine ⟨?_, ?_⟩
  · intro request asked
    rw [← FlowCache.mem_fingerprints_iff_has, mem_fingerprints_settled installs, mem_wanted_iff]
    exact ⟨request, asked, rfl⟩
  · rw [List.eq_nil_iff_forall_not_mem]
    intro entry member
    obtain ⟨held, unwanted⟩ := mem_stale_keys_iff.mp (List.mem_map_of_mem member)
    exact unwanted ((mem_fingerprints_settled installs).mp held)

private theorem Installs.eq_nil (installs : Installs cache requests installed)
    (complete : ∀ request ∈ requests, cache.has (.ofRequest request) = true) : installed = [] := by
  rw [List.eq_nil_iff_forall_not_mem]
  intro record member
  have absent := installs.fresh.absent record member
  rw [FlowRecord.fingerprint, complete record.rule (installs.asked record member)] at absent
  cases absent

theorem Converged.installation (converged : Converged cache requests)
    (installation : Installation cache requests unvalidated calls after result) :
    calls = [] ∧ after = cache ∧ result = .ok ⟨0, 0, requests.length, unvalidated⟩ := by
  cases installation with
  | uncreated split installs absent =>
    subst split
    have present := has_install installs.fresh
      (converged.complete _ (List.mem_append_right _ List.mem_cons_self))
    rw [absent] at present
    cases present
  | undestroyed gone installs split =>
    rw [converged.exact] at split
    simp at split
  | finished installs counted =>
    cases installs.eq_nil converged.complete
    rw [converged.exact]
    exact ⟨rfl, rfl, by rw [← counted]; rfl⟩

theorem Listing.listPorts {listing : List Answered} (asked : Listing listing) :
    ∀ answered ∈ listing, answered.call = .listPorts := by
  intro answered member
  cases asked with
  | unasked => cases member
  | asked ports => rw [List.mem_singleton.mp member]

/-- A pass over a converged cache asks for the ports at most, and changes nothing. -/
theorem Converged.pass {rules : List FlowRule} {ports : List Port}
    (converged : Converged cache requests)
    (requested : rules.map (request? lookup ports) = requests.map some)
    (outcome : Outcome lookup cache rules calls after result) (listed : Listed calls ports) :
    (∀ answered ∈ calls, answered.call = .listPorts) ∧ after = cache ∧
      result = .ok ⟨0, 0, rules.length, rules.countP partlyValidated⟩ := by
  cases outcome with
  | invalid split valid refused =>
    subst split
    obtain ⟨request, _, asked⟩ := exists_request requested (List.mem_append_right _ List.mem_cons_self)
    simp [request?, refused] at asked
  | unlisted valid => cases listed _ List.mem_cons_self
  | unresolved valid member failed =>
    cases listed _ List.mem_cons_self
    obtain ⟨request, _, asked⟩ := exists_request requested member
    rw [failed] at asked
    cases asked
  | @installing listing others later _ _ valid asked again installation =>
    have same : others.map some = requests.map some := (again ports listed.left).symm.trans requested
    cases List.map_injective_iff.mpr (Option.some_injective _) same
    obtain ⟨rfl, rfl, rfl⟩ := converged.installation installation
    have counted : rules.length = requests.length := by simpa using congrArg List.length requested
    rw [List.append_nil, counted]
    exact ⟨asked.listPorts, rfl, rfl⟩

/-- A service that lists its ports and refuses everything else. -/
def lister (ports : List Port) : (call : Call) → Unit → call.Answer × Unit
  | .listPorts, service => (.ok ports, service)
  | _, service => (.error (.status .unimplemented ""), service)

theorem exists_listed_run (cache : FlowCache) (rules : List FlowRule) (ports : List Port) :
    ∃ exchanges final result, (pass lookup cache rules).Ends exchanges final result ∧
      Listed (answeredCalls exchanges) ports := by
  obtain ⟨exchanges, ends, served⟩ := Program.ends_run (lister ports) (pass lookup cache rules) ()
  refine ⟨exchanges, _, _, ends, ?_⟩
  intro answer member
  obtain ⟨exchange, inside, same⟩ := List.mem_map.mp member
  obtain ⟨_, answered⟩ := served exchange inside
  rw [same] at answered
  exact answered

end Repetition

/-- What a successful pass leaves in the cache, and what it reports. -/
structure Settles (lookup : VfLookup) (ports : List Port) (cache after : FlowCache)
    (rules : List FlowRule) (report : ReconcileReport) : Prop where
  requested : ∀ rule ∈ rules, (request? lookup ports rule).isSome
  fingerprints : after.fingerprints.toFinset = desired lookup ports rules
  unordered : ∀ others, (∀ rule, rule ∈ others ↔ rule ∈ rules) →
    after.fingerprints.toFinset = desired lookup ports others
  counted : report.created + report.unchanged = rules.length
  created : report.created = (desired lookup ports rules \ cache.fingerprints.toFinset).card
  destroyed : report.destroyed = (cache.fingerprints.toFinset \ desired lookup ports rules).card
  size : after.size + report.destroyed = cache.size + report.created
  unvalidated : report.unvalidated = rules.countP partlyValidated

theorem Installs.settles {rules : List FlowRule} {ports : List Port} {found : Nat}
    (installs : Installs cache requests installed)
    (requested : rules.map (request? lookup ports) = requests.map some)
    (counted : found + installed.length = requests.length) :
    Settles lookup ports cache (settled cache requests installed) rules
      ⟨installed.length, (stale cache requests).length, found, rules.countP partlyValidated⟩ := by
  have same := desired_of_requested requested
  have exactly : (settled cache requests installed).fingerprints.toFinset =
      desired lookup ports rules := by
    ext fingerprint
    rw [List.mem_toFinset, same]
    exact mem_fingerprints_settled installs
  constructor
  · intro rule member
    obtain ⟨request, _, asks⟩ := exists_request requested member
    rw [asks]
    rfl
  · exact exactly
  · intro others members
    rw [desired_congr members, exactly]
  · have length : rules.length = requests.length := by simpa using congrArg List.length requested
    rw [length, ← counted, Nat.add_comm]
  · rw [same]
    exact installs.card
  · rw [same]
    exact stale_card cache requests
  · exact size_settled installs
  · rfl

/-- A pass that succeeds leaves exactly the flows that its rules ask for, from every cache. It
counts the rules, the flows it created and those it destroyed. Repeated, it changes nothing, as
long as the same ports are listed. -/
theorem pass_converges {rules : List FlowRule} {exchanges : List (Exchange FlowCache)}
    {report : ReconcileReport} (ends : (pass lookup cache rules).Ends exchanges after (.ok report)) :
    (∃ ports, Listed (answeredCalls exchanges) ports) ∧
    ∀ ports, Listed (answeredCalls exchanges) ports →
      Settles lookup ports cache after rules report ∧
      (∀ again final result, (pass lookup after rules).Ends again final result →
        Listed (answeredCalls again) ports →
        (∀ answered ∈ answeredCalls again, answered.call = .listPorts) ∧ final = after ∧
          result = .ok ⟨0, 0, rules.length, report.unvalidated⟩) ∧
      ∃ again final result, (pass lookup after rules).Ends again final result ∧
        Listed (answeredCalls again) ports := by
  have outcome := pass_ends ends
  generalize answeredCalls exchanges = calls at outcome ⊢
  cases outcome with
  | installing valid asked requested installation =>
    have resolved := installation
    cases installation with
    | finished installs counted =>
      refine ⟨?_, fun ports listed => ?_⟩
      · obtain ⟨ports, listed⟩ := asked.listed
        exact ⟨ports, resolved.listed listed⟩
      · have same := requested ports listed.left
        refine ⟨installs.settles same counted, ?_, exists_listed_run _ rules ports⟩
        intro again final result ends listed
        exact installs.converged.pass same (pass_ends ends) listed

private theorem pass_twoDrops (lookup : VfLookup) :
    (pass lookup twoDrops [dropOn 5, dropOn 3, dropOn 5]).Ends
      [⟨twoDrops, ⟨.create (droppedOn 5).toRequest, .ok 9⟩, threeDrops⟩,
        ⟨threeDrops, ⟨.destroy 4 8, .ok ()⟩, threeDrops.delete (dropPrint 4)⟩]
      (threeDrops.delete (dropPrint 4)) (.ok ⟨1, 1, 2, 0⟩) := by
  have five : threeDrops.has (dropPrint 5) = true := by
    simp [FlowCache.has, get?_threeDrops]
  have three : threeDrops.has (dropPrint 3) = true := by
    simp [FlowCache.has, get?_threeDrops, get?_twoDrops, dropPrint_eq_iff]
  have stale : threeDrops.complement [dropPrint 5, dropPrint 3, dropPrint 5] =
      [(dropPrint 4, dropFlow 4 8)] := by
    rw [complement_threeDrops List.mem_cons_self]
    simp [FlowCache.complement, twoDrops, dropPrint_eq_iff]
  show (pass lookup twoDrops ([5, 3, 5].map dropOn)).Ends _ _ _
  rw [pass_drops]
  apply Program.ends_within
  apply ends_created (continues_teardown _ _) twoDrops_absent
  show ((createMissing 1 0 threeDrops [_, _]).andThen _).Ends _ _ _
  rw [createMissing_of_has three, createMissing_of_has five]
  apply ends_complete
  show ((destroyStale 0 threeDrops (threeDrops.complement
    [dropPrint 5, dropPrint 3, dropPrint 5])).andThen _).Ends _ _ _
  rw [stale]
  exact ends_destroyed (continues_summary _) (Program.ends_reportAll _ .done)

theorem pass_converges_twoDrops :
    ∃ exchanges after,
      (pass (.ofTable []) twoDrops [dropOn 5, dropOn 3, dropOn 5]).Ends exchanges after
        (.ok ⟨1, 1, 2, 0⟩) ∧
      after.fingerprints.toFinset = desired (.ofTable []) [] [dropOn 3, dropOn 5] ∧ after.size = 2 ∧
      (desired (.ofTable []) [] [dropOn 3, dropOn 5] \ twoDrops.fingerprints.toFinset).card = 1 ∧
      (twoDrops.fingerprints.toFinset \ desired (.ofTable []) [] [dropOn 3, dropOn 5]).card = 1 := by
  have ends := pass_twoDrops (.ofTable [])
  have listed : Listed [⟨.create (droppedOn 5).toRequest, .ok 9⟩, ⟨.destroy 4 8, .ok ()⟩] [] := by
    intro answer member
    simp at member
  have settles := ((pass_converges ends).2 [] listed).1
  have same : desired (.ofTable []) [] [dropOn 3, dropOn 5] =
      desired (.ofTable []) [] [dropOn 5, dropOn 3, dropOn 5] :=
    desired_congr fun rule => by
      simp only [List.mem_cons, List.not_mem_nil, or_false]
      tauto
  have shrunk := settles.size
  refine ⟨_, _, ends, ?_, ?_, ?_, ?_⟩
  · rw [same]
    exact settles.fingerprints
  · exact Nat.add_right_cancel shrunk
  · rw [same]
    exact settles.created.symm
  · rw [same]
    exact settles.destroyed.symm

end NicFlow.Reconciliation
