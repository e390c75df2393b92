import NicFlow.Proofs.CacheRecords
import NicFlow.Proofs.ProgramTrace
import NicFlow.Proofs.RuleResolution

/-! The ways in which a reconciliation pass can end: in each of its phases, and after each call.
They say what was sent, what the cache became and what was returned. -/

namespace NicFlow

open Log Traced

/-- Acknowledged creations of flows, in order. -/
def creations (records : List FlowRecord) : List Answered :=
  records.map fun record => ⟨.create record.rule, .ok record.flowId⟩

/-- Acknowledged destructions of flows, in order. -/
def destructions (records : List FlowRecord) : List Answered :=
  records.map fun record => ⟨.destroy record.rule.portId record.flowId, .ok ()⟩

/-- Whoever asked for the ports was answered with these. -/
def Listed (calls : List Answered) (ports : List Port) : Prop :=
  ∀ answer, ⟨.listPorts, answer⟩ ∈ calls → answer = .ok ports

theorem Listed.left {listing rest : List Answered} {ports : List Port}
    (listed : Listed (listing ++ rest) ports) : Listed listing ports :=
  fun answer member => listed answer (List.mem_append_left _ member)

namespace Reconciliation

/-- The flows that a list of requests adds to a cache: each once, and only what is missing. -/
structure Installs (cache : FlowCache) (requests : List CreateRequest) (installed : List FlowRecord) :
    Prop where
  fresh : cache.Fresh installed
  asked : ∀ record ∈ installed, record.rule ∈ requests
  complete : ∀ request ∈ requests, (cache.install installed).has (.ofRequest request) = true

variable {cache after : FlowCache} {lookup : VfLookup}

theorem Installs.nil (cache : FlowCache) : Installs cache [] [] :=
  ⟨.nil cache, List.forall_mem_nil _, List.forall_mem_nil _⟩

theorem has_install {installed : List FlowRecord} (fresh : cache.Fresh installed)
    {fingerprint : Fingerprint} (found : cache.has fingerprint = true) :
    (cache.install installed).has fingerprint = true := by
  rw [← FlowCache.mem_fingerprints_iff_has] at found ⊢
  exact (FlowCache.mem_fingerprints_install fresh).mpr (Or.inl found)

theorem Installs.skip {request : CreateRequest} {rest : List CreateRequest}
    {installed : List FlowRecord} (found : cache.has (.ofRequest request) = true)
    (installs : Installs cache rest installed) : Installs cache (request :: rest) installed := by
  refine ⟨installs.fresh, fun record member => List.mem_cons_of_mem _ (installs.asked record member), ?_⟩
  intro other member
  rcases List.mem_cons.mp member with rfl | inside
  · exact has_install installs.fresh found
  · exact installs.complete other inside

theorem Installs.add {request : CreateRequest} {rest : List CreateRequest}
    {installed : List FlowRecord} {flowId : UInt32} (absent : cache.has (.ofRequest request) = false)
    (installs : Installs (cache.add (.ofRequest request) ⟨flowId, request⟩) rest installed) :
    Installs cache (request :: rest) (⟨flowId, request⟩ :: installed) := by
  have fresh : cache.Fresh (⟨flowId, request⟩ :: installed) := .cons absent installs.fresh
  refine ⟨fresh, ?_, ?_⟩
  · intro record member
    rcases List.mem_cons.mp member with rfl | inside
    · exact List.mem_cons_self
    · exact List.mem_cons_of_mem _ (installs.asked record inside)
  · intro other member
    rcases List.mem_cons.mp member with rfl | inside
    · refine has_install installs.fresh ?_
      rw [FlowCache.has, FlowCache.get?_add absent, if_pos rfl]
      rfl
    · exact installs.complete other inside

inductive Creation (cache : FlowCache) (requests : List CreateRequest) (created unchanged : Nat) :
    List Answered → FlowCache → Except AgentError (Nat × Nat) → Prop where
  | finished {installed found} (installs : Installs cache requests installed)
      (counted : found + installed.length = unchanged + requests.length) :
      Creation cache requests created unchanged (creations installed) (cache.install installed)
        (.ok (created + installed.length, found))
  | refused {before request rest installed error} (split : requests = before ++ request :: rest)
      (installs : Installs cache before installed)
      (absent : (cache.install installed).has (.ofRequest request) = false) :
      Creation cache requests created unchanged
        (creations installed ++ [⟨.create request, .error error⟩]) (cache.install installed)
        (.error (.rpc error))

theorem Creation.skip {request : CreateRequest} {rest : List CreateRequest} {created unchanged : Nat}
    {calls : List Answered} {result : Except AgentError (Nat × Nat)}
    (found : cache.has (.ofRequest request) = true)
    (creation : Creation cache rest created (unchanged + 1) calls after result) :
    Creation cache (request :: rest) created unchanged calls after result := by
  cases creation with
  | finished installs counted =>
    refine .finished (installs.skip found) ?_
    rw [List.length_cons]
    omega
  | refused split installs absent =>
    subst split
    exact .refused (List.cons_append ..).symm (installs.skip found) absent

theorem Creation.add {request : CreateRequest} {rest : List CreateRequest} {created unchanged : Nat}
    {calls : List Answered} {result : Except AgentError (Nat × Nat)} {flowId : UInt32}
    (absent : cache.has (.ofRequest request) = false)
    (creation : Creation (cache.add (.ofRequest request) ⟨flowId, request⟩) rest (created + 1)
      unchanged calls after result) :
    Creation cache (request :: rest) created unchanged (⟨.create request, .ok flowId⟩ :: calls) after
      result := by
  cases creation with
  | @finished installed found installs counted =>
    have grown : created + 1 + installed.length = created + (installed.length + 1) := by omega
    rw [grown]
    refine .finished (installs.add absent) ?_
    rw [List.length_cons, List.length_cons]
    omega
  | refused split installs missing =>
    subst split
    exact .refused (List.cons_append ..).symm (installs.add absent) missing

private theorem createMissing_ends {created unchanged : Nat} {requests : List CreateRequest}
    {exchanges : List (Exchange FlowCache)} {result : Except AgentError (Nat × Nat)}
    (ends : (createMissing created unchanged cache requests).Ends exchanges after result) :
    Creation cache requests created unchanged (answeredCalls exchanges) after result := by
  induction requests generalizing created unchanged cache exchanges with
  | nil =>
    cases ends with
    | done => exact .finished (.nil _) rfl
  | cons request rest ih =>
    simp only [createMissing] at ends
    split at ends
    next found => exact .skip found (ih ends)
    next missing =>
      have absent := Bool.eq_false_iff.mpr missing
      cases ends with
      | call answer ends =>
        cases answer with
        | error error =>
          cases ends with
          | done => exact .refused rfl (.nil _) absent
        | ok flowId =>
          cases ends with
          | report ends => exact .add absent (ih ends)

inductive Destruction (cache : FlowCache) (stale : List (Fingerprint × FlowRecord)) (destroyed : Nat) :
    List Answered → FlowCache → Except AgentError Nat → Prop where
  | finished :
      Destruction cache stale destroyed (destructions (stale.map Prod.snd))
        (cache.remove (stale.map Prod.fst)) (.ok (destroyed + stale.length))
  | refused {fingerprint record kept error} (gone : List (Fingerprint × FlowRecord))
      (split : stale = gone ++ (fingerprint, record) :: kept) :
      Destruction cache stale destroyed
        (destructions (gone.map Prod.snd) ++
          [⟨.destroy record.rule.portId record.flowId, .error error⟩])
        (cache.remove (gone.map Prod.fst)) (.error (.rpc error))

theorem Destruction.next {fingerprint : Fingerprint} {record : FlowRecord}
    {rest : List (Fingerprint × FlowRecord)} {destroyed : Nat} {calls : List Answered}
    {result : Except AgentError Nat}
    (destruction : Destruction (cache.delete fingerprint) rest (destroyed + 1) calls after result) :
    Destruction cache ((fingerprint, record) :: rest) destroyed
      (⟨.destroy record.rule.portId record.flowId, .ok ()⟩ :: calls) after result := by
  cases destruction with
  | finished =>
    have grown : destroyed + 1 + rest.length = destroyed + (rest.length + 1) := by omega
    rw [grown]
    exact .finished
  | refused gone split =>
    subst split
    exact .refused ((fingerprint, record) :: gone) (List.cons_append ..).symm

private theorem destroyStale_ends {destroyed : Nat} {stale : List (Fingerprint × FlowRecord)}
    {exchanges : List (Exchange FlowCache)} {result : Except AgentError Nat}
    (ends : (destroyStale destroyed cache stale).Ends exchanges after result) :
    Destruction cache stale destroyed (answeredCalls exchanges) after result := by
  induction stale generalizing destroyed cache exchanges with
  | nil =>
    cases ends with
    | done => exact .finished
  | cons entry rest ih =>
    cases ends with
    | call answer ends =>
      cases answer with
      | error error =>
        cases ends with
        | done => exact .refused [] rfl
      | ok _ =>
        cases ends with
        | report ends => exact .next (ih ends)

/-- The flows of a cache that no request asks for, in order of their fingerprints. -/
def stale (cache : FlowCache) (requests : List CreateRequest) : List (Fingerprint × FlowRecord) :=
  cache.complement (requests.map Fingerprint.ofRequest)

private theorem stale_install {requests : List CreateRequest} {installed : List FlowRecord}
    (installs : Installs cache requests installed) :
    stale (cache.install installed) requests = stale cache requests := by
  refine FlowCache.complement_install installs.fresh ?_
  exact fun record member => List.mem_map_of_mem (installs.asked record member)

/-- How it ends to make the installed flows those of the requests. -/
inductive Installation (cache : FlowCache) (requests : List CreateRequest) (unvalidated : Nat) :
    List Answered → FlowCache → Except AgentError ReconcileReport → Prop where
  | uncreated {before request rest installed error} (split : requests = before ++ request :: rest)
      (installs : Installs cache before installed)
      (absent : (cache.install installed).has (.ofRequest request) = false) :
      Installation cache requests unvalidated
        (creations installed ++ [⟨.create request, .error error⟩]) (cache.install installed)
        (.error (.rpc error))
  | undestroyed {installed fingerprint record kept error} (gone : List (Fingerprint × FlowRecord))
      (installs : Installs cache requests installed)
      (split : stale cache requests = gone ++ (fingerprint, record) :: kept) :
      Installation cache requests unvalidated
        (creations installed ++ (destructions (gone.map Prod.snd) ++
          [⟨.destroy record.rule.portId record.flowId, .error error⟩]))
        ((cache.install installed).remove (gone.map Prod.fst)) (.error (.rpc error))
  | finished {installed found} (installs : Installs cache requests installed)
      (counted : found + installed.length = requests.length) :
      Installation cache requests unvalidated
        (creations installed ++ destructions ((stale cache requests).map Prod.snd))
        ((cache.install installed).remove ((stale cache requests).map Prod.fst))
        (.ok ⟨installed.length, (stale cache requests).length, found, unvalidated⟩)

theorem Installation.not_listed {requests : List CreateRequest} {unvalidated : Nat}
    {calls : List Answered} {result : Except AgentError ReconcileReport}
    (installation : Installation cache requests unvalidated calls after result)
    (answer : Except RpcError (List Port)) : ⟨.listPorts, answer⟩ ∉ calls := by
  cases installation with
  | uncreated => simp [creations]
  | undestroyed => simp [creations, destructions]
  | finished => simp [creations, destructions]

theorem Installation.listed {requests : List CreateRequest} {unvalidated : Nat}
    {listing calls : List Answered} {result : Except AgentError ReconcileReport} {ports : List Port}
    (installation : Installation cache requests unvalidated calls after result)
    (listed : Listed listing ports) : Listed (listing ++ calls) ports := by
  intro answer member
  exact listed answer ((List.mem_append.mp member).resolve_right (installation.not_listed answer))

private theorem teardown_ends (report : Nat → ReconcileReport) {stale : List (Fingerprint × FlowRecord)}
    {exchanges : List (Exchange FlowCache)} {result : Except AgentError ReconcileReport}
    (ends : ((destroyStale 0 cache stale).andThen fun cache destroyed =>
      .reportAll (summaryEvents (report destroyed)) (.done cache (.ok (report destroyed)))).Ends
        exchanges after result) :
    ∃ outcome, Destruction cache stale 0 (answeredCalls exchanges) after outcome ∧
      result = outcome.map report := by
  rcases Program.Ends.of_andThen ends with
    ⟨_, error, failed, same, calls⟩ | ⟨first, _, destroyed, _, torn, ends, calls⟩
  · exact ⟨.error error, calls ▸ destroyStale_ends failed, same⟩
  · cases Program.Ends.of_reportAll ends with
    | done =>
      have same : answeredCalls exchanges = answeredCalls first := by simpa [answeredCalls] using calls
      exact ⟨.ok destroyed, same ▸ destroyStale_ends torn, rfl⟩

private theorem install_ends {rules : List ValidatedRule} {exchanges : List (Exchange FlowCache)}
    {result : Except AgentError ReconcileReport}
    (ends : (install cache rules).Ends exchanges after result) :
    Installation cache (rules.map ValidatedRule.toRequest)
      (rules.countP (·.verdict = .acceptedUnvalidated)) (answeredCalls exchanges) after result := by
  rcases Program.Ends.of_andThen ends with
    ⟨_, _, failed, rfl, calls⟩ | ⟨first, _, ⟨created, unchanged⟩, rest, creates, ends, calls⟩
  · rw [calls]
    have creation := createMissing_ends failed
    generalize answeredCalls _ = sent at creation ⊢
    cases creation with
    | refused split installs absent => exact .uncreated split installs absent
  · obtain ⟨outcome, destruction, rfl⟩ :=
      teardown_ends (fun destroyed => ⟨created, destroyed, unchanged, _⟩) ends
    rw [calls]
    have creation := createMissing_ends creates
    generalize answeredCalls first = sent at creation ⊢
    generalize answeredCalls rest = sentLater at destruction ⊢
    cases creation with
    | finished installs counted =>
      have same : FlowCache.complement _ _ = _ := stale_install installs
      rw [same] at destruction
      cases destruction with
      | refused gone split => exact .undestroyed gone installs split
      | finished =>
        simp only [Nat.zero_add, Except.map] at counted ⊢
        exact .finished installs counted

/-- A pass asks for the ports once, or not at all. -/
inductive Listing : List Answered → Prop where
  | unasked : Listing []
  | asked (ports : List Port) : Listing [⟨.listPorts, .ok ports⟩]

theorem Listing.listed {calls : List Answered} (listing : Listing calls) :
    ∃ ports, Listed calls ports := by
  cases listing with
  | unasked => exact ⟨[], fun _ impossible => by cases impossible⟩
  | asked ports =>
    refine ⟨ports, fun answer member => ?_⟩
    cases List.mem_singleton.mp member
    rfl

/-- How validated rules are resolved: the ports are asked for if a rule names a device. -/
inductive Asking (lookup : VfLookup) (rules : List ValidatedRule) :
    List Answered → Except AgentError (List ValidatedRule) → Prop where
  | unasked (plain : rules.any namesDevice = false) : Asking lookup rules [] (.ok rules)
  | unlisted {error} (names : rules.any namesDevice = true) :
      Asking lookup rules [⟨.listPorts, .error error⟩] (.error (.rpc error))
  | listed {ports : List Port} {result} (names : rules.any namesDevice = true)
      (resolution : (forEachFrom (resolveRule lookup ports) 0 rules).result = result) :
      Asking lookup rules [⟨.listPorts, .ok ports⟩] result

private theorem resolveRules_asks {rules : List ValidatedRule} {exchanges : List (Exchange FlowCache)}
    {result : Except AgentError (List ValidatedRule)}
    (ends : (resolveRules lookup cache rules).Ends exchanges after result) :
    after = cache ∧ Asking lookup rules (answeredCalls exchanges) result := by
  unfold resolveRules at ends
  split at ends
  next names =>
    cases ends with
    | call answer ends =>
      cases answer with
      | error error =>
        cases ends with
        | done => exact ⟨rfl, .unlisted names⟩
      | ok ports =>
        obtain ⟨rfl, rfl, rfl⟩ := Program.Ends.of_ofTraced ends
        exact ⟨rfl, .listed names rfl⟩
  next plain =>
    cases ends with
    | done => exact ⟨rfl, .unasked (Bool.eq_false_iff.mpr plain)⟩

/-- How the resolution of validated rules ends. -/
inductive Resolution (lookup : VfLookup) (rules : List ValidatedRule) :
    List Answered → Except AgentError (List ValidatedRule) → Prop where
  | unlisted {error} : Resolution lookup rules [⟨.listPorts, .error error⟩] (.error (.rpc error))
  | unresolved {ports index rule error} (member : rule ∈ rules)
      (failed : (resolveRule lookup ports index rule).result = .error error) :
      Resolution lookup rules [⟨.listPorts, .ok ports⟩] (.error error)
  | finished {calls resolved} (listing : Listing calls)
      (resolves : ∀ ports, Listed calls ports →
        List.Forall₂ (ResolvesRule lookup ports) rules resolved) :
      Resolution lookup rules calls (.ok resolved)

theorem Asking.resolution {rules : List ValidatedRule} {calls : List Answered}
    {result : Except AgentError (List ValidatedRule)} (asking : Asking lookup rules calls result) :
    Resolution lookup rules calls result := by
  cases asking with
  | unasked plain =>
    have none : ∀ rule ∈ rules, ¬ namesDevice rule = true := by simpa using plain
    refine .finished .unasked fun ports _ => List.forall₂_same.mpr fun rule member => .kept ?_
    exact Bool.eq_false_iff.mpr (none rule member)
  | unlisted names => exact .unlisted
  | @listed ports _ names resolution =>
    cases result with
    | error error =>
      obtain ⟨before, rule, later, rfl, _, failed⟩ := forEachFrom_error resolution
      exact .unresolved (List.mem_append_right _ List.mem_cons_self) failed
    | ok values =>
      refine .finished (.asked ports) fun others listed => ?_
      cases listed (.ok ports) List.mem_cons_self
      have uniform : ∀ index rule resolved, (resolveRule lookup ports index rule).result =
          .ok resolved ↔ ResolvesRule lookup ports rule resolved :=
        fun index _ _ => resolveRule_ok_iff index
      exact (forEachFrom_ok_iff uniform 0 _ _).mp resolution

/-- The course of a pass: validation, resolution, and then the changes of the flows. -/
inductive Course (lookup : VfLookup) (cache : FlowCache) (rules : List FlowRule) :
    List Answered → FlowCache → Except AgentError ReconcileReport → Prop where
  | invalid {before rule rest source} (split : rules = before ++ rule :: rest)
      (valid : ∀ earlier ∈ before, Valid earlier)
      (refused : (Validation.validateRule .node rule).result = .error source) :
      Course lookup cache rules [] cache (.error (.flow before.length source))
  | unresolved {validated : List ValidatedRule} {calls : List Answered} {error}
      (valid : List.Forall₂ Validates rules validated)
      (asking : Asking lookup validated calls (.error error)) :
      Course lookup cache rules calls cache (.error error)
  | installing {validated resolved : List ValidatedRule} {listing calls : List Answered}
      {after : FlowCache} {result} (valid : List.Forall₂ Validates rules validated)
      (asking : Asking lookup validated listing (.ok resolved))
      (installation : Installation cache (resolved.map ValidatedRule.toRequest)
        (resolved.countP (·.verdict = .acceptedUnvalidated)) calls after result) :
      Course lookup cache rules (listing ++ calls) after result

theorem pass_course {rules : List FlowRule} {exchanges : List (Exchange FlowCache)}
    {result : Except AgentError ReconcileReport}
    (ends : (pass lookup cache rules).Ends exchanges after result) :
    Course lookup cache rules (answeredCalls exchanges) after result := by
  rcases Program.Ends.of_andThen (Program.Ends.of_within ends) with
    ⟨_, error, failed, rfl, calls⟩ | ⟨_, _, validated, later, validates, goesOn, calls⟩
  · obtain ⟨rfl, rfl, outcome⟩ := Program.Ends.of_ofTraced failed
    obtain ⟨before, rule, rest, source, split, valid, refused, rfl⟩ :=
      Check.validate_all_error outcome.symm
    rw [calls]
    exact .invalid split valid refused
  · obtain ⟨rfl, rfl, outcome⟩ := Program.Ends.of_ofTraced validates
    have valid := Check.validate_all_ok outcome.symm
    have same : answeredCalls exchanges = answeredCalls later := calls
    rw [same]
    rcases Program.Ends.of_andThen goesOn with
      ⟨first, error, failed, rfl, calls⟩ | ⟨first, _, resolved, rest, resolves, installs, calls⟩
    · obtain ⟨rfl, asking⟩ := resolveRules_asks failed
      rw [calls]
      exact .unresolved valid asking
    · obtain ⟨rfl, asking⟩ := resolveRules_asks resolves
      rw [calls]
      exact .installing valid asking (install_ends installs)

theorem exists_request {rules : List FlowRule} {requests : List CreateRequest} {ports : List Port}
    (requested : rules.map (request? lookup ports) = requests.map some) {rule : FlowRule}
    (member : rule ∈ rules) : ∃ request ∈ requests, request? lookup ports rule = some request := by
  have inside : request? lookup ports rule ∈ rules.map (request? lookup ports) :=
    List.mem_map_of_mem member
  rw [requested] at inside
  obtain ⟨request, asked, same⟩ := List.mem_map.mp inside
  exact ⟨request, asked, same.symm⟩

/-- All ways in which a pass can end. -/
inductive Outcome (lookup : VfLookup) (cache : FlowCache) (rules : List FlowRule) :
    List Answered → FlowCache → Except AgentError ReconcileReport → Prop where
  | invalid {before rule rest source} (split : rules = before ++ rule :: rest)
      (valid : ∀ earlier ∈ before, Valid earlier)
      (refused : (Validation.validateRule .node rule).result = .error source) :
      Outcome lookup cache rules [] cache (.error (.flow before.length source))
  | unlisted {error} (valid : ∀ rule ∈ rules, Valid rule) :
      Outcome lookup cache rules [⟨.listPorts, .error error⟩] cache (.error (.rpc error))
  | unresolved {ports rule error} (valid : ∀ rule ∈ rules, Valid rule)
      (member : rule ∈ rules) (failed : request? lookup ports rule = none) :
      Outcome lookup cache rules [⟨.listPorts, .ok ports⟩] cache (.error error)
  | installing {listing requests calls after result}
      (valid : ∀ rule ∈ rules, Valid rule) (listed : Listing listing)
      (requested : ∀ ports, Listed listing ports →
        rules.map (request? lookup ports) = requests.map some)
      (installation : Installation cache requests (rules.countP partlyValidated) calls after result) :
      Outcome lookup cache rules (listing ++ calls) after result

theorem Course.outcome {rules : List FlowRule} {calls : List Answered}
    {result : Except AgentError ReconcileReport}
    (course : Course lookup cache rules calls after result) :
    Outcome lookup cache rules calls after result := by
  cases course with
  | invalid split valid refused => exact .invalid split valid refused
  | unresolved related asking =>
    cases asking.resolution with
    | unlisted => exact .unlisted (valid_of_validates related)
    | unresolved member failed =>
      obtain ⟨rule, present, validates⟩ := exists_of_forall₂ related member
      exact .unresolved (valid_of_validates related) present (request?_of_unresolved validates failed)
  | installing related asking installation =>
    cases asking.resolution with
    | finished listing resolves =>
      obtain ⟨ports, listed⟩ := listing.listed
      rw [countP_verdict_of_resolved related (resolves ports listed)] at installation
      refine .installing (valid_of_validates related) listing ?_ installation
      exact fun ports listed => requests_of_resolved related (resolves ports listed)

theorem pass_ends {rules : List FlowRule} {exchanges : List (Exchange FlowCache)}
    {result : Except AgentError ReconcileReport}
    (ends : (pass lookup cache rules).Ends exchanges after result) :
    Outcome lookup cache rules (answeredCalls exchanges) after result :=
  (pass_course ends).outcome

end Reconciliation

end NicFlow
