import Mathlib.Data.List.Nodup
import NicFlow.Proofs.CacheRecords
import NicFlow.Proofs.ProgramTrace
import NicFlow.Proofs.RuleResolution

/-! What a reconciliation pass may do at each of its calls, and how its cache follows the
answer. A refused call ends the pass and leaves the cache as it was. -/

namespace NicFlow

open Log Traced

/-- An error that did not come from the flow service. -/
def AgentError.Local (error : AgentError) : Prop := ∀ source, error ≠ .rpc source

namespace Reconciliation

/-- A call that a pass makes with a cache, and the cache after each reply. -/
inductive Uses (cache : FlowCache) : (call : Call) → (call.Reply → FlowCache) → Prop where
  | list : Uses cache .listPorts fun _ => cache
  | create {request} (absent : cache.has (.ofRequest request) = false) :
      Uses cache (.create request) fun flowId => cache.add (.ofRequest request) ⟨flowId, request⟩
  | destroy {fingerprint record} (found : cache.get? fingerprint = some record) :
      Uses cache (.destroy record.rule.portId record.flowId) fun _ => cache.delete fingerprint

/-- Every call of the program is one that a pass makes, whatever was answered before. -/
inductive Disciplined {α : Type} : Program FlowCache (Except AgentError α) → Prop where
  | done {cache result} (own : ∀ error, result = .error error → error.Local) :
      Disciplined (.done cache result)
  | report {event rest} (disciplined : Disciplined rest) : Disciplined (.report event rest)
  | sleep {duration rest} (disciplined : Disciplined rest) : Disciplined (.sleep duration rest)
  | call {cache request next after} (uses : Uses cache request after)
      (refused : ∀ error, next (.error error) = .done cache (.error (.rpc error)))
      (shown : ∀ reply, (next (.ok reply)).shown = after reply)
      (accepted : ∀ reply, Disciplined (next (.ok reply))) : Disciplined (.call cache request next)

/-- An exchange of a pass: a refusal changes nothing, and a reply has its effect on the cache. -/
inductive Lawful : Exchange FlowCache → Prop where
  | refused {cache request after} (uses : Uses cache request after) (error : RpcError) :
      Lawful ⟨cache, ⟨request, .error error⟩, cache⟩
  | accepted {cache request after} (uses : Uses cache request after) (reply : Call.Reply request) :
      Lawful ⟨cache, ⟨request, .ok reply⟩, after reply⟩

variable {α β : Type}

theorem Disciplined.lawful {program : Program FlowCache (Except AgentError α)}
    (disciplined : Disciplined program) {exchanges : List (Exchange FlowCache)} {cache : FlowCache}
    {result : Except AgentError α} (ends : program.Ends exchanges cache result) :
    ∀ exchange ∈ exchanges, Lawful exchange := by
  induction ends with
  | done => exact List.forall_mem_nil _
  | report _ ih =>
    cases disciplined with
    | report disciplined => exact ih disciplined
  | sleep _ ih =>
    cases disciplined with
    | sleep disciplined => exact ih disciplined
  | call answer ends ih =>
    cases disciplined with
    | call uses refused shown accepted =>
      intro exchange member
      cases answer with
      | error error =>
        rw [refused] at ends member
        cases ends
        rw [List.mem_singleton.mp member]
        exact .refused uses error
      | ok reply =>
        rcases List.mem_cons.mp member with rfl | inside
        · rw [shown]
          exact .accepted uses reply
        · exact ih (accepted reply) exchange inside

theorem Disciplined.andThen {program : Program FlowCache (Except AgentError α)}
    {next : FlowCache → α → Program FlowCache (Except AgentError β)} (first : Disciplined program)
    (continues : ∀ cache value, (next cache value).shown = cache)
    (rest : ∀ cache value, Disciplined (next cache value)) : Disciplined (program.andThen next) := by
  induction first with
  | @done cache result own =>
    cases result with
    | ok value => exact rest cache value
    | error error => exact .done fun _ same => Except.error.inj same ▸ own error rfl
  | report _ ih => exact .report ih
  | sleep _ ih => exact .sleep ih
  | call uses refused shown _ ih =>
    refine .call uses ?_ ?_ ih
    · intro error
      rw [refused]
      rfl
    · intro reply
      exact (Program.shown_andThen _ continues).trans (shown reply)

theorem Disciplined.within {program : Program FlowCache (Except AgentError α)} (span : Span)
    (inner : Disciplined program) : Disciplined (program.within span) := by
  induction inner with
  | done own => exact .done own
  | report _ ih => exact .report ih
  | sleep _ ih => exact .sleep ih
  | call uses refused shown _ ih =>
    refine .call uses ?_ ?_ ih
    · intro error
      rw [refused]
      rfl
    · intro reply
      rw [Program.shown_within, shown]

theorem Disciplined.reportAll {rest : Program FlowCache (Except AgentError α)} (events : List Event)
    (disciplined : Disciplined rest) : Disciplined (.reportAll events rest) := by
  induction events with
  | nil => exact disciplined
  | cons event events ih => exact .report ih

private theorem local_of_validation {rules : List FlowRule} {error : AgentError}
    (failed : (forEachFrom Check.validateAt 0 rules).result = .error error) : error.Local := by
  obtain ⟨_, _, _, _, _, _, _, rfl⟩ := Check.validate_all_error failed
  exact fun _ impossible => by cases impossible

private theorem local_of_resolveAction {lookup : VfLookup} {index : Nat} {portId : UInt32} {pf : PciAddress}
    {position : Nat} {action : ValidatedAction} {error : AgentError}
    (failed : (resolveAction lookup index portId pf position action).result = .error error) :
    error.Local := by
  unfold resolveAction at failed
  split at failed
  · cases failed
  · simp only [bind_error_iff, mapError_error_iff, mapError_eq_error_iff, result_of, result_report,
      result_pure, reduceCtorEq, and_false, exists_false, or_false] at failed
    rcases failed with ⟨_, _, rfl⟩ | ⟨_, _, ⟨_, _, rfl⟩ | ⟨_, _, ⟨_, _, rfl⟩⟩⟩ <;>
      exact fun _ impossible => by cases impossible

private theorem local_of_resolveRule {lookup : VfLookup} {ports : List Port} {index : Nat}
    {rule : ValidatedRule} {error : AgentError}
    (failed : (resolveRule lookup ports index rule).result = .error error) : error.Local := by
  unfold resolveRule at failed
  split at failed
  · split at failed
    · cases failed
      exact fun _ impossible => by cases impossible
    · simp only [bind_error_iff, mapError_eq_error_iff, result_of, result_pure, reduceCtorEq,
        and_false, exists_false, or_false] at failed
      rcases failed with ⟨_, _, rfl⟩ | ⟨_, _, failed⟩
      · exact fun _ impossible => by cases impossible
      · obtain ⟨_, _, _, _, _, refused⟩ := forEachFrom_error failed
        exact local_of_resolveAction refused
  · cases failed

theorem shown_createMissing (created unchanged : Nat) (cache : FlowCache) (requests : List CreateRequest) :
    (createMissing created unchanged cache requests).shown = cache := by
  induction requests generalizing unchanged with
  | nil => rfl
  | cons request rest ih =>
    simp only [createMissing]
    split
    · exact ih (unchanged + 1)
    · rfl

private theorem createMissing_disciplined (created unchanged : Nat) (cache : FlowCache)
    (requests : List CreateRequest) :
    Disciplined (createMissing created unchanged cache requests) := by
  induction requests generalizing created unchanged cache with
  | nil => exact .done fun _ impossible => by cases impossible
  | cons request rest ih =>
    simp only [createMissing]
    split
    · exact ih created (unchanged + 1) cache
    next absent =>
      refine .call (.create (Bool.eq_false_iff.mpr absent)) (fun _ => rfl) ?_ ?_
      · exact fun flowId => shown_createMissing _ _ _ rest
      · exact fun flowId => .report (ih _ _ _)

theorem shown_destroyStale (destroyed : Nat) (cache : FlowCache)
    (stale : List (Fingerprint × FlowRecord)) : (destroyStale destroyed cache stale).shown = cache := by
  cases stale <;> rfl

private theorem destroyStale_disciplined (destroyed : Nat) (cache : FlowCache)
    (stale : List (Fingerprint × FlowRecord)) (distinct : (stale.map Prod.fst).Nodup)
    (held : ∀ entry ∈ stale, cache.get? entry.1 = some entry.2) :
    Disciplined (destroyStale destroyed cache stale) := by
  induction stale generalizing destroyed cache with
  | nil => exact .done fun _ impossible => by cases impossible
  | cons entry rest ih =>
    obtain ⟨different, distinct⟩ := List.nodup_cons.mp distinct
    refine .call (.destroy (held entry List.mem_cons_self)) (fun _ => rfl) ?_ ?_
    · exact fun _ => shown_destroyStale _ _ rest
    · intro _
      refine .report (ih _ _ distinct ?_)
      intro other member
      have apart : other.1 ≠ entry.1 := fun same => different (List.mem_map.mpr ⟨other, member, same⟩)
      rw [FlowCache.get?_delete, if_neg apart]
      exact held other (List.mem_cons_of_mem _ member)

private theorem shown_resolveRules (lookup : VfLookup) (cache : FlowCache) (rules : List ValidatedRule) :
    (resolveRules lookup cache rules).shown = cache := by
  unfold resolveRules
  split <;> rfl

private theorem resolveRules_disciplined (lookup : VfLookup) (cache : FlowCache) (rules : List ValidatedRule) :
    Disciplined (resolveRules lookup cache rules) := by
  unfold resolveRules
  split
  · refine .call .list (fun _ => rfl) (fun ports => Program.shown_ofTraced _ _) ?_
    intro ports
    refine .reportAll _ (.done fun error failed => ?_)
    obtain ⟨_, _, _, _, _, refused⟩ := forEachFrom_error failed
    exact local_of_resolveRule refused
  · exact .done fun _ impossible => by cases impossible

/-- What goes on from a cache begins by showing it. -/
def Continues (next : FlowCache → α → Program FlowCache (Except AgentError β)) : Prop :=
  ∀ cache value, (next cache value).shown = cache

theorem continues_summary (report : Nat → ReconcileReport) : Continues fun cache destroyed =>
    .reportAll (summaryEvents (report destroyed)) (.done cache (Except.ok (report destroyed))) :=
  fun _ _ => Program.shown_reportAll _ _

theorem continues_teardown (desired : List Fingerprint)
    (report : Nat × Nat → Nat → ReconcileReport) :
    Continues fun cache counts => (destroyStale 0 cache (cache.complement desired)).andThen
      fun cache destroyed => .reportAll (summaryEvents (report counts destroyed))
        (.done cache (Except.ok (report counts destroyed))) :=
  fun _ _ => (Program.shown_andThen _ (continues_summary _)).trans (shown_destroyStale ..)

theorem shown_install (cache : FlowCache) (rules : List ValidatedRule) :
    (install cache rules).shown = cache :=
  (Program.shown_andThen _ (continues_teardown _ _)).trans (shown_createMissing ..)

private theorem install_disciplined (cache : FlowCache) (rules : List ValidatedRule) :
    Disciplined (install cache rules) := by
  refine (createMissing_disciplined ..).andThen (continues_teardown _ _) (fun cache _ => ?_)
  refine (destroyStale_disciplined _ _ _ ?_ ?_).andThen (continues_summary _) (fun cache _ => ?_)
  · rw [FlowCache.complement_keys]
    exact cache.fingerprints_nodup.filter _
  · exact fun entry member => (FlowCache.mem_complement_iff.mp member).1
  · exact .reportAll _ (.done fun _ impossible => by cases impossible)

theorem shown_pass (lookup : VfLookup) (cache : FlowCache) (rules : List FlowRule) :
    (pass lookup cache rules).shown = cache := by
  rw [pass, Program.shown_within]
  refine (Program.shown_andThen _ fun cache _ => ?_).trans (Program.shown_ofTraced ..)
  exact (Program.shown_andThen _ shown_install).trans (shown_resolveRules ..)

/-- A whole pass keeps to the discipline, for any rules and any lookup. -/
theorem pass_disciplined (lookup : VfLookup) (cache : FlowCache) (rules : List FlowRule) :
    Disciplined (pass lookup cache rules) := by
  refine Disciplined.within _ ?_
  refine Disciplined.andThen (.reportAll _ (.done fun _ => local_of_validation)) ?_ ?_
  · exact fun cache _ => (Program.shown_andThen _ shown_install).trans (shown_resolveRules ..)
  · exact fun cache rules =>
      (resolveRules_disciplined lookup cache rules).andThen shown_install install_disciplined

section Steps

variable {created unchanged destroyed : Nat} {cache after : FlowCache} {fingerprint : Fingerprint}
  {record : FlowRecord} {request : CreateRequest} {rest : List CreateRequest} {flowId : UInt32}
  {stale : List (Fingerprint × FlowRecord)} {exchanges : List (Exchange FlowCache)}
  {result : Except AgentError β}

theorem createMissing_of_has (found : cache.has (.ofRequest request) = true) :
    createMissing created unchanged cache (request :: rest) =
      createMissing created (unchanged + 1) cache rest := if_pos found

private theorem createMissing_of_absent (absent : cache.has (.ofRequest request) = false) :
    createMissing created unchanged cache (request :: rest) =
      .call cache (.create request) fun
        | .error error => .done cache (.error (.rpc error))
        | .ok flowId => .report (.debug target
            s!"created flow {flowId} on port {request.portId} ({Fingerprint.ofRequest request})")
          (createMissing (created + 1) unchanged
            (cache.add (.ofRequest request) { flowId, rule := request }) rest) :=
  if_neg (Bool.eq_false_iff.mp absent)

theorem ends_created {next : FlowCache → Nat × Nat → Program FlowCache (Except AgentError β)}
    (continues : Continues next) (absent : cache.has (.ofRequest request) = false)
    (ends : ((createMissing (created + 1) unchanged
      (cache.add (.ofRequest request) { flowId, rule := request }) rest).andThen next).Ends
        exchanges after result) :
    ((createMissing created unchanged cache (request :: rest)).andThen next).Ends
      (⟨cache, ⟨.create request, .ok flowId⟩,
        cache.add (.ofRequest request) { flowId, rule := request }⟩ :: exchanges) after result := by
  rw [createMissing_of_absent absent]
  refine Program.Ends.answered ?_ (.report ends)
  exact (Program.shown_andThen _ continues).trans (shown_createMissing ..)

theorem ends_uncreated {next : FlowCache → Nat × Nat → Program FlowCache (Except AgentError β)}
    {error : RpcError} (absent : cache.has (.ofRequest request) = false) :
    ((createMissing created unchanged cache (request :: rest)).andThen next).Ends
      [⟨cache, ⟨.create request, .error error⟩, cache⟩] cache (.error (.rpc error)) := by
  rw [createMissing_of_absent absent]
  exact Program.Ends.answered rfl .done

theorem ends_complete {next : FlowCache → Nat × Nat → Program FlowCache (Except AgentError β)}
    (ends : (next cache (created, unchanged)).Ends exchanges after result) :
    ((createMissing created unchanged cache []).andThen next).Ends exchanges after result := ends

theorem ends_destroyed {next : FlowCache → Nat → Program FlowCache (Except AgentError β)}
    (continues : Continues next)
    (ends : ((destroyStale (destroyed + 1) (cache.delete fingerprint) stale).andThen next).Ends
      exchanges after result) :
    ((destroyStale destroyed cache ((fingerprint, record) :: stale)).andThen next).Ends
      (⟨cache, ⟨.destroy record.rule.portId record.flowId, .ok ()⟩, cache.delete fingerprint⟩ :: exchanges)
      after result := by
  refine Program.Ends.answered ?_ (.report ends)
  exact (Program.shown_andThen _ continues).trans (shown_destroyStale ..)

theorem ends_undestroyed {next : FlowCache → Nat → Program FlowCache (Except AgentError β)}
    {error : RpcError} :
    ((destroyStale destroyed cache ((fingerprint, record) :: stale)).andThen next).Ends
      [⟨cache, ⟨.destroy record.rule.portId record.flowId, .error error⟩, cache⟩] cache
      (.error (.rpc error)) := Program.Ends.answered rfl .done

end Steps

private theorem complement_single (record : FlowRecord) :
    (FlowCache.empty.add record.fingerprint record).complement [record.fingerprint] = [] := by
  apply List.filter_eq_nil_iff.mpr
  intro entry member
  have only : entry = (record.fingerprint, record) := List.mem_singleton.mp member
  simp [only]

theorem install_single (rule : ValidatedRule) (flowId : UInt32) :
    (install .empty [rule]).Ends
      [⟨.empty, ⟨.create rule.toRequest, .ok flowId⟩,
        .add .empty (.ofRequest rule.toRequest) ⟨flowId, rule.toRequest⟩⟩]
      (.add .empty (.ofRequest rule.toRequest) ⟨flowId, rule.toRequest⟩)
      (.ok ⟨1, 0, 0, [rule].countP (·.verdict = .acceptedUnvalidated)⟩) := by
  let record : FlowRecord := ⟨flowId, rule.toRequest⟩
  let cache := FlowCache.empty.add record.fingerprint record
  apply ends_created (continues_teardown _ _) rfl
  apply ends_complete
  show ((destroyStale 0 cache (cache.complement [record.fingerprint])).andThen _).Ends _ _ _
  rw [complement_single]
  exact .report (Program.ends_reportAll _ .done)

theorem pass_nil_single (lookup : VfLookup) (record : FlowRecord) :
    (pass lookup (.add .empty record.fingerprint record) []).Ends
      [⟨.add .empty record.fingerprint record, ⟨.destroy record.rule.portId record.flowId, .ok ()⟩,
        .delete (.add .empty record.fingerprint record) record.fingerprint⟩]
      (.delete (.add .empty record.fingerprint record) record.fingerprint) (.ok ⟨0, 1, 0, 0⟩) := by
  apply Program.Ends.answered rfl
  exact .report (.report .done)

/-- A rule that drops what arrives at a port. -/
def dropOn (portId : UInt32) : FlowRule :=
  ⟨portId, [], [⟨"RTE_FLOW_ACTION_TYPE_DROP", none⟩, ⟨"RTE_FLOW_ACTION_TYPE_END", none⟩], none⟩

def droppedOn (portId : UInt32) : ValidatedRule :=
  ⟨portId, .default, [], [⟨.drop, none, .accepted⟩, ⟨.terminator, none, .accepted⟩]⟩

def dropRule : FlowRule := dropOn 3

def dropValidated : ValidatedRule := droppedOn 3

private theorem validate_drops (ports : List UInt32) (index : Nat) :
    forEachFrom Check.validateAt index (ports.map dropOn) = pure (ports.map droppedOn) := by
  induction ports generalizing index with
  | nil => rfl
  | cons portId rest ih =>
    have valid : Check.validateAt index (dropOn portId) = pure (droppedOn portId) := rfl
    rw [List.map_cons, forEachFrom, valid, ih]
    rfl

theorem pass_drops (lookup : VfLookup) (cache : FlowCache) (ports : List UInt32) :
    pass lookup cache (ports.map dropOn) =
      .within (span (ports.map dropOn)) (install cache (ports.map droppedOn)) := by
  have unnamed : (ports.map droppedOn).any namesDevice = false := by
    rw [List.any_map]
    apply List.any_eq_false.mpr
    intro portId _ named
    cases named
  rw [pass, validate_drops]
  show Program.within _ ((resolveRules lookup cache (ports.map droppedOn)).andThen install) = _
  rw [resolveRules, unnamed]
  rfl

theorem pass_dropRule_eq (lookup : VfLookup) (cache : FlowCache) :
    pass lookup cache [dropRule] = .within (span [dropRule]) (install cache [dropValidated]) :=
  pass_drops lookup cache [3]

theorem pass_dropRule (lookup : VfLookup) (flowId : UInt32) :
    (pass lookup .empty [dropRule]).Ends
      [⟨.empty, ⟨.create dropValidated.toRequest, .ok flowId⟩,
        .add .empty (.ofRequest dropValidated.toRequest) ⟨flowId, dropValidated.toRequest⟩⟩]
      (.add .empty (.ofRequest dropValidated.toRequest) ⟨flowId, dropValidated.toRequest⟩)
      (.ok ⟨1, 0, 0, 0⟩) := by
  rw [pass_dropRule_eq]
  exact Program.ends_within _ (install_single dropValidated flowId)

def dropFlow (portId flowId : UInt32) : FlowRecord := ⟨flowId, (droppedOn portId).toRequest⟩

def dropPrint (portId : UInt32) : Fingerprint := .ofRequest (droppedOn portId).toRequest

private theorem dropPrints_increasing : ([4, 6, 5, 3].map dropPrint).Pairwise (· < ·) := by
  decide +kernel

theorem dropPrint_eq_iff {left right : UInt32} (first : left ∈ [4, 6, 5, 3])
    (second : right ∈ [4, 6, 5, 3]) : dropPrint left = dropPrint right ↔ left = right := by
  have apart : ([4, 6, 5, 3].map dropPrint).Nodup := by
    apply dropPrints_increasing.imp
    intro lesser greater less same
    rw [same] at less
    exact Std.Irrefl.irrefl greater less
  exact ⟨fun same => List.inj_on_of_nodup_map apart first second same, congrArg dropPrint⟩

/-- The flows for the ports 3 and 4 are installed. -/
def twoDrops : FlowCache where
  records := [(dropPrint 4, dropFlow 4 8), (dropPrint 3, dropFlow 3 7)]
  ordered := by
    have before : ([4, 3] : List UInt32).Sublist [4, 6, 5, 3] := by decide
    have increasing := dropPrints_increasing.sublist (before.map dropPrint)
    exact List.pairwise_pair.mpr (List.pairwise_pair.mp increasing)

/-- The flow for port 5 is installed too. -/
def threeDrops : FlowCache := twoDrops.add (dropPrint 5) (dropFlow 5 9)

theorem get?_twoDrops (fingerprint : Fingerprint) : twoDrops.get? fingerprint =
    if fingerprint = dropPrint 4 then some (dropFlow 4 8)
    else if fingerprint = dropPrint 3 then some (dropFlow 3 7) else none := by
  rw [FlowCache.get?, twoDrops, lookup_cons_ite, lookup_cons_ite]
  rfl

theorem twoDrops_absent : twoDrops.has (dropPrint 5) = false := by
  simp [FlowCache.has, get?_twoDrops, dropPrint_eq_iff]

theorem get?_threeDrops (fingerprint : Fingerprint) : threeDrops.get? fingerprint =
    if fingerprint = dropPrint 5 then some (dropFlow 5 9) else twoDrops.get? fingerprint :=
  FlowCache.get?_add twoDrops_absent fingerprint

theorem complement_threeDrops {known : List Fingerprint} (five : dropPrint 5 ∈ known) :
    threeDrops.complement known = twoDrops.complement known :=
  FlowCache.complement_add twoDrops_absent five

end Reconciliation

end NicFlow
