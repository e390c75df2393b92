import Mathlib.Data.List.Induction
import Mathlib.Data.List.Nodup
import NicFlow.Proofs.CacheAcknowledgement
import NicFlow.Proofs.FlowTableCalls

/-! A flow table after any operations, told from what was done: which flows are installed, which calls are made to
fail, and what the table answers next. -/

namespace NicFlow.FlowTable

/-- The calls that can be made to fail. -/
inductive Failing where
  | create | destroy | listPorts
deriving DecidableEq

inductive Operation where
  | call (request : Call)
  | addPort (portId : UInt32) (pci : String)
  | failNext (kind : Failing) (count : Nat)

/-- An operation that was done, and how a call was answered. -/
inductive Event where
  | answered (call : Call) (answer : call.Answer)
  | portAdded (portId : UInt32) (pci : String)
  | failuresSet (kind : Failing) (count : Nat)

def failing? : Call → Option Failing
  | .create _ => some .create
  | .destroy _ _ => some .destroy
  | .listPorts => some .listPorts
  | _ => none

def failures (table : FlowTable) : Failing → Nat
  | .create => table.createFailures
  | .destroy => table.destroyFailures
  | .listPorts => table.listPortsFailures

def failNext (table : FlowTable) : Failing → Nat → FlowTable
  | .create => table.failNextCreate
  | .destroy => table.failNextDestroy
  | .listPorts => table.failNextListPorts

def perform (table : FlowTable) : Operation → Event × FlowTable
  | .call call => (.answered call (table.serve call).1, (table.serve call).2)
  | .addPort portId pci => (.portAdded portId pci, table.addPort portId pci)
  | .failNext kind count => (.failuresSet kind count, table.failNext kind count)

/-- What was done with a new table, and the table after it. -/
def after (operations : List Operation) : List Event × FlowTable :=
  operations.foldl
    (fun done operation => (done.1 ++ [(done.2.perform operation).1], (done.2.perform operation).2)) ([], .empty)

namespace Event

def call? : Event → Option Call
  | .answered call _ => some call
  | _ => none

/-- The name that is noted for a call. -/
def noted? : Event → Option String
  | .answered (.validate _) _ => some "validate"
  | .answered (.create _) _ => some "create"
  | .answered (.destroy _ _) _ => some "destroy"
  | .answered (.query _ _) _ => some "query"
  | .answered (.list _) _ => some "list"
  | .answered (.flush _) _ => some "flush"
  | .answered (.isolate _ _) _ => some "isolate"
  | .answered .listPorts _ => some "list_ports"
  | .portAdded _ _ => none
  | .failuresSet _ _ => none

/-- The flows whose creation an event acknowledges. -/
def created : Event → List (FlowKey × CreateRequest)
  | .answered call answer => createdFlows call answer
  | _ => []

/-- The event acknowledges the destruction of a flow, alone or with all those of its port. -/
def Removes (key : FlowKey) : Event → Prop
  | .answered (.destroy portId flowId) (.ok _) => key = ⟨portId, flowId⟩
  | .answered (.flush portId) (.ok _) => key.portId = portId
  | _ => False

/-- How many calls of a kind are still made to fail after an event. -/
def remaining (kind : Failing) (before : Nat) : Event → Nat
  | .answered call _ => if failing? call = some kind then before - 1 else before
  | .portAdded _ _ => before
  | .failuresSet other count => if other = kind then count else before

end Event

/-- All flows whose creation was acknowledged. -/
def created (history : List Event) : List (FlowKey × CreateRequest) := history.flatMap Event.created

/-- The creation of a flow was acknowledged, and its removal was not acknowledged since. -/
def Installed (history : List Event) (key : FlowKey) (request : CreateRequest) : Prop :=
  ∃ earlier event later, history = earlier ++ event :: later ∧ (key, request) ∈ event.created ∧
    ∀ other ∈ later, ¬ other.Removes key

/-- The calls of a kind in a history. -/
def callsOf (kind : Failing) (history : List Event) : List Call :=
  (history.filterMap Event.call?).filter fun call => failing? call = some kind

section Serving

variable {table : FlowTable} {call : Call}

private theorem serve_calls (table : FlowTable) (call : Call) : (table.serve call).2.calls = table.calls ++ [call.name] := by
  cases call with
  | validate | query | list | flush | isolate => rfl
  | create request =>
    simp only [serve, create]
    split <;> rfl
  | listPorts =>
    simp only [serve, listPorts]
    split <;> rfl
  | destroy portId flowId =>
    simp only [serve, destroy]
    split
    · rfl
    · split <;> rfl

/-- A call of a kind that is still to fail is refused and counted; any other is answered by the table. -/
inductive Serves (table : FlowTable) (call : Call) : call.Answer × FlowTable → Prop where
  | refused {kind : Failing} {after : FlowTable} (failing : failing? call = some kind) (left : table.failures kind ≠ 0)
      (counted : ∀ other, after.failures other =
        if kind = other then table.failures other - 1 else table.failures other)
      (flows : after.flows = table.flows) (ports : after.ports = table.ports) :
      Serves table call (.error injected, after)
  | answered {answer : call.Answer} {after : FlowTable}
      (none : ∀ kind, failing? call = some kind → table.failures kind = 0)
      (other : answer ≠ .error injected) (counted : after.failures = table.failures)
      (flows : ∀ error, answer = .error error → after.flows = table.flows) (ports : after.ports = table.ports) :
      Serves table call (answer, after)

private theorem serves_create (table : FlowTable) (request : CreateRequest) :
    table.Serves (.create request) (table.serve (.create request)) := by
  simp only [serve, create]
  split
  next left =>
    refine Serves.refused rfl left ?_ rfl rfl
    intro other
    cases other <;> rfl
  next working =>
    refine Serves.answered ?_ ?_ rfl ?_ rfl
    · rintro kind ⟨⟩
      exact Classical.not_not.mp working
    · intro refused
      cases refused
    · intro error failed
      cases failed

private theorem serves_listPorts (table : FlowTable) : table.Serves .listPorts (table.serve .listPorts) := by
  simp only [serve, listPorts]
  split
  next left =>
    refine Serves.refused rfl left ?_ rfl rfl
    intro other
    cases other <;> rfl
  next working =>
    refine Serves.answered ?_ ?_ rfl (fun _ _ => rfl) rfl
    · rintro kind ⟨⟩
      exact Classical.not_not.mp working
    · intro refused
      cases refused

private theorem serves_destroy (table : FlowTable) (portId flowId : UInt32) :
    table.Serves (.destroy portId flowId) (table.serve (.destroy portId flowId)) := by
  simp only [serve, destroy]
  split
  next left =>
    refine Serves.refused rfl left ?_ rfl rfl
    intro other
    cases other <;> rfl
  next working =>
    have none : ∀ kind, failing? (.destroy portId flowId) = some kind → table.failures kind = 0 := by
      rintro kind ⟨⟩
      exact Classical.not_not.mp working
    split
    next request installed =>
      refine Serves.answered none ?_ rfl ?_ rfl
      · intro refused
        cases refused
      · intro error failed
        cases failed
    next missing =>
      refine Serves.answered none ?_ rfl (fun _ _ => rfl) rfl
      intro refused
      cases refused

private theorem serves_query (table : FlowTable) (portId flowId : UInt32) :
    table.Serves (.query portId flowId) (table.serve (.query portId flowId)) := by
  refine Serves.answered ?_ ?_ rfl (fun _ _ => rfl) rfl
  · intro kind impossible
    cases impossible
  · intro refused
    simp only [query] at refused
    split at refused <;> cases refused

theorem serves (table : FlowTable) (call : Call) : table.Serves call (table.serve call) := by
  cases call with
  | create request => exact serves_create table request
  | listPorts => exact serves_listPorts table
  | destroy portId flowId => exact serves_destroy table portId flowId
  | query portId flowId => exact serves_query table portId flowId
  | validate | list | flush | isolate =>
    refine Serves.answered ?_ ?_ rfl ?_ rfl
    · intro kind impossible
      cases impossible
    · intro refused
      cases refused
    · intro error failed
      cases failed

private theorem serve_failures (table : FlowTable) (call : Call) (kind : Failing) :
    (table.serve call).2.failures kind =
      if failing? call = some kind then table.failures kind - 1 else table.failures kind := by
  cases served : table.serve call with
  | mk answer after =>
    cases served ▸ table.serves call with
    | refused failing left counted => simp only [counted, failing, Option.some.injEq]
    | answered none other counted =>
      rw [counted]
      split
      next failing => rw [none kind failing]
      next => rfl

theorem serve_injected_iff : (table.serve call).1 = .error injected ↔
    ∃ kind, failing? call = some kind ∧ table.failures kind ≠ 0 := by
  cases served : table.serve call with
  | mk answer after =>
    cases served ▸ table.serves call with
    | refused failing left => exact iff_of_true rfl ⟨_, failing, left⟩
    | answered none other => exact iff_of_false other fun ⟨kind, failing, left⟩ => left (none kind failing)

private theorem serve_failed {error : RpcError} (failed : (table.serve call).1 = .error error) :
    (table.serve call).2.flows = table.flows ∧ (table.serve call).2.ports = table.ports := by
  cases served : table.serve call with
  | mk answer after =>
    rw [served] at failed
    cases served ▸ table.serves call with
    | refused failing left counted flows ports => exact ⟨flows, ports⟩
    | answered none other counted flows ports => exact ⟨flows error failed, ports⟩

end Serving

/-- What an event does to the flows of a table from which so many were created: it adds those that it creates, with
the next ids, and takes those that it removes. -/
structure Accounts (table after : FlowTable) (event : Event) (made : Nat) : Prop where
  flows : ∀ key request, (key, request) ∈ after.flows ↔
    (key, request) ∈ event.created ∨ (key, request) ∈ table.flows ∧ ¬ event.Removes key
  numbered : after.Numbered (made + event.created.length)
  ids : event.created.map (fun flow => flow.1.flowId.toNat) = List.range' made event.created.length

section Accounting

variable {table after : FlowTable} {event : Event} {made : Nat} {portId flowId : UInt32}

theorem Accounts.kept (numbered : table.Numbered made) (kept : table.Kept after) (creates : event.created = [])
    (removes : ∀ key, ¬ event.Removes key) : table.Accounts after event made := by
  refine ⟨fun key request => ?_, ?_, ?_⟩
  · simp only [kept.1, creates, List.not_mem_nil, removes, not_false_eq_true, and_true, false_or]
  · rw [creates]
    exact numbered.kept kept
  · rw [creates]
    rfl

theorem lookup_eq_none_iff : table.flows.lookup ⟨portId, flowId⟩ = none ↔
    ∀ request, (⟨portId, flowId⟩, request) ∉ table.flows := by
  simp only [mem_iff_lookup_eq_some table.ordered.keys_nodup, Option.eq_none_iff_forall_ne_some, ne_eq]

private theorem serve_destroy_absent (absent : ∀ request, (⟨portId, flowId⟩, request) ∉ table.flows) :
    ∃ error after, table.serve (.destroy portId flowId) = (.error error, after) ∧ table.Kept after := by
  have missing := lookup_eq_none_iff.mpr absent
  by_cases working : table.destroyFailures = 0
  · refine ⟨noFlow portId flowId, (table.serve (.destroy portId flowId)).2, ?_, ?_⟩ <;>
      simp [serve, destroy, working, missing, Kept]
  · exact ⟨injected, _, if_pos working, rfl, rfl⟩

private theorem accounts_destroy (numbered : table.Numbered made) (portId flowId : UInt32) :
    table.Accounts (table.serve (.destroy portId flowId)).2
      (.answered (.destroy portId flowId) (table.serve (.destroy portId flowId)).1) made := by
  by_cases installed : ∃ request, (⟨portId, flowId⟩, request) ∈ table.flows
  · obtain ⟨request, installed⟩ := installed
    rcases serve_destroy installed with ⟨after, served, kept⟩ | ⟨after, served, flows, next⟩
    · rw [served]
      exact .kept numbered kept rfl fun _ => not_false
    · rw [served]
      refine ⟨fun key request => ?_, numbered.erased flows next, rfl⟩
      have kept : (key, request) ∈ after.flows ↔ (key, request) ∈ table.flows ∧ key ≠ ⟨portId, flowId⟩ := by
        rw [flows, eraseKey, List.mem_filter, decide_eq_true_eq]
      exact kept.trans (or_iff_right (List.not_mem_nil)).symm
  · obtain ⟨error, after, served, kept⟩ := serve_destroy_absent (not_exists.mp installed)
    rw [served]
    exact .kept numbered kept rfl fun _ => not_false

private theorem flows_flush (table : FlowTable) (portId : UInt32) :
    (table.serve (.flush portId)).2.flows = table.flows.filter fun entry => entry.1.portId ≠ portId := rfl

private theorem accounts_flush (numbered : table.Numbered made) (portId : UInt32) :
    table.Accounts (table.serve (.flush portId)).2
      (.answered (.flush portId) (table.serve (.flush portId)).1) made := by
  have kept (entry : FlowKey × CreateRequest) : entry ∈ (table.serve (.flush portId)).2.flows ↔
      entry ∈ table.flows ∧ entry.1.portId ≠ portId := by
    rw [flows_flush, List.mem_filter, decide_eq_true_eq]
  refine ⟨fun key request => ?_, ⟨numbered.next, fun entry member => ?_⟩, rfl⟩
  · exact (kept (key, request)).trans (or_iff_right (List.not_mem_nil)).symm
  · exact numbered.below entry ((kept entry).mp member).1

private theorem accounts_create (numbered : table.Numbered made) (request : CreateRequest)
    (few : made + (createdFlows (.create request) (table.serve (.create request)).1).length < UInt32.size) :
    table.Accounts (table.serve (.create request)).2
      (.answered (.create request) (table.serve (.create request)).1) made := by
  have spares : (Call.create request).Spares := trivial
  obtain ⟨grown, later⟩ := serve_spared numbered spares few
  refine ⟨fun key other => ?_, later, ?_⟩
  · have spared : ¬ Event.Removes key (.answered (.create request) (table.serve (.create request)).1) := not_false
    rw [grown.mem_iff, List.mem_append, and_iff_left spared]
    rfl
  · rcases serve_create table request with ⟨after, served, _⟩ | ⟨after, served, _, _⟩
    · rw [served]
      rfl
    · rw [served]
      exact congrArg (fun id => [id]) numbered.next

private theorem accounts_serve (numbered : table.Numbered made) (call : Call)
    (few : made + (createdFlows call (table.serve call).1).length < UInt32.size) :
    table.Accounts (table.serve call).2 (.answered call (table.serve call).1) made := by
  cases call with
  | create request => exact accounts_create numbered request few
  | destroy portId flowId => exact accounts_destroy numbered portId flowId
  | flush portId => exact accounts_flush numbered portId
  | validate | query | list | isolate => exact .kept numbered ⟨rfl, rfl⟩ rfl fun _ => not_false
  | listPorts =>
    rcases serve_listPorts table with ⟨after, served, kept⟩ | ⟨after, served, kept⟩ <;> rw [served]
    · exact .kept numbered kept rfl fun _ => not_false
    · exact .kept numbered kept rfl fun _ => not_false

private theorem accounts_perform (numbered : table.Numbered made) (operation : Operation)
    (few : made + (table.perform operation).1.created.length < UInt32.size) :
    table.Accounts (table.perform operation).2 (table.perform operation).1 made := by
  cases operation with
  | call call => exact accounts_serve numbered call few
  | addPort => exact .kept numbered ⟨rfl, rfl⟩ rfl fun _ => not_false
  | failNext kind count => cases kind <;> exact .kept numbered ⟨rfl, rfl⟩ rfl fun _ => not_false

end Accounting

section History

/-- What a table is after a history of which it keeps account. -/
structure Follows (history : List Event) (table : FlowTable) : Prop where
  numbered : table.Numbered (created history).length
  ids : (created history).map (fun flow => flow.1.flowId.toNat) = List.range (created history).length
  flows : ∀ key request, (key, request) ∈ table.flows ↔ Installed history key request
  failures : ∀ kind, table.failures kind = history.foldl (Event.remaining kind) 0
  calls : table.calls = history.filterMap Event.noted?

private theorem perform_failures (table : FlowTable) (operation : Operation) (kind : Failing) :
    (table.perform operation).2.failures kind = (table.perform operation).1.remaining kind (table.failures kind) := by
  cases operation with
  | call call => exact serve_failures table call kind
  | addPort => cases kind <;> rfl
  | failNext other count => cases other <;> cases kind <;> rfl

private theorem perform_calls (table : FlowTable) (operation : Operation) : (table.perform operation).2.calls =
    table.calls ++ [(table.perform operation).1].filterMap Event.noted? := by
  cases operation with
  | call call => cases call <;> exact serve_calls table _
  | addPort => exact (List.append_nil _).symm
  | failNext kind count => cases kind <;> exact (List.append_nil _).symm

theorem created_concat (history : List Event) (event : Event) :
    created (history ++ [event]) = created history ++ event.created := by
  simp [created]

private theorem installed_concat {history : List Event} {event : Event} {key : FlowKey} {request : CreateRequest} :
    Installed (history ++ [event]) key request ↔
      (key, request) ∈ event.created ∨ Installed history key request ∧ ¬ event.Removes key := by
  unfold Installed
  exact lasting_concat

theorem Follows.empty : Follows [] .empty := by
  refine ⟨.empty, rfl, fun key request => iff_of_false List.not_mem_nil ?_, fun kind => by cases kind <;> rfl, rfl⟩
  rintro ⟨earlier, event, later, split, _⟩
  exact List.append_ne_nil_of_right_ne_nil earlier (List.cons_ne_nil event later) split.symm

theorem Follows.perform {history : List Event} {table : FlowTable} (follows : Follows history table)
    (operation : Operation) (few : (created (history ++ [(table.perform operation).1])).length < UInt32.size) :
    Follows (history ++ [(table.perform operation).1]) (table.perform operation).2 := by
  rw [created_concat, List.length_append] at few
  have accounts := accounts_perform follows.numbered operation few
  refine ⟨?_, ?_, fun key request => ?_, fun kind => ?_, ?_⟩
  · rw [created_concat, List.length_append]
    exact accounts.numbered
  · rw [created_concat, List.map_append, List.length_append, follows.ids, accounts.ids, List.range_eq_range',
      List.range_eq_range', ← List.range'_append_1, Nat.zero_add]
  · rw [accounts.flows, follows.flows, installed_concat]
  · rw [perform_failures, follows.failures, List.foldl_concat]
  · rw [perform_calls, follows.calls, List.filterMap_append]

private theorem follows_after (operations : List Operation)
    (few : (created (after operations).1).length < UInt32.size) :
    Follows (after operations).1 (after operations).2 := by
  induction operations using List.reverseRecOn with
  | nil => exact .empty
  | append_singleton operations operation ih =>
    have last : after (operations ++ [operation]) =
        ((after operations).1 ++ [((after operations).2.perform operation).1],
          ((after operations).2.perform operation).2) := List.foldl_concat ..
    rw [last] at few ⊢
    have fewer : (created (after operations).1).length < UInt32.size := by
      rw [created_concat, List.length_append] at few
      omega
    exact (ih fewer).perform operation few

private theorem foldl_remaining {kind : Failing} {middle : List Event}
    (unset : ∀ count, .failuresSet kind count ∉ middle) (count : Nat) :
    middle.foldl (Event.remaining kind) count = count - (callsOf kind middle).length := by
  induction middle generalizing count with
  | nil => rfl
  | cons event rest ih =>
    have unsetRest : ∀ count, .failuresSet kind count ∉ rest := fun count member =>
      unset count (List.mem_cons_of_mem _ member)
    rw [List.foldl_cons, ih unsetRest]
    cases event with
    | answered call answer =>
      simp only [Event.remaining, callsOf, List.filterMap_cons, Event.call?, List.filter_cons, decide_eq_true_eq]
      split
      next counted =>
        rw [List.length_cons]
        omega
      next other => rfl
    | portAdded => rfl
    | failuresSet other amount =>
      have different : other ≠ kind := fun same => unset amount (same ▸ List.mem_cons_self)
      simp only [Event.remaining, if_neg different]
      rfl

private theorem Follows.failures_of_set {kind : Failing} {earlier later : List Event} {count : Nat} {table : FlowTable}
    (follows : Follows (earlier ++ .failuresSet kind count :: later) table)
    (unset : ∀ count, .failuresSet kind count ∉ later) :
    table.failures kind = count - (callsOf kind later).length := by
  have set : (Event.failuresSet kind count).remaining kind (earlier.foldl (Event.remaining kind) 0) = count :=
    if_pos rfl
  rw [follows.failures, List.foldl_append, List.foldl_cons, set, foldl_remaining unset]

end History

/-- What a history tells of the table after it, and of what the table answers next. -/
structure Faithful (history : List Event) (table : FlowTable) : Prop where
  ids_apart : ((created history).map fun flow => flow.1.flowId).Nodup
  keys_apart : (table.flows.map Prod.fst).Nodup
  installed : ∀ key request, (key, request) ∈ table.flows ↔ Installed history key request
  create_new : ∀ request flowId, (table.serve (.create request)).1 = .ok flowId →
    ∀ entry ∈ table.flows, entry.1.flowId ≠ flowId
  destroy_ok_iff : ∀ portId flowId, (table.serve (.destroy portId flowId)).1 ≠ .error injected →
    ((table.serve (.destroy portId flowId)).1 = .ok () ↔ ∃ request, Installed history ⟨portId, flowId⟩ request)
  query_ok_iff : ∀ portId flowId, (∃ count, (table.serve (.query portId flowId)).1 = .ok count) ↔
    ∃ request, Installed history ⟨portId, flowId⟩ request
  list_ids : ∀ portId, ∃ infos, (table.serve (.list portId)).1 = .ok infos ∧
    (infos.map FlowInfo.flowId).Pairwise (· < ·) ∧
    ∀ flowId, flowId ∈ infos.map FlowInfo.flowId ↔ ∃ request, Installed history ⟨portId, flowId⟩ request
  flush_port : ∀ portId, (table.serve (.flush portId)).1 = .ok () ∧
    (table.serve (.flush portId)).2.flows = table.flows.filter fun entry => entry.1.portId ≠ portId
  failure_keeps : ∀ call error, (table.serve call).1 = .error error →
    (table.serve call).2.flows = table.flows ∧ (table.serve call).2.ports = table.ports
  injected_iff : ∀ kind earlier count later call, history = earlier ++ .failuresSet kind count :: later →
    (∀ count, .failuresSet kind count ∉ later) → failing? call = some kind →
      ((table.serve call).1 = .error injected ↔ (callsOf kind later).length < count)
  not_injected : ∀ call, (∀ kind count, .failuresSet kind count ∈ history → failing? call ≠ some kind) →
    (table.serve call).1 ≠ .error injected
  called : table.calls = history.filterMap Event.noted?

section Answers

variable {history : List Event} {table : FlowTable} {portId flowId : UInt32}

private theorem lookup_isSome_iff (follows : Follows history table) :
    (∃ request, table.flows.lookup ⟨portId, flowId⟩ = some request) ↔
      ∃ request, Installed history ⟨portId, flowId⟩ request := by
  simp only [← mem_iff_lookup_eq_some table.ordered.keys_nodup, follows.flows]

private theorem serve_query_ok_iff : (∃ count, (table.serve (.query portId flowId)).1 = .ok count) ↔
    ∃ request, table.flows.lookup ⟨portId, flowId⟩ = some request := by
  simp only [serve, query]
  cases table.flows.lookup ⟨portId, flowId⟩ <;> simp

private theorem serve_destroy_ok_iff (working : (table.serve (.destroy portId flowId)).1 ≠ .error injected) :
    (table.serve (.destroy portId flowId)).1 = .ok () ↔
      ∃ request, table.flows.lookup ⟨portId, flowId⟩ = some request := by
  have none : table.destroyFailures = 0 := by
    apply Classical.byContradiction
    intro left
    exact working (serve_injected_iff.mpr ⟨.destroy, rfl, left⟩)
  simp only [serve, destroy, none]
  cases table.flows.lookup ⟨portId, flowId⟩ <;> simp

private theorem serve_list (follows : Follows history table) (portId : UInt32) :
    ∃ infos, (table.serve (.list portId)).1 = .ok infos ∧ (infos.map FlowInfo.flowId).Pairwise (· < ·) ∧
      ∀ flowId, flowId ∈ infos.map FlowInfo.flowId ↔ ∃ request, Installed history ⟨portId, flowId⟩ request := by
  have ids : (table.list portId).map FlowInfo.flowId =
      (table.flows.filter fun entry => entry.1.portId = portId).map fun entry => entry.1.flowId := by
    rw [list, List.map_map]
    rfl
  refine ⟨table.list portId, rfl, ?_, fun flowId => ?_⟩
  · rw [ids, List.pairwise_map]
    apply (table.ordered.filter _).imp_of_mem
    intro first second inFirst inSecond less
    have firstPort := of_decide_eq_true (List.mem_filter.mp inFirst).2
    have secondPort := of_decide_eq_true (List.mem_filter.mp inSecond).2
    rcases less with port | ⟨_, smaller⟩
    · rw [firstPort, secondPort] at port
      exact absurd port (UInt32.lt_irrefl portId)
    · exact smaller
  · simp only [ids, List.mem_map, List.mem_filter, decide_eq_true_eq, ← follows.flows]
    constructor
    · rintro ⟨⟨key, request⟩, ⟨member, rfl⟩, rfl⟩
      exact ⟨request, member⟩
    · rintro ⟨request, member⟩
      exact ⟨_, ⟨member, rfl⟩, rfl⟩

private theorem serve_create_new (follows : Follows history table) {request : CreateRequest}
    (served : (table.serve (.create request)).1 = .ok flowId) : ∀ entry ∈ table.flows, entry.1.flowId ≠ flowId := by
  rintro entry member rfl
  rcases serve_create table request with ⟨_, refused, _⟩ | ⟨_, accepted, _, _⟩
  · rw [refused] at served
    cases served
  · rw [accepted] at served
    have next : table.nextFlowId = entry.1.flowId := Except.ok.inj served
    have below := follows.numbered.below entry member
    rw [← next, follows.numbered.next] at below
    exact Nat.lt_irrefl _ below

private theorem Follows.faithful (follows : Follows history table) : Faithful history table where
  ids_apart := by
    apply List.Nodup.of_map UInt32.toNat
    rw [List.map_map]
    exact follows.ids ▸ List.nodup_range
  keys_apart := table.ordered.keys_nodup
  installed := follows.flows
  create_new request flowId served := serve_create_new follows served
  destroy_ok_iff portId flowId working := (serve_destroy_ok_iff working).trans (lookup_isSome_iff follows)
  query_ok_iff portId flowId := serve_query_ok_iff.trans (lookup_isSome_iff follows)
  list_ids := serve_list follows
  flush_port portId := ⟨rfl, flows_flush table portId⟩
  failure_keeps call error := serve_failed
  injected_iff kind earlier count later call split unset failing := by
    subst split
    simp only [serve_injected_iff, failing, Option.some.injEq, exists_eq_left', follows.failures_of_set unset]
    omega
  not_injected call unset := by
    rw [ne_eq, serve_injected_iff]
    rintro ⟨kind, failing, left⟩
    have never : ∀ count, .failuresSet kind count ∉ history := fun count member => unset kind count member failing
    rw [follows.failures, foldl_remaining never, Nat.zero_sub] at left
    exact left rfl
  called := follows.calls

end Answers

/-- After any operations on a new table, as long as fewer flows were created than there are ids, the table holds
what was created and not removed since, under ids that are used once, and answers from it; only calls that were
made to fail do so, and a failure changes nothing. -/
theorem flow_table_faithful (operations : List Operation)
    (few : (created (after operations).1).length < UInt32.size) :
    Faithful (after operations).1 (after operations).2 :=
  (follows_after operations few).faithful

/-- Two flows are created after a failure, and the first of them is destroyed. -/
theorem flow_table_faithful_two :
    let operations : List Operation := [.addPort 1 "0000:18:00.0", .failNext .create 1,
      .call (.create ⟨1, none, [], []⟩), .call (.create ⟨1, none, [], []⟩), .call (.create ⟨1, none, [], []⟩),
      .call (.destroy 1 0)]
    (created (after operations).1).length = 2 ∧ (after operations).2.flows = [(⟨1, 1⟩, ⟨1, none, [], []⟩)] ∧
      (after operations).2.calls = ["create", "create", "create", "destroy"] ∧
      Faithful (after operations).1 (after operations).2 := by
  intro operations
  have two : (created (after operations).1).length = 2 := rfl
  have few : (created (after operations).1).length < UInt32.size := by
    rw [two]
    decide
  exact ⟨two, rfl, rfl, flow_table_faithful operations few⟩

end NicFlow.FlowTable
