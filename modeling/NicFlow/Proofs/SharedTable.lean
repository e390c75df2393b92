import NicFlow.Proofs.FlowTableCalls
import NicFlow.Proofs.PassDiscipline

/-! A flow table that a node shares with other clients, which create flows but destroy none. At
every moment it holds their flows and those that the node has in its cache, and nothing else. -/

namespace NicFlow

open Reconciliation
open scoped List

/-- What a record stands for in the flow table. -/
def FlowRecord.entry (record : FlowRecord) : FlowKey × CreateRequest :=
  (⟨record.rule.portId, record.flowId⟩, record.rule)

namespace FlowCache

def entries (cache : FlowCache) : List (FlowKey × CreateRequest) :=
  cache.records.map fun entry => entry.2.entry

variable {cache : FlowCache} {fingerprint : Fingerprint}

private theorem entries_add_perm (record : FlowRecord) (absent : cache.has fingerprint = false) :
    (cache.add fingerprint record).entries ~ record.entry :: cache.entries :=
  (records_add_perm record absent).map _

private theorem entries_delete_perm {record : FlowRecord} (found : cache.get? fingerprint = some record) :
    cache.entries ~ record.entry :: (cache.delete fingerprint).entries :=
  (records_delete_perm found).map _

section Split

variable {flows after foreign : List (FlowKey × CreateRequest)} {record : FlowRecord}

private theorem split_of_add (absent : cache.has fingerprint = false) (split : flows ~ foreign ++ cache.entries)
    (grown : after ~ record.entry :: flows) :
    after ~ foreign ++ (cache.add fingerprint record).entries :=
  calc after
    _ ~ record.entry :: flows := grown
    _ ~ record.entry :: (foreign ++ cache.entries) := split.cons _
    _ ~ foreign ++ record.entry :: cache.entries := List.perm_middle.symm
    _ ~ foreign ++ (cache.add fingerprint record).entries :=
      (entries_add_perm record absent).symm.append_left foreign

private theorem entry_mem_of_split (found : cache.get? fingerprint = some record)
    (split : flows ~ foreign ++ cache.entries) : record.entry ∈ flows := by
  refine split.mem_iff.mpr (List.mem_append_right _ ?_)
  exact (entries_delete_perm found).mem_iff.mpr List.mem_cons_self

private theorem split_of_delete (found : cache.get? fingerprint = some record)
    (distinct : (flows.map Prod.fst).Nodup) (split : flows ~ foreign ++ cache.entries) :
    eraseKey record.entry.1 flows ~ foreign ++ (cache.delete fingerprint).entries := by
  apply List.Perm.cons_inv (a := record.entry)
  calc record.entry :: eraseKey record.entry.1 flows
    _ ~ flows := (perm_eraseKey distinct (entry_mem_of_split found split)).symm
    _ ~ foreign ++ cache.entries := split
    _ ~ foreign ++ record.entry :: (cache.delete fingerprint).entries :=
      (entries_delete_perm found).append_left foreign
    _ ~ record.entry :: (foreign ++ (cache.delete fingerprint).entries) := List.perm_middle

end Split

end FlowCache

namespace Sharing

/-- What a node does: nothing, its part of a pass, or waiting for the answer to a call. -/
inductive Activity where
  | idle (cache : FlowCache)
  | working (program : Program FlowCache (Except AgentError ReconcileReport))
  | awaiting (cache : FlowCache) (call : Call)
      (next : call.Answer → Program FlowCache (Except AgentError ReconcileReport))
      (answer : call.Answer)

def Activity.cache : Activity → FlowCache
  | .idle cache => cache
  | .working program => program.shown
  | .awaiting cache _ _ _ => cache

/-- The cache as the node will have it with the answer that it waits for. -/
def Activity.settled : Activity → FlowCache
  | .idle cache => cache
  | .working program => program.shown
  | .awaiting _ _ next answer => (next answer).shown

def Activity.InFlight : Activity → Prop
  | .awaiting _ (.create _) _ _ => True
  | .awaiting _ (.destroy _ _) _ _ => True
  | _ => False

structure System where
  table : FlowTable
  node : Activity
  /-- The flows that other clients created. -/
  foreign : List (FlowKey × CreateRequest)
  /-- How many flows were created so far, by anyone. -/
  created : Nat

def System.initial : System := ⟨.empty, .idle .empty, [], 0⟩

/-- Single steps, in any order: of the node, of other clients, and of whoever prepares the table. -/
inductive Step : System → System → Prop where
  | begin {table cache foreign created} (lookup : VfLookup) (rules : List FlowRule) :
      Step ⟨table, .idle cache, foreign, created⟩
        ⟨table, .working (pass lookup cache rules), foreign, created⟩
  | report {table event rest foreign created} :
      Step ⟨table, .working (.report event rest), foreign, created⟩
        ⟨table, .working rest, foreign, created⟩
  | sleep {table duration rest foreign created} :
      Step ⟨table, .working (.sleep duration rest), foreign, created⟩
        ⟨table, .working rest, foreign, created⟩
  | send {table cache call next foreign created} :
      Step ⟨table, .working (.call cache call next), foreign, created⟩
        ⟨(table.serve call).2, .awaiting cache call next (table.serve call).1, foreign,
          created + (createdFlows call (table.serve call).1).length⟩
  | receive {table cache call next answer foreign created} :
      Step ⟨table, .awaiting cache call next answer, foreign, created⟩
        ⟨table, .working (next answer), foreign, created⟩
  | finish {table cache result foreign created} :
      Step ⟨table, .working (.done cache result), foreign, created⟩
        ⟨table, .idle cache, foreign, created⟩
  | client {table node foreign created} (call : Call) (spares : call.Spares) :
      Step ⟨table, node, foreign, created⟩
        ⟨(table.serve call).2, node, createdFlows call (table.serve call).1 ++ foreign,
          created + (createdFlows call (table.serve call).1).length⟩
  | addPort {table node foreign created} (portId : UInt32) (pci : String) :
      Step ⟨table, node, foreign, created⟩ ⟨table.addPort portId pci, node, foreign, created⟩
  | failNextListPorts {table node foreign created} (count : Nat) :
      Step ⟨table, node, foreign, created⟩ ⟨table.failNextListPorts count, node, foreign, created⟩
  | failNextCreate {table node foreign created} (count : Nat) :
      Step ⟨table, node, foreign, created⟩ ⟨table.failNextCreate count, node, foreign, created⟩
  | failNextDestroy {table node foreign created} (count : Nat) :
      Step ⟨table, node, foreign, created⟩ ⟨table.failNextDestroy count, node, foreign, created⟩

inductive Reachable : System → Prop where
  | initial : Reachable .initial
  | step {before after} (reachable : Reachable before) (step : Step before after) : Reachable after

def Missed (error : RpcError) : Prop := ∃ kind text, error = .flow kind text

/-- A pass goes on as its discipline says, and no answer is an error of the service's own. -/
inductive Sound : Activity → Prop where
  | idle {cache} : Sound (.idle cache)
  | working {program} (disciplined : Disciplined program) : Sound (.working program)
  | refused {cache error} (known : ¬ Missed error) :
      Sound (.working (.done cache (.error (.rpc error))))
  | awaiting {cache call next answer} (disciplined : Disciplined (.call cache call next))
      (known : ∀ error, answer = .error error → ¬ Missed error) :
      Sound (.awaiting cache call next answer)

/-- The table holds the flows of the other clients and those of the settled cache. -/
structure Consistent (system : System) : Prop where
  sound : Sound system.node
  numbered : system.table.Numbered system.created
  split : system.table.flows ~ system.foreign ++ system.node.settled.entries

private theorem injected_known : ¬ Missed FlowTable.injected := by
  rintro ⟨_, _, impossible⟩
  cases impossible

theorem Sound.receive {cache : FlowCache} {call : Call}
    {next : call.Answer → Program FlowCache (Except AgentError ReconcileReport)} {answer : call.Answer}
    (sound : Sound (.awaiting cache call next answer)) : Sound (.working (next answer)) := by
  cases sound with
  | awaiting disciplined known =>
    cases disciplined with
    | call uses refused shown accepted =>
      cases answer with
      | error error =>
        rw [refused]
        exact .refused (known error rfl)
      | ok reply => exact .working (accepted reply)

section Preservation

variable {table after : FlowTable} {node : Activity} {cache : FlowCache} {call : Call}
  {next : call.Answer → Program FlowCache (Except AgentError ReconcileReport)}
  {foreign : List (FlowKey × CreateRequest)} {created : Nat}

theorem Consistent.refuse
    (consistent : Consistent ⟨table, .working (.call cache call next), foreign, created⟩)
    (disciplined : Disciplined (.call cache call next)) (kept : table.Kept after) :
    Consistent ⟨after, .awaiting cache call next (.error FlowTable.injected), foreign, created⟩ := by
  refine ⟨.awaiting disciplined ?_, consistent.numbered.kept kept, ?_⟩
  · intro error same
    cases same
    exact injected_known
  · cases disciplined with
    | call uses refused shown accepted =>
      rw [Activity.settled, refused, kept.1]
      exact consistent.split

theorem Consistent.accept {reply : Call.Reply call}
    (disciplined : Disciplined (.call cache call next)) (numbered : after.Numbered created)
    (split : after.flows ~ foreign ++ (next (.ok reply)).shown.entries) :
    Consistent ⟨after, .awaiting cache call next (.ok reply), foreign, created⟩ := by
  refine ⟨.awaiting disciplined ?_, numbered, split⟩
  intro _ impossible
  cases impossible

theorem Consistent.send
    (consistent : Consistent ⟨table, .working (.call cache call next), foreign, created⟩)
    (few : created + (createdFlows call (table.serve call).1).length < UInt32.size) :
    Consistent ⟨(table.serve call).2, .awaiting cache call next (table.serve call).1, foreign,
      created + (createdFlows call (table.serve call).1).length⟩ := by
  have split : table.flows ~ foreign ++ cache.entries := consistent.split
  cases consistent.sound with
  | working disciplined =>
    have resumed := disciplined
    cases disciplined with
    | call uses refused shown accepted =>
      cases uses with
      | list =>
        rcases table.serve_listPorts with ⟨after, served, kept⟩ | ⟨after, served, kept⟩
        · rw [served]
          exact consistent.refuse resumed kept
        · rw [served]
          refine .accept resumed (consistent.numbered.kept kept) ?_
          rw [shown, kept.1]
          exact split
      | @create request absent =>
        rcases table.serve_create request with ⟨after, served, kept⟩ | ⟨after, served, _, _⟩
        · rw [served]
          exact consistent.refuse resumed kept
        · have spared : Call.Spares (.create request) := trivial
          have grown := FlowTable.serve_spared consistent.numbered spared few
          rw [served] at grown ⊢
          refine .accept resumed grown.2 ?_
          rw [shown]
          exact FlowCache.split_of_add absent split grown.1
      | destroy found =>
        rcases FlowTable.serve_destroy (FlowCache.entry_mem_of_split found split) with
          ⟨after, served, kept⟩ | ⟨after, served, flows, same⟩
        · rw [served]
          exact consistent.refuse resumed kept
        · rw [served]
          refine .accept resumed (consistent.numbered.erased flows same) ?_
          rw [shown, flows]
          exact FlowCache.split_of_delete found table.ordered.keys_nodup split

theorem Consistent.client (consistent : Consistent ⟨table, node, foreign, created⟩)
    (spares : call.Spares) (few : created + (createdFlows call (table.serve call).1).length < UInt32.size) :
    Consistent ⟨(table.serve call).2, node, createdFlows call (table.serve call).1 ++ foreign,
      created + (createdFlows call (table.serve call).1).length⟩ := by
  obtain ⟨grown, numbered⟩ := FlowTable.serve_spared consistent.numbered spares few
  refine ⟨consistent.sound, numbered, ?_⟩
  rw [List.append_assoc]
  exact grown.trans (consistent.split.append_left _)

private theorem Consistent.prepare (consistent : Consistent ⟨table, node, foreign, created⟩)
    (kept : table.Kept after) : Consistent ⟨after, node, foreign, created⟩ :=
  ⟨consistent.sound, consistent.numbered.kept kept, kept.1 ▸ consistent.split⟩

end Preservation

theorem Consistent.initial : Consistent .initial := ⟨.idle, .empty, .refl _⟩

private theorem Step.created_le {before after : System} (step : Step before after) :
    before.created ≤ after.created := by
  cases step with
  | send | client => exact Nat.le_add_right ..
  | _ => exact Nat.le_refl _

theorem Consistent.step {before after : System} (consistent : Consistent before)
    (step : Step before after) (few : after.created < UInt32.size) : Consistent after := by
  cases step with
  | begin lookup rules =>
    refine ⟨.working (pass_disciplined lookup _ rules), consistent.numbered, ?_⟩
    rw [Activity.settled, shown_pass]
    exact consistent.split
  | report =>
    refine ⟨?_, consistent.numbered, consistent.split⟩
    cases consistent.sound with
    | working disciplined =>
      cases disciplined with
      | report rest => exact .working rest
  | sleep =>
    refine ⟨?_, consistent.numbered, consistent.split⟩
    cases consistent.sound with
    | working disciplined =>
      cases disciplined with
      | sleep rest => exact .working rest
  | send => exact consistent.send few
  | receive => exact ⟨consistent.sound.receive, consistent.numbered, consistent.split⟩
  | finish => exact ⟨.idle, consistent.numbered, consistent.split⟩
  | client call spares => exact consistent.client spares few
  | addPort | failNextListPorts | failNextCreate | failNextDestroy =>
    exact consistent.prepare ⟨rfl, rfl⟩

theorem Reachable.consistent {system : System} (reachable : Reachable system)
    (few : system.created < UInt32.size) : Consistent system := by
  induction reachable with
  | initial => exact .initial
  | step _ step ih => exact (ih (Nat.lt_of_le_of_lt step.created_le few)).step step few

private theorem Sound.settled_eq_cache {node : Activity} (sound : Sound node) (quiet : ¬ node.InFlight) :
    node.settled = node.cache := by
  cases sound with
  | idle | working | refused => rfl
  | @awaiting cache call next answer disciplined known =>
    cases disciplined with
    | call uses refused shown accepted =>
      cases uses with
      | list =>
        rw [Activity.settled, Activity.cache]
        cases answer with
        | error error => rw [refused]; rfl
        | ok ports => exact shown ports
      | create absent => exact absurd trivial quiet
      | destroy found => exact absurd trivial quiet

/-- Whenever no creation or destruction of the node is in flight, the table holds the flows of
the other clients and those of the cache, all of them different, and nothing else. No pass fails
with an error of the service's own. -/
theorem shared_table_splits {system : System} (reachable : Reachable system)
    (few : system.created < UInt32.size) :
    (¬ system.node.InFlight →
      system.table.flows ~ system.foreign ++ system.node.cache.entries ∧
      ((system.foreign ++ system.node.cache.entries).map Prod.fst).Nodup) ∧
    ∀ cache kind text,
      system.node ≠ .working (.done cache (.error (.rpc (.flow kind text)))) := by
  have consistent := reachable.consistent few
  constructor
  · intro quiet
    have split := consistent.split
    rw [consistent.sound.settled_eq_cache quiet] at split
    exact ⟨split, (split.map Prod.fst).nodup_iff.mp system.table.ordered.keys_nodup⟩
  · intro cache kind text failed
    have sound := consistent.sound
    rw [failed] at sound
    cases sound with
    | working disciplined =>
      cases disciplined with
      | done own => exact own _ rfl _ rfl
    | refused known => exact known ⟨kind, text, rfl⟩

/-- Another client and a node create the same flow, which is in the table twice then. -/
theorem shared_table_splits_same_request :
    ∃ system, Reachable system ∧ system.created = 2 ∧
      system.foreign = [(⟨3, 0⟩, dropValidated.toRequest)] ∧
      system.table.flows = [(⟨3, 0⟩, dropValidated.toRequest), (⟨3, 1⟩, dropValidated.toRequest)] ∧
      system.table.flows ~ system.foreign ++ system.node.cache.entries := by
  have foreign := Reachable.initial.step (.client (.create dropValidated.toRequest) trivial)
  have begun := foreign.step (.begin (.ofTable []) [dropRule])
  rw [pass_dropRule_eq] at begun
  have created := (begun.step .send).step .receive
  exact ⟨_, created, rfl, rfl, rfl, ((shared_table_splits created (by decide)).1 id).1⟩

end Sharing

end NicFlow
