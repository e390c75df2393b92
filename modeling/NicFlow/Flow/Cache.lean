import NicFlow.Flow.Fingerprint
import NicFlow.Log.Event
import NicFlow.Sorted

/-! The flows that are known to be installed, by fingerprint. The first record of a fingerprint stays
until it is deleted. -/

namespace NicFlow

open Log

structure FlowRecord where
  flowId : UInt32
  rule : CreateRequest
deriving DecidableEq

/-- Records in increasing order of their fingerprints. -/
structure FlowCache where
  records : List (Fingerprint × FlowRecord)
  ordered : Ordered records

namespace FlowCache

def empty : FlowCache := ⟨[], .nil⟩

def get? (cache : FlowCache) (fingerprint : Fingerprint) : Option FlowRecord :=
  cache.records.lookup fingerprint

def has (cache : FlowCache) (fingerprint : Fingerprint) : Bool := (cache.get? fingerprint).isSome

def size (cache : FlowCache) : Nat := cache.records.length

def fingerprints (cache : FlowCache) : List Fingerprint := cache.records.map Prod.fst

/-- Stores a record unless there is one of its fingerprint. -/
def add (cache : FlowCache) (fingerprint : Fingerprint) (record : FlowRecord) : FlowCache :=
  if cache.has fingerprint then cache
  else ⟨insertSorted fingerprint record cache.records, cache.ordered.insertSorted fingerprint record⟩

/-- Adding to a fingerprint that has a record is reported. -/
def addEvents (cache : FlowCache) (fingerprint : Fingerprint) : List Event :=
  if cache.has fingerprint then
    [.debug "flowconfig_cache::store" s!"flow {fingerprint} already recorded"]
  else []

def delete (cache : FlowCache) (fingerprint : Fingerprint) : FlowCache :=
  ⟨eraseKey fingerprint cache.records, cache.ordered.eraseKey fingerprint⟩

/-- The records whose fingerprints are not among the given ones. -/
def complement (cache : FlowCache) (known : List Fingerprint) : List (Fingerprint × FlowRecord) :=
  cache.records.filter fun (fingerprint, _) => fingerprint ∉ known

/-- What is asked of a cache. -/
inductive Operation where
  | add (fingerprint : Fingerprint) (record : FlowRecord)
  | delete (fingerprint : Fingerprint)
  | complement (known : List Fingerprint)
deriving DecidableEq

/-- Whether the record was stored, which record was deleted, or which records are not known. -/
abbrev Operation.Answer : Operation → Type
  | .add _ _ => Bool
  | .delete _ => Option FlowRecord
  | .complement _ => List (Fingerprint × FlowRecord)

/-- Answers an operation, with the cache after it. -/
def perform (cache : FlowCache) : (operation : Operation) → operation.Answer × FlowCache
  | .add fingerprint record => (!cache.has fingerprint, cache.add fingerprint record)
  | .delete fingerprint => (cache.get? fingerprint, cache.delete fingerprint)
  | .complement known => (cache.complement known, cache)

end FlowCache

end NicFlow
