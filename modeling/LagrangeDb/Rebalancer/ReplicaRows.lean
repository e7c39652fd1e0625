import Mathlib.Data.List.Dedup
import LagrangeDb.Js.Value

namespace LagrangeDb.Rebalancer

/-! The replica rows a removal is judged by: the rows of the services table, merged
with those of the node's cache. -/

structure ServiceRow where
  (serviceId replicaId nodeId status address raftRole : Option String)
deriving DecidableEq

def trimmed (text : Option String) : String :=
  (text.map fun text => String.ofList (Js.trim text.toList)).getD ""

def present (text : Option String) : Bool := text.any fun text => !text.isEmpty

namespace ServiceRow

def getReplicaRowIdentity (row : ServiceRow) : Option String :=
  if !(trimmed row.serviceId).isEmpty then some (trimmed row.serviceId)
  else if !(trimmed row.replicaId).isEmpty then some (trimmed row.replicaId)
  else none

/-- The fields that are given replace those of the base. -/
def mergeDefinedReplicaRowFields (base incoming : ServiceRow) : ServiceRow where
  serviceId := incoming.serviceId <|> base.serviceId
  replicaId := incoming.replicaId <|> base.replicaId
  nodeId := incoming.nodeId <|> base.nodeId
  status := incoming.status <|> base.status
  address := incoming.address <|> base.address
  raftRole := incoming.raftRole <|> base.raftRole

def isOperationReplicaRow (row : ServiceRow) (replicaId : String) : Bool :=
  !replicaId.isEmpty && (row.serviceId = some replicaId || row.replicaId = some replicaId)

end ServiceRow

abbrev MergedRows := List (Option String × ServiceRow)

def place (identity : String) (update : Option ServiceRow → ServiceRow) : MergedRows → MergedRows
  | [] => [(some identity, update none)]
  | (key, row) :: rest =>
    if key = some identity then (key, update (some row)) :: rest
    else (key, row) :: place identity update rest

def incomingRow (preferIncoming : Bool) (row : ServiceRow) : Option ServiceRow → ServiceRow
  | some before => if preferIncoming then before.mergeDefinedReplicaRowFields row else row
  | none => row

def appendRow (preferIncoming : Bool) (rows : MergedRows) (row : ServiceRow) : MergedRows :=
  match row.getReplicaRowIdentity with
  | none => rows ++ [(none, row)]
  | some identity => place identity (incomingRow preferIncoming row) rows

def mergedReplicaRows (authoritativeRows cachedRows : List ServiceRow) : MergedRows :=
  authoritativeRows.foldl (appendRow true) (cachedRows.foldl (appendRow false) [])

def mergeReplicaRowsForSafety (authoritativeRows cachedRows : List ServiceRow) : List ServiceRow :=
  (mergedReplicaRows authoritativeRows cachedRows).map Prod.snd

/-- The authoritative read is missing if it failed. -/
def getCriticalReplicaRowsForSafety (authoritativeRows : Option (List ServiceRow))
    (cachedRows : List ServiceRow) : List ServiceRow :=
  match authoritativeRows with
  | none | some [] => cachedRows
  | some rows => mergeReplicaRowsForSafety rows cachedRows

/-- What the readiness service answers about nodes: whether one is ready, and
whether it is not for lack of evidence only. -/
structure Readiness where
  (isReady isEvidenceAbsent : String → Bool)

def isVoterRaftRole (role : Option String) : Bool :=
  role.any fun role => role.toLower ∈ ["leader", "follower", "candidate"]

def isVoterReadyReplicaTopology (row : ServiceRow) : Bool :=
  row.status.any (· ∈ ["active", "syncing"]) && present row.address && isVoterRaftRole row.raftRole

namespace Readiness

variable (readiness : Readiness)

def isVoterReadyRoutableReplica (row : ServiceRow) : Bool :=
  isVoterReadyReplicaTopology row && present row.nodeId && row.nodeId.any readiness.isReady

def isVoterReadyFloorCountableReplica (row : ServiceRow) : Bool :=
  readiness.isVoterReadyRoutableReplica row ||
    (isVoterReadyReplicaTopology row && present row.nodeId &&
      row.nodeId.any readiness.isEvidenceAbsent)

end Readiness

def normalizeNodeIdList (nodeIds : List String) : List String :=
  ((nodeIds.map fun nodeId => trimmed (some nodeId)).filter fun nodeId => !nodeId.isEmpty).dedup

def normalizeReplicaRowNodeIds (rows : List ServiceRow) : List String :=
  normalizeNodeIdList (rows.map fun row => trimmed row.nodeId)

theorem mem_keys_place : key ∈ (place identity update rows).map Prod.fst ↔
      key = some identity ∨ key ∈ rows.map Prod.fst := by
  induction rows with
  | nil => simp [place]
  | cons entry rest induction =>
    obtain ⟨other, row⟩ := entry
    rw [place]
    split
    next own => simp [own]
    · rw [List.map_cons, List.map_cons, List.mem_cons, List.mem_cons, induction]
      exact or_left_comm

/-- The identities of the merged rows; a row without one is kept apart. -/
def MergedRows.identities (rows : MergedRows) : List (Option String) :=
  (rows.map Prod.fst).filter Option.isSome

theorem nodup_place {rows : MergedRows} (distinct : rows.identities.Nodup) :
    (MergedRows.identities (place identity update rows)).Nodup := by
  induction rows with
  | nil => simp [place, MergedRows.identities]
  | cons entry rest induction =>
    obtain ⟨key, row⟩ := entry
    rw [place]
    split
    · exact distinct
    next other =>
    cases key with
    | none => exact induction distinct
    | some key =>
      obtain ⟨absent, distinct⟩ := List.nodup_cons.mp distinct
      refine List.nodup_cons.mpr ⟨fun member => ?_, induction distinct⟩
      obtain ⟨member, named⟩ := List.mem_filter.mp member
      rcases mem_keys_place.mp member with same | member
      · exact other same
      · exact absent (List.mem_filter.mpr ⟨member, named⟩)

theorem nodup_foldl_append {merged : MergedRows} (prefersIncoming : Bool) (rows : List ServiceRow)
    (distinct : merged.identities.Nodup) :
    (MergedRows.identities (rows.foldl (appendRow prefersIncoming) merged)).Nodup := by
  induction rows generalizing merged with
  | nil => exact distinct
  | cons row rest induction =>
    apply induction
    unfold appendRow
    split
    · simpa [MergedRows.identities] using distinct
    · exact nodup_place distinct

theorem nodup_mergedReplicaRows (authoritativeRows cachedRows : List ServiceRow) :
    (mergedReplicaRows authoritativeRows cachedRows).identities.Nodup :=
  nodup_foldl_append true _ (nodup_foldl_append false _ List.nodup_nil)

/-- Each merged row that counts has its own row in the table, which counts too: no
row and no field of the cache makes one count. -/
def Grounded (counts : ServiceRow → Bool) (authoritativeRows cachedRows : List ServiceRow) : Prop :=
  ∀ entry ∈ mergedReplicaRows authoritativeRows cachedRows, counts entry.2 = true →
    entry.1.isSome = true ∧
      ∃ own ∈ authoritativeRows, own.getReplicaRowIdentity = entry.1 ∧ counts own = true

theorem Grounded.length_le (grounded : Grounded counts authoritativeRows cachedRows) :
    ((mergeReplicaRowsForSafety authoritativeRows cachedRows).filter counts).length ≤
      (authoritativeRows.filter counts).length := by
  let entries := (mergedReplicaRows authoritativeRows cachedRows).filter (counts ∘ Prod.snd)
  have counted : ∀ entry ∈ entries, entry.1.isSome = true ∧
      entry.1 ∈ (authoritativeRows.filter counts).map ServiceRow.getReplicaRowIdentity := by
    intro entry member
    obtain ⟨member, counts'⟩ := List.mem_filter.mp member
    obtain ⟨named, own, known, same, ownCounts⟩ := grounded entry member counts'
    exact ⟨named, List.mem_map.mpr ⟨own, List.mem_filter.mpr ⟨known, ownCounts⟩, same⟩⟩
  have named : (entries.map Prod.fst).filter Option.isSome = entries.map Prod.fst := by
    refine List.filter_eq_self.mpr fun key member => ?_
    obtain ⟨entry, known, rfl⟩ := List.mem_map.mp member
    exact (counted entry known).1
  have distinct : (entries.map Prod.fst).Nodup := by
    rw [← named]
    exact (nodup_mergedReplicaRows authoritativeRows cachedRows).sublist
      ((List.filter_sublist.map _).filter _)
  have among : entries.map Prod.fst ⊆
      (authoritativeRows.filter counts).map ServiceRow.getReplicaRowIdentity := by
    intro key member
    obtain ⟨entry, known, rfl⟩ := List.mem_map.mp member
    exact (counted entry known).2
  calc ((mergeReplicaRowsForSafety authoritativeRows cachedRows).filter counts).length
      = (entries.map Prod.fst).length := by
        rw [mergeReplicaRowsForSafety, List.filter_map, List.length_map, List.length_map]
    _ ≤ ((authoritativeRows.filter counts).map ServiceRow.getReplicaRowIdentity).length :=
        (List.subperm_of_subset distinct among).length_le
    _ = (authoritativeRows.filter counts).length := List.length_map _

end LagrangeDb.Rebalancer
