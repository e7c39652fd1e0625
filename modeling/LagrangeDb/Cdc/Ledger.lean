import LagrangeDb.Participant.Store
import LagrangeDb.Cdc.Event

namespace LagrangeDb.Cdc

open Participant (Position)

/-! The durable ledger of the events a partition owes to its subscribers. -/

inductive Authority where
  | bootstrapGenesis
  | replicaCreateWorkflow
deriving DecidableEq

structure ScopeFields where
  authority : Authority
  (partitionId tableId tableName : String)
  (rangeStart rangeEnd : Option String)
  (partitionVersion activePartitionVersion : Nat)
deriving DecidableEq

/-- The evidence of where in the cluster a replica's events come from. -/
structure Scope where
  fields : ScopeFields
  (descriptorDigest scopeId : String)
deriving DecidableEq

structure EventJson where
  event : Event
  sourceScope : Option Scope

structure Obligation where
  eventKey : String
  (logIndex term ordinal : Nat)
  entryId : String
  eventJson : EventJson
  delivered : Option Position

namespace Obligation

/-- Obligations are ordered by the place of their write in the log. -/
def place (obligation : Obligation) : Nat ×ₗ Nat := toLex (obligation.logIndex, obligation.ordinal)

def isOwed (obligation : Obligation) : Bool := obligation.delivered.isNone

end Obligation

/-- What is known of the events that were delivered and deleted. -/
structure Progress where
  (throughLogIndex throughOrdinal reclaimed : Nat)
  advanced : Position
deriving DecidableEq

def Progress.place (progress : Progress) : Nat ×ₗ Nat :=
  toLex (progress.throughLogIndex, progress.throughOrdinal)

structure Ledger where
  rows : List Obligation
  progress : Option Progress

inductive LedgerFailure where
  | keyExists
  | placeExists
  | markNotOneRow
  | reclaimCountMismatch
deriving DecidableEq

namespace Ledger

def empty : Ledger := ⟨[], none⟩

def insertCdcObligation (ledger : Ledger) (row : Obligation) : Except LedgerFailure Ledger :=
  if ledger.rows.any fun other => other.eventKey = row.eventKey then .error .keyExists
  else if ledger.rows.any fun other => other.place = row.place then .error .placeExists
  else .ok { ledger with rows := ledger.rows ++ [row] }

def countOwed (ledger : Ledger) : Nat := (ledger.rows.filter Obligation.isOwed).length

inductive Standing where
  | reclaimed
  | unknown
  | owed (row : Obligation)
  | delivered (row : Obligation)

def isCdcPositionReclaimed (ledger : Ledger) (place : Nat ×ₗ Nat) : Bool :=
  match ledger.progress with
  | none => false
  | some progress => place ≤ progress.place

def readCdcObligationStanding (ledger : Ledger) (logIndex ordinal : Nat) : Standing :=
  let place := toLex (logIndex, ordinal)
  if ledger.isCdcPositionReclaimed place then .reclaimed
  else
    match ledger.rows.find? fun row => row.place = place with
    | none => .unknown
    | some row => if row.isOwed then .owed row else .delivered row

def markCdcObligationDelivered (position : Position) (ledger : Ledger)
    (eventKey : String) : Except LedgerFailure Ledger :=
  let moves (row : Obligation) := row.eventKey = eventKey && row.isOwed
  if (ledger.rows.filter moves).length = 1 then
    .ok { ledger with
      rows := ledger.rows.map fun row =>
        if moves row then { row with delivered := some position } else row }
  else .error .markNotOneRow

def reclaimRowsPerApply : Nat := 4096

def insertByPlace (row : Obligation) : List Obligation → List Obligation
  | [] => [row]
  | other :: rest =>
    if row.place ≤ other.place then row :: other :: rest
    else other :: insertByPlace row rest

def sortByPlace (rows : List Obligation) : List Obligation := rows.foldr insertByPlace []

def reclaimable (ledger : Ledger) : List Obligation :=
  let owed := ledger.rows.filter Obligation.isOwed
  let delivered := ledger.rows.filter fun row => !row.isOwed
  (sortByPlace (delivered.filter fun row =>
    owed.all fun other => row.place < other.place)).take reclaimRowsPerApply

def reclaimDeliveredCdcObligations (ledger : Ledger) (position : Position) :
    Except LedgerFailure Ledger :=
  match ledger.reclaimable.getLast? with
  | none => .ok ledger
  | some last =>
    let goes (row : Obligation) := !row.isOwed && row.place ≤ last.place
    let deleted := (ledger.rows.filter goes).length
    if deleted ≠ ledger.reclaimable.length then .error .reclaimCountMismatch
    else .ok {
      rows := ledger.rows.filter fun row => !goes row
      progress := some {
        throughLogIndex := last.logIndex
        throughOrdinal := last.ordinal
        reclaimed := (ledger.progress.elim 0 Progress.reclaimed) + deleted
        advanced := position
      }
    }

end Ledger

structure AcknowledgedEvent where
  ordinal : Nat
  eventKeyDigest : String
deriving DecidableEq

structure AcknowledgedGroup where
  logIndex : Nat
  events : List AcknowledgedEvent
deriving DecidableEq

structure Acknowledgement where
  (entryId partitionId : String)
  acknowledged : List AcknowledgedGroup
deriving DecidableEq

def isSortedStrictly (values : List Nat) : Bool := decide (values.Pairwise (· < ·))

def isLowerHexDigest (digest : String) : Bool :=
  digest.length = 64 && digest.toList.all fun character =>
    character.isDigit || ('a' ≤ character && character ≤ 'f')

def AcknowledgedGroup.isGroup (group : AcknowledgedGroup) : Bool :=
  0 < group.logIndex && !group.events.isEmpty &&
    group.events.all (fun event => isLowerHexDigest event.eventKeyDigest) &&
    isSortedStrictly (group.events.map AcknowledgedEvent.ordinal)

def joined (texts : List String) : String := ",".intercalate texts

def AcknowledgedEvent.json (event : AcknowledgedEvent) : String :=
  "\x7b\"ordinal\":" ++ toString event.ordinal ++ ",\"eventKeyDigest\":\"" ++
    event.eventKeyDigest ++ "\"\x7d"

def AcknowledgedGroup.json (group : AcknowledgedGroup) : String :=
  "\x7b\"logIndex\":" ++ toString group.logIndex ++ ",\"events\":[" ++
    joined (group.events.map AcknowledgedEvent.json) ++ "]\x7d"

def acknowledgedGroupsJsonOf (groups : List AcknowledgedGroup) : String :=
  "[" ++ joined (groups.map AcknowledgedGroup.json) ++ "]"

def ackBatchMaxEvents : Nat := 256

def ackBatchMaxBytes : Nat := 65536

def acknowledgedGroupsOf (command : Acknowledgement) : Option (List AcknowledgedGroup) :=
  let groups := command.acknowledged
  let events := (groups.map fun group => group.events.length).sum
  if groups.isEmpty || !groups.all AcknowledgedGroup.isGroup ||
      !isSortedStrictly (groups.map AcknowledgedGroup.logIndex) ||
      ackBatchMaxEvents < events ||
      ackBatchMaxBytes < (acknowledgedGroupsJsonOf groups).utf8ByteSize then none
  else some groups

end LagrangeDb.Cdc
