import LagrangeDb.Cdc.Captured
import LagrangeDb.Participant.History

namespace LagrangeDb.Transaction

open Data LagrangeDb.Participant

/-! What the coordinators of one transaction share: its rows, the participant partitions, and the
messages and writes on their way. -/

structure Setting where
  cdc : Cdc.CdcPlatform
  tableNameOf : String → String
  (transactionId sessionId : String)
  transactionEpoch : Int
  participantRetryMaxRetries : Nat

abbrev Setting.platform (setting : Setting) : Platform := setting.cdc.toPlatform

/-- Transactions and participants share one list of statuses. -/
inductive Status where
  | active
  | preparing
  | prepared
  | committing
  | committed
  | rollingBack
  | rolledBack
  | failed
deriving DecidableEq

inductive ParticipantSetState where
  | opened
  | frozen
deriving DecidableEq

inductive CommitMode where
  | notSelected
  | twoPhaseCommit
deriving DecidableEq

def CommitMode.text : CommitMode → String
  | .notSelected => "NOT_SELECTED"
  | .twoPhaseCommit => "TWO_PHASE_COMMIT"

/-! The durable rows.  The participant set text is the rendering of its
partition identifiers, and stands for it. -/

structure StoredDecision where
  decision : Decision
  decisionText : DecisionText
  decisionDigest : String
deriving DecidableEq

structure TransactionRow where
  status : Status
  participantSetState : ParticipantSetState
  participantSetText : List String
  commitMode : CommitMode
  frozenParticipantCount : Nat
  decision : Option StoredDecision
deriving DecidableEq

structure ParticipantRecord where
  status : Status
  failed : Bool
  preparedDigest : Option String
  (prepareIndex prepareTerm : Option Nat)
deriving DecidableEq

structure Store where
  row : TransactionRow
  participants : AList fun _ : String => ParticipantRecord

def participantSetTextOf (partitionIds : List String) : List String := Text.sort partitionIds.dedup

def readParticipantSet (text : List String) : Option (List String) :=
  if text.all isNonEmptyString && participantSetTextOf text = text then some text
  else none

theorem readParticipantSet_some
    (h : readParticipantSet text = some pairs) : pairs = text ∧ text.Nodup := by
  unfold readParticipantSet at h
  split at h
  next hcanonical =>
    simp only [Bool.and_eq_true, decide_eq_true_eq] at hcanonical
    refine ⟨(Option.some.inj h).symm, ?_⟩
    rw [← hcanonical.2]
    exact (List.perm_insertionSort _ _).nodup_iff.mpr text.nodup_dedup
  · cases h

inductive Mutation where
  | status (status : Status)
  | participantSet (previousText text : List String)
      (state : ParticipantSetState) (commitMode : CommitMode)
      (frozenParticipantCount : Nat)
  | decision (participantSetText : List String) (stored : StoredDecision)
  | participant (partitionId : String) (record : ParticipantRecord)

/-- The store after a write, and whether the write changed a row. -/
def Mutation.apply (store : Store) : Mutation → Store × Bool
  | .status value => ({ store with row.status := value }, true)
  | .participantSet previousText text state commitMode count =>
    if store.row.participantSetState = .opened ∧
        store.row.participantSetText = previousText ∧
        store.row.decision = none then
      ({ store with
        row.participantSetText := text
        row.participantSetState := state
        row.commitMode := commitMode
        row.frozenParticipantCount := count }, true)
    else (store, false)
  | .decision participantSetText stored =>
    if store.row.participantSetState = .frozen ∧
        store.row.participantSetText = participantSetText ∧
        store.row.decision = none then
      ({ store with row.decision := some stored }, true)
    else (store, false)
  | .participant partitionId record =>
    ({ store with
      participants := store.participants.insert partitionId record }, true)

structure Binding where
  decision : Decision
  preparedDigest : Option String
  decisionText : DecisionText
  decisionDigest : String
deriving DecidableEq

inductive RequestBody where
  | prepare
  | decide (binding : Binding)
  | unboundRollback
  | outcome
deriving DecidableEq

inductive ParticipantOperation where
  | prepare
  | decide
  | unboundRollback
  | outcome
deriving DecidableEq

def RequestBody.operation : RequestBody → ParticipantOperation
  | .prepare => .prepare
  | .decide _ => .decide
  | .unboundRollback => .unboundRollback
  | .outcome => .outcome

structure Request where
  partitionId : String
  identity : Identity
  body : RequestBody
deriving DecidableEq

structure Reply where
  partitionId : String
  operation : ParticipantOperation
  answer : ParticipantAnswer
deriving DecidableEq

structure Cluster (setting : Setting) where
  store : Store
  replicas : String → Cdc.ReplicaState setting.cdc
  requests : List Request
  replies : List Reply
  pending : List Mutation

variable {setting : Setting}

def Setting.keyAt (setting : Setting) (partitionId : String) : RowKey :=
  { transactionId := setting.transactionId
    participantId := participantIdOf setting.transactionId partitionId }

def Cluster.partitions (cluster : Cluster setting) (partitionId : String) :
    PartitionState setting.platform :=
  (cluster.replicas partitionId).partition

def Cluster.participantRow (cluster : Cluster setting) (partitionId : String) :
    Option ParticipantRow :=
  (cluster.partitions partitionId).rows.lookup (setting.keyAt partitionId)

/-- The commands the leader of a partition may have proposed: those of the
transaction only at a coordinator's request, any other at any time. -/
def Cluster.admits (cluster : Cluster setting) (partitionId : String) : Command → Bool
  | .prepare command =>
    command.identity.transactionId ≠ setting.transactionId ||
    (isPinnedPrepare setting.platform.sha256Hex command &&
      cluster.requests.any fun request =>
        request.partitionId = partitionId &&
        request.identity = command.identity &&
        request.body = .prepare)
  | .decision command =>
    command.identity.transactionId ≠ setting.transactionId ||
    (isPinnedDecision setting.platform.sha256Hex command &&
      cluster.requests.any fun request =>
        request.partitionId = partitionId &&
        request.identity = command.identity &&
        request.body = .decide {
          decision := command.decision
          preparedDigest := command.preparedDigest
          decisionText := command.decisionText
          decisionDigest := command.decisionDigest })
  | _ => true

def Command.operation : Command → ParticipantOperation
  | .prepare _ => .prepare
  | _ => .decide

def Command.isOf (setting : Setting) : Command → Bool
  | .prepare command => command.identity.transactionId = setting.transactionId
  | .decision command => command.identity.transactionId = setting.transactionId
  | _ => false

def Cluster.admitsEntry (cluster : Cluster setting) (partitionId : String) :
    Cdc.LogCommand → Bool
  | .partition command _ _ => cluster.admits partitionId command
  | .cdcDelivered _ => true

/-- A PREPARE without room for its events is refused. -/
def participantAnswerOf : Cdc.EntryAnswer → Option ParticipantAnswer
  | .partition (some (.participant answer)) => some answer
  | .capacity _ => some { success := false }
  | _ => none

def repliesOf (setting : Setting) (partitionId : String) (command : Command)
    (answer : Cdc.EntryAnswer) : List Reply :=
  if Command.isOf setting command then
    (participantAnswerOf answer).toList.map fun answer =>
      { partitionId, operation := Command.operation command, answer }
  else []

def entryReplies (setting : Setting) (partitionId : String) :
    Cdc.LogCommand → Cdc.EntryAnswer → List Reply
  | .partition command _ _, answer => repliesOf setting partitionId command answer
  | .cdcDelivered _, _ => []

def Cluster.applyEntry (cluster : Cluster setting) (partitionId : String)
    (replica : Cdc.Replica) (host : setting.platform.Host) (entry : Cdc.LogEntry) :
    Option (Cluster setting) :=
  if cluster.admitsEntry partitionId entry.command then
    match Cdc.applyEntry replica (cluster.replicas partitionId) host entry with
    | .error _ => some cluster
    | .ok applied =>
      some { cluster with
        replicas := Function.update cluster.replicas partitionId applied.state
        replies := entryReplies setting partitionId entry.command applied.answer ++
          cluster.replies }
  else none

/-- A participant answers a repeated request from its durable row. -/
def Cluster.answerFromRow (cluster : Cluster setting) (partitionId : String)
    (operation : ParticipantOperation) : Option (Cluster setting) :=
  match cluster.participantRow partitionId with
  | none => none
  | some row =>
    some { cluster with
      replies :=
        { partitionId
          operation
          answer := {
            success := true
            outcome := some (participantOutcomeOf (some row)) } } ::
        cluster.replies }

end LagrangeDb.Transaction
