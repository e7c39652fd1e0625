import LagrangeDb.Data.Program
import LagrangeDb.Transaction.Cluster

namespace LagrangeDb.Transaction

open Data LagrangeDb.Participant

/-! What a coordinator holds in memory for the transaction, and the calls its
programs stop at. -/

inductive Disposition where
  | defer
  | unknown
  | refused
deriving DecidableEq

inductive Failure where
  | timeout
  | persistence
  | recoveryIncomplete
  | enlistedParticipantsMissing
  | participant (disposition : Option Disposition) (commitMiss : Bool)
      (refusalCause : Option RefusalCause)
deriving DecidableEq

structure Participant where
  partitionId : String
  status : Status := .failed
  lastError : Option Failure := none
  preparedDigest : Option String := none
  prepareIndex : Option Nat := none
  prepareTerm : Option Nat := none
  prepareEvidenceRetained : Bool := false
deriving DecidableEq

def Participant.record (participant : Participant) : ParticipantRecord :=
  { status := participant.status
    failed := participant.lastError.isSome
    preparedDigest := participant.preparedDigest
    prepareIndex := participant.prepareIndex
    prepareTerm := participant.prepareTerm }

inductive ReadState where
  | recorded
  | absent
  | invalid
  | unavailable
  | notRead
deriving DecidableEq

/-- The transaction state.  `participants` maps a partition to the reference
of its participant record: the records are shared objects, and a stage keeps
writing to the one it found even when another has taken its place. -/
structure Tx where
  status : Status
  participantSetState : ParticipantSetState
  participantSetText : List String
  commitMode : CommitMode
  frozenParticipantCount : Nat
  participants : AList fun _ : String => Nat
  decision : Option DecisionRecord
  decisionReadState : Option ReadState
  (commitPointReached recoveryDiscovered : Bool)

/-- `active` tells whether the session still holds the transaction, and
`ended` is the commit point recorded when it stopped. -/
structure Memory where
  tx : Tx
  records : AList fun _ : Nat => Participant
  nextRecord : Nat
  active : Bool
  ended : Option Bool

namespace Memory

def participants (memory : Memory) : List Participant :=
  memory.tx.participants.entries.filterMap fun entry => memory.records.lookup entry.2

def participantAt (memory : Memory) (partitionId : String) :
    Option Participant := do
  memory.records.lookup (← memory.tx.participants.lookup partitionId)

def setRecord (memory : Memory) (reference : Nat) (update : Participant → Participant) : Memory :=
  match memory.records.lookup reference with
  | none => memory
  | some participant =>
    { memory with
      records := memory.records.insert reference (update participant) }

def install (memory : Memory) (participant : Participant) : Memory :=
  { memory with
    records := memory.records.insert memory.nextRecord participant
    nextRecord := memory.nextRecord + 1
    tx.participants := memory.tx.participants.insert participant.partitionId memory.nextRecord }

def bind (memory : Memory) (partitionId : String) : Option Nat → Memory
  | some reference =>
    { memory with
      tx.participants := memory.tx.participants.insert partitionId reference }
  | none =>
    { memory with
      tx.participants := memory.tx.participants.erase partitionId }

end Memory

inductive Stage where
  | prepare
  | commit
  | rollback (bound : Bool)
deriving DecidableEq

def Stage.transientStatus : Stage → Status
  | .prepare => .preparing
  | .commit => .committing
  | .rollback _ => .rollingBack

def Stage.successStatus : Stage → Status
  | .prepare => .prepared
  | .commit => .committed
  | .rollback _ => .rolledBack

/-- A participant of a stage, or one a session begins on: the latter keeps the
record it was given. -/
inductive Task where
  | stage (stage : Stage) (partitionId : String) (budgetBound : Bool)
  | begin (partitionId : String) (reference : Option Nat)
deriving DecidableEq

abbrev FailedParticipant := String × Failure

inductive Call where
  | update (update : Memory → Memory)
  | mutate (mutation : Mutation)
  | readRow
  | readParticipants
  | begin (partitionId : String)
  | send (request : Request)
  | receive (request : Request)
  | budgetExceeded
  | attempts
  | stage (tasks : List Task)

/-- An update answers with the memory it found.  A write answers `none` when
its answer was lost, else whether it changed a row; a read answers `none` when
it was unavailable. -/
def Call.Answer : Call → Type
  | .update _ => Memory
  | .mutate _ => Option Bool
  | .readRow => Option TransactionRow
  | .readParticipants => Option (AList fun _ : String => ParticipantRecord)
  | .begin _ => Except Failure Unit
  | .send _ => Unit
  | .receive _ => Except Failure ParticipantAnswer
  | .budgetExceeded => Bool
  | .attempts => Nat
  | .stage _ => Except Failure (List FailedParticipant)

abbrev Prog := Program Call Call.Answer Failure

def perform (request : Call) : Prog request.Answer := Program.perform request

def updateMemory (update : Memory → Memory) : Prog Memory := perform (Call.update update)

def readMemory : Prog Memory := updateMemory id

def updateTx (update : Tx → Tx) : Prog Unit := do
  let _ ← updateMemory fun memory => { memory with tx := update memory.tx }

def updateRecord (reference : Nat) (update : Participant → Participant) :
    Prog Unit := do
  let _ ← updateMemory fun memory => memory.setRecord reference update

def mutate (mutation : Mutation) : Prog (Option Bool) := perform (Call.mutate mutation)

def readRow : Prog (Option TransactionRow) := perform Call.readRow

def readParticipants : Prog (Option (AList fun _ : String => ParticipantRecord)) :=
  perform Call.readParticipants

def isTransactionBudgetExceeded : Prog Bool := perform Call.budgetExceeded

def receive (request : Request) : Prog (Except Failure ParticipantAnswer) :=
  perform (Call.receive request)

def awaitStage (tasks : List Task) : Prog (Except Failure (List FailedParticipant)) :=
  perform (Call.stage tasks)

def attempt {α : Type} (program : Prog α) : Prog (Except Failure α) :=
  tryCatch (do return .ok (← program)) fun failure => pure (.error failure)

def raise {α : Type} : Except Failure α → Prog α
  | .ok value => pure value
  | .error failure => throw failure

def deliver (request : Request) : Prog ParticipantAnswer := do
  perform (Call.send request)
  raise (← receive request)

end LagrangeDb.Transaction
