import LagrangeDb.Data.Result
import LagrangeDb.Participant.Apply

namespace LagrangeDb.Participant

open Data

/-! What one application can do to a partition.  Every result about runs is
derived from `Change`; the functions of `Apply` are opened only here. -/

variable {platform : Platform}

def PartitionState.withRow (state : PartitionState platform) (key : RowKey)
    (row : ParticipantRow) : PartitionState platform :=
  { state with rows := state.rows.insert key row }

/-- A causes list of a refused `PARTICIPANT_PREPARE` never names a failure of
the commit itself. -/
def RefusalCause.ofPrepare : RefusalCause → Bool
  | .commitBaseMoved => false
  | .commitStatementFailed => false
  | _ => true

inductive CommitObstacle (host : platform.Host)
    (state : PartitionState platform) (command : DecisionCommand)
    (position : Position) (row : ParticipantRow) : Prop where
  | baseMoved (hmoved : row.validationText ≠ state.validationTextHereOf)
  | unreadable (hnone : row.operations? = none)
  | failed (operations : List Operation) (error : StatementError)
      (hoperations : row.operations? = some operations)
      (hrun : runCommittedOperations host command.identity.participantId
        position 0 state.table state.outcomes operations = .error error)
      (hdeterministic : isDeterministicStatementFailure error = true)

/-- The commit of a prepared row: its operations ran on the partition's table
from evidence that still held. -/
structure CommitRun (host : platform.Host) (state : PartitionState platform)
    (command : DecisionCommand) (position : Position) (row : ParticipantRow)
    (operations : List Operation) (run : OperationsRun platform) : Prop where
  evidence : row.validationText = state.validationTextHereOf
  operations_eq : row.operations? = some operations
  run_eq : runCommittedOperations host command.identity.participantId
    position 0 state.table state.outcomes operations = .ok run

def PartitionState.afterCommit (state : PartitionState platform) (key : RowKey)
    (row : ParticipantRow) (operations : List Operation)
    (run : OperationsRun platform) : PartitionState platform :=
  { state with
    rows := state.rows.insert key row
    generation := if operations.length > 0 then state.generation + 1
      else state.generation
    table := run.table
    outcomes := run.outcomes }

/-- The checks a decision passed before it met the row of its key. -/
structure BoundDecision (state : PartitionState platform)
    (command : DecisionCommand) : Prop where
  identity : identityRefusalOf command.identity state.partitionId = none
  binding : decisionBindingRefusalOf platform.sha256Hex command = none

/-- A decision that may move the prepared row of its key. -/
structure DecidesPrepared (state : PartitionState platform)
    (command : DecisionCommand) (row : ParticipantRow) : Prop
    extends BoundDecision state command where
  lookup : state.rows.lookup command.identity.key = some row
  prepared : row.state = .prepared
  mode : row.commitMode = command.identity.commitMode
  epoch : row.transactionEpoch = command.identity.transactionEpoch
  digest : decisionMatchesPreparedRow command row = true

/-- The checks of `PARTICIPANT_PREPARE` that precede the insert of a prepared
row. -/
structure Prepares (host : platform.Host) (state : PartitionState platform)
    (command : PrepareCommand) : Prop where
  identity : identityRefusalOf command.identity state.partitionId = none
  absent : state.rows.lookup command.identity.key = none
  digest : preparedDigestOf platform.sha256Hex command.operationsText
    command.validationText = command.preparedDigest
  unreserved : state.isPartitionReserved = false
  evidence : some command.validationText = state.validationTextHereOf
  dryRun : ∃ operations table, operationsOf command.operationsText = some operations ∧
    runCarriedOperations host state.table operations = .ok table

inductive Change (host : platform.Host) (state : PartitionState platform) :
    Committed → PartitionState platform → List Execution → Prop where
  | unchanged (committed : Committed) : Change host state committed state []
  | statementFailed (command : SqlCommand) (position : Position)
      (row : OutcomeRow)
      (hfresh : state.outcomes.lookup (committedStatementEntryKey command.entryId) = none) :
      Change host state { command := .sql command, position }
        { state with
          outcomes := state.outcomes.insert (committedStatementEntryKey command.entryId) row }
        []
  | statement (command : SqlCommand) (position : Position)
      (table : platform.Table) (info : StatementInfo)
      (hfresh : state.outcomes.lookup (committedStatementEntryKey command.entryId) = none)
      (hunreserved : state.isPartitionReserved = false)
      (hrun : platform.runCommittedPartitionStatement host state.table
        (statementOf command) = .ok (table, info)) :
      Change host state { command := .sql command, position }
        { state with
          table
          generation := state.generation + 1
          outcomes := state.outcomes.insert (committedStatementEntryKey command.entryId)
            { outcome := .applied, position, result := some info } }
        [.statement command.entryId]
  | origin (command : GenerationOriginCommand) (position : Position)
      (hnone : state.origin = none) :
      Change host state { command := .generationOrigin command, position }
        { state with generation := 0, origin := some position } []
  | prepareRefused (command : PrepareCommand) (position : Position)
      (refusal : Refusal)
      (hidentity : identityRefusalOf command.identity state.partitionId = none)
      (habsent : state.rows.lookup command.identity.key = none)
      (hcause : refusal.cause.ofPrepare = true) :
      Change host state { command := .prepare command, position }
        (state.withRow command.identity.key
          (preparedRowOf command position .refused (some refusal))) []
  | prepared (command : PrepareCommand) (position : Position)
      (hprepares : Prepares host state command) :
      Change host state { command := .prepare command, position }
        (state.withRow command.identity.key (preparedRowOf command position .prepared none)) []
  | tombstone (command : DecisionCommand) (position : Position)
      (hbound : BoundDecision state command)
      (habsent : state.rows.lookup command.identity.key = none)
      (hrollback : command.decision = .rollback) :
      Change host state { command := .decision command, position }
        (state.withRow command.identity.key (tombstoneOf command position)) []
  | rolledBack (command : DecisionCommand) (position : Position)
      (row : ParticipantRow) (hdecides : DecidesPrepared state command row)
      (hrollback : command.decision = .rollback) :
      Change host state { command := .decision command, position }
        (state.withRow command.identity.key
          (row.decided (decidedOf command position .rolledBack none))) []
  | commitRefused (command : DecisionCommand) (position : Position)
      (row : ParticipantRow) (refusal : Refusal)
      (hdecides : DecidesPrepared state command row)
      (hcommit : command.decision = .commit)
      (hobstacle : CommitObstacle host state command position row) :
      Change host state { command := .decision command, position }
        (state.withRow command.identity.key
          (row.decided (decidedOf command position .refused (some refusal))))
        []
  | committed (command : DecisionCommand) (position : Position)
      (row : ParticipantRow) (operations : List Operation)
      (run : OperationsRun platform)
      (hdecides : DecidesPrepared state command row)
      (hcommit : command.decision = .commit)
      (hrun : CommitRun host state command position row operations run) :
      Change host state { command := .decision command, position }
        (state.afterCommit command.identity.key
          (row.decided (decidedOf command position .committed none))
          operations run)
        [.operations command.identity.key operations]

variable {host : platform.Host} {state : PartitionState platform} {committed : Committed}

theorem Change.partitionId (hchange : Change host state committed next executions) :
    next.partitionId = state.partitionId := by
  cases hchange <;> rfl

variable {refusal : Refusal}

theorem deterministicRefusalOf_ok (h : deterministicRefusalOf error causes = .ok refusal) :
    isDeterministicStatementFailure error = true ∧
      (refusal.cause = causes.statement ∨ refusal.cause = causes.ceiling) := by
  unfold deterministicRefusalOf at h
  split at h
  next hcode =>
    cases h
    refine ⟨by simp [isDeterministicStatementFailure, hcode], ?_⟩
    dsimp only
    split <;> simp
  · split at h
    next hdeterministic =>
      cases h
      exact ⟨hdeterministic, .inl rfl⟩
    · cases h

variable {table : platform.Table} {text : OperationsText}

theorem dryRunCarriedOperations_cause
    (h : dryRunCarriedOperations host table text = .ok (some refusal)) :
    refusal.cause.ofPrepare = true := by
  unfold dryRunCarriedOperations at h
  split at h
  · cases h
    rfl
  split at h
  · cases h
  obtain ⟨found, hfound, hsome⟩ := Result.ok_of_map h
  cases hsome
  obtain ⟨-, hcause | hcause⟩ := deterministicRefusalOf_ok hfound <;>
    rw [hcause] <;> rfl

theorem dryRunCarriedOperations_passed (h : dryRunCarriedOperations host table text = .ok none) :
    ∃ operations ran, operationsOf text = some operations ∧
      runCarriedOperations host table operations = .ok ran := by
  unfold dryRunCarriedOperations at h
  split at h
  · cases h
  next operations hoperations =>
  split at h
  next ran hran => exact ⟨operations, ran, hoperations, hran⟩
  · obtain ⟨found, -, hnone⟩ := Result.ok_of_map h
    cases hnone

variable {position : Position} {applied : Applied platform}

theorem refusePrepare_change (h : refusePrepare state command position refusal = .ok applied)
    (hidentity : identityRefusalOf command.identity state.partitionId = none)
    (hcause : refusal.cause.ofPrepare = true) :
    Change host state { command := .prepare command, position } applied.state
      applied.executions := by
  unfold refusePrepare at h
  obtain ⟨rows, hrows, hrest⟩ := Result.ok_of_bind h
  obtain ⟨habsent, rfl⟩ := insertParticipantTransactionRow_ok hrows
  cases hrest
  exact .prepareRefused command position refusal hidentity habsent hcause

theorem applyParticipantPrepare_change
    (h : applyParticipantPrepare host state command position = .ok applied) :
    Change host state { command := .prepare command, position } applied.state
      applied.executions := by
  unfold applyParticipantPrepare at h
  split at h
  · cases h
    exact .unchanged _
  next hidentity =>
  split at h
  · cases h
    simp only [prepareOverRow]
    split_ifs <;> exact .unchanged _
  next habsent =>
  split_ifs at h with hdigest horigin hreserved hevidence
  · exact refusePrepare_change h hidentity rfl
  · exact refusePrepare_change h hidentity rfl
  · cases h
    exact .unchanged _
  · exact refusePrepare_change h hidentity rfl
  obtain ⟨dryRun, hdryRun, hrest⟩ := Result.ok_of_bind h
  cases dryRun with
  | some refusal =>
    refine refusePrepare_change hrest hidentity ?_
    exact dryRunCarriedOperations_cause hdryRun
  | none =>
    obtain ⟨rows, hrows, hdone⟩ := Result.ok_of_bind hrest
    obtain ⟨-, rfl⟩ := insertParticipantTransactionRow_ok hrows
    cases hdone
    refine .prepared command position ?_
    exact {
      identity := hidentity
      absent := habsent
      digest := not_not.mp hdigest
      unreserved := by simpa using hreserved
      evidence := not_not.mp hevidence
      dryRun := dryRunCarriedOperations_passed hdryRun
    }

variable {command : DecisionCommand} {row : ParticipantRow}

theorem refuseCommit_change (h : refuseCommit state command position refusal = .ok applied)
    (hdecides : DecidesPrepared state command row) (hcommit : command.decision = .commit)
    (hobstacle : CommitObstacle host state command position row) :
    Change host state { command := .decision command, position } applied.state
      applied.executions := by
  unfold refuseCommit at h
  obtain ⟨rows, hrows, hrest⟩ := Result.ok_of_bind h
  obtain ⟨found, hfound, -, rfl⟩ := updateParticipantTransactionDecided_ok hrows
  rw [hdecides.lookup] at hfound
  cases hfound
  cases hrest
  exact .commitRefused command position row refusal hdecides hcommit hobstacle

theorem commitPrepared_change (h : commitPrepared host state command position row = .ok applied)
    (hdecides : DecidesPrepared state command row) (hcommit : command.decision = .commit) :
    Change host state { command := .decision command, position } applied.state
      applied.executions := by
  unfold commitPrepared at h
  split at h
  next hmoved => exact refuseCommit_change h hdecides hcommit (.baseMoved hmoved)
  next hevidence =>
  split at h
  next hnone => exact refuseCommit_change h hdecides hcommit (.unreadable hnone)
  next operations hoperations =>
  split at h
  next error hrun =>
    obtain ⟨refusal, hrefusal, hrest⟩ := Result.ok_of_bind h
    exact refuseCommit_change hrest hdecides hcommit
      (.failed operations error hoperations hrun (deterministicRefusalOf_ok hrefusal).1)
  next run hrun =>
  obtain ⟨rows, hrows, hrest⟩ := Result.ok_of_bind h
  obtain ⟨found, hfound, -, rfl⟩ := updateParticipantTransactionDecided_ok hrows
  rw [hdecides.lookup] at hfound
  cases hfound
  cases hrest
  exact .committed command position row operations run hdecides hcommit
    ⟨not_not.mp hevidence, hoperations, hrun⟩

theorem decideOverPrepared_change
    (h : decideOverPrepared host state command position row = .ok applied)
    (hbound : BoundDecision state command)
    (hlookup : state.rows.lookup command.identity.key = some row)
    (hprepared : row.state = .prepared) (hmode : row.commitMode = command.identity.commitMode)
    (hepoch : row.transactionEpoch = command.identity.transactionEpoch) :
    Change host state { command := .decision command, position } applied.state
      applied.executions := by
  unfold decideOverPrepared at h
  split at h
  · cases h
    exact .unchanged _
  next hdigest =>
  have hdecides : DecidesPrepared state command row := {
    toBoundDecision := hbound
    lookup := hlookup
    prepared := hprepared
    mode := hmode
    epoch := hepoch
    digest := by simpa using hdigest
  }
  split at h
  next hcommit => exact commitPrepared_change h hdecides hcommit
  next hcommit =>
  obtain ⟨rows, hrows, hrest⟩ := Result.ok_of_bind h
  obtain ⟨found, hfound, -, rfl⟩ := updateParticipantTransactionDecided_ok hrows
  rw [hlookup] at hfound
  cases hfound
  cases hrest
  refine .rolledBack command position row hdecides ?_
  cases hdecision : command.decision with
  | commit => exact absurd hdecision hcommit
  | rollback => rfl

theorem decideAbsent_change (h : decideAbsent state command position = .ok applied)
    (hbound : BoundDecision state command) :
    Change host state { command := .decision command, position } applied.state
      applied.executions := by
  unfold decideAbsent at h
  split at h
  · cases h
    exact .unchanged _
  next hcommit =>
  obtain ⟨rows, hrows, hrest⟩ := Result.ok_of_bind h
  obtain ⟨habsent, rfl⟩ := insertParticipantTransactionRow_ok hrows
  cases hrest
  refine .tombstone command position hbound habsent ?_
  cases hdecision : command.decision with
  | commit => exact absurd hdecision hcommit
  | rollback => rfl

theorem applyParticipantDecision_change
    (h : applyParticipantDecision host state command position = .ok applied) :
    Change host state { command := .decision command, position } applied.state
      applied.executions := by
  unfold applyParticipantDecision at h
  split at h
  · cases h
    exact .unchanged _
  next hrefusal =>
  obtain ⟨hidentity, hbinding⟩ := Option.or_eq_none_iff.mp hrefusal
  have hbound : BoundDecision state command := ⟨hidentity, hbinding⟩
  split at h
  · exact decideAbsent_change h hbound
  next row hlookup =>
  split at h
  · cases h
    exact .unchanged _
  next hsame =>
  obtain ⟨hmode, hepoch⟩ := not_or.mp hsame
  unfold decisionOverState at h
  split at h
  next hprepared =>
    exact decideOverPrepared_change h hbound hlookup hprepared
      (not_not.mp hmode) (not_not.mp hepoch)
  · cases h
    simp only [decideOverTerminal]
    split_ifs <;> exact .unchanged _
  · cases h
    simp only [decideOverTerminal]
    split_ifs <;> exact .unchanged _
  · cases h
    simp only [decideOverRefused]
    split_ifs <;> exact .unchanged _

theorem applyCommittedStatement_change {command : SqlCommand}
    (h : applyCommittedStatement host state command position = .ok applied) :
    Change host state { command := .sql command, position } applied.state
      applied.executions := by
  simp only [applyCommittedStatement] at h
  split at h
  · cases h
    exact .unchanged _
  next hfresh =>
  split at h
  · cases h
    exact .unchanged _
  next hreserved =>
  split at h
  · unfold settleFailedCommittedStatement at h
    split at h
    · cases h
      exact .statementFailed command position _ hfresh
    · cases h
  next table info hrun =>
    cases h
    exact .statement command position table info hfresh (by simpa using hreserved) hrun

theorem applyCommittedEntry_change (h : applyCommittedEntry host state committed = .ok applied) :
    Change host state committed applied.state applied.executions := by
  obtain ⟨command, position⟩ := committed
  cases command with
  | unrecognised type => cases h
  | prepare command => exact applyParticipantPrepare_change h
  | decision command => exact applyParticipantDecision_change h
  | generationOrigin command =>
    cases h
    unfold applyGenerationOrigin
    split
    · exact .unchanged _
    split
    · exact .unchanged _
    next hnone => exact .origin command position hnone
  | sql command =>
    simp only [applyCommittedEntry] at h
    split at h
    · cases h
    split at h
    · cases h
      exact .unchanged _
    · exact applyCommittedStatement_change h

end LagrangeDb.Participant
