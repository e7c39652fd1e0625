import LagrangeDb.Participant.Reservation

namespace LagrangeDb.Participant

open Data

/-! Where a participant row comes from, and what an answer tells about it. -/

variable {platform : Platform}

inductive Arrival (state : PartitionState platform) (key : RowKey)
    (row : ParticipantRow) : Command → Prop where
  | prepare (command : PrepareCommand) (hkey : command.identity.key = key)
      (habsent : state.rows.lookup key = none)
      (hstate : row.state = .prepared ∨ row.state = .refused) :
      Arrival state key row (.prepare command)
  | decision (command : DecisionCommand) (hkey : command.identity.key = key)
      (hstate : (row.state = .committed ∧ command.decision = .commit) ∨
        (row.state = .rolledBack ∧ command.decision = .rollback)) :
      Arrival state key row (.decision command)
  | failed (command : DecisionCommand) (hkey : command.identity.key = key)
      (hstate : row.state = .refused) (hdecision : row.decision.isSome = true) :
      Arrival state key row (.decision command)

def ParticipantRow.refusesPrepare (row : ParticipantRow) : Bool :=
  row.state = .refused && row.decision.isNone

variable {state : PartitionState platform} {key : RowKey} {row : ParticipantRow}

theorem arrival_of_insert (hlookup : (state.rows.insert other placed).lookup key = some row)
    (harrival : Arrival state other placed command) :
    state.rows.lookup key = some row ∨ Arrival state key row command := by
  rw [Keyed.lookup_insert] at hlookup
  split at hlookup
  next heq =>
    subst heq
    cases hlookup
    exact .inr harrival
  · exact .inl hlookup

variable {host : platform.Host} {next : PartitionState platform} {executions : List Execution}
  {committed : Committed}

theorem Change.arrival (hdet : platform.Deterministic) (hreserved : Reserved state)
    (hchange : Change host state committed next executions)
    (hlookup : next.rows.lookup key = some row) : state.rows.lookup key = some row ∨
      Arrival state key row committed.command := by
  cases hchange with
  | unchanged => exact .inl hlookup
  | statementFailed => exact .inl hlookup
  | statement => exact .inl hlookup
  | origin => exact .inl hlookup
  | prepareRefused command position refusal hidentity habsent hcause =>
    exact arrival_of_insert hlookup (.prepare command rfl habsent (.inr rfl))
  | prepared command position hprepares =>
    exact arrival_of_insert hlookup (.prepare command rfl hprepares.absent (.inl rfl))
  | tombstone command position hbound habsent hrollback =>
    exact arrival_of_insert hlookup (.decision command rfl (.inr ⟨rfl, hrollback⟩))
  | rolledBack command position found hdecides hrollback =>
    exact arrival_of_insert hlookup (.decision command rfl (.inr ⟨rfl, hrollback⟩))
  | commitRefused command position found refusal hdecides hcommit hobstacle =>
    exact absurd hobstacle (hreserved.no_obstacle hdet hdecides.lookup hdecides.prepared)
  | committed command position found operations run hdecides hcommit hrun =>
    exact arrival_of_insert hlookup (.decision command rfl (.inl ⟨rfl, hcommit⟩))

/-- Where the rows of a partition come from when it applies a command. -/
structure Turn (state next : PartitionState platform) (command : Command) : Prop where
  partitionId : next.partitionId = state.partitionId
  reserved : Reserved next
  kept : ∀ key row, state.rows.lookup key = some row → (next.rows.lookup key).isSome = true
  arrival : ∀ key row, next.rows.lookup key = some row →
    state.rows.lookup key = some row ∨ Arrival state key row command

theorem isSome_lookup_insert {rows : ParticipantTable} (placed : ParticipantRow)
    (hlookup : rows.lookup key = some row) :
    ((rows.insert other placed).lookup key).isSome = true := by
  rw [Keyed.lookup_insert]
  split
  · rfl
  · rw [hlookup]
    rfl

theorem Change.turn (hdet : platform.Deterministic) (hreserved : Reserved state)
    (hchange : Change host state committed next executions) :
    Turn state next committed.command where
  partitionId := hchange.partitionId
  reserved := hreserved.change hdet hchange
  kept key row hlookup := by
    cases hchange <;> first
      | exact isSome_lookup_insert _ hlookup
      | exact Option.isSome_of_eq_some hlookup
  arrival _ _ hlookup := hchange.arrival hdet hreserved hlookup

theorem DecidesPrepared.refused_turn {command : DecisionCommand} (hreserved : Reserved state)
    (hdecides : DecidesPrepared state command row) (position : Position) (refusal : Refusal) :
    Turn state (state.withRow command.identity.key
      (row.decided (decidedOf command position .refused (some refusal)))) (.decision command) where
  partitionId := rfl
  reserved := hreserved.decided hdecides (by simp [ParticipantRow.decided, decidedOf])
    (by simp [ParticipantRow.decided, decidedOf])
  kept _ _ hlookup := isSome_lookup_insert _ hlookup
  arrival _ _ hlookup := arrival_of_insert hlookup (.failed command rfl rfl rfl)

theorem Turn.unrefused {command : Command} (h : Turn state next command)
    (hlookup : state.rows.lookup key = some row) (hstate : row.refusesPrepare = false) :
    ∃ found, next.rows.lookup key = some found ∧ found.refusesPrepare = false := by
  obtain ⟨found, hfound⟩ := Option.isSome_iff_exists.mp (h.kept key row hlookup)
  refine ⟨found, hfound, ?_⟩
  obtain hold | harrival := h.arrival key found hfound
  · rw [hlookup] at hold
    cases hold
    exact hstate
  cases harrival with
  | prepare command hkey habsent hplaced =>
    rw [hlookup] at habsent
    cases habsent
  | decision command hkey hplaced =>
    obtain ⟨hplaced, -⟩ | ⟨hplaced, -⟩ := hplaced <;>
      simp [ParticipantRow.refusesPrepare, hplaced]
  | failed command hkey hplaced hdecision =>
    simp [ParticipantRow.refusesPrepare, Option.isNone_eq_false_iff.mpr hdecision]

def Applied.answersRow (applied : Applied platform) (key : RowKey) : Prop :=
  ∀ answer outcome, applied.answer = some (.participant answer) →
    answer.success = true → answer.outcome = some outcome →
    outcome = participantOutcomeOf (applied.state.rows.lookup key)

theorem consumedRefusal_answersRow (state : PartitionState platform)
    (code : FailureCode) (outcome : Option ParticipantOutcome) (key : RowKey) :
    (consumedRefusal state code outcome).answersRow key := by
  intro answer found hanswer hsuccess
  cases hanswer
  cases hsuccess

variable {command : PrepareCommand}
  {position : Position}

theorem refusePrepare_answersRow (h : refusePrepare state command position refusal = .ok applied)
    (key : RowKey) : applied.answersRow key := by
  unfold refusePrepare at h
  obtain ⟨rows, -, hrest⟩ := Result.ok_of_bind h
  cases hrest
  intro answer found hanswer hsuccess
  cases hanswer
  cases hsuccess

theorem applyParticipantPrepare_answersRow
    (h : applyParticipantPrepare host state command position = .ok applied) :
    applied.answersRow command.identity.key := by
  unfold applyParticipantPrepare at h
  split at h
  · cases h
    exact consumedRefusal_answersRow _ _ _ _
  split at h
  next row hlookup =>
    cases h
    simp only [prepareOverRow]
    split_ifs
    · exact consumedRefusal_answersRow _ _ _ _
    · exact consumedRefusal_answersRow _ _ _ _
    · exact consumedRefusal_answersRow _ _ _ _
    intro answer found hanswer _ hfound
    cases hanswer
    cases hfound
    exact congrArg participantOutcomeOf hlookup.symm
  split_ifs at h
  · exact refusePrepare_answersRow h _
  · exact refusePrepare_answersRow h _
  · cases h
    intro answer found hanswer hsuccess
    cases hanswer
    cases hsuccess
  · exact refusePrepare_answersRow h _
  obtain ⟨dryRun, -, hrest⟩ := Result.ok_of_bind h
  cases dryRun with
  | some refusal => exact refusePrepare_answersRow hrest _
  | none =>
    obtain ⟨rows, -, hdone⟩ := Result.ok_of_bind hrest
    cases hdone
    intro answer found hanswer _ hfound
    cases hanswer
    cases hfound
    rfl

end LagrangeDb.Participant
