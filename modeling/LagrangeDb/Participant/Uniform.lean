import LagrangeDb.Data.Agree
import LagrangeDb.Participant.Apply

namespace LagrangeDb.Participant

open Data

/-! Two hosts on one partition state.  Where neither fails for reasons of its
own, both leave the same state and give the same answer. -/

structure StatementError.Alike (first second : StatementError) : Prop where
  code : first.code = second.code
  name : first.name = second.name
  message : first.message = second.message
  refusalLayer : first.refusalLayer = second.refusalLayer

/-- What two hosts make of one statement: the same result or failure, unless one
of them fails for reasons of its own. -/
inductive Consistent {α : Type} :
    Except StatementError α → Except StatementError α → Prop where
  | ok (result : α) : Consistent (.ok result) (.ok result)
  | failed (first second : StatementError) : first.Alike second →
      Consistent (.error first) (.error second)
  | hostFirst (error : StatementError) (second : Except StatementError α) :
      isDeterministicStatementFailure error = false →
      Consistent (.error error) second
  | hostSecond (first : Except StatementError α) (error : StatementError) :
      isDeterministicStatementFailure error = false →
      Consistent first (.error error)

/-- The database runs a statement alike on every host. -/
def Platform.Uniform (platform : Platform) : Prop :=
  ∀ first second table statement,
    Consistent (platform.runCommittedPartitionStatement first table statement)
      (platform.runCommittedPartitionStatement second table statement)

theorem StatementError.Alike.refl (error : StatementError) : error.Alike error := ⟨rfl, rfl, rfl, rfl⟩

namespace Consistent

variable {α β : Type}

theorem refl (result : Except StatementError α) : Consistent result result := by
  cases result with
  | ok value => exact .ok value
  | error error => exact .failed error error (.refl error)

theorem bind {rest rest' : α → Except StatementError β} (same : Consistent first second)
    (after : ∀ value, Consistent (rest value) (rest' value)) :
    Consistent (first >>= rest) (second >>= rest') := by
  cases same with
  | ok value => exact after value
  | failed error error' alike => exact .failed error error' alike
  | hostFirst error _ own => exact .hostFirst error _ own
  | hostSecond _ error own => exact .hostSecond _ error own

theorem map (f : α → β) (same : Consistent first second) :
    Consistent (f <$> first) (f <$> second) := by
  rw [← bind_pure_comp, ← bind_pure_comp]
  exact same.bind fun _ => .refl _

theorem agree (same : Consistent first second) : Agree first second := by
  cases same with
  | ok value => exact .refl _
  | failed error _ _ => exact .of_error_left _ _
  | hostFirst error _ _ => exact .of_error_left _ _
  | hostSecond _ error _ => exact .of_error_right _ _

end Consistent

variable {platform : Platform} (first second : platform.Host)

theorem deterministicRefusalOf_agree (causes : RefusalCauses)
    (alike : error.Alike error') : Agree (deterministicRefusalOf error causes)
      (deterministicRefusalOf error' causes) := by
  unfold deterministicRefusalOf
  rw [alike.code, alike.name, alike.message, alike.refusalLayer]
  split
  · exact .refl _
  split
  · split
    · exact .refl _
    · exact .of_error_right _ _
  · exact .of_error_left _ _

theorem deterministicRefusalOf_own (causes : RefusalCauses)
    (own : isDeterministicStatementFailure error = false) : deterministicRefusalOf error causes =
      .error (.statementEnvironmentFailed error) := by
  have other : error.code ≠ some statementRefusalCode := by
    intro same
    simp [isDeterministicStatementFailure, same] at own
  simp [deterministicRefusalOf, other, own]

theorem runCarriedOperations_cons (host : platform.Host) (table : platform.Table)
    (operation : Operation) (rest : List Operation) :
    runCarriedOperations host table (operation :: rest) =
      (platform.runCommittedPartitionStatement host table
        (carriedStatement operation) >>= fun result =>
          runCarriedOperations host result.1 rest) := by
  rw [runCarriedOperations]
  cases platform.runCommittedPartitionStatement host table (carriedStatement operation) <;> rfl

theorem runCarriedOperations_consistent (uniform : platform.Uniform)
    (operations : List Operation) (table : platform.Table) :
    Consistent (runCarriedOperations first table operations)
      (runCarriedOperations second table operations) := by
  induction operations generalizing table with
  | nil => exact .refl _
  | cons operation rest induction =>
    rw [runCarriedOperations_cons, runCarriedOperations_cons]
    exact (uniform ..).bind fun result => induction result.1

theorem dryRunCarriedOperations_agree (uniform : platform.Uniform)
    (table : platform.Table) (text : OperationsText) :
    Agree (dryRunCarriedOperations first table text)
      (dryRunCarriedOperations second table text) := by
  unfold dryRunCarriedOperations
  split
  · exact .refl _
  next operations _ =>
  have same := runCarriedOperations_consistent first second uniform operations
    table
  generalize runCarriedOperations first table operations = left at same ⊢
  generalize runCarriedOperations second table operations = right at same ⊢
  cases same with
  | ok _ => exact .refl _
  | failed error error' alike => exact (deterministicRefusalOf_agree prepareCauses alike).map some
  | hostFirst error _ own =>
    simp only [deterministicRefusalOf_own prepareCauses own]
    exact .of_error_left _ _
  | hostSecond _ error own =>
    simp only [deterministicRefusalOf_own prepareCauses own]
    exact .of_error_right _ _

theorem applyParticipantPrepare_agree (uniform : platform.Uniform)
    (state : PartitionState platform) (command : PrepareCommand) (position : Position) :
    Agree (applyParticipantPrepare first state command position)
      (applyParticipantPrepare second state command position) := by
  unfold applyParticipantPrepare
  split
  · exact .refl _
  split
  · exact .refl _
  split
  · exact .refl _
  split
  · exact .refl _
  split
  · exact .refl _
  split
  · exact .refl _
  · exact (dryRunCarriedOperations_agree first second uniform _ _).bind fun _ => .refl _

theorem runCommittedOperations_cons (host : platform.Host) (participantId : String)
    (position : Position) (ordinal : Nat) (table : platform.Table) (outcomes : OutcomeTable)
    (operation : Operation) (rest : List Operation) :
    runCommittedOperations host participantId position ordinal table outcomes (operation :: rest) =
      (platform.runCommittedPartitionStatement host table
        (carriedStatement operation) >>= fun result =>
          let entryKey := operationOutcomeKeyOf participantId ordinal
          if entryKey ∈ outcomes then .error outcomeKeyError
          else
            (fun run => { run with results := result.2 :: run.results }) <$>
              runCommittedOperations host participantId position (ordinal + 1)
                result.1
                (outcomes.insert entryKey
                  { outcome := .applied, position, result := some result.2 })
                rest) := by
  rw [runCommittedOperations]
  cases platform.runCommittedPartitionStatement host table (carriedStatement operation) with
  | error error => rfl
  | ok result =>
    dsimp only
    split <;> rfl

theorem runCommittedOperations_consistent (uniform : platform.Uniform)
    (participantId : String) (position : Position) (operations : List Operation)
    (ordinal : Nat) (table : platform.Table) (outcomes : OutcomeTable) : Consistent
      (runCommittedOperations first participantId position ordinal table outcomes operations)
      (runCommittedOperations second participantId position ordinal table outcomes operations) := by
  induction operations generalizing ordinal table outcomes with
  | nil => exact .refl _
  | cons operation rest induction =>
    rw [runCommittedOperations_cons, runCommittedOperations_cons]
    refine (uniform ..).bind fun result => ?_
    dsimp only
    split
    · exact .refl _
    · exact (induction ..).map _

theorem commitPrepared_agree (uniform : platform.Uniform) (state : PartitionState platform)
    (command : DecisionCommand) (position : Position) (row : ParticipantRow) :
    Agree (commitPrepared first state command position row)
      (commitPrepared second state command position row) := by
  unfold commitPrepared
  split
  · exact .refl _
  split
  · exact .refl _
  next operations _ =>
  have same := runCommittedOperations_consistent first second uniform
    command.identity.participantId position operations 0 state.table
    state.outcomes
  generalize runCommittedOperations first _ _ _ _ _ _ = left at same ⊢
  generalize runCommittedOperations second _ _ _ _ _ _ = right at same ⊢
  cases same with
  | ok run => exact .refl _
  | failed error error' alike =>
    exact (deterministicRefusalOf_agree commitCauses alike).bind fun _ => .refl _
  | hostFirst error _ own =>
    simp only [deterministicRefusalOf_own commitCauses own]
    exact .of_error_left _ _
  | hostSecond _ error own =>
    simp only [deterministicRefusalOf_own commitCauses own]
    exact .of_error_right _ _

theorem decideOverPrepared_agree (uniform : platform.Uniform) (state : PartitionState platform)
    (command : DecisionCommand) (position : Position) (row : ParticipantRow) :
    Agree (decideOverPrepared first state command position row)
      (decideOverPrepared second state command position row) := by
  unfold decideOverPrepared
  split
  · exact .refl _
  split
  · exact commitPrepared_agree first second uniform state command position row
  · exact .refl _

theorem applyParticipantDecision_agree (uniform : platform.Uniform)
    (state : PartitionState platform) (command : DecisionCommand) (position : Position) :
    Agree (applyParticipantDecision first state command position)
      (applyParticipantDecision second state command position) := by
  unfold applyParticipantDecision
  split
  · exact .refl _
  split
  · exact .refl _
  next row _ =>
  split
  · exact .refl _
  unfold decisionOverState
  split
  · exact decideOverPrepared_agree first second uniform state command position row
  · exact .refl _
  · exact .refl _
  · exact .refl _

theorem settleFailedCommittedStatement_agree (state : PartitionState platform)
    (entryKey : String) (position : Position) (alike : error.Alike error') :
    Agree (settleFailedCommittedStatement state entryKey position error)
      (settleFailedCommittedStatement state entryKey position error') := by
  unfold settleFailedCommittedStatement
  rw [alike.code, alike.name, alike.message]
  split
  · split
    · exact .refl _
    · exact .of_error_right _ _
  · exact .of_error_left _ _

theorem applyCommittedStatement_agree (uniform : platform.Uniform)
    (state : PartitionState platform) (command : SqlCommand) (position : Position) :
    Agree (applyCommittedStatement first state command position)
      (applyCommittedStatement second state command position) := by
  unfold applyCommittedStatement
  dsimp only
  split
  · exact .refl _
  split
  · exact .refl _
  have same := uniform first second state.table (statementOf command)
  generalize platform.runCommittedPartitionStatement first _ _ = left
    at same ⊢
  generalize platform.runCommittedPartitionStatement second _ _ = right
    at same ⊢
  cases same with
  | ok result => exact .refl _
  | failed error error' alike => exact settleFailedCommittedStatement_agree state _ position alike
  | hostFirst error _ own =>
    simp only [settleFailedCommittedStatement, own, Bool.false_eq_true, if_false]
    exact .of_error_left _ _
  | hostSecond _ error own =>
    simp only [settleFailedCommittedStatement, own, Bool.false_eq_true, if_false]
    exact .of_error_right _ _

theorem applyCommittedEntry_agree (uniform : platform.Uniform)
    (state : PartitionState platform) (committed : Committed) :
    Agree (applyCommittedEntry first state committed)
      (applyCommittedEntry second state committed) := by
  unfold applyCommittedEntry
  split
  · exact .refl _
  · exact applyParticipantPrepare_agree first second uniform state _ _
  · exact applyParticipantDecision_agree first second uniform state _ _
  · exact .refl _
  split
  · exact .refl _
  split
  · exact .refl _
  · exact applyCommittedStatement_agree first second uniform state _ _

end LagrangeDb.Participant
