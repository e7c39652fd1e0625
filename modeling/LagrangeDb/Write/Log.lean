import LagrangeDb.Participant.Change
import LagrangeDb.Participant.Uniform
import LagrangeDb.Write.System

namespace LagrangeDb.Write

open Data Participant

/-! The log and the states it leads to.  Every replica that has applied as many
entries is in the same one. -/

section

variable {platform : Platform}

def recordOf (state : PartitionState platform) (entryId : String) : Option OutcomeRow :=
  state.outcomes.lookup (committedStatementEntryKey entryId)

theorem entryKey_injective
    (same : committedStatementEntryKey first = committedStatementEntryKey second) :
    first = second :=
  (String.append_right_inj _).mp same

inductive StatementLogged (state : PartitionState platform)
    (command : SqlCommand) : Logged platform → Prop where
  | recordedOnly (empty : isNonEmptyString command.sql = false) :
      StatementLogged state command { state, answer := .partition none }
  | settled (recorded : OutcomeRow)
      (known : recordOf state command.entryId = some recorded) :
      StatementLogged state command
        { state, answer := .partition (some (.statementSettled recorded)) }
  | reserved (fresh : recordOf state command.entryId = none) :
      StatementLogged state command { state, answer := .partition (some .statementReserved) }
  | capacity (fresh : recordOf state command.entryId = none) :
      StatementLogged state command { state, answer := .capacity }
  | failed (fresh : recordOf state command.entryId = none) (row : OutcomeRow)
      (isFailed : row.outcome = .statementFailed) (code message : String) :
      StatementLogged state command
        { state := { state with
            outcomes := state.outcomes.insert (committedStatementEntryKey command.entryId) row }
          answer := .partition (some (.statementFailed code message)) }
  | applied (fresh : recordOf state command.entryId = none)
      (next : PartitionState platform) (row : OutcomeRow) (info : StatementInfo)
      (isApplied : row.outcome = .applied)
      (outcomes : next.outcomes = state.outcomes.insert
        (committedStatementEntryKey command.entryId) row) :
      StatementLogged state command
        { state := next
          answer := .partition (some (.statementApplied info))
          executions := [.statement command.entryId] }

variable {host : platform.Host} {state : PartitionState platform}

theorem applyCommittedStatement_logged {applied : Applied platform}
    (ok : applyCommittedStatement host state command position = .ok applied) :
    StatementLogged state command {
        state := applied.state
        answer := .partition applied.answer
        executions := applied.executions } := by
  unfold applyCommittedStatement at ok
  dsimp only at ok
  split at ok
  next recorded known =>
    cases ok
    exact .settled recorded known
  next fresh =>
  split at ok
  · cases ok
    exact .reserved fresh
  split at ok
  · unfold settleFailedCommittedStatement at ok
    split at ok
    · cases ok
      exact .failed fresh _ rfl _ _
    · cases ok
  · cases ok
    exact .applied fresh _ _ _ rfl rfl

variable {entry : Entry} {logged : Logged platform}

theorem applyLogged_statement (isSql : entry.sqlCommand = some command)
    (ok : applyLogged host state entry = .ok logged) : StatementLogged state command logged := by
  obtain ⟨⟨committed, position⟩, copy, crowded⟩ := entry
  cases committed with
  | sql command =>
    cases isSql
    unfold applyLogged at ok
    split at ok
    next refuses =>
      cases ok
      simp only [refusesCapacity, Bool.and_eq_true, Option.isNone_iff_eq_none]
        at refuses
      exact .capacity refuses.2
    obtain ⟨applied, isApplied, rfl⟩ := Result.ok_of_map ok
    unfold applyCommittedEntry at isApplied
    dsimp only at isApplied
    split at isApplied
    · cases isApplied
    split at isApplied
    next empty =>
      cases isApplied
      exact .recordedOnly (by simpa using empty)
    · exact applyCommittedStatement_logged isApplied
  | prepare => cases isSql
  | decision => cases isSql
  | generationOrigin => cases isSql
  | unrecognised => cases isSql

theorem runCommittedOperations_record (operations : List Operation) (ordinal : Nat)
    (table : platform.Table) (outcomes : OutcomeTable) (entryId : String)
    (ran : runCommittedOperations host participantId position ordinal table
      outcomes operations = .ok run) : run.outcomes.lookup (committedStatementEntryKey entryId) =
      outcomes.lookup (committedStatementEntryKey entryId) := by
  induction operations generalizing ordinal table outcomes run with
  | nil =>
    cases ran
    rfl
  | cons operation rest induction =>
    rw [runCommittedOperations_cons] at ran
    obtain ⟨result, _, ran⟩ := Result.ok_of_bind ran
    dsimp only at ran
    split at ran
    · cases ran
    obtain ⟨inner, isInner, rfl⟩ := Result.ok_of_map ran
    rw [induction _ _ _ isInner]
    exact AList.lookup_insert_ne (operationOutcomeKeyOf_ne_entryKey _ _ _).symm

theorem change_other (change : Change host state committed next executions)
    (other : ∀ command, committed.command ≠ .sql command) (entryId : String) :
    recordOf next entryId = recordOf state entryId ∧ Execution.statement entryId ∉ executions := by
  cases change with
  | unchanged => exact ⟨rfl, List.not_mem_nil⟩
  | statementFailed command => exact absurd rfl (other command)
  | statement command => exact absurd rfl (other command)
  | committed command position row operations run _ _ ran =>
    refine ⟨runCommittedOperations_record operations 0 _ _ entryId ran.run_eq, ?_⟩
    simp
  | _ => exact ⟨rfl, List.not_mem_nil⟩

theorem sqlCommand_eq_none (none : entry.sqlCommand = none)
    (command : SqlCommand) : entry.committed.command ≠ .sql command := by
  intro isSql
  simp [Entry.sqlCommand, isSql] at none

theorem applyLogged_other (none : entry.sqlCommand = none)
    (ok : applyLogged host state entry = .ok logged) :
    (∀ entryId, recordOf logged.state entryId = recordOf state entryId) ∧
      logged.hasEffect = false := by
  have other := sqlCommand_eq_none none
  unfold applyLogged at ok
  split at ok
  · cases ok
    exact ⟨fun _ => rfl, rfl⟩
  obtain ⟨applied, isApplied, rfl⟩ := Result.ok_of_map ok
  have change := applyCommittedEntry_change isApplied
  refine ⟨fun entryId => (change_other change other entryId).1, ?_⟩
  rw [Logged.hasEffect, List.any_eq_false]
  intro execution member
  cases execution with
  | statement entryId => exact absurd member (change_other change other entryId).2
  | operations => exact Bool.false_ne_true

theorem applyLogged_keeps (ok : applyLogged host state entry = .ok logged)
    (known : recordOf state entryId = some row) : recordOf logged.state entryId = some row := by
  cases isSql : entry.sqlCommand with
  | none => rw [(applyLogged_other isSql ok).1 entryId, known]
  | some command =>
    have inserted : ∀ other, recordOf state command.entryId = none →
        (state.outcomes.insert (committedStatementEntryKey command.entryId)
          other).lookup (committedStatementEntryKey entryId) = some row := by
      intro other fresh
      have different : entryId ≠ command.entryId := by
        rintro rfl
        rw [known] at fresh
        cases fresh
      rw [AList.lookup_insert_ne fun same => different (entryKey_injective same)]
      exact known
    cases applyLogged_statement isSql ok with
    | recordedOnly => exact known
    | settled => exact known
    | reserved => exact known
    | capacity => exact known
    | failed fresh other => exact inserted other fresh
    | applied fresh next other _ _ outcomes =>
      rw [recordOf, outcomes]
      exact inserted other fresh

theorem applyLogged_effect (ok : applyLogged host state entry = .ok logged)
    (effect : logged.hasEffect = true) : ∃ command row, entry.sqlCommand = some command ∧
      recordOf state command.entryId = none ∧ recordOf logged.state command.entryId = some row ∧
      row.outcome = .applied := by
  cases isSql : entry.sqlCommand with
  | none => rw [(applyLogged_other isSql ok).2] at effect; cases effect
  | some command =>
    cases applyLogged_statement isSql ok with
    | applied fresh next row _ isApplied outcomes =>
      refine ⟨command, row, rfl, fresh, ?_, isApplied⟩
      rw [recordOf, outcomes, AList.lookup_insert]
    | _ => cases effect

theorem applyLogged_record (ok : applyLogged host state entry = .ok logged)
    (known : recordOf logged.state entryId = some row)
    (isApplied : row.outcome = .applied) : recordOf state entryId = some row ∨
      logged.hasEffect = true ∧
        ∃ command, entry.sqlCommand = some command ∧ command.entryId = entryId := by
  cases isSql : entry.sqlCommand with
  | none =>
    rw [(applyLogged_other isSql ok).1 entryId] at known
    exact .inl known
  | some command =>
    cases applyLogged_statement isSql ok with
    | recordedOnly => exact .inl known
    | settled => exact .inl known
    | reserved => exact .inl known
    | capacity => exact .inl known
    | failed fresh other isFailed =>
      by_cases same : entryId = command.entryId
      · subst same
        rw [recordOf, AList.lookup_insert] at known
        cases known
        rw [isFailed] at isApplied
        cases isApplied
      · rw [recordOf, AList.lookup_insert_ne fun equal => same (entryKey_injective equal)] at known
        exact .inl known
    | applied fresh next other _ _ outcomes =>
      by_cases same : entryId = command.entryId
      · exact .inr ⟨rfl, command, rfl, same.symm⟩
      rw [recordOf, outcomes, AList.lookup_insert_ne
        fun equal => same (entryKey_injective equal)] at known
      exact .inl known

inductive Reaches (start : PartitionState platform) (log : List Entry) :
    Nat → PartitionState platform → Prop where
  | start : Reaches start log 0 start
  | applied {index : Nat} {state : PartitionState platform} {entry : Entry}
      {logged : Logged platform} (host : platform.Host) :
      Reaches start log index state → log[index]? = some entry →
      applyLogged host state entry = .ok logged →
      Reaches start log (index + 1) logged.state

variable {start : PartitionState platform}

theorem applyLogged_agree (uniform : platform.Uniform)
    (first second : platform.Host) (state : PartitionState platform) (entry : Entry) :
    Agree (applyLogged first state entry) (applyLogged second state entry) := by
  unfold applyLogged
  split
  · exact .refl _
  · exact (applyCommittedEntry_agree first second uniform state _).map _

theorem Reaches.unique (uniform : platform.Uniform) (reaches : Reaches start log index state)
    (reaches' : Reaches start log index state') : state = state' := by
  induction reaches generalizing state' with
  | start =>
    cases reaches'
    rfl
  | applied host _ isEntry ok induction =>
    cases reaches' with
    | applied host' reaches' isEntry' ok' =>
      obtain rfl := induction reaches'
      rw [isEntry] at isEntry'
      cases isEntry'
      rw [applyLogged_agree uniform host host' _ _ _ _ ok ok']

theorem Reaches.append (reaches : Reaches start log index state)
    (later : List Entry) : Reaches start (log ++ later) index state := by
  induction reaches with
  | start => exact .start
  | applied host _ isEntry ok induction =>
    refine .applied host induction ?_ ok
    rw [List.getElem?_append_left (List.getElem?_eq_some_iff.mp isEntry).1]
    exact isEntry

theorem Reaches.keeps (uniform : platform.Uniform) (reaches : Reaches start log index state)
    (reaches' : Reaches start log later next) (le : index ≤ later)
    (known : recordOf state entryId = some row) : recordOf next entryId = some row := by
  induction reaches' with
  | start =>
    obtain rfl := Nat.le_zero.mp le
    cases reaches
    exact known
  | applied host before isEntry ok induction =>
    rcases Nat.lt_or_eq_of_le le with lt | rfl
    · exact applyLogged_keeps ok (induction (Nat.lt_succ_iff.mp lt))
    · obtain rfl := reaches.unique uniform (.applied host before isEntry ok)
      exact known

end

end LagrangeDb.Write
