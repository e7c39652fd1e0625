import LagrangeDb.Cdc.Apply
import LagrangeDb.Participant.Change
import LagrangeDb.Participant.Uniform

namespace LagrangeDb.Cdc

open Participant Data

/-! The application of an entry that captures events refines the one that does not, but for
a COMMIT that a capture makes fail. -/

section

variable {platform : CdcPlatform} (replica : Replica) (state : ReplicaState platform)
  (host : platform.Host)

/-- No capture of an operation that ran fails in a way that a COMMIT is refused for; one that
fails with the host is left to be delivered again. -/
def capturesOperations (command : DecisionCommand) (stamp : Stamp) (position : Position) :
    Nat → platform.Table → List Participant.Operation → Bool
  | _, _, [] => true
  | ordinal, table, operation :: rest =>
    match platform.runCommittedPartitionStatement host table (carriedStatement operation) with
    | .error _ => true
    | .ok (next, info) =>
      (match captureCommittedOperationCdc replica state host command stamp position ordinal next
          operation info with
        | .error error => (deterministicRefusalOf error commitCauses).toOption.isNone
        | .ok _ => true) &&
      capturesOperations command stamp position (ordinal + 1) next rest

/-- The event of a COMMIT's operation is read before the next operation runs; that of a
plain statement does not decide whether it was applied. -/
def captures (entry : LogEntry) : Bool :=
  match entry.command with
  | .partition (.decision command) stamp _ =>
    (committing state.partition command).all fun (_, operations) =>
      capturesOperations replica state host command stamp entry.position 0
        state.partition.table operations
  | _ => true

/-- The entry did to the partition what its command does, with the same answer. -/
structure Follows (applied : AppliedEntry platform) (plain : Applied platform.toPlatform) :
    Prop where
  state : applied.state.partition = plain.state
  answer : applied.answer = .partition plain.answer

/-- The entry left the partition as it was, and did not answer for its command. -/
structure Passes (applied : AppliedEntry platform) : Prop where
  state : applied.state.partition = state.partition
  answer : ∀ answer, applied.answer ≠ .partition answer

/-- The entry is a COMMIT of a prepared row, and left it refused. -/
structure Refuses (command : DecisionCommand) (applied : AppliedEntry platform) : Prop where
  commit : command.decision = .commit
  state : ∃ row position refusal, DecidesPrepared state.partition command row ∧
    applied.state.partition = state.partition.withRow command.identity.key
      (row.decided (decidedOf command position .refused (some refusal)))

variable {replica state host}

theorem captureCommittedOperations_run {ordinal : Nat} {table : platform.Table}
    {outcomes : OutcomeTable} {operations : List Participant.Operation}
    {found : CapturedRun platform}
    (captured : captureCommittedOperations replica state host command stamp position
      ordinal table outcomes operations = .ok found) :
    runCommittedOperations host command.identity.participantId position ordinal table
      outcomes operations = .ok found.run := by
  induction operations generalizing ordinal table outcomes found with
  | nil =>
    cases captured
    rfl
  | cons operation rest induction =>
    rw [captureCommittedOperations] at captured
    obtain ⟨⟨next, info⟩, ran, captured⟩ := Result.ok_of_bind captured
    rw [runCommittedOperations_cons, ran]
    dsimp only [bind, Except.bind] at captured ⊢
    split at captured
    · cases captured
    next absent =>
    obtain ⟨capture, -, captured⟩ := Result.ok_of_bind captured
    obtain ⟨others, isOthers, captured⟩ := Result.ok_of_bind captured
    cases captured
    rw [if_neg absent, induction isOthers]
    rfl

theorem captureCommittedOperations_refused {ordinal : Nat} {table : platform.Table}
    {outcomes : OutcomeTable} {operations : List Participant.Operation}
    (captures : capturesOperations replica state host command stamp position ordinal table
      operations = true)
    (failed : captureCommittedOperations replica state host command stamp position
      ordinal table outcomes operations = .error error)
    (refuses : deterministicRefusalOf error commitCauses = .ok refusal) :
    runCommittedOperations host command.identity.participantId position ordinal table
      outcomes operations = .error error := by
  induction operations generalizing ordinal table outcomes with
  | nil => cases failed
  | cons operation rest induction =>
    rw [captureCommittedOperations] at failed
    rw [runCommittedOperations_cons]
    cases ran : platform.runCommittedPartitionStatement host table
        (carriedStatement operation) with
    | error other =>
      rw [ran] at failed
      cases failed
      rfl
    | ok result =>
      obtain ⟨next, info⟩ := result
      rw [capturesOperations, ran] at captures
      obtain ⟨nothing, later⟩ := Bool.and_eq_true_iff.mp captures
      rw [ran] at failed
      dsimp only [bind, Except.bind] at failed ⊢
      split at failed
      next present =>
        cases failed
        rw [if_pos present]
      next absent =>
      rw [if_neg absent]
      cases isCapture : captureCommittedOperationCdc replica state host command stamp position
          ordinal next operation info with
      | error other =>
        rw [isCapture] at failed nothing
        cases failed
        simp [refuses, Except.toOption] at nothing
      | ok capture =>
        rw [isCapture] at failed
        cases isRest : captureCommittedOperations replica state host command stamp position
            (ordinal + 1) next _ rest with
        | error other =>
          rw [isRest] at failed
          cases failed
          rw [induction later isRest]
          rfl
        | ok others =>
          rw [isRest] at failed
          cases failed

theorem committing_some {partition : PartitionState platform.toPlatform}
    (commits : committing partition command = some (row, operations))
    (host : platform.Host) (position : Position) :
    applyParticipantDecision host partition command position =
        commitPrepared host partition command position row ∧
      DecidesPrepared partition command row ∧ command.decision = .commit ∧
      row.validationText = partition.validationTextHereOf ∧ row.operations? = some operations := by
  unfold committing at commits
  split at commits
  · cases commits
  next bound =>
  obtain ⟨found, isFound, commits⟩ := Option.bind_eq_some_iff.mp commits
  split at commits
  next agrees =>
    obtain ⟨carried, isCarried, equal⟩ := Option.bind_eq_some_iff.mp commits
    cases equal
    simp only [Bool.and_eq_true, decide_eq_true_eq] at agrees
    obtain ⟨⟨⟨⟨⟨mode, epoch⟩, prepared⟩, digest⟩, commit⟩, base⟩ := agrees
    have unrefused : (identityRefusalOf command.identity
        partition.partitionId).or
          (decisionBindingRefusalOf platform.sha256Hex command) = none := by
      simpa using bound
    obtain ⟨identity, binding⟩ := Option.or_eq_none_iff.mp unrefused
    refine ⟨?_, { identity, binding, lookup := isFound, prepared, mode, epoch, digest }, commit,
      base, isCarried⟩
    simp [applyParticipantDecision, unrefused, isFound, mode, epoch,
      decisionOverState, prepared, decideOverPrepared, digest, commit]
  · cases commits

variable {applied : AppliedEntry platform}

theorem refuseCommit_ok {partition : PartitionState platform.toPlatform}
    {plain : Applied platform.toPlatform} {row : ParticipantRow}
    (isFound : partition.rows.lookup command.identity.key = some row)
    (ok : refuseCommit partition command position refusal = .ok plain) :
    plain.state = partition.withRow command.identity.key
      (row.decided (decidedOf command position .refused (some refusal))) := by
  obtain ⟨rows, isRows, ok⟩ := Result.ok_of_bind ok
  cases ok
  unfold updateParticipantTransactionDecided at isRows
  rw [isFound] at isRows
  dsimp only at isRows
  split at isRows <;> cases isRows
  rfl

theorem commitCaptured_follows {row : ParticipantRow} {operations : List Participant.Operation}
    (decides : DecidesPrepared state.partition command row) (commit : command.decision = .commit)
    (base : row.validationText = state.partition.validationTextHereOf)
    (carried : row.operations? = some operations)
    (ok : commitCaptured replica state host command stamp position operations = .ok applied) :
    (∃ plain, commitPrepared host state.partition command position row = .ok plain ∧
      Follows applied plain) ∨
    capturesOperations replica state host command stamp position 0 state.partition.table
      operations = false ∧ Refuses state command applied := by
  simp only [commitPrepared, base, carried, ne_eq, not_true_eq_false, if_false]
  unfold commitCaptured at ok
  cases captured : captureCommittedOperations replica state host command stamp position 0
      state.partition.table state.partition.outcomes operations with
  | error error =>
    rw [captured] at ok
    obtain ⟨refusal, isRefusal, ok⟩ := Result.ok_of_bind ok
    obtain ⟨plain, isPlain, ok⟩ := Result.ok_of_bind ok
    cases ok
    have refuses := Result.ok_of_mapError isRefusal
    have refused := Result.ok_of_mapError isPlain
    cases captures : capturesOperations replica state host command stamp position 0
        state.partition.table operations with
    | false =>
      exact .inr ⟨rfl, commit, row, position, refusal, decides, refuseCommit_ok decides.lookup refused⟩
    | true =>
      refine .inl ⟨plain, ?_, rfl, rfl⟩
      rw [captureCommittedOperations_refused captures captured refuses]
      simp only [refuses]
      exact refused
  | ok found =>
    rw [captured] at ok
    obtain ⟨rows, isRows, ok⟩ := Result.ok_of_bind ok
    obtain ⟨ledger, -, ok⟩ := Result.ok_of_bind ok
    cases ok
    left
    simp only [captureCommittedOperations_run captured, Result.ok_of_mapError isRows, bind,
      Except.bind, pure, Except.pure, Except.ok.injEq, exists_eq_left']
    exact ⟨rfl, rfl⟩

theorem applyDecision_follows
    (ok : applyDecision replica state host command stamp position = .ok applied) :
    (∃ plain, applyParticipantDecision host state.partition command position = .ok plain ∧
      Follows applied plain) ∨
    (committing state.partition command).all (fun (_, operations) =>
      capturesOperations replica state host command stamp position 0 state.partition.table
        operations) = false ∧ Refuses state command applied := by
  unfold applyDecision at ok
  split at ok
  next row operations commits =>
    obtain ⟨applies, decides, commit, base, carried⟩ := committing_some commits host position
    rw [applies, commits]
    exact commitCaptured_follows decides commit base carried ok
  · obtain ⟨plain, isPlain, rfl⟩ := Result.ok_of_map (Result.ok_of_mapError ok)
    exact .inl ⟨plain, isPlain, rfl, rfl⟩

theorem recordCommittedStatementCdc_follows {plain : Applied platform.toPlatform}
    (ok : recordCommittedStatementCdc replica state host command stamp details position plain
      info = .ok applied) : Follows applied plain := by
  unfold recordCommittedStatementCdc at ok
  dsimp only at ok
  split at ok
  · cases ok
    exact ⟨rfl, rfl⟩
  split at ok
  · cases ok
    exact ⟨rfl, rfl⟩
  obtain ⟨json, -, ok⟩ := Result.ok_of_bind ok
  split at ok
  · cases ok
    exact ⟨rfl, rfl⟩
  · obtain ⟨ledger, -, ok⟩ := Result.ok_of_bind ok
    cases ok
    exact ⟨rfl, rfl⟩

theorem settleCdcOwedRefusal_passes (refusal : CapacityRefusal) :
    Passes state (settleCdcOwedRefusal state refusal) :=
  ⟨rfl, fun _ equal => by simp [settleCdcOwedRefusal] at equal⟩

theorem refuseAcknowledgement_passes (refusal : AcknowledgementRefusal) :
    Passes state (refuseAcknowledgement state refusal) :=
  ⟨rfl, fun _ equal => by simp [refuseAcknowledgement] at equal⟩

theorem applyStatement_follows
    (ok : applyStatement replica state host command stamp details position = .ok applied) :
    Passes state applied ∨ ∃ plain,
      applyCommittedStatement host state.partition command position = .ok plain ∧
        Follows applied plain := by
  unfold applyStatement at ok
  dsimp only at ok
  split at ok
  · cases ok
    exact .inl (settleCdcOwedRefusal_passes _)
  obtain ⟨plain, isPlain, ok⟩ := Result.ok_of_bind ok
  refine .inr ⟨plain, Result.ok_of_mapError isPlain, ?_⟩
  split at ok
  · exact recordCommittedStatementCdc_follows ok
  · cases ok
    exact ⟨rfl, rfl⟩

theorem applyPrepare_follows
    (ok : applyPrepare state host command position = .ok applied) :
    Passes state applied ∨ ∃ plain,
      applyParticipantPrepare host state.partition command position = .ok plain ∧
        Follows applied plain := by
  obtain ⟨plain, isPlain, ok⟩ := Result.ok_of_bind ok
  have isPlain := Result.ok_of_mapError isPlain
  split at ok
  · split at ok
    · cases ok
      exact .inl (settleCdcOwedRefusal_passes _)
    · cases ok
      exact .inr ⟨plain, isPlain, rfl, rfl⟩
  · cases ok
    exact .inr ⟨plain, isPlain, rfl, rfl⟩

theorem applyCdcAcknowledgementCommand_passes
    (ok : applyCdcAcknowledgementCommand state command position = .ok applied) :
    Passes state applied := by
  unfold applyCdcAcknowledgementCommand at ok
  split at ok
  · cases ok
    exact refuseAcknowledgement_passes _
  split at ok
  · cases ok
    exact refuseAcknowledgement_passes _
  split at ok
  · cases ok
    exact refuseAcknowledgement_passes _
  obtain ⟨marked, -, ok⟩ := Result.ok_of_bind ok
  obtain ⟨ledger, -, ok⟩ := Result.ok_of_bind ok
  cases ok
  exact ⟨rfl, fun _ equal => by simp at equal⟩

/-- An entry leaves the partition alone, does to it what its command does, or refuses the
COMMIT it is for a capture that failed. -/
inductive EntryStep (replica : Replica) (state : ReplicaState platform) (host : platform.Host)
    (applied : AppliedEntry platform) : LogEntry → Prop where
  | passes (entry : LogEntry) (passes : Passes state applied) : EntryStep replica state host applied entry
  | follows (command : Command) (stamp : Stamp) (details : Details) (position : Position)
      (plain : Applied platform.toPlatform)
      (ok : applyCommittedEntry host state.partition ⟨command, position⟩ = .ok plain)
      (follows : Follows applied plain) :
      EntryStep replica state host applied ⟨.partition command stamp details, position⟩
  | refuses (command : DecisionCommand) (stamp : Stamp) (details : Details) (position : Position)
      (captures : captures replica state host
        ⟨.partition (.decision command) stamp details, position⟩ = false)
      (refuses : Refuses state command applied) :
      EntryStep replica state host applied ⟨.partition (.decision command) stamp details, position⟩

theorem applyEntry_step {entry : LogEntry}
    (ok : applyEntry replica state host entry = .ok applied) :
    EntryStep replica state host applied entry := by
  obtain ⟨command, position⟩ := entry
  cases command with
  | cdcDelivered command => exact .passes _ (applyCdcAcknowledgementCommand_passes ok)
  | partition command stamp details =>
    cases command with
    | prepare command =>
      obtain passes | ⟨plain, isPlain, follows⟩ := applyPrepare_follows ok
      · exact .passes _ passes
      · exact .follows _ _ _ _ plain isPlain follows
    | decision command =>
      obtain ⟨plain, isPlain, follows⟩ | ⟨captures, refuses⟩ := applyDecision_follows ok
      · exact .follows _ _ _ _ plain isPlain follows
      · exact .refuses command stamp details position captures refuses
    | sql command =>
      simp only [applyEntry] at ok
      split at ok
      next named =>
        obtain ⟨entryId, sql⟩ := Bool.and_eq_true_iff.mp named
        obtain passes | ⟨plain, isPlain, follows⟩ := applyStatement_follows ok
        · exact .passes _ passes
        refine .follows _ _ _ _ plain ?_ follows
        simpa only [applyCommittedEntry, entryId, sql, Bool.not_true, Bool.false_eq_true,
          if_false] using isPlain
      · obtain ⟨plain, isPlain, rfl⟩ := Result.ok_of_map (Result.ok_of_mapError ok)
        exact .follows _ _ _ _ plain isPlain ⟨rfl, rfl⟩
    | generationOrigin command =>
      simp only [applyEntry] at ok
      obtain ⟨plain, isPlain, rfl⟩ := Result.ok_of_map (Result.ok_of_mapError ok)
      exact .follows _ _ _ _ plain isPlain ⟨rfl, rfl⟩
    | unrecognised type =>
      simp only [applyEntry] at ok
      obtain ⟨plain, isPlain, rfl⟩ := Result.ok_of_map (Result.ok_of_mapError ok)
      exact .follows _ _ _ _ plain isPlain ⟨rfl, rfl⟩

/-- Where no events are owed, nothing is read for them. -/
theorem captures_of_unowed (owes : state.owesCdc = false) (entry : LogEntry) :
    captures replica state host entry = true := by
  unfold captures
  split
  on_goal 2 => rfl
  next command stamp _ _ =>
  have each : ∀ operations ordinal table, capturesOperations replica state host command stamp
      entry.position ordinal table operations = true := by
    intro operations
    induction operations with
    | nil => exact fun _ _ => rfl
    | cons operation rest induction =>
      intro ordinal table
      rw [capturesOperations]
      split
      · rfl
      · rw [induction]
        simp [captureCommittedOperationCdc, owes]
  exact Option.all_eq_true _ _ |>.mpr fun found _ => each _ _ _

end

end LagrangeDb.Cdc
