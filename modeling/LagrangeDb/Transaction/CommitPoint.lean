import LagrangeDb.Transaction.Agreement

namespace LagrangeDb.Transaction

open Data LagrangeDb.Participant

/-! What a failed COMMIT may tell its client about the commit point. -/

variable {setting : Setting}

/-- Every COMMIT that said it did not commit threw, or stands for a decided
rollback. -/
def World.Told (world : World setting) : Prop :=
  ∀ outcome, (.commit, outcome) ∈ world.answers → outcome.denies = true →
    outcome.isThrown = true ∨ world.cluster.Decided .rollback

variable {operation : Operation} {outcome : Outcome}

theorem Coordinator.move_answers {cluster next : Cluster setting}
    {coordinator moved : Coordinator} {move : Move} {answers : List (Operation × Outcome)}
    (hmove : coordinator.move cluster move = some (next, moved, answers))
    (hmem : (operation, outcome) ∈ answers) : move = .finish ∧ ∃ result,
      coordinator.operation = some (operation, .done result) ∧ outcome = outcomeOf result := by
  cases move with
  | finish =>
    simp only [Coordinator.move] at hmove
    split at hmove
    on_goal 2 => cases hmove
    next found result hoperation =>
    cases hmove
    cases List.mem_singleton.mp hmem
    exact ⟨rfl, result, hoperation, rfl⟩
  | background index response =>
    obtain ⟨⟨scene, result⟩, -, hnext⟩ := Option.bind_eq_some_iff.mp hmove
    cases hnext
    cases hmem
  | start operation =>
    simp only [Coordinator.move] at hmove
    split at hmove <;> cases hmove
    cases hmem
  | openStage =>
    simp only [Coordinator.move] at hmove
    split at hmove <;> cases hmove
    cases hmem
  | _ =>
    simp only [Coordinator.move] at hmove
    split at hmove
    all_goals first
      | cases hmove
      | obtain ⟨found, -, hnext⟩ := Option.bind_eq_some_iff.mp hmove
        cases hnext
        cases hmem

variable {world : World setting}

theorem World.step_answers (hstep : world.step choice = some next)
    (hmem : (operation, outcome) ∈ next.answers) : (operation, outcome) ∈ world.answers ∨
      ∃ index coordinator result, choice = .move index .finish ∧
        world.coordinators.lookup index = some coordinator ∧
        coordinator.operation = some (operation, .done result) ∧ outcome = outcomeOf result := by
  cases choice with
  | move index move =>
    simp only [World.step] at hstep
    split at hstep
    · cases hstep
    next coordinator hlookup =>
    obtain ⟨⟨cluster, moved, answers⟩, hmove, hnext⟩ := Option.bind_eq_some_iff.mp hstep
    cases hnext
    obtain hold | hnew := List.mem_append.mp hmem
    · exact .inl hold
    obtain ⟨rfl, result, hoperation, houtcome⟩ := Coordinator.move_answers hmove hnew
    exact .inr ⟨index, coordinator, result, rfl, hlookup, hoperation, houtcome⟩
  | crash index =>
    cases hstep
    exact .inl hmem
  | recover index =>
    simp only [World.step] at hstep
    split at hstep <;> cases hstep
    exact .inl hmem
  | _ =>
    obtain ⟨found, -, hnext⟩ := Option.bind_eq_some_iff.mp hstep
    cases hnext
    exact .inl hmem

theorem World.Told.step (hdet : setting.platform.Deterministic) (h : world.Told)
    (hsound : world.Sound) (hstep : world.step choice = some next) : next.Told := by
  obtain ⟨-, hgrows⟩ := hsound.step hdet hstep
  intro outcome hmem hdenies
  obtain hold | ⟨index, coordinator, result, rfl, hlookup, hoperation, rfl⟩ :=
    World.step_answers hstep hmem
  · exact (h outcome hold hdenies).imp_right fun hdecided => hdecided.grows hgrows
  have hcoordinator := hsound.coordinators index coordinator hlookup
  obtain hdecided | ⟨hthrown, -⟩ := hcoordinator.operation .commit _ hoperation rfl hdenies
  · exact .inr (Cluster.Decided.grows hdecided hgrows)
  · exact .inl hthrown

theorem World.Told.run (hdet : setting.platform.Deterministic)
    (choices : List (Choice setting)) {final : World setting} (h : world.Told)
    (hsound : world.Sound) (hrun : world.run choices = some final) : final.Told := by
  induction choices generalizing world with
  | nil =>
    cases hrun
    exact h
  | cons choice rest ih =>
    obtain ⟨next, hstep, hrest⟩ := Option.bind_eq_some_iff.mp hrun
    exact ih (h.step hdet hsound hstep) (hsound.step hdet hstep).1 hrest

/-- Once a COMMIT has said that it did not commit, no continuation, whatever it does,
commits a participant row of the transaction, if it returned its answer or the
durable row has a ROLLBACK when it threw. -/
theorem World.denied_commit_is_final (hdet : setting.platform.Deterministic)
    (tables : String → setting.platform.Table) (choices later : List (Choice setting))
    (told world : World setting) (hrun : (World.begun tables).run choices = some told)
    (outcome : Outcome) (hanswer : (.commit, outcome) ∈ told.answers)
    (hdenies : outcome.denies = true)
    (hrecorded : outcome.isThrown = true → told.cluster.Decided .rollback)
    (hlater : told.run later = some world) (row : ParticipantRow)
    (hrow : world.cluster.HoldsRow row) : row.state ≠ .committed := by
  obtain ⟨htold, -⟩ := World.Sound.run hdet choices (.begun tables) hrun
  obtain ⟨hworld, hgrows⟩ := World.Sound.run hdet later htold hlater
  have hnobody : (World.begun tables).Told := fun _ hmem => by cases hmem
  have hrollback : told.cluster.Decided .rollback :=
    (hnobody.run hdet choices (.begun tables) hrun outcome hanswer hdenies).elim hrecorded id
  intro hcommitted
  have hcommit := hworld.cluster.committed_decided hrow hcommitted
  cases hcommit.unique (hrollback.grows hgrows)

namespace Sample

/-- A COMMIT whose budget is spent: it records ROLLBACK, and its participant
does not answer. -/
def timedOut : List (Choice single) :=
  enlisting ++ .move 0 (.start .commit) ::
    calls 0 [.go, .go, .go, .write true true, .go, .go, .go, .flag true, .go,
      .go, .write true true, .go, .go, .go, .go, .go, .write true true, .go,
      .go] ++
    .move 0 .openStage ::
    tasks 0 [.go, .go, .go, .go, .go, .go, .fail .timeout, .go, .go, .write true true, .go] ++
    .move 0 (.join .all) ::
    calls 0 [.go, .go, .write true true, .go, .go, .go] ++ [.move 0 .finish]

def failedAnswer : Outcome :=
  .returned {
    success := false
    participants := ["p"]
    rollbackFailedParticipants := [("p", .timeout)]
    stage := some .active
    errorCode := some .timeout
    commitPointReached := some false }

def unrecovered : List (Choice single) := enlisting ++ origin :: failing ++ [.move 0 .finish]

end Sample

open LagrangeDb.Participant.Sample in
theorem World.denied_commit_is_final_of_timeout :
    ∃ told world, Sample.begun.run Sample.timedOut = some told ∧
      (.commit, Sample.failedAnswer) ∈ told.answers ∧ told.run [.crash 0, .recover 1] = some world ∧
      ∀ row, world.cluster.HoldsRow row → row.state ≠ .committed := by
  have hanswer : (Sample.begun.run Sample.timedOut).map World.answers =
      some [(.enlist ["p"], .returned {
        success := true, participants := ["p"] }),
        (.commit, Sample.failedAnswer)] := by
    decide +kernel
  obtain ⟨told, hrun, hanswers⟩ := Option.map_eq_some_iff.mp hanswer
  have hmem : (.commit, Sample.failedAnswer) ∈ told.answers := by
    rw [hanswers]
    decide +kernel
  have hlater : ((Sample.begun.run Sample.timedOut).bind fun told =>
      told.run [.crash 0, .recover 1]).isSome = true := by
    decide +kernel
  rw [hrun] at hlater
  obtain ⟨world, hlater⟩ := Option.isSome_iff_exists.mp hlater
  exact ⟨told, world, hrun, hmem, hlater,
    World.denied_commit_is_final sqlLog_deterministic _ Sample.timedOut
      [.crash 0, .recover 1] told world hrun Sample.failedAnswer
      hmem (by decide) (fun hthrown => absurd hthrown (by decide)) hlater⟩

/-- The write of PREPARED takes effect and its answer is lost, so COMMIT throws
and says it did not commit; the coordinator that recovers the transaction finds
the frozen set with all its evidence, and commits it. -/
theorem World.denied_commit_recovered :
    ∃ told world, Sample.begun.run Sample.unrecovered = some told ∧
      (.commit, .threw .persistence (some false)) ∈ told.answers ∧
      told.run Sample.recovering = some world ∧
      (world.cluster.participantRow "p").map ParticipantRow.state = some .committed := by
  have hanswer : (Sample.begun.run Sample.unrecovered).map World.answers =
      some [(.enlist ["p"], .returned {
        success := true, participants := ["p"] }),
        (.commit, .threw .persistence (some false))] := by
    decide +kernel
  have hcommitted : (Sample.begun.run Sample.unrecovered).bind (fun told =>
      (told.run Sample.recovering).bind fun world =>
        (world.cluster.participantRow "p").map ParticipantRow.state) =
      some .committed := by
    decide +kernel
  obtain ⟨told, hrun, hanswers⟩ := Option.map_eq_some_iff.mp hanswer
  rw [hrun, Option.bind_some] at hcommitted
  obtain ⟨world, hlater, hstate⟩ := Option.bind_eq_some_iff.mp hcommitted
  refine ⟨told, world, hrun, ?_, hlater, hstate⟩
  rw [hanswers]
  decide

end LagrangeDb.Transaction
