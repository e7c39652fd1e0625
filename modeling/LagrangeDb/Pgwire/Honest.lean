import LagrangeDb.Pgwire.Engine

namespace LagrangeDb.Pgwire

/-! The session's transaction state does not lie as long as the engine tells the
truth about failed commits. -/

def Fate.isQuiet : Fate → Bool
  | .doubtful | .committed => false
  | _ => true

/-- The session and the engine agree on the transaction they are in. -/
inductive Agrees (session : Session) (engine : Engine) : Prop where
  | idle : session.txState = .idle → session.transactionId = none →
      session.transactionOutcomeUnknown = false → engine.held = none →
      Agrees session engine
  | outside : session.txState = .failed → session.transactionId = none →
      engine.held = none → Agrees session engine
  | block (id : String) (fate : Fate) : session.txState ≠ .idle →
      session.transactionId = some id → engine.fate id = some fate →
      engine.held = (if fate.isFinal then none else some id) →
      (session.transactionOutcomeUnknown = false → fate.isQuiet = true) →
      (session.txState = .inTransaction →
        (fate = .active ∨ fate = .rolledBack) ∧ session.transactionOutcomeUnknown = false) →
      Agrees session engine

variable {fate next : Fate}

theorem Fate.moves_quiet (moved : fate.moves false next = true)
    (quiet : fate.isQuiet = true) : next.isQuiet = true := by
  cases fate <;> cases next <;> simp_all [Fate.moves, Fate.isQuiet]

theorem Fate.moves_attempt (moved : fate.moves false next = true) :
    fate.moves true next = true := by
  cases fate <;> cases next <;> simp_all [Fate.moves]

theorem Fate.moves_refl (fate : Fate) : fate.moves true fate = true := by cases fate <;> rfl

namespace Engine

@[simp] theorem fate_turn (engine : Engine) (id : String) (fate : Fate) :
    (engine.turn id fate).fate id = some fate := by
  simp [turn]

@[simp] theorem held_turn (engine : Engine) (id : String) (fate : Fate) :
    (engine.turn id fate).held = if fate.isFinal then none else some id := rfl

def Keeps (engine next : Engine) : Prop :=
  ∀ id fate, engine.fate id = some fate →
    ∃ moved, next.fate id = some moved ∧ fate.moves true moved = true

theorem Keeps.refl (engine : Engine) : engine.Keeps engine :=
  fun _ fate known => ⟨fate, known, fate.moves_refl⟩

variable {engine : Engine}

theorem keeps_turn {id : String} (known : engine.fate id = some fate)
    (moved : fate.moves true next = true) : engine.Keeps (engine.turn id next) := by
  intro other found isFound
  by_cases same : other = id
  · subst same
    rw [known] at isFound
    obtain rfl := Option.some.inj isFound
    exact ⟨next, fate_turn .., moved⟩
  · exact ⟨found, by simpa [turn, same] using isFound, found.moves_refl⟩

theorem Runs.keeps {next : Engine} {control : Option Control} {effect : Option (Option String)}
    (runs : engine.Runs control expected answer effect next) : engine.Keeps next := by
  cases runs with
  | refused | executed | commitMissing | rollbackMissing => exact .refl _
  | began id _ _ _ unknown =>
    intro other fate known
    have different : other ≠ id := by
      rintro rfl
      rw [unknown] at known
      cases known
    exact ⟨fate, by simpa [turn, different] using known, fate.moves_refl⟩
  | committed id fate tag _ _ known moved => exact keeps_turn known moved
  | commitFailed id fate next _ _ _ known moved => exact keeps_turn known moved
  | rolledBack id fate tag _ _ known moved => exact keeps_turn known (Fate.moves_attempt moved)
  | rollbackFailed id fate next _ _ _ known moved =>
    exact keeps_turn known (Fate.moves_attempt moved)
  | rollbackThrew id fate next _ _ _ known moved =>
    exact keeps_turn known (Fate.moves_attempt moved)

theorem Drops.keeps {next : Engine} (drops : engine.Drops next) : engine.Keeps next := by
  cases drops with
  | dropped id fate next _ known moved => exact keeps_turn known (Fate.moves_attempt moved)

end Engine

theorem toldBy_error (other : text ∉ denials) : toldBy [.errorResponse code text] = [] := by
  simp [toldBy, other]

variable {failure : Failure} {unknown : Bool} {engine : Engine}

theorem toldBy_engineError (other : failure.message ∉ denials) :
    toldBy (outcomeReplies (engine.withSessionTransactionState failure) unknown
      .engineError) = [] :=
  toldBy_error other

theorem toldBy_unknown : toldBy [.errorResponse "08007" outcomeUnknownMessage] = [] := by
  simp [toldBy]

theorem toldBy_empty : toldBy [.emptyQueryResponse] = [] := by simp [toldBy]

theorem toldBy_other (notCommit : tag ≠ "COMMIT")
    (notRollback : tag ≠ "ROLLBACK") : toldBy [.commandComplete tag] = [] := by
  simp [toldBy, Ne.symm notCommit, Ne.symm notRollback]

variable {told : Told}

theorem toldBy_tagged_commit
    (member : told ∈ toldBy ((if unknown then [previousOutcomeUnknownNotice] else []) ++
      [.commandComplete (tagOf .commit)])) : told = .committed := by
  cases unknown <;> simpa [toldBy, tagOf, previousOutcomeUnknownNotice] using member

theorem toldBy_tagged_rollback
    (member : told ∈ toldBy ((if unknown then [previousOutcomeUnknownNotice] else []) ++
      [.commandComplete (tagOf .rollback)])) : told = .rolledBack ∧ unknown = false := by
  cases unknown with
  | false => simpa [toldBy, tagOf, previousOutcomeUnknownNotice] using member
  | true => simp [toldBy, tagOf, previousOutcomeUnknownNotice] at member

theorem toldBy_denial (member : told ∈ toldBy [.errorResponse code text]) :
    told = .nothingCommitted := by
  simp only [toldBy, List.mem_singleton, reduceCtorEq, if_false, false_and,
    List.nil_append] at member
  split at member
  · exact List.mem_singleton.mp member
  · cases member

/-- The session after an answer that says nothing of a transaction's end: a block
fails, an idle session stays idle. -/
def Unended (session : Session) (after : Session × List Reply) : Prop :=
  toldBy after.2 = [] ∧
    (after.1 = session ∨ session.txState = .idle ∧ after.1 = session.setTransactionState .idle ∨
      session.txState ≠ .idle ∧ after.1 = { session with txState := .failed })

variable {session : Session}

theorem answerFailed_plain (plain : failure.isPlain) (other : failure.message ∉ denials) :
    Unended session (answerFailedStatement session session.txState failure) := by
  unfold answerFailedStatement resolveFailedStatementOutcome
  rw [show StatementType.transactionEnd failure.statementType = none from plain]
  dsimp only
  by_cases idle : session.txState = .idle
  · rw [if_pos idle]
    exact ⟨toldBy_error other, .inr (.inl ⟨idle, rfl⟩)⟩
  rw [if_neg idle]
  split
  · exact ⟨toldBy_error other, .inr (.inr ⟨idle, rfl⟩)⟩
  · exact ⟨toldBy_error other, .inr (.inr ⟨idle, rfl⟩)⟩

theorem answer_plain (plain : failure.isPlain) (other : failure.message ∉ denials) :
    Unended session (answerStatement session (.failed failure)) := by
  simp only [answerStatement]
  split
  · exact ⟨toldBy_empty, .inl rfl⟩
  · exact answerFailed_plain plain other

theorem answer_ordinary (ordinary : answer.isOrdinary) :
    Unended session (answerStatement session answer) := by
  cases answer with
  | provisioningDeadlineExpired => exact answerFailed_plain rfl (by decide)
  | failed failure => exact answer_plain ordinary.1 ordinary.2
  | succeeded statementType transactionId =>
    have untagged : Unended session
        (answerFailedStatement session session.txState
          unknownStatementTypeFailure) := answerFailed_plain rfl (by decide)
    match statementType, ordinary with
    | none, _ => exact untagged
    | some (.other none), _ => exact untagged
    | some (.other (some tag)), ⟨notCommit, notRollback⟩ =>
      exact ⟨toldBy_other notCommit notRollback, .inl rfl⟩

theorem answer_failedEnd {control : Control}
    (ends : StatementType.transactionEnd failure.statementType = some control)
    (present : failure.errorCode ≠ some .emptyStatement)
    (resolved : failedTransactionEndOutcome (session.txState = .idle) control
      failure = (outcome, state)) : answerStatement session (.failed failure) =
      (if state = .failed then { session with
          txState := .failed
          transactionOutcomeUnknown := outcome.isUnknown || session.transactionOutcomeUnknown }
      else session.forgetTransactionOutcomeUnknown.setTransactionState state,
      outcomeReplies failure session.transactionOutcomeUnknown outcome) := by
  simp only [answerStatement, if_neg present, answerFailedStatement,
    resolveFailedStatementOutcome, ends, resolved, Option.isSome_some,
    Bool.true_and, if_true]
  congr 1
  cases state with
  | idle => simp
  | inTransaction => simp
  | failed =>
    obtain ⟨txState, transactionId, unknown, statements, portals⟩ := session
    cases unknown <;> cases outcome.isUnknown <;>
      simp [Session.setTransactionState, Session.forgetTransactionOutcomeUnknown,
        Session.markTransactionOutcomeUnknown]

/-- A failed COMMIT leaves a block where the engine holds one, and denies the
commit only where the engine does. -/
theorem failedCommitOutcome_cases (failure : Failure) :
    ∃ outcome, failedCommitOutcome failure = (outcome, heldState failure) ∧
      (outcome = .error "08007" outcomeUnknownMessage true ∨
        failure.commitPointReached = some false ∧ ((∃ text, outcome = .error "25P04" text false) ∨
            outcome = .engineError)) := by
  unfold failedCommitOutcome
  by_cases reached : failure.commitPointReached = some false
  · dsimp only
    rw [if_neg (not_not_intro reached)]
    split
    · exact ⟨_, rfl, .inr ⟨reached, .inl ⟨_, rfl⟩⟩⟩
    · exact ⟨_, rfl, .inr ⟨reached, .inr rfl⟩⟩
  · dsimp only
    rw [if_pos reached]
    exact ⟨_, rfl, .inl rfl⟩

variable {idle : Bool}

theorem failedTransactionEndOutcome_commit (inBlock : idle = false) (failure : Failure) :
    failedTransactionEndOutcome idle .commit failure = failedCommitOutcome failure := by
  simp [failedTransactionEndOutcome, inBlock]

theorem failedTransactionEndOutcome_rollback (found : failure.errorCode ≠ some .noTransaction) :
    failedTransactionEndOutcome idle .rollback (engine.withSessionTransactionState failure) =
      (.engineError, heldState (engine.withSessionTransactionState failure)) := by
  simp [failedTransactionEndOutcome, Engine.withSessionTransactionState, found]

theorem heldState_held (failure : Failure) (held : engine.held ≠ none) :
    heldState (engine.withSessionTransactionState failure) = .failed :=
  if_pos (by simpa [Engine.withSessionTransactionState,
    Option.isSome_iff_ne_none] using held)

theorem failedTransactionEndOutcome_state (idle : Bool) (control : Control)
    (free : failure.sessionTransactionActive = some false) :
    (failedTransactionEndOutcome idle control failure).2 = .idle := by
  have isIdle : heldState failure = .idle := by simp [heldState, free]
  have commit : (failedCommitOutcome failure).2 = .idle := by
    obtain ⟨outcome, resolved, -⟩ := failedCommitOutcome_cases failure
    rw [resolved]
    exact isIdle
  simp only [failedTransactionEndOutcome]
  split
  · rfl
  split
  · exact commit
  · exact isIdle

theorem answer_ended (session : Session) {control : Control}
    (ends : control.endsTransaction = true) (tag : Option String) :
    answerStatement session (.succeeded (some (.control control)) tag) =
      (session.forgetTransactionOutcomeUnknown.setTransactionState .idle,
        (if session.transactionOutcomeUnknown then [previousOutcomeUnknownNotice] else []) ++
          [.commandComplete (tagOf control)]) := by
  cases control with
  | begin => cases ends
  | commit => rfl
  | rollback => rfl

theorem agrees_idle (session : Session) (free : engine.held = none) :
    Agrees (session.setTransactionState .idle) engine :=
  .idle rfl rfl rfl free

variable {id : String}

section

variable (agrees : Agrees session engine)

include agrees

theorem Agrees.fail (inBlock : session.txState ≠ .idle) :
    Agrees { session with txState := .failed } engine := by
  cases agrees with
  | idle state => exact absurd state inBlock
  | outside _ unnamed free => exact .outside rfl unnamed free
  | block id fate _ named known held quiet _ =>
    exact .block id fate nofun named known held quiet nofun

theorem Agrees.addressed (addressed : engine.addressed session.transactionId = some id) :
    session.txState ≠ .idle ∧ session.transactionId = some id ∧
      ∃ fate, engine.fate id = some fate ∧ fate.isFinal = false ∧
        (session.transactionOutcomeUnknown = false → fate.isQuiet = true) ∧
        (session.txState = .inTransaction → fate = .active ∧
          session.transactionOutcomeUnknown = false) := by
  cases agrees with
  | idle _ unnamed _ free =>
    rw [unnamed, Engine.addressed, free] at addressed
    cases addressed
  | outside _ unnamed free =>
    rw [unnamed, Engine.addressed, free] at addressed
    cases addressed
  | block other fate inBlock named known held quiet open_ =>
    rw [named] at addressed
    obtain ⟨isHeld, same⟩ := Option.ite_none_right_eq_some.mp addressed
    obtain rfl := Option.some.inj same
    have running : fate.isFinal = false := by
      cases final : fate.isFinal with
      | false => rfl
      | true =>
        rw [final] at held
        rw [held] at isHeld
        cases isHeld
    refine ⟨inBlock, named, fate, known, running, quiet, fun state => ?_⟩
    obtain ⟨active | rolledBack, unknown⟩ := open_ state
    · exact ⟨active, unknown⟩
    · rw [rolledBack] at running
      cases running

theorem Agrees.held (addressed : engine.addressed session.transactionId = some id) :
    engine.held = some id := by
  obtain ⟨-, isBlock, -⟩ := agrees.addressed addressed
  rw [isBlock] at addressed
  exact (Option.ite_none_right_eq_some.mp addressed).1

theorem Agrees.missing (missing : engine.addressed session.transactionId = none) :
    engine.held = none ∧ ∀ id, session.transactionId = some id →
      (session.transactionOutcomeUnknown = false → engine.fate id = some .rolledBack) := by
  cases agrees with
  | idle _ unnamed _ free => exact ⟨free, by simp [unnamed]⟩
  | outside _ unnamed free => exact ⟨free, by simp [unnamed]⟩
  | block other fate _ named known held quiet _ =>
    rw [named] at missing
    have notHeld : engine.held ≠ some other := by
      intro isHeld
      simp [Engine.addressed, isHeld] at missing
    cases final : fate.isFinal with
    | false =>
      rw [final] at held
      exact absurd held notHeld
    | true =>
      rw [final] at held
      refine ⟨held, fun id isId unknown => ?_⟩
      rw [named] at isId
      obtain rfl := Option.some.inj isId
      rw [known]
      have isQuiet := quiet unknown
      cases fate <;> simp_all [Fate.isFinal, Fate.isQuiet]

theorem Agrees.unended (unended : Unended session after) : Agrees after.1 engine := by
  rcases unended.2 with same | ⟨idle, same⟩ | ⟨inBlock, same⟩
  · rw [same]
    exact agrees
  · rw [same]
    cases agrees with
    | idle _ _ _ free => exact agrees_idle session free
    | outside state => exact absurd (state.symm.trans idle) nofun
    | block _ _ inBlock => exact absurd idle inBlock
  · rw [same]
    exact agrees.fail inBlock

end

theorem agrees_failedEnd_free {control : Control}
    (ends : StatementType.transactionEnd failure.statementType = some control)
    (present : failure.errorCode ≠ some .emptyStatement)
    (free : engine.held = none) : Agrees (answerStatement session
      (.failed (engine.withSessionTransactionState failure))).1 engine := by
  have idle : (failedTransactionEndOutcome (session.txState = .idle) control
      (engine.withSessionTransactionState failure)).2 = .idle :=
    failedTransactionEndOutcome_state _ _ (by simp [Engine.withSessionTransactionState, free])
  generalize resolved : failedTransactionEndOutcome (session.txState = .idle) control
    (engine.withSessionTransactionState failure) = outcome at idle
  obtain ⟨outcome, state⟩ := outcome
  obtain rfl : state = .idle := idle
  rw [show answerStatement session (.failed (engine.withSessionTransactionState failure)) = _ from
    answer_failedEnd ends present resolved]
  exact agrees_idle _ free

theorem Agrees.turn (agrees : Agrees session engine)
    (isHeld : engine.held = some id) (known : engine.fate id = some fate)
    (moved : fate.moves false next = true) : Agrees session (engine.turn id next) := by
  cases agrees with
  | idle _ _ _ free => exact absurd (free.symm.trans isHeld) nofun
  | outside _ _ free => exact absurd (free.symm.trans isHeld) nofun
  | block other found inBlock named isFound held quiet open_ =>
    obtain ⟨-, same⟩ := Option.ite_none_left_eq_some.mp (held.symm.trans isHeld)
    obtain rfl := Option.some.inj same
    rw [known] at isFound
    obtain rfl := Option.some.inj isFound
    refine .block other next inBlock named (engine.fate_turn ..) rfl
      (fun unknown => Fate.moves_quiet moved (quiet unknown)) fun state => ?_
    obtain ⟨known, unknown⟩ := open_ state
    refine ⟨?_, unknown⟩
    rcases known with rfl | rfl
    · simpa [Fate.moves] using moved
    · exact .inr (of_decide_eq_true moved)

theorem Told.isTrueOf_keeps {next : Engine} (keeps : engine.Keeps next)
    (isTrue : told.isTrueOf (engine.fate id)) : told.isTrueOf (next.fate id) := by
  have moves {fate : Fate} (known : engine.fate id = some fate) := keeps id fate known
  cases told with
  | committed =>
    obtain ⟨moved, known, step⟩ := moves isTrue
    rw [Told.isTrueOf, known]
    exact congrArg some (of_decide_eq_true step)
  | rolledBack =>
    obtain ⟨moved, known, step⟩ := moves isTrue
    rw [Told.isTrueOf, known]
    exact congrArg some (of_decide_eq_true step)
  | nothingCommitted =>
    rcases isTrue with doomed | rolledBack
    · obtain ⟨moved, known, step⟩ := moves doomed
      rw [Told.isTrueOf, known]
      simpa [Fate.moves] using step
    · obtain ⟨moved, known, step⟩ := moves rolledBack
      rw [Told.isTrueOf, known]
      exact .inr (congrArg some (of_decide_eq_true step))

namespace World

structure Sound (world : World) : Prop where
  honest : world.Honest
  agrees : Agrees world.session world.engine

theorem admitted_failed {grammar : String → Option Control}
    (ends : grammar "ROLLBACK" = some .rollback)
    (admitted : session.admitStatement grammar query = some text)
    (failed : session.txState = .failed) : grammar text = some .rollback := by
  rw [Session.admitStatement, if_pos failed] at admitted
  split at admitted
  next isRollback =>
    obtain rfl := Option.some.inj admitted
    exact isRollback
  · obtain rfl := Option.some.inj admitted
    exact ends
  · cases admitted

variable {effect : Option (Option String)} {world : World}

theorem Sound.answered {control : Option Control} (sound : world.Sound)
    (keeps : world.engine.Keeps engine)
    (failed : world.session.txState = .failed → control = some .rollback)
    (agrees : Agrees (answerStatement world.session answer).1 engine)
    (inside : ∀ id place, world.session.transactionId = some id →
      effect = some place → place = some id) (tells : ∀ id, world.session.transactionId = some id →
      ∀ told ∈ toldBy (answerStatement world.session answer).2, told.isTrueOf (engine.fate id)) :
    (world.answered control answer effect engine).Sound := by
  refine ⟨⟨fun idle => ?_, fun sent member => ?_, fun id place member => ?_,
    fun id told member => ?_⟩, agrees⟩
  · cases agrees with
    | idle _ _ _ free => exact free
    | outside state => exact absurd (state.symm.trans idle) nofun
    | block _ _ inBlock => exact absurd idle inBlock
  · rcases List.mem_append.mp member with old | new
    · exact sound.honest.failed sent old
    have same := List.mem_singleton.mp new
    injection same with state kind
    rw [kind]
    exact failed state.symm
  · rcases List.mem_append.mp member with old | new
    · exact sound.honest.inside id place old
    obtain ⟨block, isBlock, new⟩ := List.mem_flatMap.mp new
    obtain ⟨found, isFound, same⟩ := List.mem_map.mp new
    injection same with sameId samePlace
    subst sameId samePlace
    exact inside block found (by simpa using isBlock) (by simpa using isFound)
  · rcases List.mem_append.mp member with old | new
    · exact Told.isTrueOf_keeps keeps (sound.honest.told id told old)
    obtain ⟨block, isBlock, new⟩ := List.mem_flatMap.mp new
    obtain ⟨found, isFound, same⟩ := List.mem_map.mp new
    injection same with sameId sameTold
    subst sameId sameTold
    exact tells block (by simpa using isBlock) found isFound

section Step

variable {world : World} {engine : Engine} {control : Option Control} (sound : world.Sound)

include sound

theorem Sound.silent (keeps : world.engine.Keeps engine)
    (failed : world.session.txState = .failed → control = some .rollback)
    (agrees : Agrees world.session engine)
    (inside : ∀ id place, world.session.transactionId = some id →
      effect = some place → place = some id)
    (unended : Unended world.session (answerStatement world.session answer)) :
    (world.answered control answer effect engine).Sound := by
  refine sound.answered keeps failed (agrees.unended unended) inside ?_
  intro id _ told member
  rw [unended.1] at member
  cases member

section

variable (failed : world.session.txState = .failed → control = some .rollback)

include failed

theorem Sound.began (isBegin : control = some .begin) (free : world.engine.held = none)
    (admitted : world.engine.admitExpectedTransaction world.session.transactionId = true)
    (keeps : world.engine.Keeps (world.engine.turn id .active)) (named : id.isEmpty = false) :
    (world.answered control (.succeeded (some (.control .begin)) (some id)) none
      (world.engine.turn id .active)).Sound := by
  have unnamed : world.session.transactionId = none := by
    cases expected : world.session.transactionId with
    | none => rfl
    | some other =>
      rw [expected, Engine.admitExpectedTransaction, free] at admitted
      cases admitted
  have unmarked : world.session.transactionOutcomeUnknown = false := by
    cases sound.agrees with
    | idle _ _ unmarked _ => exact unmarked
    | outside state => exact absurd ((failed state).symm.trans isBegin) nofun
    | block _ _ _ named => exact absurd (unnamed.symm.trans named) nofun
  refine sound.answered keeps failed ?_ nofun fun other isOther => ?_
  · exact .block id .active nofun
      (by simp [answerStatement, deriveCommandTag, applyTransactionOutcome,
        Session.enterTransaction, StatementType.transactionEnd,
        Control.endsTransaction, named])
      (Engine.fate_turn ..) rfl (fun _ => rfl) fun _ => ⟨.inl rfl, unmarked⟩
  · rw [unnamed] at isOther
    cases isOther

theorem Sound.ended (addressed : world.engine.addressed world.session.transactionId = some id)
    (keeps : world.engine.Keeps (world.engine.turn id fate)) (final : fate.isFinal = true)
    (outcome : ending = .commit ∧ fate = .committed ∨ ending = .rollback ∧ fate = .rolledBack) :
    (world.answered control (.succeeded (some (.control ending)) tag) none
      (world.engine.turn id fate)).Sound := by
  have ends : ending.endsTransaction = true := by rcases outcome with ⟨rfl, _⟩ | ⟨rfl, _⟩ <;> rfl
  obtain ⟨_, isBlock, _⟩ := sound.agrees.addressed addressed
  refine sound.answered keeps failed ?_ nofun fun other isOther told member => ?_
  · rw [answer_ended world.session ends]
    exact agrees_idle _ (by simp [final])
  obtain rfl := Option.some.inj (isBlock.symm.trans isOther)
  rw [answer_ended world.session ends] at member
  rw [Engine.fate_turn]
  rcases outcome with ⟨rfl, rfl⟩ | ⟨rfl, rfl⟩
  · obtain rfl := toldBy_tagged_commit member
    rfl
  · obtain ⟨rfl, -⟩ := toldBy_tagged_rollback member
    rfl

variable {next : Fate}

theorem Sound.failedTurn (addressed : world.engine.addressed world.session.transactionId = some id)
    (keeps : world.engine.Keeps (world.engine.turn id next))
    (ends : StatementType.transactionEnd failure.statementType = some ending)
    (present : failure.errorCode ≠ some .emptyStatement)
    (resolved : failedTransactionEndOutcome (world.session.txState = .idle) ending
      ((world.engine.turn id next).withSessionTransactionState failure) = (outcome, heldState
          ((world.engine.turn id next).withSessionTransactionState failure)))
    (quiet : outcome.isUnknown = false →
      world.session.transactionOutcomeUnknown = false → next.isQuiet = true)
    (tells : ∀ told ∈ toldBy (outcomeReplies
      ((world.engine.turn id next).withSessionTransactionState failure)
      world.session.transactionOutcomeUnknown outcome), told.isTrueOf (some next)) :
    (world.answered control
      (.failed ((world.engine.turn id next).withSessionTransactionState failure))
      none (world.engine.turn id next)).Sound := by
  obtain ⟨-, isBlock, -⟩ := sound.agrees.addressed addressed
  have shape : answerStatement world.session (.failed
      ((world.engine.turn id next).withSessionTransactionState failure)) = _ :=
    answer_failedEnd ends present resolved
  refine sound.answered keeps failed ?_ nofun fun block isOther told member => ?_
  · cases final : next.isFinal with
    | true => exact agrees_failedEnd_free ends present (by simp [final])
    | false =>
      rw [shape, if_pos (heldState_held failure (by simp [final]))]
      refine .block id next nofun isBlock (Engine.fate_turn ..) rfl (fun unmarked => ?_) nofun
      obtain ⟨isKnown, unmarked⟩ := Bool.or_eq_false_iff.mp unmarked
      exact quiet isKnown unmarked
  · obtain rfl := Option.some.inj (isBlock.symm.trans isOther)
    rw [shape] at member
    rw [Engine.fate_turn]
    exact tells told member

theorem Sound.failedMissing (missing : world.engine.addressed world.session.transactionId = none)
    (ends : StatementType.transactionEnd failure.statementType = some ending)
    (present : failure.errorCode ≠ some .emptyStatement) (tells : world.session.txState ≠ .idle →
      ∀ id, world.session.transactionId = some id →
      ∀ told ∈ toldBy (outcomeReplies (world.engine.withSessionTransactionState failure)
        world.session.transactionOutcomeUnknown (failedTransactionEndOutcome false ending
          (world.engine.withSessionTransactionState failure)).1),
        told.isTrueOf (world.engine.fate id)) : (world.answered control
      (.failed (world.engine.withSessionTransactionState failure)) none world.engine).Sound := by
  refine sound.answered (.refl _) failed
    (agrees_failedEnd_free ends present (sound.agrees.missing missing).1) nofun
    fun id isBlock told member => ?_
  have inBlock : world.session.txState ≠ .idle := by
    intro isIdle
    cases sound.agrees with
    | idle _ unnamed => exact absurd (unnamed.symm.trans isBlock) nofun
    | outside state => exact absurd (state.symm.trans isIdle) nofun
    | block _ _ inBlock => exact inBlock isIdle
  refine tells inBlock id isBlock told ?_
  rwa [show answerStatement world.session
    (.failed (world.engine.withSessionTransactionState failure)) = _ from
    answer_failedEnd ends present (Prod.eta _).symm, decide_eq_false inBlock] at member

theorem Sound.commitFailed
    (addressed : world.engine.addressed world.session.transactionId = some id)
    (keeps : world.engine.Keeps (world.engine.turn id next))
    (stamped : failure.statementType = some (.control .commit)) (other : failure.message ∉ denials)
    (present : failure.errorCode ≠ some .emptyStatement) (truthful : world.Truthful
      (.failed ((world.engine.turn id next).withSessionTransactionState failure))
      (world.engine.turn id next)) : (world.answered control
      (.failed ((world.engine.turn id next).withSessionTransactionState failure))
      none (world.engine.turn id next)).Sound := by
  obtain ⟨inBlock, isBlock, _⟩ := sound.agrees.addressed addressed
  have denied : ((world.engine.turn id next).withSessionTransactionState
      failure).commitPointReached = some false → next = .doomed ∨ next = .rolledBack := by
    intro reached
    simpa using truthful _ rfl stamped reached id isBlock
  obtain ⟨outcome, resolved, said⟩ := failedCommitOutcome_cases
    ((world.engine.turn id next).withSessionTransactionState failure)
  refine sound.failedTurn failed addressed keeps (congrArg _ stamped) present
    ((failedTransactionEndOutcome_commit (decide_eq_false inBlock) _).trans resolved)
    (fun isKnown _ => ?_) fun told member => ?_
  · rcases said with rfl | ⟨reached, -⟩
    · cases isKnown
    · rcases denied reached with rfl | rfl <;> rfl
  rcases said with rfl | ⟨reached, ⟨text, rfl⟩ | rfl⟩
  · rw [outcomeReplies, toldBy_unknown] at member
    cases member
  · obtain rfl := toldBy_denial member
    exact (denied reached).imp (congrArg some) (congrArg some)
  · rw [toldBy_engineError other] at member
    cases member

theorem Sound.commitMissing (missing : world.engine.addressed world.session.transactionId = none)
    (stamped : failure.statementType = some (.control .commit)) (other : failure.message ∉ denials)
    (present : failure.errorCode ≠ some .emptyStatement)
    (denied : failure.commitPointReached = some false →
      ∀ id, world.session.transactionId = some id →
        world.engine.fate id = some .rolledBack) : (world.answered control
      (.failed (world.engine.withSessionTransactionState failure)) none world.engine).Sound := by
  refine sound.failedMissing failed missing (congrArg _ stamped) present
    fun inBlock id isBlock told member => ?_
  obtain ⟨outcome, resolved, said⟩ :=
    failedCommitOutcome_cases (world.engine.withSessionTransactionState failure)
  rw [failedTransactionEndOutcome_commit rfl, resolved] at member
  rcases said with rfl | ⟨reached, ⟨text, rfl⟩ | rfl⟩
  · rw [outcomeReplies, toldBy_unknown] at member
    cases member
  · obtain rfl := toldBy_denial member
    exact .inr (denied reached id isBlock)
  · rw [toldBy_engineError other] at member
    cases member

theorem Sound.rollbackFailed
    (addressed : world.engine.addressed world.session.transactionId = some id)
    (known : world.engine.fate id = some fate) (moved : fate.moves false next = true)
    (stamped : failure.statementType = some (.control .rollback))
    (found : failure.errorCode ≠ some .noTransaction) (other : failure.message ∉ denials)
    (present : failure.errorCode ≠ some .emptyStatement) : (world.answered control
      (.failed ((world.engine.turn id next).withSessionTransactionState failure))
      none (world.engine.turn id next)).Sound := by
  obtain ⟨inBlock, -, before, isBefore, -, quiet, -⟩ := sound.agrees.addressed addressed
  obtain rfl := Option.some.inj (isBefore.symm.trans known)
  refine sound.failedTurn failed addressed
    (Engine.keeps_turn known (Fate.moves_attempt moved)) (congrArg _ stamped) present
    (failedTransactionEndOutcome_rollback found)
    (fun _ unmarked => Fate.moves_quiet moved (quiet unmarked)) fun told member => ?_
  rw [toldBy_engineError other] at member
  cases member

theorem Sound.rollbackMissing (missing : world.engine.addressed world.session.transactionId = none)
    (stamped : failure.statementType = some (.control .rollback))
    (other : failure.message ∉ denials) (present : failure.errorCode ≠ some .emptyStatement) :
    (world.answered control (.failed (world.engine.withSessionTransactionState failure)) none
      world.engine).Sound := by
  refine sound.failedMissing failed missing (congrArg _ stamped) present
    fun inBlock id isBlock told member => ?_
  by_cases absent : failure.errorCode = some .noTransaction
  · have completed : failedTransactionEndOutcome false .rollback
        (world.engine.withSessionTransactionState failure) =
        (.complete .rollback false, .idle) := by
      simp [failedTransactionEndOutcome, Engine.withSessionTransactionState, absent]
    rw [completed] at member
    obtain ⟨rfl, unmarked⟩ := toldBy_tagged_rollback member
    exact (sound.agrees.missing missing).2 id isBlock unmarked
  · rw [failedTransactionEndOutcome_rollback absent, toldBy_engineError other] at member
    cases member

theorem Sound.runs
    (runs : world.engine.Runs control world.session.transactionId answer effect engine)
    (truthful : world.Truthful answer engine) :
    (world.answered control answer effect engine).Sound := by
  have keeps := runs.keeps
  cases runs with
  | refused failure plain other =>
    exact sound.silent keeps failed sound.agrees nofun (answer_plain plain other)
  | executed answer _ admitted ordinary =>
    refine sound.silent keeps failed sound.agrees (fun id place isBlock isPlace => ?_)
      (answer_ordinary ordinary)
    rw [isBlock] at admitted
    rw [← Option.some.inj isPlace]
    exact of_decide_eq_true admitted
  | began id isBegin free admitted _ named =>
    exact sound.began failed isBegin free admitted keeps named
  | committed id fate tag _ addressed =>
    exact sound.ended failed addressed keeps rfl (.inl ⟨rfl, rfl⟩)
  | commitFailed id fate next failure _ addressed _ _ stamped other present =>
    exact sound.commitFailed failed addressed keeps stamped other present truthful
  | commitMissing failure _ missing stamped other present denied =>
    exact sound.commitMissing failed missing stamped other present denied
  | rolledBack id fate tag _ addressed =>
    exact sound.ended failed addressed keeps rfl (.inr ⟨rfl, rfl⟩)
  | rollbackFailed id fate next failure _ addressed known moved stamped found other
      present =>
      exact sound.rollbackFailed failed addressed known moved stamped found other present
  | rollbackThrew id fate next failure _ addressed known moved plain other =>
    refine sound.silent keeps failed (sound.agrees.turn ?_ known moved) nofun
      (answer_plain plain other)
    exact sound.agrees.held addressed
  | rollbackMissing failure _ missing stamped other present =>
    exact sound.rollbackMissing failed missing stamped other present

end

end Step

theorem Sound.fresh : World.fresh.Sound :=
  ⟨⟨fun _ => rfl, nofun, nofun, nofun⟩, .idle rfl rfl rfl rfl⟩

theorem Sound.step {grammar : String → Option Control} {next : World}
    (ends : grammar "ROLLBACK" = some .rollback) (sound : world.Sound)
    (step : world.Step grammar true next) : next.Sound := by
  cases step with
  | statement query text answer effect engine admitted runs truthful =>
    exact sound.runs (admitted_failed ends admitted) runs (truthful rfl)
  | dropped engine drops =>
    have keeps := drops.keeps
    cases drops with
    | dropped id fate after isHeld known moved =>
      refine ⟨⟨fun isIdle => ?_, sound.honest.failed, sound.honest.inside,
        fun told member isTold => Told.isTrueOf_keeps keeps (sound.honest.told told member isTold)⟩,
        sound.agrees.turn isHeld known moved⟩
      exact absurd ((sound.honest.idle isIdle).symm.trans isHeld) nofun

/-- Whatever the statements and the engine's answers, the session's state does not
lie as long as no COMMIT is denied that was or may still be done. -/
theorem session_state_honest {grammar : String → Option Control} {world : World}
    (ends : grammar "ROLLBACK" = some .rollback)
    (reaches : Reaches grammar true fresh world) : world.Honest := by
  have sound : world.Sound := by
    induction reaches with
    | refl => exact Sound.fresh
    | tail _ step sound => exact sound.step ends step
  exact sound.honest

namespace Sample

def grammar : String → Option Control
  | "BEGIN" => some .begin
  | "COMMIT" => some .commit
  | "ROLLBACK" => some .rollback
  | _ => none

def begun : World :=
  fresh.answered (some .begin) (.succeeded (some (.control .begin)) (some "tx"))
    none (Engine.fresh.turn "tx" .active)

theorem begins (truthful : Bool) : Step grammar truthful fresh begun :=
  .statement "BEGIN" "BEGIN" _ none _ rfl (.began "tx" rfl rfl rfl rfl rfl) fun _ => nofun

/-- A COMMIT whose handling threw is stamped as one that did not reach its commit
point. -/
def thrown : Failure :=
  { statementType := some (.control .commit)
    errorCode := some (.other "COMMIT_FAILED")
    message := "decision write timed out"
    commitPointReached := some false }

def denied : World :=
  begun.answered (some .commit)
    (.failed ((begun.engine.turn "tx" .doomed).withSessionTransactionState thrown)) none
    (begun.engine.turn "tx" .doomed)

def rolledBack : World :=
  denied.answered (some .rollback) (.succeeded (some (.control .rollback)) none) none
    (denied.engine.turn "tx" .rolledBack)

theorem rolledBack_reached : Reaches grammar true fresh rolledBack := by
  have denies : Step grammar true begun denied := by
    refine .statement "COMMIT" "COMMIT" _ none _ rfl
      (.commitFailed "tx" .active .doomed thrown rfl rfl rfl rfl rfl (by decide) nofun) ?_
    rintro - _ ⟨⟩ - - id ⟨⟩
    exact .inl rfl
  have rollsBack : Step grammar true denied rolledBack :=
    .statement "ROLLBACK" "ROLLBACK" _ none _ rfl
      (.rolledBack "tx" .doomed none rfl rfl rfl rfl) fun _ => nofun
  exact .tail (.tail (.single (begins true)) denies) rollsBack

theorem rolledBack_honest : rolledBack.told = [("tx", .rolledBack)] ∧ rolledBack.Honest :=
  ⟨rfl, session_state_honest rfl rolledBack_reached⟩

/-- The decision of the transaction was written all the same. -/
def doubted : World :=
  begun.answered (some .commit)
    (.failed ((begun.engine.turn "tx" .doubtful).withSessionTransactionState thrown))
    none (begun.engine.turn "tx" .doubtful)

def recovered : World :=
  { doubted with engine := doubted.engine.turn "tx" .committed }

def missing : Failure :=
  { statementType := some (.control .rollback)
    errorCode := some .noTransaction
    message := "No active transaction" }

def answeredRollback : World :=
  recovered.answered (some .rollback)
    (.failed (recovered.engine.withSessionTransactionState missing)) none
    recovered.engine

theorem answeredRollback_reached : Reaches grammar false fresh answeredRollback := by
  have commits : Step grammar false begun doubted :=
    .statement "COMMIT" "COMMIT" _ none _ rfl
      (.commitFailed "tx" .active .doubtful thrown rfl rfl rfl rfl rfl (by decide)
        nofun) nofun
  have recovers : Step grammar false doubted recovered :=
    .dropped _ (.dropped "tx" .doubtful .committed rfl rfl rfl)
  have rollsBack : Step grammar false recovered answeredRollback :=
    .statement "ROLLBACK" "ROLLBACK" _ none _ rfl
      (.rollbackMissing missing rfl rfl rfl (by decide) nofun) nofun
  exact .tail (.tail (.tail (.single (begins false)) commits) recovers) rollsBack

/-- The client is given a ROLLBACK tag without a warning, and its transaction is
committed. -/
theorem committed_answered_rollback : Reaches grammar false fresh answeredRollback ∧
      ("tx", Told.rolledBack) ∈ answeredRollback.told ∧
      answeredRollback.engine.fate "tx" = some .committed ∧ ¬ answeredRollback.Honest := by
  have told : ("tx", Told.rolledBack) ∈ answeredRollback.told := by decide
  have fate : answeredRollback.engine.fate "tx" = some .committed := rfl
  refine ⟨answeredRollback_reached, told, fate, fun honest => ?_⟩
  exact absurd (honest.told "tx" .rolledBack told) (by rw [Told.isTrueOf, fate]; decide)

end Sample

end World

end LagrangeDb.Pgwire
