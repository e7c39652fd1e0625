import Mathlib.Logic.Relation
import LagrangeDb.Pgwire.Session

namespace LagrangeDb.Pgwire

/-! The engine's side of a session: the explicit transaction it holds, and how it
answers the statements it is sent. -/

/-- What is to become of a transaction. One in doubt may still be committed, a
doomed one may not. -/
inductive Fate where
  | active
  | doubtful
  | doomed
  | committed
  | rolledBack
deriving DecidableEq

namespace Fate

def isFinal : Fate → Bool
  | committed | rolledBack => true
  | _ => false

/-- Only an attempt to commit takes an active transaction to its commit point. -/
def moves (attempt : Bool) : Fate → Fate → Bool
  | active, next => attempt || next = active || next = rolledBack
  | doubtful, next => next ≠ active
  | doomed, next => next = doomed || next = rolledBack
  | committed, next => next = committed
  | rolledBack, next => next = rolledBack

end Fate

structure Engine where
  held : Option String
  fate : String → Option Fate

namespace Engine

def fresh : Engine := ⟨none, fun _ => none⟩

/-- A transaction that came to its end is no longer held. -/
def turn (engine : Engine) (id : String) (fate : Fate) : Engine where
  held := if fate.isFinal then none else some id
  fate := fun other => if other = id then some fate else engine.fate other

/-- The engine holds the transaction the session expects, if it expects one. -/
def admitExpectedTransaction (engine : Engine) : Option String → Bool
  | none => true
  | some expected => engine.held = some expected

def addressed (engine : Engine) (expected : Option String) : Option String :=
  match expected with
  | none => engine.held
  | some id => if engine.held = some id then some id else none

def withSessionTransactionState (engine : Engine) (failure : Failure) : Failure :=
  { failure with sessionTransactionActive := some engine.held.isSome }

end Engine

/-- A failure of a statement that is no end of a transaction, or that the engine
did not stamp. -/
def Failure.isPlain (failure : Failure) : Prop :=
  StatementType.transactionEnd failure.statementType = none

/-- The texts that say nothing was committed are the wire's own. -/
def denials : List String :=
  [ErrorCode.noTransaction, .timeout].filterMap rolledBackBeforeCommitMessage

/-- The tag of an ordinary statement is no transaction's. -/
def StatementType.isOrdinary : Option StatementType → Prop
  | some (.other (some tag)) => tag ≠ "COMMIT" ∧ tag ≠ "ROLLBACK"
  | some (.control _) => False
  | _ => True

def Answer.isOrdinary : Answer → Prop
  | succeeded statementType _ => StatementType.isOrdinary statementType
  | failed failure => failure.isPlain ∧ failure.message ∉ denials
  | provisioningDeadlineExpired => True

/-- How the engine may answer a statement, where it took effect, and the engine
afterwards. A statement takes effect in the transaction the engine holds. -/
inductive Engine.Runs (engine : Engine) (control : Option Control)
    (expected : Option String) :
    Answer → Option (Option String) → Engine → Prop where
  /-- Before execution: syntax, policy, admission, pressure, or a thrown error. -/
  | refused (failure : Failure) : failure.isPlain → failure.message ∉ denials →
      Runs engine control expected (.failed failure) none engine
  | executed (answer : Answer) : control = none →
      engine.admitExpectedTransaction expected = true → answer.isOrdinary →
      Runs engine control expected answer (some engine.held) engine
  | began (id : String) : control = some .begin → engine.held = none →
      engine.admitExpectedTransaction expected = true → engine.fate id = none →
      id.isEmpty = false →
      Runs engine control expected (.succeeded (some (.control .begin)) (some id)) none
        (engine.turn id .active)
  | committed (id : String) (fate : Fate) (tag : Option String) :
      control = some .commit → engine.addressed expected = some id →
      engine.fate id = some fate → fate.moves true .committed = true →
      Runs engine control expected (.succeeded (some (.control .commit)) tag)
        none (engine.turn id .committed)
  | commitFailed (id : String) (fate next : Fate) (failure : Failure) :
      control = some .commit → engine.addressed expected = some id →
      engine.fate id = some fate → fate.moves true next = true →
      failure.statementType = some (.control .commit) →
      failure.message ∉ denials → failure.errorCode ≠ some .emptyStatement →
      Runs engine control expected
        (.failed ((engine.turn id next).withSessionTransactionState failure))
        none (engine.turn id next)
  /-- The record of the ended transaction says whether it reached its commit
  point. -/
  | commitMissing (failure : Failure) :
      control = some .commit → engine.addressed expected = none →
      failure.statementType = some (.control .commit) →
      failure.message ∉ denials → failure.errorCode ≠ some .emptyStatement →
      (failure.commitPointReached = some false → ∀ id, expected = some id →
        engine.fate id = some .rolledBack) →
      Runs engine control expected
        (.failed (engine.withSessionTransactionState failure)) none engine
  | rolledBack (id : String) (fate : Fate) (tag : Option String) :
      control = some .rollback → engine.addressed expected = some id →
      engine.fate id = some fate → fate.moves false .rolledBack = true →
      Runs engine control expected (.succeeded (some (.control .rollback)) tag)
        none (engine.turn id .rolledBack)
  | rollbackFailed (id : String) (fate next : Fate) (failure : Failure) :
      control = some .rollback → engine.addressed expected = some id →
      engine.fate id = some fate → fate.moves false next = true →
      failure.statementType = some (.control .rollback) →
      failure.errorCode ≠ some .noTransaction →
      failure.message ∉ denials → failure.errorCode ≠ some .emptyStatement →
      Runs engine control expected
        (.failed ((engine.turn id next).withSessionTransactionState failure))
        none (engine.turn id next)
  /-- A ROLLBACK that threw is answered without a stamp. -/
  | rollbackThrew (id : String) (fate next : Fate) (failure : Failure) :
      control = some .rollback → engine.addressed expected = some id →
      engine.fate id = some fate → fate.moves false next = true →
      failure.isPlain → failure.message ∉ denials →
      Runs engine control expected (.failed failure) none (engine.turn id next)
  | rollbackMissing (failure : Failure) :
      control = some .rollback → engine.addressed expected = none →
      failure.statementType = some (.control .rollback) →
      failure.message ∉ denials → failure.errorCode ≠ some .emptyStatement →
      Runs engine control expected
        (.failed (engine.withSessionTransactionState failure)) none engine

/-- Between two statements the engine may drop the transaction it holds. -/
inductive Engine.Drops (engine : Engine) : Engine → Prop where
  | dropped (id : String) (fate next : Fate) : engine.held = some id →
      engine.fate id = some fate → fate.moves false next = true →
      Drops engine (engine.turn id next)

inductive Told where
  | committed
  | rolledBack
  | nothingCommitted
deriving DecidableEq

/-- That nothing was committed is true of a doomed transaction too. -/
def Told.isTrueOf : Told → Option Fate → Prop
  | committed, fate => fate = some .committed
  | rolledBack, fate => fate = some .rolledBack
  | nothingCommitted, fate => fate = some .doomed ∨ fate = some .rolledBack

def toldBy (replies : List Reply) : List Told :=
  (if .commandComplete "COMMIT" ∈ replies then [.committed] else []) ++
  (if .commandComplete "ROLLBACK" ∈ replies ∧
      previousOutcomeUnknownNotice ∉ replies then [.rolledBack] else []) ++
  (if ∃ text ∈ denials, .errorResponse "25P04" text ∈ replies then [.nothingCommitted] else [])

structure World where
  session : Session
  engine : Engine
  told : List (String × Told)
  /-- The transaction of a statement's block, and the one it took effect in. -/
  effects : List (String × Option String)
  /-- The session's state and the kind of each statement the engine was sent. -/
  reached : List (TransactionState × Option Control)

namespace World

def fresh : World := ⟨.fresh, .fresh, [], [], []⟩

def answered (world : World) (control : Option Control) (answer : Answer)
    (effect : Option (Option String)) (engine : Engine) : World :=
  let (session, replies) := answerStatement world.session answer
  let block := world.session.transactionId.toList
  { session
    engine
    told := world.told ++ block.flatMap fun id => (toldBy replies).map fun told => (id, told)
    effects := world.effects ++ block.flatMap fun id => effect.toList.map fun place => (id, place)
    reached := world.reached ++ [(world.session.txState, control)] }

/-- A COMMIT that is answered with `commitPointReached: false` is for a
transaction that is not committed any more. -/
def Truthful (world : World) (answer : Answer) (engine : Engine) : Prop :=
  ∀ failure, answer = .failed failure → failure.statementType = some (.control .commit) →
    failure.commitPointReached = some false →
    ∀ id, world.session.transactionId = some id →
      engine.fate id = some .doomed ∨ engine.fate id = some .rolledBack

/-- One statement of the client, or a drop. A refused statement changes
nothing. -/
inductive Step (grammar : String → Option Control) (truthful : Bool)
    (world : World) : World → Prop where
  | statement (query text : String) (answer : Answer)
      (effect : Option (Option String)) (engine : Engine) :
      world.session.admitStatement grammar query = some text →
      world.engine.Runs (grammar text) world.session.transactionId answer effect engine →
      (truthful = true → world.Truthful answer engine) →
      Step grammar truthful world (world.answered (grammar text) answer effect engine)
  | dropped (engine : Engine) : world.engine.Drops engine →
      Step grammar truthful world { world with engine }

def Reaches (grammar : String → Option Control) (truthful : Bool) : World → World → Prop :=
  Relation.ReflTransGen (Step grammar truthful)

structure Honest (world : World) : Prop where
  idle : world.session.txState = .idle → world.engine.held = none
  failed : ∀ control, (TransactionState.failed, control) ∈ world.reached → control = some .rollback
  inside : ∀ id place, (id, place) ∈ world.effects → place = some id
  told : ∀ id told, (id, told) ∈ world.told → told.isTrueOf (world.engine.fate id)

end World

end LagrangeDb.Pgwire
