import LagrangeDb.Data.Text

namespace LagrangeDb.Participant

open Data

/-! The pinned bytes of a participant transaction. A JSON text is represented by what its readers
see. -/

inductive Decision where
  | commit
  | rollback
deriving DecidableEq

inductive Param where
  | null
  | bool (value : Bool)
  | integer (value : Int)
  | text (value : String)
  | other (spelling : String)
deriving DecidableEq

structure Operation where
  entryId : Option String
  sql : String
  params : List Param
deriving DecidableEq

/-- `operations` is what `operationsOf` reads from the text, `none` when the
text is not a JSON array of operations. -/
structure OperationsText where
  spelling : String
  operations : Option (List Operation)
deriving DecidableEq

structure Validation where
  (partitionId generationDigest : String)
  originIndex : Nat
deriving DecidableEq

inductive ValidationText where
  | rendered (evidence : Validation)
  | other (spelling : String) (originIndex : Option Int)
deriving DecidableEq

structure DecisionBody where
  transactionId : String
  decision : Decision
  participants : List (String × Option String)
deriving DecidableEq

/-- A text that is not the rendering of a record is never a canonical
decision, so only its spelling matters. -/
inductive DecisionText where
  | rendered (body : DecisionBody)
  | other (spelling : String)
deriving DecidableEq

inductive HashedText where
  | prepared (operations : OperationsText) (validation : ValidationText)
  | generation (value : Nat)
  | decision (text : DecisionText)
deriving DecidableEq

inductive FailureCode where
  | identityRequired
  | identityMismatch
  | terminal
  | prepareRefused
  | prepareContentConflict
  | reserved
  | notPrepared
  | commitRefused
  | decisionBindingRequired
  | decisionDigestMismatch
  | decisionConflict
deriving DecidableEq

structure Identity where
  sessionId : Option String
  (transactionId participantId commitMode : String)
  transactionEpoch : Int
deriving DecidableEq

structure PrepareCommand where
  entryId : String
  identity : Identity
  operationsText : OperationsText
  validationText : ValidationText
  preparedDigest : String
deriving DecidableEq

structure DecisionCommand where
  entryId : String
  identity : Identity
  decision : Decision
  preparedDigest : Option String
  decisionText : DecisionText
  decisionDigest : String
deriving DecidableEq

structure GenerationOriginCommand where
  (entryId partitionId : String)
deriving DecidableEq

def isNonEmptyString (text : String) : Bool := text != ""

def maxSafeInteger : Int := 2 ^ 53 - 1

def isSafeInteger (value : Int) : Bool :=
  decide (-maxSafeInteger ≤ value) && decide (value ≤ maxSafeInteger)

def participantIdOf (transactionId partitionId : String) : String :=
  transactionId ++ ":" ++ partitionId

def prepareEntryIdOf (participantId : String) : String := participantId ++ ":" ++ "prepare"

def decisionEntryIdOf (participantId decisionDigest : String) : String :=
  participantId ++ ":" ++ "decision" ++ ":" ++ decisionDigest

def generationOriginEntryIdOf (partitionId : String) : String :=
  partitionId ++ ":" ++ "generation-origin"

def operationOutcomeKeyOf (participantId : String) (ordinal : Nat) : String :=
  "txop" ++ ":" ++ participantId ++ ":" ++ toString ordinal

def committedStatementEntryKey (entryId : String) : String := "entry:" ++ entryId

variable {first second partitionId : String}

theorem participantIdOf_injective
    (h : participantIdOf first partitionId = participantIdOf second partitionId) : first = second := by
  unfold participantIdOf at h
  exact (String.append_left_inj _).mp ((String.append_left_inj _).mp h)

theorem operationOutcomeKeyOf_injective (h : operationOutcomeKeyOf first left =
      operationOutcomeKeyOf second right) : first = second ∧ left = right := by
  unfold operationOutcomeKeyOf at h
  obtain ⟨hids, hordinals⟩ := Text.join_ordinal_injective h
  exact ⟨(String.append_right_inj _).mp hids, hordinals⟩

theorem operationOutcomeKeyOf_ne_entryKey (participantId : String)
    (ordinal : Nat) (entryId : String) : operationOutcomeKeyOf participantId ordinal ≠
      committedStatementEntryKey entryId := by
  intro h
  have hlists := congrArg (fun text => text.toList.head?) h
  simp [operationOutcomeKeyOf, committedStatementEntryKey, String.toList_append] at hlists

def operationsOf (text : OperationsText) : Option (List Operation) := text.operations

def carriedOriginIndexOf : ValidationText → Option Int
  | .rendered evidence =>
    if isSafeInteger evidence.originIndex then some evidence.originIndex
    else none
  | .other _ originIndex => originIndex.filter isSafeInteger

def identityRefusalOf (carrier : Identity) (partitionId : String) : Option FailureCode :=
  if !isNonEmptyString carrier.transactionId ||
      !isNonEmptyString carrier.participantId ||
      !isNonEmptyString carrier.commitMode ||
      !isSafeInteger carrier.transactionEpoch then
    some .identityRequired
  else if carrier.participantId =
      participantIdOf carrier.transactionId partitionId then none
  else some .identityMismatch

theorem participantId_of_identityRefusalOf
    (h : identityRefusalOf carrier partitionId = none) : carrier.participantId =
      participantIdOf carrier.transactionId partitionId := by
  unfold identityRefusalOf at h
  split at h
  · cases h
  split at h
  · assumption
  · cases h

section Digests

variable (sha256Hex : HashedText → String)

def preparedDigestOf (operations : OperationsText) (validation : ValidationText) : String :=
  sha256Hex (.prepared operations validation)

def validationTextOf (generation : Nat) (partitionId : String) (originIndex : Nat) : ValidationText :=
  .rendered {
    partitionId
    generationDigest := sha256Hex (.generation generation)
    originIndex
  }

def validDecisionEntries (body : DecisionBody) :
    Option String → List (String × Option String) → Bool
  | _, [] => true
  | previous, (participantId, digest) :: rest =>
    isNonEmptyString participantId &&
    Text.beginsProperly (body.transactionId ++ ":") participantId &&
    (match previous with
      | none => true
      | some before => Text.less before participantId) &&
    (match digest with
      | some value => isNonEmptyString value
      | none => body.decision = .rollback) &&
    validDecisionEntries body (some participantId) rest

def validDecisionParticipants (body : DecisionBody) : Bool :=
  validDecisionEntries body none body.participants

theorem validDecisionEntries_digest {body : DecisionBody}
    (hcommit : body.decision = .commit) (entries : List (String × Option String)) (previous : Option String)
    (h : validDecisionEntries body previous entries = true)
    (hmem : (participantId, digest) ∈ entries) : digest.isSome = true := by
  induction entries generalizing previous with
  | nil => cases hmem
  | cons entry rest ih =>
    obtain ⟨name, value⟩ := entry
    simp only [validDecisionEntries, Bool.and_eq_true] at h
    obtain ⟨⟨-, hdigest⟩, hrest⟩ := h
    cases hmem with
    | head =>
      cases digest with
      | none => simp [hcommit] at hdigest
      | some value => rfl
    | tail _ hmem => exact ih _ hrest hmem

structure DecisionBinding where
  transactionId : Option String
  decision : Option Decision
  decisionText : DecisionText
  decisionDigest : String

structure DecisionRecord where
  body : DecisionBody
  decisionDigest : String
deriving DecidableEq

def DecisionRecord.decisionText (record : DecisionRecord) : DecisionText := .rendered record.body

def canonicalDecisionRecord (binding : DecisionBinding) : Option DecisionRecord :=
  match binding.decisionText with
  | .other _ => none
  | .rendered body =>
    if !isNonEmptyString body.transactionId ||
        !validDecisionParticipants body ||
        (binding.transactionId.any (· != body.transactionId)) ||
        (binding.decision.any (· != body.decision)) ||
        sha256Hex (.decision (.rendered body)) != binding.decisionDigest then
      none
    else some { body, decisionDigest := binding.decisionDigest }

structure CanonicalRecord (binding : DecisionBinding)
    (record : DecisionRecord) : Prop where
  text : binding.decisionText = record.decisionText
  digest : binding.decisionDigest = record.decisionDigest
  decision : ∀ decision, binding.decision = some decision → record.body.decision = decision
  participants : validDecisionParticipants record.body = true

variable {record : DecisionRecord}

theorem canonicalDecisionRecord_some (h : canonicalDecisionRecord sha256Hex binding = some record) :
    CanonicalRecord binding record := by
  unfold canonicalDecisionRecord at h
  split at h
  · cases h
  next body htext =>
  split at h
  · cases h
  next hvalid =>
  cases h
  simp only [Bool.or_eq_true, Bool.not_eq_true', not_or, Bool.not_eq_false] at hvalid
  refine ⟨htext, rfl, ?_, hvalid.1.1.1.2⟩
  intro decision hdecision
  have hsame : decision = body.decision := by simpa [hdecision] using hvalid.1.2
  exact hsame.symm

def sortEntries (entries : List (String × Option String)) : List (String × Option String) :=
  entries.insertionSort fun left right => Text.less right.1 left.1 = false

def buildDecisionRecord (transactionId : String) (decision : Decision)
    (participants : List (String × Option String)) : Option DecisionRecord :=
  let decisionText := DecisionText.rendered
    { transactionId, decision, participants := sortEntries participants }
  canonicalDecisionRecord sha256Hex {
    transactionId := none
    decision := none
    decisionText
    decisionDigest := sha256Hex (.decision decisionText)
  }

theorem mem_sortEntries {entry : String × Option String} :
    entry ∈ sortEntries entries ↔ entry ∈ entries :=
  List.mem_insertionSort _

theorem buildDecisionRecord_some
    (h : buildDecisionRecord sha256Hex transactionId decision participants =
      some record) : record.body.decision = decision ∧
      (decision = .commit → ∀ entry, entry ∈ participants → entry.2.isSome = true) := by
  unfold buildDecisionRecord at h
  have hcanonical := canonicalDecisionRecord_some sha256Hex h
  have hbody : DecisionBody.mk transactionId decision (sortEntries participants) = record.body :=
    DecisionText.rendered.inj hcanonical.text
  refine ⟨by rw [← hbody], ?_⟩
  rintro rfl ⟨participantId, digest⟩ hmem
  have hvalid := hcanonical.participants
  rw [← hbody] at hvalid
  exact validDecisionEntries_digest rfl _ none hvalid (mem_sortEntries.mpr hmem)

def namesPreparedContent (record : DecisionRecord) (participantId : String)
    (decision : Decision) (preparedDigest : Option String) : Bool :=
  match record.body.participants.filter (·.1 = participantId) with
  | [entry] =>
    entry.2 = preparedDigest && (decision = .rollback || preparedDigest.any isNonEmptyString)
  | _ => false

def DecisionCommand.binding (command : DecisionCommand) : DecisionBinding :=
  { transactionId := some command.identity.transactionId
    decision := some command.decision
    decisionText := command.decisionText
    decisionDigest := command.decisionDigest }

def decisionBindingRefusalOf (command : DecisionCommand) : Option FailureCode :=
  if !isNonEmptyString command.decisionDigest then some .decisionBindingRequired
  else
    match canonicalDecisionRecord sha256Hex command.binding with
    | none => some .decisionDigestMismatch
    | some record =>
      if namesPreparedContent record command.identity.participantId
          command.decision command.preparedDigest then none
      else some .decisionDigestMismatch

def isPinnedPrepare (command : PrepareCommand) : Bool :=
  command.preparedDigest =
    preparedDigestOf sha256Hex command.operationsText command.validationText &&
  command.entryId = prepareEntryIdOf command.identity.participantId

def isPinnedDecision (command : DecisionCommand) : Bool :=
  (decisionBindingRefusalOf sha256Hex command).isNone &&
  command.entryId = decisionEntryIdOf command.identity.participantId
    command.decisionDigest

end Digests

def carriesPinnedIdentity (identity : Identity) : Bool :=
  isNonEmptyString identity.transactionId &&
  isNonEmptyString identity.participantId &&
  Text.beginsProperly (identity.transactionId ++ ":") identity.participantId &&
  isNonEmptyString identity.commitMode &&
  isSafeInteger identity.transactionEpoch

def isPinnedGenerationOrigin (command : GenerationOriginCommand) : Bool :=
  isNonEmptyString command.partitionId &&
  command.entryId = generationOriginEntryIdOf command.partitionId

end LagrangeDb.Participant
