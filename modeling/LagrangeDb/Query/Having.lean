import LagrangeDb.Query.FanoutPlan
import LagrangeDb.Query.Meaning

namespace LagrangeDb.Query

open LiveQuery

/-! HAVING over the combined rows of the groups. The evaluator has two truth values
and the comparisons of the language. -/

/-- There are no rows where the evaluation of one throws. An entry may have more
than the row that is read. -/
def applyHaving {Entry : Type} (rowOf : Entry → Row) (having : Expr) :
    List Entry → Option (List Entry)
  | [] => some []
  | entry :: rest => do
    let answer ← evaluateExpression (rowOf entry) [] having
    let kept ← applyHaving rowOf having rest
    return if answer.truthy then entry :: kept else kept

section

variable (sqlite : Sqlite) (affinity : Option String → String → Affinity) (row : Row)

/-- A null is unlike any other value, and counts as zero where it is ordered; a missing
value is in no order. -/
def NullRejects (first second : Js.Value) : BinaryOperator → Prop
  | .equals => first ≠ second
  | .notEquals => first = second
  | .less => first.toNumber.less second.toNumber = false
  | .lessOrEqual => first.toNumber.lessOrEqual second.toNumber = false
  | .greater => second.toNumber.less first.toNumber = false
  | .greaterOrEqual => second.toNumber.lessOrEqual first.toNumber = false
  | _ => False

/-- What SQLite makes of a comparison that the language does not answer with more.
Two values are compared alike. With a null it is unknown, and the language has to
answer false. -/
inductive Compared (left right : Affinity) (operator : BinaryOperator) (first second : Js.Value) :
    Option Bool → Prop where
  | known : Comparable sqlite left right operator first second →
      Compared left right operator first second (some (compareWith operator first second))
  | unknown : (first.isNullish = true ∨ second.isNullish = true) →
      NullRejects first second operator → Compared left right operator first second none

/-- Expressions that are answered with a boolean. -/
def isTest : Expr → Bool
  | .binary .and left right | .binary .or left right => isTest left && isTest right
  | .binary operator _ _ => operator.isComparison
  | .nullTest _ _ | .inList _ _ _ | .between _ _ _ | .like _ _ _ | .unary .not _ => true
  | _ => false

/-- Expressions with the given truth, which the evaluator answers with true just where
they are true. An unknown one is answered with false, so that it is not to be
negated. -/
inductive HavingAgreeable : Option Bool → Expr → Prop where
  | compare (operator : BinaryOperator) :
      HavingOperand row left first → HavingOperand row right second →
      Compared sqlite ((row.groupReading affinity).affinityOf left)
        ((row.groupReading affinity).affinityOf right) operator first second truth →
      HavingAgreeable truth (.binary operator left right)
  | nullTest (negated : Bool) : HavingOperand row operand value →
      HavingAgreeable (some (value.isNullish != negated)) (.nullTest operand negated)
  | knownTest (negated : Bool) : HavingAgreeable (some truth) operand → isTest operand = true →
      HavingAgreeable (some negated) (.nullTest operand negated)
  | inList (negated : Bool) : HavingOperand row expression value →
      List.Forall₂ (HavingOperand row) values members →
      List.Forall₂ (fun member truth => Compared sqlite
        ((row.groupReading affinity).affinityOf expression) .blob .equals value member truth)
        members truths →
      (negated = true → truths.foldr Truth.or (some false) ≠ none) →
      HavingAgreeable ((truths.foldr Truth.or (some false)).map (· != negated))
        (.inList expression values negated)
  | inListFound (negated : Bool) : HavingOperand row expression value →
      List.Forall₂ (HavingOperand row) values members → member ∈ members →
      Comparable sqlite ((row.groupReading affinity).affinityOf expression) .blob .equals
        value member → value.strictEquals member = true →
      HavingAgreeable (some !negated) (.inList expression values negated)
  | between : HavingOperand row expression value → HavingOperand row low lowValue →
      HavingOperand row high highValue →
      Compared sqlite ((row.groupReading affinity).affinityOf expression)
        ((row.groupReading affinity).affinityOf low) .greaterOrEqual value lowValue above →
      Compared sqlite ((row.groupReading affinity).affinityOf expression)
        ((row.groupReading affinity).affinityOf high) .lessOrEqual value highValue under →
      HavingAgreeable (Truth.and above under) (.between expression low high)
  | betweenBelow : HavingOperand row expression value → HavingOperand row low lowValue →
      HavingOperand row high highValue →
      Compared sqlite ((row.groupReading affinity).affinityOf expression)
        ((row.groupReading affinity).affinityOf low) .greaterOrEqual value lowValue above →
      above ≠ some true →
      HavingAgreeable (Truth.and above (sqlite.compare .lessOrEqual
        ((row.groupReading affinity).affinityOf expression)
        ((row.groupReading affinity).affinityOf high) (Sqlite.bound value)
        (Sqlite.bound highValue))) (.between expression low high)
  | betweenAbove : HavingOperand row expression value → HavingOperand row low lowValue →
      HavingOperand row high highValue →
      Compared sqlite ((row.groupReading affinity).affinityOf expression)
        ((row.groupReading affinity).affinityOf high) .lessOrEqual value highValue under →
      under ≠ some true →
      HavingAgreeable (Truth.and (sqlite.compare .greaterOrEqual
        ((row.groupReading affinity).affinityOf expression)
        ((row.groupReading affinity).affinityOf low) (Sqlite.bound value)
        (Sqlite.bound lowValue)) under) (.between expression low high)
  | like (negated : Bool) :
      HavingOperand row expression value → HavingOperand row pattern patternValue →
      LikeAlike sqlite value patternValue →
      HavingAgreeable ((sqlite.isLike value patternValue).map (· != negated))
        (.like expression pattern negated)
  | likeNull (negated : Bool) : HavingOperand row expression value →
      HavingOperand row pattern patternValue →
      (value.isNullish = true ∨ patternValue.isNullish = true) →
      HavingAgreeable none (.like expression pattern negated)
  | number : HavingOperand row operand (.number value) → value ≠ .nan →
      HavingAgreeable (some (value ≠ .finite 0)) operand
  | text : HavingOperand row operand (.string value) →
      (value = "" ↔ sqlite.castNumber value = .finite 0) →
      HavingAgreeable (some (value ≠ "")) operand
  | boolean : HavingOperand row operand (.boolean value) → HavingAgreeable (some value) operand
  | null : HavingOperand row operand value →
      value.isNullish = true → HavingAgreeable none operand
  | and : HavingAgreeable first left → HavingAgreeable second right →
      HavingAgreeable (Truth.and first second) (.binary .and left right)
  | or : HavingAgreeable first left → HavingAgreeable second right →
      HavingAgreeable (Truth.or first second) (.binary .or left right)
  | not : HavingAgreeable (some truth) operand →
      HavingAgreeable (some !truth) (.unary .not operand)

/-- What the evaluator answers to an expression and what SQLite makes of it. -/
def Answered (arithmetic : Arithmetic) (expression : Expr) (truth : Option Bool) : Prop :=
  ∃ answer, evaluateExpression row [] expression = some answer ∧
    answer.truthy = decide (truth = some true) ∧
    condition sqlite arithmetic (row.groupReading affinity) expression = truth ∧
    (isTest expression = true → answer.isNullish = false)

end

section

variable {sqlite : Sqlite} {arithmetic : Arithmetic}
  {affinity : Option String → String → Affinity} {row : Row} {value : Js.Value}

theorem bound_nullish (null : value.isNullish = true) : Sqlite.bound value = .null := by
  cases value <;> first | rfl | cases null

theorem bound_beq_null (value : Js.Value) : (Sqlite.bound value == .null) = value.isNullish := by
  cases value <;> rfl

variable {operator : BinaryOperator}

theorem evaluateOperator_comparison (compares : operator.isComparison = true)
    (first second : Js.Value) :
    evaluateOperator operator first second = .boolean (compareWith operator first second) := by
  cases operator <;> first | rfl | cases compares

theorem truthy_and (left right : Js.Value) :
    (evaluateOperator .and left right).truthy = (left.truthy && right.truthy) := by
  rw [evaluateOperator]
  split <;> simp_all

theorem truthy_or (left right : Js.Value) :
    (evaluateOperator .or left right).truthy = (left.truthy || right.truthy) := by
  rw [evaluateOperator]
  split <;> simp_all

theorem isNullish_and (one : left.isNullish = false) (other : right.isNullish = false) :
    (evaluateOperator .and left right).isNullish = false := by
  rw [evaluateOperator]
  split <;> assumption

theorem isNullish_or (one : left.isNullish = false) (other : right.isNullish = false) :
    (evaluateOperator .or left right).isNullish = false := by
  rw [evaluateOperator]
  split <;> assumption

theorem condition_comparison (compares : operator.isComparison = true) :
    condition sqlite arithmetic reading (.binary operator left right) =
      sqlite.compare operator (reading.affinityOf left) (reading.affinityOf right)
        (meaning sqlite arithmetic reading left) (meaning sqlite arithmetic reading right) := by
  have simple : operator ≠ .and ∧ operator ≠ .or := by constructor <;> rintro rfl <;> cases compares
  rw [condition, meaning, if_pos compares, Sqlite.truth_toValue]
  all_goals first | exact simple.1 | exact simple.2

theorem textOf_isSome (text : (sqlite.textOf value).isSome) :
    value.isNullish = false ∧ Sqlite.bound value = value := by
  cases value <;> first | exact ⟨rfl, rfl⟩ | cases text

theorem isLike_nullish {pattern : Js.Value}
    (null : value.isNullish = true ∨ pattern.isNullish = true) :
    sqlite.isLike (Sqlite.bound value) (Sqlite.bound pattern) = none := by
  rcases null with null | null
  · rw [bound_nullish null]
    rfl
  · rw [bound_nullish null]
    cases Sqlite.bound value <;> rfl

variable {members : List Js.Value}

section

variable {left right : Affinity} {first second : Js.Value} {truth : Option Bool}

theorem Comparable.bound_eq (comparable : Comparable sqlite left right operator first second) :
    Sqlite.bound first = first ∧ Sqlite.bound second = second := by
  cases comparable with
  | unequal _ mixed | converted _ mixed =>
    cases first <;> cases second <;> first | exact ⟨rfl, rfl⟩ | cases mixed
  | _ => exact ⟨rfl, rfl⟩

theorem NullRejects.isComparison (rejects : NullRejects first second operator) :
    operator.isComparison = true := by
  cases operator <;> first | rfl | cases rejects

theorem NullRejects.compareWith_eq (rejects : NullRejects first second operator)
    (null : first.isNullish = true ∨ second.isNullish = true) :
    compareWith operator first second = false := by
  have ordered : first.less second = first.toNumber.less second.toNumber ∧
      second.less first = second.toNumber.less first.toNumber ∧
      first.lessOrEqual second = first.toNumber.lessOrEqual second.toNumber ∧
      second.lessOrEqual first = second.toNumber.lessOrEqual first.toNumber := by
    rcases null with null | null
    · cases first <;> simp_all [Js.Value.isNullish, Js.Value.less, Js.Value.lessOrEqual]
    · cases second <;> simp_all [Js.Value.isNullish, Js.Value.less, Js.Value.lessOrEqual]
  have equal : first.strictEquals second = decide (first = second) := by
    rcases null with null | null
    · cases first <;> first | (cases second <;> rfl) | cases null
    · cases second <;> first | (cases first <;> rfl) | cases null
  cases operator <;> simp_all [compareWith, NullRejects]

theorem Compared.isComparison (compared : Compared sqlite left right operator first second truth) :
    operator.isComparison = true := by
  cases compared with
  | known comparable => exact comparable.isComparison
  | unknown null rejects => exact rejects.isComparison

/-- The language answers true where SQLite does. -/
theorem Compared.spec (compared : Compared sqlite left right operator first second truth) :
    compareWith operator first second = decide (truth = some true) ∧
      sqlite.compare operator left right (Sqlite.bound first) (Sqlite.bound second) = truth := by
  cases compared with
  | known comparable =>
    refine ⟨by simp, ?_⟩
    rw [comparable.bound_eq.1, comparable.bound_eq.2, comparable.compare_eq]
  | unknown null rejects =>
    exact ⟨rejects.compareWith_eq null, compare_nullish (null.imp bound_nullish bound_nullish)⟩

theorem decide_or (first second : Option Bool) :
    decide (Truth.or first second = some true) =
      (decide (first = some true) || decide (second = some true)) := by
  rw [Bool.eq_iff_iff, Bool.or_eq_true, decide_eq_true_iff, decide_eq_true_iff,
    decide_eq_true_iff, Truth.or_eq_true]

theorem decide_and (first second : Option Bool) :
    decide (Truth.and first second = some true) =
      (decide (first = some true) && decide (second = some true)) := by
  rw [Bool.eq_iff_iff, Bool.and_eq_true, decide_eq_true_iff, decide_eq_true_iff,
    decide_eq_true_iff, Truth.and_eq_true]

theorem members_spec {affinity : Affinity} {truths : List (Option Bool)}
    (each : List.Forall₂ (fun member truth =>
      Compared sqlite affinity .blob .equals value member truth) members truths) :
    (members.any fun member => member.strictEquals value) =
        decide (truths.foldr Truth.or (some false) = some true) ∧
      sqlite.isIn affinity (Sqlite.bound value) (members.map Sqlite.bound) =
        truths.foldr Truth.or (some false) := by
  induction each with
  | nil => exact ⟨rfl, rfl⟩
  | cons compared _ induction =>
    obtain ⟨answered, means⟩ := compared.spec
    constructor
    · rw [List.any_cons, induction.1, strictEquals_comm, List.foldr_cons, decide_or, ← answered]
      rfl
    · rw [List.foldr_cons, ← induction.2, ← means]
      rfl

end

section

variable {truth : Option Bool} {expression : Expr}

theorem Answered.of_boolean (evaluated : evaluateExpression row [] expression = some (.boolean
      (decide (truth = some true))))
    (means : condition sqlite arithmetic (row.groupReading affinity) expression = truth) :
    Answered sqlite affinity row arithmetic expression truth :=
  ⟨_, evaluated, rfl, means, fun _ => rfl⟩

theorem Compared.answered (one : HavingOperand row left first) (other : HavingOperand row right second)
    (compared : Compared sqlite ((row.groupReading affinity).affinityOf left)
      ((row.groupReading affinity).affinityOf right) operator first second truth) :
    Answered sqlite affinity row arithmetic (.binary operator left right) truth := by
  have compares := compared.isComparison
  refine Answered.of_boolean ?_ ?_
  · rw [evaluateExpression, one.evaluated, other.evaluated, ← compared.spec.1,
      ← evaluateOperator_comparison compares]
    rfl
  · rw [condition_comparison compares, one.means, other.means, compared.spec.2]

theorem HavingOperand.answered_nullTest (operand : HavingOperand row expression value)
    (negated : Bool) : Answered sqlite affinity row arithmetic (.nullTest expression negated)
      (some (value.isNullish != negated)) := by
  refine Answered.of_boolean ?_ ?_
  · rw [evaluateExpression, operand.evaluated]
    cases negated <;> simp
  · rw [condition, meaning, Sqlite.truth_toValue, operand.means, bound_beq_null]

theorem Answered.knownTest {known : Bool}
    (answered : Answered sqlite affinity row arithmetic expression (some known))
    (test : isTest expression = true) (negated : Bool) :
    Answered sqlite affinity row arithmetic (.nullTest expression negated) (some negated) := by
  obtain ⟨answer, evaluated, -, means, present⟩ := answered
  have notNull : meaning sqlite arithmetic (row.groupReading affinity) expression ≠ .null := by
    intro null
    rw [condition, null] at means
    cases means
  refine Answered.of_boolean ?_ ?_
  · rw [evaluateExpression, evaluated]
    cases negated <;> simp [present test]
  · rw [condition, meaning, Sqlite.truth_toValue, beq_false_of_ne notNull, Bool.false_bne]

theorem answered_inList {truths : List (Option Bool)} (negated : Bool)
    (operand : HavingOperand row expression value)
    (operands : List.Forall₂ (HavingOperand row) values members)
    (each : List.Forall₂ (fun member truth => Compared sqlite
      ((row.groupReading affinity).affinityOf expression) .blob .equals value member truth)
      members truths)
    (known : negated = true → truths.foldr Truth.or (some false) ≠ none) :
    Answered sqlite affinity row arithmetic (.inList expression values negated)
      ((truths.foldr Truth.or (some false)).map (· != negated)) := by
  obtain ⟨answered, means⟩ := members_spec each
  refine Answered.of_boolean ?_ ?_
  · rw [evaluateExpression, operand.evaluated, operands_evaluated operands]
    simp only [Option.bind_eq_bind, Option.bind_some, answered]
    generalize truths.foldr Truth.or (some false) = found at known
    rcases negated with _ | _ <;> rcases found with _ | _ | _ <;> first | rfl | simp at known
  · rw [condition, meaning, Sqlite.truth_toValue, operand.means, operands_mean operands,
      means]
    generalize truths.foldr Truth.or (some false) = found
    rcases negated with _ | _ <;> rcases found with _ | _ | _ <;> rfl

theorem answered_inListFound {member : Js.Value} (negated : Bool)
    (operand : HavingOperand row expression value)
    (operands : List.Forall₂ (HavingOperand row) values members) (among : member ∈ members)
    (alike : Comparable sqlite ((row.groupReading affinity).affinityOf expression) .blob .equals
      value member) (equal : value.strictEquals member = true) :
    Answered sqlite affinity row arithmetic (.inList expression values negated)
      (some !negated) := by
  have found : (members.any fun member => member.strictEquals value) = true :=
    List.any_eq_true.mpr ⟨member, among, (strictEquals_comm _ _).trans equal⟩
  have isIn : sqlite.isIn ((row.groupReading affinity).affinityOf expression)
      (Sqlite.bound value) (members.map Sqlite.bound) = some true := by
    refine isIn_found (List.mem_map_of_mem among) ?_
    rw [alike.bound_eq.1, alike.bound_eq.2, alike.compare_eq]
    exact congrArg some equal
  refine Answered.of_boolean ?_ ?_
  · rw [evaluateExpression, operand.evaluated, operands_evaluated operands]
    simp only [Option.bind_eq_bind, Option.bind_some, found]
    cases negated <;> rfl
  · rw [condition, meaning, Sqlite.truth_toValue, operand.means, operands_mean operands, isIn]
    cases negated <;> rfl

/-- The two comparisons of a BETWEEN, of which one may be anything where the other is
not true. -/
theorem answered_between (operand : HavingOperand row expression value)
    (isLow : HavingOperand row low lowValue) (isHigh : HavingOperand row high highValue)
    (answered : (lowValue.lessOrEqual value && value.lessOrEqual highValue) =
      decide (truth = some true))
    (means : Truth.and (sqlite.compare .greaterOrEqual
        ((row.groupReading affinity).affinityOf expression)
        ((row.groupReading affinity).affinityOf low) (Sqlite.bound value) (Sqlite.bound lowValue))
      (sqlite.compare .lessOrEqual ((row.groupReading affinity).affinityOf expression)
        ((row.groupReading affinity).affinityOf high) (Sqlite.bound value)
        (Sqlite.bound highValue)) = truth) :
    Answered sqlite affinity row arithmetic (.between expression low high) truth := by
  refine Answered.of_boolean ?_ ?_
  · rw [evaluateExpression, operand.evaluated, isLow.evaluated, isHigh.evaluated, ← answered]
    rfl
  · rw [condition, meaning, Sqlite.truth_toValue, operand.means, isLow.means, isHigh.means,
      means]

theorem LikeAlike.answered (alike : LikeAlike sqlite value patternValue) (negated : Bool)
    (operand : HavingOperand row expression value)
    (isPattern : HavingOperand row pattern patternValue) :
    Answered sqlite affinity row arithmetic (.like expression pattern negated)
      ((sqlite.isLike value patternValue).map (· != negated)) := by
  obtain ⟨known, bound⟩ := textOf_isSome (Option.isSome_of_eq_some alike.text)
  obtain ⟨knownToo, boundToo⟩ := textOf_isSome (Option.isSome_of_eq_some alike.patternText)
  refine Answered.of_boolean ?_ ?_
  · rw [evaluateExpression, operand.evaluated, isPattern.evaluated, alike.isLike_eq]
    simp only [Option.bind_eq_bind, Option.bind_some, evaluateLike, known, knownToo]
    cases negated <;> simp
  · rw [condition, meaning, Sqlite.truth_toValue, operand.means, isPattern.means, bound,
      boundToo]
    cases negated <;> simp [alike.isLike_eq, Truth.not]

theorem answered_likeNull (negated : Bool) (operand : HavingOperand row expression value)
    (isPattern : HavingOperand row pattern patternValue)
    (null : value.isNullish = true ∨ patternValue.isNullish = true) :
    Answered sqlite affinity row arithmetic (.like expression pattern negated) none := by
  refine Answered.of_boolean ?_ ?_
  · rw [evaluateExpression, operand.evaluated, isPattern.evaluated]
    simp [evaluateLike, null]
  · rw [condition, meaning, Sqlite.truth_toValue, operand.means, isPattern.means,
      isLike_nullish null]
    cases negated <;> rfl

/-- A bare operand is no test. -/
theorem HavingOperand.answered (operand : HavingOperand row expression value)
    (truthy : value.truthy = decide (truth = some true))
    (means : sqlite.truth (Sqlite.bound value) = truth) :
    Answered sqlite affinity row arithmetic expression truth := by
  refine ⟨value, operand.evaluated, truthy, ?_, ?_⟩
  · rw [condition, operand.means, means]
  · cases operand <;> nofun

theorem Answered.and (one : Answered sqlite affinity row arithmetic left first)
    (other : Answered sqlite affinity row arithmetic right second) :
    Answered sqlite affinity row arithmetic (.binary .and left right)
      (Truth.and first second) := by
  obtain ⟨answer, evaluated, truthy, means, present⟩ := one
  obtain ⟨answer', evaluated', truthy', means', present'⟩ := other
  refine ⟨_, by rw [evaluateExpression, evaluated, evaluated']; rfl, ?_, ?_, fun test => ?_⟩
  · rw [truthy_and, truthy, truthy', decide_and]
  · rw [condition, meaning, Sqlite.truth_toValue, ← means, ← means']
    rfl
  · rw [isTest, Bool.and_eq_true] at test
    exact isNullish_and (present test.1) (present' test.2)

theorem Answered.or (one : Answered sqlite affinity row arithmetic left first)
    (other : Answered sqlite affinity row arithmetic right second) :
    Answered sqlite affinity row arithmetic (.binary .or left right) (Truth.or first second) := by
  obtain ⟨answer, evaluated, truthy, means, present⟩ := one
  obtain ⟨answer', evaluated', truthy', means', present'⟩ := other
  refine ⟨_, by rw [evaluateExpression, evaluated, evaluated']; rfl, ?_, ?_, fun test => ?_⟩
  · rw [truthy_or, truthy, truthy', decide_or]
  · rw [condition, meaning, Sqlite.truth_toValue, ← means, ← means']
    rfl
  · rw [isTest, Bool.and_eq_true] at test
    exact isNullish_or (present test.1) (present' test.2)

theorem Answered.not {known : Bool}
    (answered : Answered sqlite affinity row arithmetic expression (some known)) :
    Answered sqlite affinity row arithmetic (.unary .not expression) (some !known) := by
  obtain ⟨answer, evaluated, truthy, means, -⟩ := answered
  refine Answered.of_boolean ?_ ?_
  · rw [evaluateExpression, evaluated]
    simp [evaluateUnaryOperator, truthy]
  · rw [condition, meaning, Sqlite.truth_toValue]
    exact congrArg Truth.not means

end

theorem HavingAgreeable.answered {truth : Option Bool}
    (agreeable : HavingAgreeable sqlite affinity row truth expression) :
    Answered sqlite affinity row arithmetic expression truth := by
  induction agreeable with
  | compare operator one other compared => exact compared.answered one other
  | nullTest negated operand => exact operand.answered_nullTest negated
  | knownTest negated _ test answered => exact answered.knownTest test negated
  | inList negated operand operands each known =>
    exact answered_inList negated operand operands each known
  | inListFound negated operand operands among alike equal =>
    exact answered_inListFound negated operand operands among alike equal
  | between operand low high above under =>
    refine answered_between operand low high ?_ ?_
    · rw [decide_and, ← above.spec.1, ← under.spec.1]
      rfl
    · rw [above.spec.2, under.spec.2]
  | betweenBelow operand low high above outside =>
    refine answered_between operand low high ?_ (by rw [above.spec.2])
    rw [decide_and, decide_eq_false outside, Bool.false_and]
    exact Bool.and_eq_false_iff.mpr (.inl (above.spec.1.trans (decide_eq_false outside)))
  | betweenAbove operand low high under outside =>
    refine answered_between operand low high ?_ (by rw [under.spec.2])
    rw [decide_and, decide_eq_false outside, Bool.and_false]
    exact Bool.and_eq_false_iff.mpr (.inr (under.spec.1.trans (decide_eq_false outside)))
  | like negated operand isPattern alike => exact alike.answered negated operand isPattern
  | likeNull negated operand isPattern null =>
    exact answered_likeNull negated operand isPattern null
  | number operand known => exact operand.answered (by simp [Js.Value.truthy, known]) rfl
  | text operand counted =>
    refine operand.answered (by simp [Js.Value.truthy]) ?_
    simp [Sqlite.truth, Sqlite.bound, ← counted]
  | @boolean operand value isOperand => exact isOperand.answered (by cases value <;> rfl) (by cases value <;> rfl)
  | @null operand value isOperand null =>
    refine isOperand.answered ?_ (by rw [bound_nullish null]; rfl)
    cases value <;> first | rfl | cases null
  | and _ _ one other => exact one.and other
  | or _ _ one other => exact one.or other
  | not _ answered => exact answered.not

end

namespace Sample

def groupRow (sum : Js.Value) : Row :=
  (∅ : Row).insert "city" (.string "Oslo") |>.insert "SUM(amount)" sum

def total : Expr := .aggregate .sum (.columnRef none "amount") false

def number (value : Int) : Expr := .literal (.number (.finite value))

def totals (having : Expr) : Select where
  distinct := false
  columns := [⟨.columnRef none "city", none⟩, ⟨total, none⟩]
  source := some (.table "orders" none)
  joins := []
  condition := none
  groupBy := [.columnRef none "city"]
  having := some having
  orderBy := []
  limit := none
  ctes := []
  recursive := false
  setOperation := none

def unequal : Expr := .binary .notEquals total (number 5)

def below : Expr := .binary .less total (number 5)

def increased : Expr := .binary .greater (.binary .add total (number 1)) (number 5)

def isOslo : Expr := .binary .equals (.columnRef none "city") (.literal (.string "Oslo"))

/-- The city is known, is one of the list and the total, if there is one, is above
ten. -/
def having : Expr :=
  .binary .and (.nullTest isOslo true)
    (.binary .and
      (.inList (.columnRef none "city") [.literal .null, .literal (.string "Oslo")] false)
      (.binary .greater total (number 10)))

end Sample

end LagrangeDb.Query
