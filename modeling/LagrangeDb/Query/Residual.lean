import LagrangeDb.Query.Meaning

namespace LagrangeDb.Query

open LiveQuery

/-! The conjuncts of a WHERE clause that are left to the coordinator after a join. -/

def threeValuedComparison (operator : BinaryOperator) (left right : Js.Value) : Option Bool :=
  if left.isNullish || right.isNullish then none
  else
    match operator with
    | .equals => some (left.strictEquals right)
    | .notEquals => some (!left.strictEquals right)
    | .less => some (left.less right)
    | .lessOrEqual => some (left.lessOrEqual right)
    | .greater => some (right.less left)
    | .greaterOrEqual => some (right.lessOrEqual left)
    | _ => none

def threeValuedAnd (left right : Option Bool) : Option Bool :=
  if left = some false ∨ right = some false then some false
  else if left = none ∨ right = none then none
  else some true

def threeValuedOr (left right : Option Bool) : Option Bool :=
  if left = some true ∨ right = some true then some true
  else if left = none ∨ right = none then none
  else some false

def evaluateResidualIn (value : Js.Value) (negated : Bool) (sawNull : Bool) :
    List Js.Value → Option Bool
  | [] => if sawNull then none else some negated
  | candidate :: rest =>
    if candidate.isNullish then evaluateResidualIn value negated true rest
    else if candidate.strictEquals value then some !negated
    else evaluateResidualIn value negated sawNull rest

def evaluateResidualLike (value pattern : Js.Value) (negated : Bool) : Option Bool :=
  if value.isNullish || pattern.isNullish then none
  else
    let found := likeMatches (Js.utf16 pattern.toText) (Js.utf16 value.toText)
    some (if negated then !found else found)

section

variable (row : Row)

/-- The references of a conjunct have been resolved to the keys of the row. -/
def evaluateResidualValue : Expr → Js.Value
  | .literal value => if value.isNullish then .null else value
  | .columnRef _ column =>
    let value := row.get column
    if value = .undefined then .null else value
  | .unary operator operand =>
    let value := evaluateResidualValue operand
    if value.isNullish then .null
    else
      match operator with
      | .minus => .number value.toNumber.negate
      | .plus => .number value.toNumber
      | _ => .null
  | _ => .null

/-- A node without a case of its own is unknown. The node of an IN over a subquery
has no values. -/
def evaluateResidualPredicate : Expr → Option Bool
  | .binary .and left right =>
    threeValuedAnd (evaluateResidualPredicate left) (evaluateResidualPredicate right)
  | .binary .or left right =>
    threeValuedOr (evaluateResidualPredicate left) (evaluateResidualPredicate right)
  | .binary operator left right =>
    threeValuedComparison operator (evaluateResidualValue row left)
      (evaluateResidualValue row right)
  | .nullTest operand negated => some ((evaluateResidualValue row operand).isNullish != negated)
  | .unary .not operand => (evaluateResidualPredicate operand).map Bool.not
  | .inList expression values negated =>
    let value := evaluateResidualValue row expression
    if value.isNullish then none
    else evaluateResidualIn value negated false
      (values.map (evaluateResidualValue row))
  | .inSubquery expression _ negated =>
    if (evaluateResidualValue row expression).isNullish then none else some negated
  | .between expression low high =>
    let value := evaluateResidualValue row expression
    threeValuedAnd (threeValuedComparison .greaterOrEqual value (evaluateResidualValue row low))
      (threeValuedComparison .lessOrEqual value (evaluateResidualValue row high))
  | .like expression pattern negated =>
    evaluateResidualLike (evaluateResidualValue row expression)
      (evaluateResidualValue row pattern) negated
  | .literal value => if value.isNullish then none else some value.truthy
  | _ => none

def residualPredicateAdmitsRow (predicate : Expr) : Bool :=
  evaluateResidualPredicate row predicate = some true

end

def Row.reading (row : Row) (affinity : Option String → String → Affinity) : RowReading where
  column _ column := Sqlite.bound (row.get column)
  affinity := affinity
  aggregate _ _ _ := .null

section

variable (sqlite : Sqlite) (affinity : Option String → String → Affinity) (row : Row)

/-- Literals and columns that are no booleans, and numbers with a sign. -/
inductive ResidualOperand : Expr → Prop where
  | literal (value : Js.Value) : isBoolean value = false →
      ResidualOperand (.literal value)
  | column (table : Option String) (column : String) :
      isBoolean (row.get column) = false → ResidualOperand (.columnRef table column)
  | signed (operator : UnaryOperator) :
      operator ∈ [.plus, .minus] → ResidualOperand operand →
      (evaluateResidualValue row operand = .null ∨
        ∃ value, evaluateResidualValue row operand = .number value) →
      ResidualOperand (.unary operator operand)

/-- One of the values is null, or they are compared alike. -/
def ComparedAlike (operator : BinaryOperator) (left right : Expr) : Prop :=
  let first := evaluateResidualValue row left
  let second := evaluateResidualValue row right
  first = .null ∨ second = .null ∨
    Comparable sqlite ((row.reading affinity).affinityOf left)
      ((row.reading affinity).affinityOf right) operator first second

def MemberAlike (expression member : Expr) : Prop :=
  let first := evaluateResidualValue row expression
  let second := evaluateResidualValue row member
  first = .null ∨ second = .null ∨
    Comparable sqlite ((row.reading affinity).affinityOf expression) .blob .equals first second

/-- The member is equal to the value, so that no other member is of consequence. -/
structure Finds (expression member : Expr) : Prop where
  operand : ResidualOperand row member
  alike : Comparable sqlite ((row.reading affinity).affinityOf expression) .blob .equals
    (evaluateResidualValue row expression) (evaluateResidualValue row member)
  equal : (evaluateResidualValue row expression).strictEquals
    (evaluateResidualValue row member) = true

inductive ResidualAgreeable : Expr → Prop where
  | compare (operator : BinaryOperator) :
      operator.isComparison = true → ResidualOperand row left →
      ResidualOperand row right → ComparedAlike sqlite affinity row operator left right →
      ResidualAgreeable (.binary operator left right)
  | nullTest (negated : Bool) : ResidualOperand row operand →
      ResidualAgreeable (.nullTest operand negated)
  | inList (negated : Bool) : values ≠ [] →
      ResidualOperand row expression →
      (∀ value ∈ values, ResidualOperand row value ∧ MemberAlike sqlite affinity row expression value) →
      ResidualAgreeable (.inList expression values negated)
  | inListFound (negated : Bool) : ResidualOperand row expression →
      member ∈ values → Finds sqlite affinity row expression member →
      ResidualAgreeable (.inList expression values negated)
  | between : ResidualOperand row expression →
      ResidualOperand row low → ResidualOperand row high →
      ComparedAlike sqlite affinity row .greaterOrEqual expression low →
      ComparedAlike sqlite affinity row .lessOrEqual expression high →
      ResidualAgreeable (.between expression low high)
  | like (negated : Bool) : ResidualOperand row expression →
      ResidualOperand row pattern →
      (evaluateResidualValue row expression = .null ∨ evaluateResidualValue row pattern = .null ∨
        LikeAlike sqlite (evaluateResidualValue row expression)
          (evaluateResidualValue row pattern)) →
      ResidualAgreeable (.like expression pattern negated)
  | literal (value : Js.Value) :
      (∀ text, value = .string text → (text = "" ↔ sqlite.castNumber text = .finite 0)) →
      value ≠ .number .nan → ResidualAgreeable (.literal value)
  | and : ResidualAgreeable left → ResidualAgreeable right →
      ResidualAgreeable (.binary .and left right)
  | or : ResidualAgreeable left → ResidualAgreeable right →
      ResidualAgreeable (.binary .or left right)
  | not : ResidualAgreeable operand →
      ResidualAgreeable (.unary .not operand)

end

section

variable {sqlite : Sqlite} {arithmetic : Arithmetic}
  {row : Row}

theorem threeValuedAnd_eq (left right : Option Bool) :
    threeValuedAnd left right = Truth.and left right := by
  cases left with
  | none => cases right with
    | none => rfl
    | some right => cases right <;> rfl
  | some left => cases left <;> cases right with
    | none => rfl
    | some right => cases right <;> rfl

theorem threeValuedOr_eq (left right : Option Bool) :
    threeValuedOr left right = Truth.or left right := by
  cases left with
  | none => cases right with
    | none => rfl
    | some right => cases right <;> rfl
  | some left => cases left <;> cases right with
    | none => rfl
    | some right => cases right <;> rfl

theorem threeValuedComparison_null (null : left = .null ∨ right = .null) :
    threeValuedComparison operator left right = none := by
  unfold threeValuedComparison
  rcases null with rfl | rfl
  · rfl
  · rw [Bool.or_comm]
    rfl

theorem Comparable.threeValuedComparison_eq
    (comparable : Comparable sqlite left right operator first second) :
    threeValuedComparison operator first second = some (compareWith operator first second) := by
  obtain ⟨known, other⟩ := comparable.isNullish
  have compares := comparable.isComparison
  unfold threeValuedComparison
  rw [known, other]
  cases operator <;> first | rfl | cases compares

theorem ResidualOperand.meaning_eq (operand : ResidualOperand row expression) :
    meaning sqlite arithmetic (row.reading affinity) expression =
      evaluateResidualValue row expression := by
  induction operand with
  | literal value plain => cases value <;> first | rfl | cases plain
  | column table column plain =>
    simp only [meaning, Row.reading, evaluateResidualValue]
    cases found : row.get column <;> first | rfl | simp [found, isBoolean] at plain
  | signed operator signs operand value induction =>
    simp only [List.mem_cons, List.not_mem_nil, or_false] at signs
    rcases signs with rfl | rfl
    · rcases value with null | ⟨number, valued⟩
      · simp [meaning, evaluateResidualValue, induction, null, Js.Value.isNullish]
      · simp [meaning, evaluateResidualValue, induction, valued, Js.Value.isNullish,
          Js.Value.toNumber]
    · rcases value with null | ⟨number, valued⟩
      · simp [meaning, evaluateResidualValue, induction, null, arithmetic.minus_null,
          Js.Value.isNullish]
      · simp [meaning, evaluateResidualValue, induction, valued,
          arithmetic.minus_number, Js.Value.isNullish, Js.Value.toNumber]

theorem ResidualOperand.isNullish_iff (operand : ResidualOperand row expression) :
    (evaluateResidualValue row expression).isNullish = true ↔
      evaluateResidualValue row expression = .null := by
  have defined : evaluateResidualValue row expression ≠ .undefined := by
    cases operand with
    | literal value plain => cases value <;> simp [evaluateResidualValue, Js.Value.isNullish]
    | column table column plain =>
      rw [evaluateResidualValue]
      split <;> simp_all
    | signed operator signs operand value =>
      simp only [List.mem_cons, List.not_mem_nil, or_false] at signs
      rcases signs with rfl | rfl <;> rw [evaluateResidualValue] <;> split <;> simp
  cases found : evaluateResidualValue row expression <;>
    simp_all [Js.Value.isNullish]

theorem ComparedAlike.compare_eq (one : ResidualOperand row left)
    (other : ResidualOperand row right) (alike : ComparedAlike sqlite affinity row operator left right) :
    sqlite.compare operator ((row.reading affinity).affinityOf left)
        ((row.reading affinity).affinityOf right)
        (meaning sqlite arithmetic (row.reading affinity) left)
        (meaning sqlite arithmetic (row.reading affinity) right) =
      threeValuedComparison operator (evaluateResidualValue row left)
        (evaluateResidualValue row right) := by
  rw [one.meaning_eq, other.meaning_eq]
  rcases alike with null | null | comparable
  · rw [compare_nullish (.inl null), threeValuedComparison_null (.inl null)]
  · rw [compare_nullish (.inr null), threeValuedComparison_null (.inr null)]
  · rw [comparable.compare_eq, comparable.threeValuedComparison_eq]

theorem isIn_null {affinity : Affinity} (full : members ≠ []) :
    sqlite.isIn affinity .null members = none := by
  induction members with
  | nil => exact absurd rfl full
  | cons member rest induction =>
    have unfolded : sqlite.isIn affinity .null (member :: rest) =
        Truth.or (sqlite.compare .equals affinity .blob .null member)
          (sqlite.isIn affinity .null rest) := rfl
    rw [unfolded, compare_nullish (.inl rfl)]
    cases rest with
    | nil => rfl
    | cons next rest =>
      rw [induction (List.cons_ne_nil next rest)]
      rfl

theorem evaluateResidualIn_eq {affinity : Affinity} {value : Js.Value} (negated : Bool)
    (sawNull : Bool)
    (alike : ∀ member ∈ members, member = .null ∨
      Comparable sqlite affinity .blob .equals value member) :
    evaluateResidualIn value negated sawNull members =
      (Truth.or (sqlite.isIn affinity value members)
        (if sawNull then none else some false)).map (· != negated) := by
  induction members generalizing sawNull with
  | nil => cases sawNull <;> cases negated <;> rfl
  | cons member rest induction =>
    have others := fun saw => induction saw fun other among =>
      alike other (List.mem_cons_of_mem _ among)
    have unfolded : sqlite.isIn affinity value (member :: rest) =
        Truth.or (sqlite.compare .equals affinity .blob value member)
          (sqlite.isIn affinity value rest) := rfl
    rw [evaluateResidualIn, unfolded]
    rcases alike member List.mem_cons_self with rfl | comparable
    · rw [compare_nullish (.inr rfl), show Js.Value.null.isNullish = true from rfl,
        if_pos rfl, others true]
      generalize sqlite.isIn affinity value rest = found
      cases sawNull <;> cases found with
      | none => rfl
      | some found => cases found <;> rfl
    rw [comparable.compare_eq, comparable.isNullish.2, others sawNull, strictEquals_comm]
    generalize sqlite.isIn affinity value rest = found
    cases equal : compareWith .equals value member with
    | true =>
      rw [show value.strictEquals member = true from equal]
      cases negated <;> rfl
    | false =>
      rw [show value.strictEquals member = false from equal]
      cases sawNull <;> cases found with
      | none => rfl
      | some found => cases found <;> rfl

theorem evaluateResidualIn_found {value member : Js.Value} (negated sawNull : Bool)
    (among : member ∈ members) (known : member.isNullish = false)
    (equal : member.strictEquals value = true) :
    evaluateResidualIn value negated sawNull members = some !negated := by
  induction members generalizing sawNull with
  | nil => cases among
  | cons head rest induction =>
    rw [evaluateResidualIn]
    rcases List.mem_cons.mp among with rfl | among
    · rw [known, equal]
      rfl
    · split
      · exact induction true among
      · split
        · rfl
        · exact induction sawNull among

theorem Finds.evaluate_eq (operand : ResidualOperand row expression) (negated : Bool)
    (among : member ∈ values) (finds : Finds sqlite affinity row expression member) :
    evaluateResidualPredicate row (.inList expression values negated) =
      condition sqlite arithmetic (row.reading affinity) (.inList expression values negated) := by
  obtain ⟨isMember, alike, equal⟩ := finds
  have found : sqlite.isIn ((row.reading affinity).affinityOf expression)
      (evaluateResidualValue row expression)
      (values.map (meaning sqlite arithmetic (row.reading affinity))) = some true := by
    refine isIn_found (List.mem_map_of_mem among) ?_
    rw [isMember.meaning_eq, alike.compare_eq]
    exact congrArg some equal
  rw [condition, meaning, Sqlite.truth_toValue, evaluateResidualPredicate, operand.meaning_eq,
    meanings_eq_map, found, alike.isNullish.1]
  refine (evaluateResidualIn_found negated false (List.mem_map_of_mem among)
    alike.isNullish.2 ((strictEquals_comm _ _).trans equal)).trans ?_
  cases negated <;> rfl

theorem ResidualAgreeable.sound (agreeable : ResidualAgreeable sqlite affinity row predicate) :
    evaluateResidualPredicate row predicate =
      condition sqlite arithmetic (row.reading affinity) predicate := by
  induction agreeable with
  | @compare left right operator compares one other alike =>
    have simple : operator ≠ .and ∧ operator ≠ .or := by
      constructor <;> rintro rfl <;> cases compares
    rw [condition, meaning, if_pos compares, Sqlite.truth_toValue,
      evaluateResidualPredicate, alike.compare_eq one other]
    all_goals first | exact simple.1 | exact simple.2
  | nullTest negated operand =>
    rw [condition, meaning, Sqlite.truth_toValue, evaluateResidualPredicate, operand.meaning_eq]
    congr 2
    rw [Bool.eq_iff_iff, operand.isNullish_iff, beq_iff_eq]
  | @inList values expression negated full operand members =>
    rw [condition, meaning, Sqlite.truth_toValue, evaluateResidualPredicate,
      operand.meaning_eq, meanings_eq_map]
    have same : values.map (meaning sqlite arithmetic (row.reading affinity)) =
        values.map (evaluateResidualValue row) :=
      List.map_congr_left fun value member => (members value member).1.meaning_eq
    rw [same]
    cases null : (evaluateResidualValue row expression).isNullish with
    | true =>
      rw [operand.isNullish_iff.mp null, isIn_null (mt List.map_eq_nil_iff.mp full)]
      cases negated <;> rfl
    | false =>
      have alike : ∀ member ∈ values.map (evaluateResidualValue row),
          member = .null ∨ Comparable sqlite ((row.reading affinity).affinityOf expression)
            .blob .equals (evaluateResidualValue row expression) member := by
        intro member among
        obtain ⟨value, own, rfl⟩ := List.mem_map.mp among
        refine (members value own).2.resolve_left fun isNull => ?_
        rw [isNull] at null
        cases null
      rw [evaluateResidualIn_eq negated false alike]
      generalize sqlite.isIn _ _ _ = found
      cases negated <;> cases found with
      | none => rfl
      | some found => cases found <;> rfl
  | inListFound negated operand among finds => exact finds.evaluate_eq operand negated among
  | between operand low high alikeLow alikeHigh =>
    rw [condition, meaning, Sqlite.truth_toValue, evaluateResidualPredicate,
      threeValuedAnd_eq, alikeLow.compare_eq operand low,
      alikeHigh.compare_eq operand high]
  | like negated operand pattern alike =>
    rw [condition, meaning, Sqlite.truth_toValue, evaluateResidualPredicate,
      operand.meaning_eq, pattern.meaning_eq, evaluateResidualLike]
    rcases alike with null | null | alike
    · rw [null]
      cases negated <;> rfl
    · rw [null, Bool.or_comm]
      have unknown : ∀ value, sqlite.isLike value .null = none := by
        intro value
        cases value <;> rfl
      rw [unknown]
      cases negated <;> rfl
    have present : ∀ value : Js.Value, (sqlite.textOf value).isSome →
        value.isNullish = false := by
      intro value text
      cases value <;> first | rfl | cases text
    rw [present _ (Option.isSome_of_eq_some alike.text),
      present _ (Option.isSome_of_eq_some alike.patternText), alike.isLike_eq]
    cases negated <;> rfl
  | literal value counted known =>
    rw [condition, meaning, evaluateResidualPredicate]
    cases value with
    | string text =>
      have counted := counted text rfl
      simp [Js.Value.isNullish, Js.Value.truthy, Sqlite.truth, Sqlite.bound, ← counted]
    | number value => simp_all [Js.Value.isNullish, Js.Value.truthy, Sqlite.truth, Sqlite.bound]
    | boolean value => cases value <;> rfl
    | _ => rfl
  | and _ _ one other =>
    rw [condition, meaning, Sqlite.truth_toValue, evaluateResidualPredicate,
      threeValuedAnd_eq, one, other]
    rfl
  | or _ _ one other =>
    rw [condition, meaning, Sqlite.truth_toValue, evaluateResidualPredicate,
      threeValuedOr_eq, one, other]
    rfl
  | not _ operand =>
    rw [condition, meaning, Sqlite.truth_toValue, evaluateResidualPredicate, operand]
    rfl

end

def Sample.residualRow : Row :=
  (∅ : Row).insert "name" (.string "abc") |>.insert "rank" (.number (.finite 7))

/-- A missing value, a list of a number and a text, and a pattern in the case of the
value. -/
def Sample.residual : Expr :=
  .binary .or (.binary .less (.columnRef none "missing") (.literal (.number (.finite 1))))
    (.binary .and
      (.inList (.columnRef none "rank")
        [.literal (.number (.finite 7)), .literal (.string "abc")] false)
      (.binary .and
        (.binary .notEquals (.columnRef none "rank") (.literal (.string "abc")))
        (.like (.columnRef none "name") (.literal (.string "a_c%")) false)))

end LagrangeDb.Query
