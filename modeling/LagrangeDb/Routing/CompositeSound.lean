import LagrangeDb.Routing.Composite
import LagrangeDb.Routing.KeyOrder

namespace LagrangeDb.Routing

open LagrangeDb.Partition (KeyValue compareScalars compareTuples)
open Data (tupleCompare)

/-! A query on a composite key goes to the partition that has the row. -/

variable {value : KeyValue}

theorem routingKeySupported_of_class (known : (keyClass value).isSome) :
    value.isAbsent = false ∧ value.routingKeySupported = true ∧
      isValidCompositeElement value = true := by
  match value, known with
  | .primitive (.number (.finite _)), _ => exact ⟨rfl, rfl, rfl⟩
  | .bigint _, _ => exact ⟨rfl, rfl, rfl⟩
  | .primitive (.string _), _ => exact ⟨rfl, rfl, rfl⟩
  | .buffer _, _ => exact ⟨rfl, rfl, rfl⟩

theorem compareRoutingKeys_eq (comparable : Comparable left right) :
    compareRoutingKeys left right = some (cmp (rank left) (rank right)) := by
  have known : (keyClass right).isSome := comparable.2.1 ▸ comparable.1
  obtain ⟨leftAbsent, leftSupported, -⟩ := routingKeySupported_of_class comparable.1
  obtain ⟨rightAbsent, rightSupported, -⟩ := routingKeySupported_of_class known
  rw [compareRoutingKeys, if_pos (by simp [leftSupported, rightSupported])]
  simp only [leftAbsent, rightAbsent]
  rw [← compareScalars_eq comparable]
  rintro _ _ rfl
  exact absurd comparable.1 Bool.false_ne_true

/-- The values the conditions compare each column with: of one class, and compared
with each other without loss. Names of columns are in small letters. -/
structure Domain where
  classOf : String → KeyClass
  member : String → KeyValue → Prop
  known : ∀ column value, member column value → keyClass value = some (classOf column)
  comparable : ∀ column left right, member column left → member column right → Comparable left right

abbrev KeyRow := String → KeyValue

def KeyRow.at (row : KeyRow) (column : String) : KeyValue := row column.toLower

def Operator.Holds (left right : Rank) : Operator → Prop
  | .equals => left = right
  | .greaterThan => right < left
  | .greaterThanOrEqual => right ≤ left
  | .lessThan => left < right
  | .lessThanOrEqual => left ≤ right

namespace WhereClause

def Holds (row : KeyRow) : WhereClause → Prop
  | and left right => left.Holds row ∧ right.Holds row
  | compare column operator value => operator.Holds (rank (row.at column)) (rank value)
  | compareValue value operator column => operator.Holds (rank value) (rank (row.at column))
  | between column low high => rank low ≤ rank (row.at column) ∧ rank (row.at column) ≤ rank high

def In (domain : Domain) : WhereClause → Prop
  | and left right => left.In domain ∧ right.In domain
  | compare column _ value | compareValue value _ column => domain.member column.toLower value
  | between column low high => domain.member column.toLower low ∧ domain.member column.toLower high

end WhereClause

section Within

variable {left right : Rank} {inclusive : Bool}
  (within : if inclusive then left ≤ right else left < right)

include within

theorem le_of_within : left ≤ right := by
  cases inclusive with
  | true => exact within
  | false => exact le_of_lt within

theorem cmp_of_within : cmp left right = .lt ∨ cmp left right = .eq ∧ inclusive = true := by
  cases inclusive with
  | true =>
    refine (lt_or_eq_of_le within).imp (cmp_eq_lt_iff ..).mpr fun equal => ?_
    exact ⟨(cmp_eq_eq_iff ..).mpr equal, rfl⟩
  | false => exact .inl ((cmp_eq_lt_iff ..).mpr within)

theorem cmp_swap_of_within : cmp right left = .gt ∨ cmp right left = .eq ∧ inclusive = true := by
  rw [← cmp_swap left right]
  rcases cmp_of_within within with order | ⟨order, isInclusive⟩
  · exact .inl (by rw [order]; rfl)
  · exact .inr ⟨by rw [order]; rfl, isInclusive⟩

end Within

section Conditions

variable {domain : Domain} {column : String} {value : KeyValue}

def LowAdmits (domain : Domain) (column : String) (value : KeyValue)
    (low : KeyValue) (inclusive : Bool) : Prop :=
  low.isAbsent = true ∨ domain.member column low ∧
    if inclusive then rank low ≤ rank value else rank low < rank value

def HighAdmits (domain : Domain) (column : String) (value : KeyValue)
    (high : KeyValue) (inclusive : Bool) : Prop :=
  high.isAbsent = true ∨ domain.member column high ∧
    if inclusive then rank value ≤ rank high else rank value < rank high

structure KeyConditions.Admits (domain : Domain) (column : String) (value : KeyValue)
    (conditions : KeyConditions) : Prop where
  consistent : conditions.contradiction = false
  equals : conditions.type = some .equals → ∃ bound, conditions.values = [bound] ∧
    domain.member column bound ∧ rank bound = rank value
  low : LowAdmits domain column value conditions.low conditions.lowInclusive
  high : HighAdmits domain column value conditions.high conditions.highInclusive

namespace KeyConditions.Admits

variable {conditions : KeyConditions}

theorem initial : Admits domain column value {} := ⟨rfl, nofun, .inl rfl, .inl rfl⟩

theorem compare_eq (isLeft : domain.member column left) (isRight : domain.member column right) :
    compareRoutingKeys left right = some (cmp (rank left) (rank right)) :=
  compareRoutingKeys_eq (domain.comparable column left right isLeft isRight)

theorem present (member : domain.member column bound) : bound.isAbsent = false :=
  (routingKeySupported_of_class (domain.comparable column bound bound member member).1).1

theorem not_below (low : LowAdmits domain column value conditions.low conditions.lowInclusive)
    (member : domain.member column bound) (same : rank bound = rank value) :
    conditions.isBelowLow bound = some false := by
  rcases low with absent | ⟨isLow, below⟩
  · rw [isBelowLow, if_pos absent]
  rw [isBelowLow, if_neg (by simp [present isLow]), compare_eq member isLow, same]
  rcases cmp_swap_of_within below with order | ⟨order, inclusive⟩
  · simp [order]
  · simp [order, inclusive]

theorem not_above (high : HighAdmits domain column value conditions.high conditions.highInclusive)
    (member : domain.member column bound) (same : rank bound = rank value) :
    conditions.isAboveHigh bound = some false := by
  rcases high with absent | ⟨isHigh, above⟩
  · rw [isAboveHigh, if_pos absent]
  rw [isAboveHigh, if_neg (by simp [present isHigh]), compare_eq member isHigh, same]
  rcases cmp_of_within above with order | ⟨order, inclusive⟩
  · simp [order]
  · simp [order, inclusive]

section

variable (admits : conditions.Admits domain column value)

include admits

theorem applyEquals (member : domain.member column bound) (same : rank bound = rank value) :
    ∃ next, conditions.applyEqualsCondition bound = some next ∧
      next.Admits domain column value := by
  have agrees : conditions.contradictsValue bound = some false := by
    unfold contradictsValue
    split
    next isType =>
      obtain ⟨other, isValues, isMember, isSame⟩ := admits.equals isType
      have equal : cmp (rank other) (rank bound) = .eq :=
        (cmp_eq_eq_iff ..).mpr (isSame.trans same.symm)
      simp only [isValues, differs, compare_eq isMember member, equal]
      rfl
    · simp [checkRangeContradiction, not_below admits.low member same,
        not_above admits.high member same]
    · rfl
  refine ⟨{ conditions with type := some .equals, values := [bound] }, ?_, ?_⟩
  · simp [applyEqualsCondition, agrees]
  · exact ⟨admits.consistent, fun _ => ⟨bound, rfl, member, same⟩, admits.low, admits.high⟩

theorem verifyRangeBounds : conditions.verifyRangeBounds = some conditions := by
  unfold KeyConditions.verifyRangeBounds
  rcases admits.low with absent | ⟨isLow, below⟩
  · rw [if_pos (by simp [absent])]
  rcases admits.high with absent | ⟨isHigh, above⟩
  · rw [if_pos (by simp [absent])]
  rw [if_neg (by simp [present isLow, present isHigh]), compare_eq isLow isHigh]
  have lowLe := le_of_within below
  have leHigh := le_of_within above
  rcases lt_or_eq_of_le (lowLe.trans leHigh) with less | equal
  · rw [(cmp_eq_lt_iff ..).mpr less]
    rfl
  have isValue : rank conditions.low = rank value := le_antisymm lowLe (equal ▸ leHigh)
  have lowInclusive : conditions.lowInclusive = true := by
    by_contra exclusive
    rw [if_neg exclusive, isValue] at below
    exact lt_irrefl _ below
  have highInclusive : conditions.highInclusive = true := by
    by_contra exclusive
    rw [if_neg exclusive, ← equal, isValue] at above
    exact lt_irrefl _ above
  simp [equal, lowInclusive, highInclusive]

variable {inclusive : Bool}

theorem updateLow (isRange : conditions.type ≠ some .equals) (member : domain.member column bound)
    (below : if inclusive then rank bound ≤ rank value else rank bound < rank value) :
    ∃ next, conditions.updateRangeLow bound inclusive = some next ∧
      next.Admits domain column value := by
  unfold updateRangeLow
  rcases admits.low with absent | ⟨isLow, lowBelow⟩
  · rw [if_pos absent]
    exact ⟨_, rfl, admits.consistent, nofun, .inr ⟨member, below⟩, admits.high⟩
  rw [if_neg (by simp [present isLow]), compare_eq member isLow]
  cases order : cmp (rank bound) (rank conditions.low) with
  | gt =>
    exact ⟨_, rfl, admits.consistent, fun isType => absurd isType isRange,
      .inr ⟨member, below⟩, admits.high⟩
  | lt => exact ⟨_, rfl, admits⟩
  | eq =>
    refine ⟨_, rfl, admits.consistent, fun isType => absurd isType isRange,
      .inr ⟨isLow, ?_⟩, admits.high⟩
    rw [(cmp_eq_eq_iff ..).mp order] at below
    cases inclusive <;> cases lowInclusive : conditions.lowInclusive <;>
      simp_all

theorem updateHigh (isRange : conditions.type ≠ some .equals) (member : domain.member column bound)
    (above : if inclusive then rank value ≤ rank bound else rank value < rank bound) :
    ∃ next, conditions.updateRangeHigh bound inclusive = some next ∧
      next.Admits domain column value := by
  unfold updateRangeHigh
  rcases admits.high with absent | ⟨isHigh, highAbove⟩
  · rw [if_pos absent]
    exact ⟨_, rfl, admits.consistent, nofun, admits.low, .inr ⟨member, above⟩⟩
  rw [if_neg (by simp [present isHigh]), compare_eq member isHigh]
  cases order : cmp (rank bound) (rank conditions.high) with
  | lt =>
    exact ⟨_, rfl, admits.consistent, fun isType => absurd isType isRange,
      admits.low, .inr ⟨member, above⟩⟩
  | gt => exact ⟨_, rfl, admits⟩
  | eq =>
    refine ⟨_, rfl, admits.consistent, fun isType => absurd isType isRange,
      admits.low, .inr ⟨isHigh, ?_⟩⟩
    rw [(cmp_eq_eq_iff ..).mp order] at above
    cases inclusive <;> cases highInclusive : conditions.highInclusive <;>
      simp_all

theorem applyGreater (member : domain.member column bound)
    (below : if inclusive then rank bound ≤ rank value else rank bound < rank value) :
    ∃ next, conditions.applyGreaterThanCondition bound inclusive = some next ∧
      next.Admits domain column value := by
  unfold applyGreaterThanCondition
  split
  next isType =>
    obtain ⟨other, isValues, isMember, isSame⟩ := admits.equals isType
    refine ⟨conditions, ?_, admits⟩
    simp only [isValues, List.headD_cons, compare_eq isMember member, isSame]
    rcases cmp_swap_of_within below with order | ⟨order, isInclusive⟩
    · simp [order]
    · simp [order, isInclusive]
  next isRange =>
    obtain ⟨next, updated, nextAdmits⟩ := admits.updateLow isRange member below
    exact ⟨next, by simp [updated, nextAdmits.verifyRangeBounds], nextAdmits⟩

theorem applyLess (member : domain.member column bound)
    (above : if inclusive then rank value ≤ rank bound else rank value < rank bound) :
    ∃ next, conditions.applyLessThanCondition bound inclusive = some next ∧
      next.Admits domain column value := by
  unfold applyLessThanCondition
  split
  next isType =>
    obtain ⟨other, isValues, isMember, isSame⟩ := admits.equals isType
    refine ⟨conditions, ?_, admits⟩
    simp only [isValues, List.headD_cons, compare_eq isMember member, isSame]
    rcases cmp_of_within above with order | ⟨order, isInclusive⟩
    · simp [order]
    · simp [order, isInclusive]
  next isRange =>
    obtain ⟨next, updated, nextAdmits⟩ := admits.updateHigh isRange member above
    exact ⟨next, by simp [updated, nextAdmits.verifyRangeBounds], nextAdmits⟩

theorem applyBinary {operator : Operator} (member : domain.member column bound)
    (holds : operator.Holds (rank value) (rank bound)) :
    ∃ next, conditions.applyBinaryKeyCondition operator bound = some next ∧
      next.Admits domain column value := by
  unfold applyBinaryKeyCondition
  rw [if_neg (by simp [admits.consistent])]
  cases operator with
  | equals => exact admits.applyEquals member (Eq.symm holds)
  | greaterThan => exact admits.applyGreater member holds
  | greaterThanOrEqual => exact admits.applyGreater member holds
  | lessThan => exact admits.applyLess member holds
  | lessThanOrEqual => exact admits.applyLess member holds

end

end KeyConditions.Admits

theorem Operator.holds_invert {operator : Operator}
    (holds : operator.Holds left right) : operator.invertComparisonOperator.Holds right left := by
  cases operator with
  | equals => exact Eq.symm holds
  | greaterThan => exact holds
  | greaterThanOrEqual => exact holds
  | lessThan => exact holds
  | lessThanOrEqual => exact holds

variable {row : KeyRow}

theorem KeyRow.at_key (isKey : isKeyColumn column primaryKey = true) :
    column.toLower = primaryKey.toLower ∧ row.at column = row.at primaryKey := by
  have same : column.toLower = primaryKey.toLower := of_decide_eq_true isKey
  exact ⟨same, congrArg row same⟩

variable {clause : WhereClause}

theorem findKeyConditions_admits (primaryKey : String)
    {conditions : KeyConditions} (inDomain : clause.In domain) (holds : clause.Holds row)
    (admits : conditions.Admits domain primaryKey.toLower (row.at primaryKey)) :
    ∃ found next, findKeyConditions primaryKey clause conditions = some (found, next) ∧
      next.Admits domain primaryKey.toLower (row.at primaryKey) := by
  induction clause generalizing conditions with
  | and left right leftInduction rightInduction =>
    obtain ⟨leftFound, middle, leftRuns, middleAdmits⟩ := leftInduction inDomain.1 holds.1 admits
    obtain ⟨rightFound, next, rightRuns, nextAdmits⟩ :=
      rightInduction inDomain.2 holds.2 middleAdmits
    exact ⟨leftFound || rightFound, next,
      by simp [findKeyConditions, leftRuns, rightRuns], nextAdmits⟩
  | compare column operator bound =>
    unfold findKeyConditions
    split
    next isKey =>
      obtain ⟨same, isRow⟩ := row.at_key isKey
      rw [WhereClause.In, same] at inDomain
      rw [WhereClause.Holds, isRow] at holds
      obtain ⟨next, applied, nextAdmits⟩ := admits.applyBinary inDomain holds
      exact ⟨true, next, by simp [applied], nextAdmits⟩
    · exact ⟨false, conditions, rfl, admits⟩
  | compareValue bound operator column =>
    unfold findKeyConditions
    split
    next isKey =>
      obtain ⟨same, isRow⟩ := row.at_key isKey
      rw [WhereClause.In, same] at inDomain
      rw [WhereClause.Holds, isRow] at holds
      obtain ⟨next, applied, nextAdmits⟩ :=
        admits.applyBinary inDomain (Operator.holds_invert holds)
      exact ⟨true, next, by simp [applied], nextAdmits⟩
    · exact ⟨false, conditions, rfl, admits⟩
  | between column low high =>
    unfold findKeyConditions
    split
    next isKey =>
      obtain ⟨same, isRow⟩ := row.at_key isKey
      rw [WhereClause.In, same] at inDomain
      rw [WhereClause.Holds, isRow] at holds
      obtain ⟨middle, lowApplied, middleAdmits⟩ := admits.applyBinary inDomain.1
        (show Operator.greaterThanOrEqual.Holds _ _ from holds.1)
      obtain ⟨next, highApplied, nextAdmits⟩ := middleAdmits.applyBinary inDomain.2
        (show Operator.lessThanOrEqual.Holds _ _ from holds.2)
      exact ⟨true, next, by simp [lowApplied, highApplied], nextAdmits⟩
    · exact ⟨false, conditions, rfl, admits⟩

theorem extractKeyConditions_admits (primaryKey : String)
    (inDomain : clause.In domain) (holds : clause.Holds row) :
    ∃ conditions, extractKeyConditions clause primaryKey = some conditions ∧
      ∀ found ∈ conditions, found.Admits domain primaryKey.toLower (row.at primaryKey) := by
  obtain ⟨found, next, runs, admits⟩ := findKeyConditions_admits primaryKey inDomain holds .initial
  refine ⟨if found then some next else none, by simp [extractKeyConditions, runs], ?_⟩
  cases found with
  | true =>
    rintro _ ⟨⟩
    exact admits
  | false => nofun

end Conditions

section Tuples

variable {values elements : List KeyValue}

theorem supported_tuple (present : values ≠ [])
    (known : ∀ value ∈ values, (keyClass value).isSome) :
    (KeyValue.tuple values).routingKeySupported = true ∧
      decodeCompositeValue (.tuple values) = some (some values) := by
  have valid : ∀ value ∈ values, isValidCompositeElement value = true :=
    fun value member => (routingKeySupported_of_class (known value member)).2.2
  have isNonempty : values.isEmpty = false := by simpa using present
  constructor
  · simp only [KeyValue.routingKeySupported, isNonempty, Bool.not_false, Bool.true_and,
      List.all_eq_true]
    exact valid
  · rw [decodeCompositeValue, if_pos]
    simp only [isNonempty, Bool.not_false, Bool.true_and, List.all_eq_true]
    exact valid

end Tuples

section Bounds

variable {domain : Domain} {columns : List String}

def InColumns (domain : Domain) : List String → List KeyValue → Prop :=
  List.Forall₂ fun column value => keyClass value = some (domain.classOf column.toLower)

structure PartitionRange.Has (partition : PartitionRange) (key : List Rank) :
    Prop where
  start : ∀ elements, partition.start = .tuple elements → tupleCompare key (elements.map rank) ≠ .lt
  end_ : ∀ elements, partition.end_ = .tuple elements → tupleCompare key (elements.map rank) = .lt

variable {values elements : List KeyValue}

theorem InColumns.known (isValues : InColumns domain columns values) :
    ∀ value ∈ values, (keyClass value).isSome := by
  induction isValues with
  | nil => exact nofun
  | cons first _ induction =>
    exact List.forall_mem_cons.mpr ⟨Option.isSome_iff_exists.mpr ⟨_, first⟩, induction⟩

theorem InColumns.split (isValues : InColumns domain (front ++ back) values) :
    ∃ frontValues backValues, values = frontValues ++ backValues ∧
      InColumns domain front frontValues ∧ InColumns domain back backValues := by
  refine ⟨values.take front.length, values.drop front.length,
    (List.take_append_drop ..).symm, ?_, ?_⟩
  · exact (List.forall₂_take_append _ _ _ isValues.flip).flip
  · exact (List.forall₂_drop_append _ _ _ isValues.flip).flip

variable {row : KeyRow}

def KeyRow.key (row : KeyRow) (columns : List String) : List Rank :=
  columns.map fun column => rank (row.at column)

def EqualTo (domain : Domain) (row : KeyRow) : List String → List KeyValue → Prop :=
  List.Forall₂ fun column value =>
    domain.member column.toLower value ∧ rank value = rank (row.at column)

theorem EqualTo.inColumns (equal : EqualTo domain row columns values) :
    InColumns domain columns values :=
  equal.imp fun _ _ both => domain.known _ _ both.1

theorem EqualTo.ranks (equal : EqualTo domain row columns values) :
    values.map rank = row.key columns := by
  induction equal with
  | nil => rfl
  | cons first _ induction =>
    rw [List.map_cons, first.2, induction]
    rfl

/-- The elements of a bound are compared in turn with the conditions on their
columns, each only if the row has those before it. -/
def MeetsKey (domain : Domain) (row : KeyRow) : List String → List KeyValue → Prop
  | column :: columns, element :: elements =>
    (∀ value, domain.member column.toLower value → Comparable value element) ∧
      (rank element = rank (row.at column) → MeetsKey domain row columns elements)
  | _, _ => True

def RawBound.In (domain : Domain) (columns : List String) : RawBound → Prop
  | unbounded => True
  | tuple elements => InColumns domain columns elements
  | malformed => False

def RawBound.MeetsKey (domain : Domain) (row : KeyRow) (columns : List String)
    (bound : RawBound) : Prop :=
  ∀ elements, bound = .tuple elements → Routing.MeetsKey domain row columns elements

def NextAdmits (domain : Domain) (row : KeyRow) (columns : List String)
    (range : Option KeyConditions) : Prop :=
  ∀ conditions ∈ range, ∀ column rest, columns = column :: rest →
    conditions.Admits domain column.toLower (row.at column)

variable {values : List KeyValue}

open KeyConditions.Admits (compare_eq present)

theorem highReaches (next : NextAdmits domain row back range)
    (isBack : InColumns domain back elements) (meets : MeetsKey domain row back elements) :
    ∃ kept, highReachesStart range elements = some kept ∧
      (tupleCompare (row.key back) (elements.map rank) ≠ .lt → kept = true) := by
  match range, elements, next, isBack, meets with
  | none, _, _, _, _ => exact ⟨true, by simp [highReachesStart], fun _ => rfl⟩
  | some _, [], _, _, _ => exact ⟨true, rfl, fun _ => rfl⟩
  | some conditions, boundary :: _, next, .cons _ _, meets =>
    have admits := next conditions rfl _ _ rfl
    unfold highReachesStart
    dsimp only
    rcases admits.high with absent | ⟨isHigh, above⟩
    · exact ⟨true, if_pos absent, fun _ => rfl⟩
    rw [if_neg (by simp [present isHigh]), compareRoutingKeys_eq (meets.1 _ isHigh)]
    cases order : cmp (rank conditions.high) (rank boundary) with
    | gt => exact ⟨true, rfl, fun _ => rfl⟩
    | lt =>
      refine ⟨false, rfl, fun notBelow => ?_⟩
      have boundaryLe := Data.le_of_tupleCompare_ne_lt notBelow
      exact absurd (boundaryLe.trans (le_of_within above))
        (not_le.mpr ((cmp_eq_lt_iff ..).mp order))
    | eq =>
      refine ⟨conditions.highInclusive, rfl, fun notBelow => ?_⟩
      have boundaryLe := Data.le_of_tupleCompare_ne_lt notBelow
      by_contra exclusive
      rw [if_neg exclusive, (cmp_eq_eq_iff ..).mp order] at above
      exact absurd boundaryLe (not_le.mpr above)

theorem lowReaches (isLast : isLastColumn = true → back.length = 1)
    (next : NextAdmits domain row back range) (isBack : InColumns domain back elements)
    (meets : MeetsKey domain row back elements) :
    ∃ kept, lowReachesEnd isLastColumn range elements = some kept ∧
      (tupleCompare (row.key back) (elements.map rank) = .lt → kept = true) := by
  match range, elements, back, isLast, next, isBack, meets with
  | none, _, _, _, _, _, _ => exact ⟨true, by simp [lowReachesEnd], fun _ => rfl⟩
  | some _, [], _, _, _, _, _ => exact ⟨true, rfl, fun _ => rfl⟩
  | some conditions, boundary :: elements, column :: columns, isLast, next, .cons _ others,
      meets =>
      have admits := next conditions rfl _ _ rfl
      unfold lowReachesEnd
      dsimp only
      rcases admits.low with absent | ⟨isLow, below⟩
      · exact ⟨true, if_pos absent, fun _ => rfl⟩
      have lowLe := le_of_within below
      rw [if_neg (by simp [present isLow]), compareRoutingKeys_eq (meets.1 _ isLow)]
      cases order : cmp (rank conditions.low) (rank boundary) with
      | lt => exact ⟨true, rfl, fun _ => rfl⟩
      | gt =>
        refine ⟨false, rfl, fun isBelow => ?_⟩
        have leBoundary := Data.le_of_tupleCompare_eq_lt isBelow
        exact absurd (lowLe.trans leBoundary) (not_le.mpr ((cmp_eq_gt_iff ..).mp order))
      | eq =>
        refine ⟨conditions.lowInclusive && !isLastColumn, rfl, fun isBelow => ?_⟩
        have leBoundary := Data.le_of_tupleCompare_eq_lt isBelow
        have isLow := (cmp_eq_eq_iff ..).mp order
        rw [Bool.and_eq_true, Bool.not_eq_true']
        constructor
        · by_contra exclusive
          rw [if_neg exclusive, isLow] at below
          exact absurd leBoundary (not_le.mpr below)
        by_contra lastColumn
        have single : columns = [] :=
          List.length_eq_zero_iff.mp (Nat.succ.inj (isLast (by simpa using lastColumn)))
        subst single
        cases others
        have less := Data.lt_of_tupleCompare_single isBelow
        exact absurd (isLow ▸ lowLe) (not_le.mpr less)

theorem EqualTo.compare (equal : EqualTo domain row front values)
    (back : List String) (backElements : List KeyValue)
    (isFront : InColumns domain front frontElements) : tupleCompare (row.key (front ++ back))
        ((frontElements ++ backElements).map rank) =
      (tupleCompare (values.map rank) (frontElements.map rank)).then
        (tupleCompare (row.key back) (backElements.map rank)) := by
  rw [KeyRow.key, List.map_append, List.map_append, ← KeyRow.key, ← equal.ranks]
  have length : values.length = frontElements.length :=
    equal.length_eq.symm.trans isFront.length_eq
  exact Data.tupleCompare_append _ _ (by simp [length])

/-- The equality values are compared with the front of a bound, and what is behind
it is met only if they are the same. -/
theorem EqualTo.comparePrefix (equal : EqualTo domain row front values)
    (isFront : InColumns domain front frontElements)
    (meets : MeetsKey domain row (front ++ back) (frontElements ++ backElements)) :
    compareTuplePrefix values (frontElements ++ backElements) =
        some (tupleCompare (values.map rank) (frontElements.map rank)) ∧
      (tupleCompare (values.map rank) (frontElements.map rank) = .eq →
        MeetsKey domain row back backElements) := by
  induction equal generalizing frontElements with
  | nil =>
    cases isFront
    exact ⟨rfl, fun _ => meets⟩
  | @cons column value _ _ first _ induction =>
    cases isFront with
    | @cons _ element _ elements _ others =>
    simp only [compareTuplePrefix, List.cons_append, List.headD_cons, List.tail_cons,
      compareRoutingKeys_eq (meets.1 value first.1), List.map_cons, Data.tupleCompare_cons]
    cases order : cmp (rank value) (rank element) with
    | eq =>
      refine induction others (meets.2 ?_)
      rw [← (cmp_eq_eq_iff ..).mp order, first.2]
    | lt | gt => exact ⟨rfl, nofun⟩

theorem EqualTo.compareTuples (equal : EqualTo domain row columns values)
    (isElements : InColumns domain columns elements) (meets : MeetsKey domain row columns elements) :
    compareTuples values elements = some (tupleCompare (values.map rank) (elements.map rank)) := by
  induction equal generalizing elements with
  | nil =>
    cases isElements
    rfl
  | @cons column value _ _ first _ induction =>
    cases isElements with
    | @cons _ element _ elements _ others =>
    simp only [Partition.compareTuples, compareScalars_eq (meets.1 value first.1), List.map_cons,
      Data.tupleCompare_cons]
    cases order : cmp (rank value) (rank element) with
    | eq =>
      refine induction others (meets.2 ?_)
      rw [← (cmp_eq_eq_iff ..).mp order, first.2]
    | lt | gt => rfl

theorem matchesStart (equal : EqualTo domain row front values)
    (next : NextAdmits domain row back range) {start : Option (List KeyValue)}
    (inColumns : ∀ elements, start = some elements → InColumns domain (front ++ back) elements)
    (meets : ∀ elements, start = some elements → MeetsKey domain row (front ++ back) elements) :
    ∃ kept, matchesCompositeStartBound values range start = some kept ∧
      ((∀ elements, start = some elements →
        tupleCompare (row.key (front ++ back)) (elements.map rank) ≠ .lt) → kept = true) := by
  cases start with
  | none => exact ⟨true, rfl, fun _ => rfl⟩
  | some elements =>
    obtain ⟨frontElements, backElements, rfl, isFront, isBack⟩ := (inColumns elements rfl).split
    obtain ⟨compared, behind⟩ := equal.comparePrefix isFront (meets _ rfl)
    have ordered := equal.compare back backElements isFront
    have length : values.length = frontElements.length :=
      equal.length_eq.symm.trans isFront.length_eq
    simp only [matchesCompositeStartBound, compared, length, List.drop_left]
    cases order : tupleCompare (values.map rank) (frontElements.map rank) with
    | lt =>
      refine ⟨false, rfl, fun above => absurd ?_ (above _ rfl)⟩
      rw [ordered, order]
      rfl
    | gt => exact ⟨true, rfl, fun _ => rfl⟩
    | eq =>
      obtain ⟨kept, isKept, reaches⟩ := highReaches next isBack (behind order)
      refine ⟨kept, isKept, fun above => reaches ?_⟩
      have above := above _ rfl
      rw [ordered, order] at above
      exact above

theorem matchesEnd (equal : EqualTo domain row front values)
    (next : NextAdmits domain row back range) {end_ : Option (List KeyValue)}
    (inColumns : ∀ elements, end_ = some elements → InColumns domain (front ++ back) elements)
    (meets : ∀ elements, end_ = some elements → MeetsKey domain row (front ++ back) elements) :
    ∃ kept, matchesCompositeEndBound values range end_ (front ++ back).length =
        some kept ∧ ((∀ elements, end_ = some elements →
        tupleCompare (row.key (front ++ back)) (elements.map rank) = .lt) → kept = true) := by
  cases end_ with
  | none => exact ⟨true, rfl, fun _ => rfl⟩
  | some elements =>
    obtain ⟨frontElements, backElements, rfl, isFront, isBack⟩ := (inColumns elements rfl).split
    obtain ⟨compared, behind⟩ := equal.comparePrefix isFront (meets _ rfl)
    have ordered := equal.compare back backElements isFront
    have length : values.length = front.length := equal.length_eq.symm
    simp only [matchesCompositeEndBound, compared]
    cases order : tupleCompare (values.map rank) (frontElements.map rank) with
    | gt =>
      refine ⟨false, rfl, fun below => absurd (below _ rfl) ?_⟩
      rw [ordered, order]
      nofun
    | lt => exact ⟨true, rfl, fun _ => rfl⟩
    | eq =>
      have isLast : decide (values.length + 1 = (front ++ back).length) = true →
          back.length = 1 := by
        intro isLast
        have isLast := of_decide_eq_true isLast
        rw [List.length_append, length] at isLast
        omega
      obtain ⟨kept, isKept, reaches⟩ := lowReaches isLast next isBack (behind order)
      refine ⟨kept, ?_, fun below => reaches ?_⟩
      · rw [← isKept, length.trans isFront.length_eq, List.drop_left]
        rfl
      have below := below _ rfl
      rw [ordered, order] at below
      exact below

variable {partitions : List PartitionRange}

theorem RawBound.In.decoded {bound : RawBound} (inColumns : bound.In domain columns) :
    ∃ elements, decodeCompositeBoundaryTuple columns.length bound = some elements ∧
      (∀ tuple, elements = some tuple → bound = .tuple tuple) ∧
      ∀ tuple, elements = some tuple → InColumns domain columns tuple := by
  cases bound with
  | unbounded => exact ⟨none, rfl, nofun, nofun⟩
  | malformed => exact inColumns.elim
  | tuple elements =>
    have length : elements.length = columns.length := inColumns.length_eq.symm
    refine ⟨some elements, if_pos length, ?_, ?_⟩
    · rintro _ ⟨⟩
      rfl
    · rintro _ ⟨⟩
      exact inColumns

def BoundsIn (domain : Domain) (columns : List String) (partitions : List PartitionRange) : Prop :=
  ∀ partition ∈ partitions, partition.start.In domain columns ∧ partition.end_.In domain columns

def BoundsMeet (domain : Domain) (row : KeyRow) (columns : List String)
    (partitions : List PartitionRange) : Prop :=
  ∀ partition ∈ partitions, partition.start.MeetsKey domain row columns ∧
    partition.end_.MeetsKey domain row columns

theorem keeps_partition (equal : EqualTo domain row front values)
    (next : NextAdmits domain row back range)
    (inColumns : BoundsIn domain (front ++ back) partitions)
    (meets : BoundsMeet domain row (front ++ back) partitions) : ∃ decoded matched,
      decodeAllCompositePartitionBounds (front ++ back).length partitions = some decoded ∧
      keepMatching (matchesComposite values range (front ++ back).length) decoded = some matched ∧
      ∀ partition ∈ partitions, partition.Has (row.key (front ++ back)) →
        partition.partitionId ∈ matched := by
  induction partitions with
  | nil => exact ⟨[], [], rfl, rfl, nofun⟩
  | cons partition rest induction =>
    obtain ⟨first, others⟩ := List.forall_mem_cons.mp inColumns
    obtain ⟨firstMeets, othersMeet⟩ := List.forall_mem_cons.mp meets
    obtain ⟨decoded, matched, isDecoded, isMatched, has⟩ := induction others othersMeet
    obtain ⟨start, isStart, startTuple, startIn⟩ := first.1.decoded
    obtain ⟨end_, isEnd, endTuple, endIn⟩ := first.2.decoded
    obtain ⟨startKept, startRuns, startHas⟩ := matchesStart equal next startIn
      fun elements isSome => firstMeets.1 elements (startTuple elements isSome)
    obtain ⟨endKept, endRuns, endHas⟩ := matchesEnd equal next endIn
      fun elements isSome => firstMeets.2 elements (endTuple elements isSome)
    have runs : matchesComposite values range (front ++ back).length
        ⟨partition.partitionId, start, end_⟩ = some (startKept && endKept) := by
      rw [matchesComposite, startRuns]
      cases startKept with
      | true => simpa using endRuns
      | false => rfl
    refine ⟨⟨partition.partitionId, start, end_⟩ :: decoded,
      if startKept && endKept then partition.partitionId :: matched else matched,
      ?_, ?_, ?_⟩
    · rw [decodeAllCompositePartitionBounds, isStart, isEnd, isDecoded]
      rfl
    · rw [keepMatching, runs, isMatched]
      rfl
    intro found member isHas
    rcases List.mem_cons.mp member with rfl | member
    · have startKept := startHas fun elements isSome =>
        isHas.start elements (startTuple elements isSome)
      have endKept := endHas fun elements isSome => isHas.end_ elements (endTuple elements isSome)
      simp [startKept, endKept]
    · split
      · exact List.mem_cons_of_mem _ (has found member isHas)
      · exact has found member isHas

theorem decode_full (isColumns : columns ≠ []) (isElements : InColumns domain columns elements) :
    (KeyValue.tuple elements).routingKeySupported = true ∧
      decodeCompositeValue (.tuple elements) = some (some elements) := by
  refine supported_tuple ?_ isElements.known
  rintro rfl
  exact isColumns (List.length_eq_zero_iff.mp isElements.length_eq)

theorem compare_full (isColumns : columns ≠ []) (equal : EqualTo domain row columns values)
    (isElements : InColumns domain columns elements) (meets : MeetsKey domain row columns elements) :
    decodeCompositeValue (.tuple elements) = some (some elements) ∧
      compareRoutingKeys (.tuple values) (.tuple elements) =
        some (tupleCompare (row.key columns) (elements.map rank)) := by
  obtain ⟨supported, decoded⟩ := decode_full isColumns isElements
  refine ⟨decoded, ?_⟩
  rw [compareRoutingKeys, if_pos (by simp [supported, (decode_full isColumns equal.inColumns).1]),
    ← equal.ranks]
  exact equal.compareTuples isElements meets

theorem PartitionRange.has_iff {partition : PartitionRange} {key : List Rank} :
    partition.Has key ↔ (∀ elements, partition.start = .tuple elements →
        tupleCompare key (elements.map rank) ≠ .lt) ∧ ∀ elements, partition.end_ = .tuple elements →
        tupleCompare key (elements.map rank) = .lt :=
  ⟨fun has => ⟨has.start, has.end_⟩, fun both => ⟨both.1, both.2⟩⟩

theorem isValueInPartition_iff (present : columns ≠ []) (equal : EqualTo domain row columns values)
    (isStart : partition.start.In domain columns) (isEnd : partition.end_.In domain columns)
    (startMeets : partition.start.MeetsKey domain row columns)
    (endMeets : partition.end_.MeetsKey domain row columns) :
    ∃ found, isValueInPartition values partition = some found ∧
      (found = true ↔ partition.Has (row.key columns)) := by
  obtain ⟨partitionId, start, end_⟩ := partition
  have isValue := (decode_full present equal.inColumns).2
  have unbounded : decodeCompositeValue .unbounded = some none := rfl
  unfold isValueInPartition
  cases start with
  | malformed => exact isStart.elim
  | unbounded =>
    cases end_ with
    | malformed => exact isEnd.elim
    | unbounded => exact ⟨true, by rw [isValue]; rfl, by simp [PartitionRange.has_iff]⟩
    | tuple elements =>
      obtain ⟨decoded, compared⟩ := compare_full present equal isEnd (endMeets _ rfl)
      refine ⟨tupleCompare (row.key columns) (elements.map rank) = .lt, ?_, ?_⟩
      · simp [isValue, decoded, unbounded, compared]
      · simp [PartitionRange.has_iff]
  | tuple startElements =>
    obtain ⟨startDecoded, startCompared⟩ := compare_full present equal isStart (startMeets _ rfl)
    cases end_ with
    | malformed => exact isEnd.elim
    | unbounded =>
      refine ⟨tupleCompare (row.key columns) (startElements.map rank) ≠ .lt, ?_, ?_⟩
      · simp [isValue, startDecoded, unbounded, startCompared]
      · simp [PartitionRange.has_iff]
    | tuple endElements =>
      obtain ⟨endDecoded, endCompared⟩ := compare_full present equal isEnd (endMeets _ rfl)
      refine ⟨tupleCompare (row.key columns) (startElements.map rank) ≠ .lt &&
        tupleCompare (row.key columns) (endElements.map rank) = .lt, ?_, ?_⟩
      · simp only [isValue, startDecoded, endDecoded, Option.bind_eq_bind,
          Option.bind_some, startCompared, endCompared]
        split
        next below => simp [below]
        next above => simp [above]
      · simp [PartitionRange.has_iff]

theorem resolvePartitionForKey_eq (present : columns ≠ [])
    (equal : EqualTo domain row columns values) (inColumns : BoundsIn domain columns partitions)
    (meets : BoundsMeet domain row columns partitions)
    (member : partition ∈ partitions) (has : partition.Has (row.key columns))
    (unique : ∀ other ∈ partitions, other.Has (row.key columns) → other = partition) :
    resolvePartitionForKey values partitions = some (some partition.partitionId) := by
  induction partitions with
  | nil => cases member
  | cons first rest induction =>
    obtain ⟨isFirst, others⟩ := List.forall_mem_cons.mp inColumns
    obtain ⟨firstMeets, othersMeet⟩ := List.forall_mem_cons.mp meets
    obtain ⟨found, isFound, iff⟩ := isValueInPartition_iff present equal isFirst.1 isFirst.2
      firstMeets.1 firstMeets.2
    rw [resolvePartitionForKey, isFound]
    cases found with
    | true =>
      obtain rfl := unique first List.mem_cons_self (iff.mp rfl)
      rfl
    | false =>
      refine induction others othersMeet ?_ fun other isOther => unique other (List.mem_cons_of_mem _ isOther)
      rcases List.mem_cons.mp member with rfl | member
      · exact absurd (iff.mpr has) Bool.false_ne_true
      · exact member

def AllAdmit (domain : Domain) (row : KeyRow) : List String → List (Option KeyConditions) → Prop :=
  List.Forall₂ fun column conditions =>
    ∀ found ∈ conditions, found.Admits domain column.toLower (row.at column)

theorem collect_admits {clause : WhereClause} (inDomain : clause.In domain)
    (holds : clause.Holds row) (columns : List String) :
    ∃ conditions, collectCompositeColumnConditions clause columns =
        some (some conditions) ∧ AllAdmit domain row columns conditions := by
  induction columns with
  | nil => exact ⟨[], rfl, .nil⟩
  | cons column rest induction =>
    obtain ⟨others, collected, othersAdmit⟩ := induction
    obtain ⟨conditions, extracted, admits⟩ := extractKeyConditions_admits column inDomain holds
    have consistent : conditions.any KeyConditions.contradiction = false := by
      cases conditions with
      | none => rfl
      | some found => exact (admits found rfl).consistent
    refine ⟨conditions :: others, ?_, .cons admits othersAdmit⟩
    rw [collectCompositeColumnConditions, extracted, collected]
    simp [consistent]

theorem equalsValue_eq {column : String} {conditions : Option KeyConditions}
    (admits : ∀ found ∈ conditions, found.Admits domain column.toLower (row.at column))
    (isValue : conditions.bind KeyConditions.equalsValue = some value) :
    domain.member column.toLower value ∧ rank value = rank (row.at column) := by
  obtain ⟨found, isFound, isValue⟩ := Option.bind_eq_some_iff.mp isValue
  unfold KeyConditions.equalsValue at isValue
  split at isValue
  next isType isValues =>
    obtain ⟨bound, isBound, member, same⟩ := (admits found isFound).equals isType
    have isOnly := List.singleton_inj.mp (isBound.symm.trans isValues)
    rw [← Option.some.inj isValue, ← isOnly]
    exact ⟨member, same⟩
  · cases isValue

theorem equalityValues_split {conditions : List (Option KeyConditions)}
    (admitting : AllAdmit domain row columns conditions) : ∃ front back, columns = front ++ back ∧
      EqualTo domain row front (equalityValues conditions) ∧ NextAdmits domain row back (rangeOf
        (conditions.drop (equalityValues conditions).length).head?.join) := by
  induction admitting with
  | nil => exact ⟨[], [], rfl, .nil, nofun⟩
  | @cons column first columns rest firstAdmits others induction =>
    unfold equalityValues
    split
    next value isValue =>
      obtain ⟨front, back, rfl, equal, next⟩ := induction
      exact ⟨column :: front, back, rfl, .cons (equalsValue_eq firstAdmits isValue) equal, next⟩
    · refine ⟨[], column :: columns, rfl, .nil, ?_⟩
      intro found isFound other others isColumns
      obtain ⟨rfl, rfl⟩ := List.cons.inj isColumns
      exact firstAdmits found (Option.filter_eq_some_iff.mp isFound).1

end Bounds

/-- The bounds of the partitions are keys, and each key is in one partition. -/
structure Tiles (domain : Domain) (columns : List String)
    (partitions : List PartitionRange) : Prop where
  bounds : BoundsIn domain columns partitions
  one : ∀ row : KeyRow,
    (∀ column ∈ columns, keyClass (row.at column) = some (domain.classOf column.toLower)) →
    ∃! partition, partition ∈ partitions ∧ partition.Has (row.key columns)

namespace Sample

def columns : List String := ["tenant", "id"]

def partitions (bound : List KeyValue) : List PartitionRange :=
  [⟨"left", .unbounded, .tuple bound⟩, ⟨"right", .tuple bound, .unbounded⟩]

def number (value : Int) : KeyValue := .primitive (.number (.finite value))

def row (id : Int) : KeyRow
  | "tenant" => .bigint 1
  | _ => .bigint id

theorem row_tenant (id : Int) : (row id).at "tenant" = .bigint 1 := by
  rw [KeyRow.at, show "tenant".toLower = "tenant" by decide +kernel]
  rfl

theorem row_id (id : Int) : (row id).at "id" = .bigint id := by
  rw [KeyRow.at, show "id".toLower = "id" by decide +kernel]
  rfl

def clause (id : Int) : WhereClause :=
  .and (.compare "tenant" .equals (.bigint 1)) (.compare "id" .lessThan (.bigint id))

def given (id : Int) : Domain where
  classOf _ := .numeric
  member column value := value = .bigint 1 ∨ column = "id" ∧ value = .bigint id
  known _ _ := by
    rintro (rfl | ⟨-, rfl⟩) <;> rfl
  comparable _ _ _ := by
    rintro (rfl | ⟨-, rfl⟩) (rfl | ⟨-, rfl⟩) <;> exact ⟨rfl, rfl, trivial⟩

theorem exact_small {big value : Int} (bigSmall : big.natAbs ≤ 2 ^ 53)
    (small : value.natAbs ≤ 2 ^ 53) : Exact (.bigint big) (number value) := by
  refine ⟨Js.Number.round_intCast small, fun rounded => ?_⟩
  have itself : Js.Number.ofInt big = .finite big := Js.Number.round_intCast bigSmall
  exact Js.Number.finite.inj (itself.symm.trans rounded)

theorem tiles {id : Int} (isBound : InColumns (given id) columns bound) :
    Tiles (given id) columns (partitions bound) where
  bounds := by
    rintro _ (_ | ⟨_, _ | ⟨_, ⟨⟩⟩⟩)
    · exact ⟨trivial, isBound⟩
    · exact ⟨isBound, trivial⟩
  one row _ := by
    by_cases below : tupleCompare (row.key columns) (bound.map rank) = .lt
    · refine ⟨⟨"left", .unbounded, .tuple bound⟩, ⟨List.mem_cons_self, nofun, ?_⟩, ?_⟩
      · rintro _ ⟨⟩
        exact below
      rintro other ⟨_ | ⟨_, _ | ⟨_, ⟨⟩⟩⟩, has⟩
      · rfl
      · exact absurd below (has.start bound rfl)
    refine ⟨⟨"right", .tuple bound, .unbounded⟩,
      ⟨List.mem_cons_of_mem _ List.mem_cons_self, ?_, nofun⟩, ?_⟩
    · rintro _ ⟨⟩
      exact below
    rintro other ⟨_ | ⟨_, _ | ⟨_, ⟨⟩⟩⟩, has⟩
    · exact absurd (has.end_ bound rfl) below
    · rfl

theorem right_has (id : Int) :
    PartitionRange.Has ⟨"right", .tuple [number 1, number id], .unbounded⟩
      ((row id).key columns) := by
  refine ⟨?_, nofun⟩
  rintro _ ⟨⟩
  have same : (row id).key columns = [number 1, number id].map rank := by
    simp [KeyRow.key, columns, row_tenant, row_id, rank, number]
  rw [same]
  simp [number, Data.tupleCompare_cons]

theorem clause_holds (id : Int) : (clause (id + 1)).Holds (row id) := by
  constructor
  · rw [WhereClause.Holds, row_tenant]
    rfl
  rw [WhereClause.Holds, row_id]
  have less : (id : ℚ) < ((id + 1 : Int) : ℚ) := by exact_mod_cast Int.lt_succ id
  exact Prod.Lex.toLex_lt_toLex.mpr (.inl less)

def largeId : Int := 2 ^ 53

theorem left_has {id : Int} (less : id < largeId) :
    PartitionRange.Has ⟨"left", .unbounded, .tuple [number 1, number largeId]⟩
      ((row id).key columns) := by
  refine ⟨nofun, ?_⟩
  rintro _ ⟨⟩
  have key : (row id).key columns = [rank (number 1), toLex ((id : ℚ), [])] := by
    simp [KeyRow.key, columns, row_tenant, row_id, rank, number]
  have less : cmp (toLex ((id : ℚ), ([] : List ℕ))) (toLex ((largeId : ℚ), [])) = .lt := by
    rw [cmp_toLex_left, cmp_intCast]
    exact (cmp_eq_lt_iff ..).mpr less
  simp only [key, List.map_cons, List.map_nil, Data.tupleCompare_cons, cmp_self_eq_eq]
  change Ordering.then (cmp (toLex ((id : ℚ), ([] : List ℕ))) (toLex ((largeId : ℚ), []))) _ = _
  rw [less]
  rfl

end Sample

end LagrangeDb.Routing
