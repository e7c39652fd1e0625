import LagrangeDb.Routing.KeyRangesTiled
import LagrangeDb.Routing.SingleKey

namespace LagrangeDb.Routing.SingleKey

open LagrangeDb.Routing.KeyRanges (KeySpace)
open LagrangeDb.Partition (KeyValue)

/-! When a SELECT that no row satisfies has no rows: which conditions on the key exclude
each other, and which partitions they reach. -/

inductive KeyCondition where
  | compare (operator : Operator) (value : KeyValue)
  | oneOf (values : List KeyValue)

/-- The conditions that a WHERE clause puts on the key, in their order. -/
def keyConditions (primaryKey : String) : Predicate → Option (List KeyCondition)
  | .and left right => do
    return (← keyConditions primaryKey left) ++ (← keyConditions primaryKey right)
  | .compare column operator operand => ofKey column do
    return (← operand).toList.map (.compare operator)
  | .compareValue operand operator column => ofKey column do
    return (← operand).toList.map (.compare operator.invertComparisonOperator)
  | .inList column _ operands => ofKey column do
    match ← (operands.mapM OptionT.mk).run with
    | none | some [] => return []
    | some values => return [.oneOf values]
  | .between column low high => ofKey column do
    match ← low, ← high with
    | some low, some high =>
      return [.compare .greaterThanOrEqual low, .compare .lessThanOrEqual high]
    | _, _ => return []
  | .other _ => some []
where
  ofKey (column : String) (read : Option (List KeyCondition)) :=
    if isKeyColumn column primaryKey then read else some []

def Found.apply (found : Found) : KeyCondition → Option Found
  | .compare operator value => found.applyBinaryKeyCondition operator value
  | .oneOf values => some (found.applyList values)

def Found.applyAll (found : Found) (conditions : List KeyCondition) : Option (Bool × Found) :=
  (conditions.foldlM Found.apply found).map (!conditions.isEmpty, ·)

section

variable {primaryKey column : String} {conditions : List KeyCondition} {found : Found}

theorem ofKey_eq {read : Option (List KeyCondition)} {handled : Option (Bool × Found)}
    (handles : read = some conditions → handled = found.applyAll conditions)
    (reads : keyConditions.ofKey primaryKey column read = some conditions) :
    findKeyConditions.ofKey primaryKey found column handled = found.applyAll conditions := by
  unfold keyConditions.ofKey at reads
  unfold findKeyConditions.ofKey
  split at reads
  · rw [if_pos ‹_›]
    exact handles reads
  · cases reads
    rw [if_neg ‹_›]
    rfl

theorem handleBinaryExpr_eq {operator : Operator} {operand : Operand}
    (reads : (do return (← operand).toList.map (.compare operator)) = some conditions) :
    handleBinaryExpr found operator operand = found.applyAll conditions := by
  cases operand with
  | none => cases reads
  | some value =>
    cases reads
    cases value <;> simp [handleBinaryExpr, Found.applyAll, Found.apply, Option.map_eq_bind]

theorem findKeyConditions_eq {whereClause : Predicate}
    (reads : keyConditions primaryKey whereClause = some conditions) (found : Found) :
    findKeyConditions primaryKey whereClause found = found.applyAll conditions := by
  induction whereClause generalizing conditions found with
  | and left right leftInduction rightInduction =>
    obtain ⟨first, readsLeft, reads⟩ := Option.bind_eq_some_iff.mp reads
    obtain ⟨second, readsRight, reads⟩ := Option.bind_eq_some_iff.mp reads
    cases reads
    rw [findKeyConditions, leftInduction readsLeft]
    unfold Found.applyAll
    rw [List.foldlM_append]
    cases first.foldlM Found.apply found with
    | none => rfl
    | some middle =>
      simp only [Option.map_some, Option.bind_eq_bind, Option.bind_some,
        rightInduction readsRight, Found.applyAll]
      cases second.foldlM Found.apply middle <;> cases first <;> simp
  | compare column operator operand => exact ofKey_eq handleBinaryExpr_eq reads
  | compareValue operand operator column => exact ofKey_eq handleBinaryExpr_eq reads
  | inList column negated operands =>
    refine ofKey_eq (fun reads => ?_) reads
    rw [handleInExpr]
    cases listed : (operands.mapM OptionT.mk).run with
    | none =>
      rw [listed] at reads
      cases reads
    | some values =>
      rw [listed] at reads
      rcases values with _ | _ | ⟨first, rest⟩ <;> cases reads <;> rfl
  | between column low high =>
    refine ofKey_eq (fun reads => ?_) reads
    rw [handleBetweenExpr]
    cases low with
    | none => cases reads
    | some low =>
      cases high with
      | none => cases reads
      | some high =>
        cases low <;> cases high <;> cases reads <;>
          simp [Found.applyAll, Found.apply, Option.map_eq_bind, Option.bind_assoc]
  | other text =>
    cases reads
    rfl

end

section

variable {α : Type}

/-- A place between keys: right before one or right after it, or either end. -/
abbrev Place (α : Type) := WithBot (WithTop (α ×ₗ Bool))

def before (key : α) : Place α := ((toLex (key, false) : α ×ₗ Bool) : WithTop (α ×ₗ Bool))

def after (key : α) : Place α := ((toLex (key, true) : α ×ₗ Bool) : WithTop (α ×ₗ Bool))

variable {key other : α}

@[simp] theorem before_ne_bot : before key ≠ ⊥ := nofun

@[simp] theorem after_ne_bot : after key ≠ ⊥ := nofun

@[simp] theorem before_ne_top : before key ≠ ⊤ := nofun

@[simp] theorem after_ne_top : after key ≠ ⊤ := nofun

/-- Where the keys begin that a comparison holds for. -/
def lower (key : α) : Operator → Place α
  | .equals | .greaterThanOrEqual => before key
  | .greaterThan => after key
  | .lessThan | .lessThanOrEqual => ⊥

/-- Where they end. -/
def upper (key : α) : Operator → Place α
  | .equals | .lessThanOrEqual => after key
  | .lessThan => before key
  | .greaterThan | .greaterThanOrEqual => ⊤

theorem lower_ne_top (key : α) (operator : Operator) : lower key operator ≠ ⊤ := by
  cases operator <;> nofun

theorem upper_ne_bot (key : α) (operator : Operator) : upper key operator ≠ ⊥ := by
  cases operator <;> nofun

variable [LinearOrder α]

@[simp] theorem before_le_before : before key ≤ before other ↔ key ≤ other := by
  simp [before, Prod.Lex.toLex_le_toLex, ← le_iff_lt_or_eq]

@[simp] theorem after_le_after : after key ≤ after other ↔ key ≤ other := by
  simp [after, Prod.Lex.toLex_le_toLex, ← le_iff_lt_or_eq]

@[simp] theorem before_le_after : before key ≤ after other ↔ key ≤ other := by
  simp [before, after, Prod.Lex.toLex_le_toLex, ← le_iff_lt_or_eq]

@[simp] theorem after_le_before : after key ≤ before other ↔ key < other := by
  simp [before, after, Prod.Lex.toLex_le_toLex]

/-- Nothing lies between right before a key and right after it. -/
theorem le_before_iff {place : Place α} : place ≤ before key ↔ place < after key := by
  induction place using WithBot.recBotCoe with
  | bot => simp [after]
  | coe place =>
    induction place using WithTop.recTopCoe with
    | top => simp [before, after]
    | coe place =>
      obtain ⟨found, isAfter⟩ := place
      cases isAfter
      · change before found ≤ before key ↔ before found < after key
        rw [before_le_before, lt_iff_not_ge, after_le_before, not_lt]
      · change after found ≤ before key ↔ after found < after key
        simp only [after_le_before, ← not_le, after_le_after]

theorem after_le_iff {place : Place α} : after key ≤ place ↔ before key < place := by
  rw [← not_lt, ← le_before_iff, not_le]

variable (space : KeySpace α)

def KeyCondition.Over : KeyCondition → Prop
  | .compare _ value => value ∈ space.keys
  | .oneOf values => ∀ value ∈ values, value ∈ space.keys

structure PartitionBounds.Over (partition : PartitionBounds) : Prop where
  start : ∀ key ∈ partition.start, key ∈ space.keys
  end_ : ∀ key ∈ partition.end_, key ∈ space.keys

/-- The keys that the one condition holds for end before those of the other begin. -/
def KeyCondition.EndsBefore : KeyCondition → KeyCondition → Prop
  | .compare operator value, .compare next other =>
    upper (space.rank value) operator ≤ lower (space.rank other) next
  | _, _ => False

def PartitionBounds.Contains (partition : PartitionBounds) (value : KeyValue) : Prop :=
  (∀ start ∈ partition.start, space.rank start ≤ space.rank value) ∧
    ∀ end_ ∈ partition.end_, space.rank value < space.rank end_

/-- A partition that the condition leaves. -/
def KeyCondition.Reaches (partition : PartitionBounds) : KeyCondition → Prop
  | .compare .equals value => partition.Contains space value
  | .compare .greaterThan value =>
    ∀ end_ ∈ partition.end_, space.rank value < space.rank end_
  | .compare .greaterThanOrEqual value =>
    ∀ end_ ∈ partition.end_, space.rank value ≤ space.rank end_
  | .compare .lessThan value => ∀ start ∈ partition.start, space.rank start < space.rank value
  | .compare .lessThanOrEqual value =>
    ∀ start ∈ partition.start, space.rank start ≤ space.rank value
  | .oneOf _ => True

/-- An IN list at the end decides alone, one at the front is forgotten. -/
def Reached (conditions : List KeyCondition) (partition : PartitionBounds) : Prop :=
  match conditions.getLast? with
  | some (.oneOf values) => ∃ value ∈ values, partition.Contains space value
  | _ => ∀ condition ∈ conditions, condition.Reaches space partition

/-- No IN list stands between comparisons. -/
def Unmixed (conditions : List KeyCondition) : Prop :=
  ∃ (lists : List (List KeyValue)) (comparisons : List (Operator × KeyValue))
    (later : List (List KeyValue)), conditions = lists.map .oneOf ++
      comparisons.map (fun (operator, value) => .compare operator value) ++ later.map .oneOf

/-! The two places a range is kept between. -/

def lowPlace (conditions : KeyConditions) : Place α :=
  if conditions.low.isAbsent then ⊥
  else if conditions.lowInclusive then before (space.rank conditions.low)
  else after (space.rank conditions.low)

def highPlace (conditions : KeyConditions) : Place α :=
  if conditions.high.isAbsent then ⊤
  else if conditions.highInclusive then after (space.rank conditions.high)
  else before (space.rank conditions.high)

structure Bounded (conditions : KeyConditions) : Prop where
  low : conditions.low.isAbsent = false → conditions.low ∈ space.keys
  high : conditions.high.isAbsent = false → conditions.high ∈ space.keys

variable {space} {conditions : KeyConditions} {value : KeyValue}

theorem isBelowLow_eq (bounded : Bounded space conditions) (member : value ∈ space.keys) :
    conditions.isBelowLow value =
      some (decide ¬lowPlace space conditions ≤ before (space.rank value)) := by
  unfold KeyConditions.isBelowLow lowPlace
  cases absent : conditions.low.isAbsent with
  | true => simp
  | false =>
    rw [space.compared _ member _ (bounded.low absent)]
    rcases lt_trichotomy (space.rank value) (space.rank conditions.low) with less | same | more
    · cases conditions.lowInclusive <;> simp [cmp, cmpUsing, less, less.le]
    · cases conditions.lowInclusive <;> simp [cmp, cmpUsing, same]
    · cases conditions.lowInclusive <;> simp [cmp, cmpUsing, more, more.not_gt, more.le]

theorem isAboveHigh_eq (bounded : Bounded space conditions) (member : value ∈ space.keys) :
    conditions.isAboveHigh value =
      some (decide ¬after (space.rank value) ≤ highPlace space conditions) := by
  unfold KeyConditions.isAboveHigh highPlace
  cases absent : conditions.high.isAbsent with
  | true => simp
  | false =>
    rw [space.compared _ member _ (bounded.high absent)]
    rcases lt_trichotomy (space.rank value) (space.rank conditions.high) with less | same | more
    · cases conditions.highInclusive <;> simp [cmp, cmpUsing, less, less.le]
    · cases conditions.highInclusive <;> simp [cmp, cmpUsing, same]
    · cases conditions.highInclusive <;> simp [cmp, cmpUsing, more, more.not_gt]

theorem checkRangeContradiction_eq (bounded : Bounded space conditions)
    (member : value ∈ space.keys) : conditions.checkRangeContradiction value =
      some (decide ¬(lowPlace space conditions ≤ before (space.rank value) ∧
        after (space.rank value) ≤ highPlace space conditions)) := by
  unfold KeyConditions.checkRangeContradiction
  rw [isBelowLow_eq bounded member, isAboveHigh_eq bounded member]
  by_cases below : lowPlace space conditions ≤ before (space.rank value) <;> simp [below]

theorem verifyRangeBounds_eq (bounded : Bounded space conditions) :
    conditions.verifyRangeBounds = some
      (if highPlace space conditions ≤ lowPlace space conditions then
        { conditions with contradiction := true }
      else conditions) := by
  unfold KeyConditions.verifyRangeBounds highPlace lowPlace
  cases noLow : conditions.low.isAbsent with
  | true => cases conditions.high.isAbsent <;> cases conditions.highInclusive <;> simp
  | false =>
    cases noHigh : conditions.high.isAbsent with
    | true => cases conditions.lowInclusive <;> simp
    | false =>
      simp only [Bool.or_self, Bool.false_eq_true, if_false]
      rw [space.compared _ (bounded.low noLow) _ (bounded.high noHigh)]
      rcases lt_trichotomy (space.rank conditions.low) (space.rank conditions.high)
        with less | same | more
      · cases conditions.lowInclusive <;> cases conditions.highInclusive <;>
          simp [cmp, cmpUsing, less, less.not_ge, less.not_gt]
      · cases conditions.lowInclusive <;> cases conditions.highInclusive <;>
          simp [cmp, cmpUsing, same]
      · cases conditions.lowInclusive <;> cases conditions.highInclusive <;>
          simp [cmp, cmpUsing, more, more.not_gt, more.le]

/-- Whether a value was found, and the places that what was found lies between. -/
inductive Kept (space : KeySpace α) (conditions : KeyConditions) :
    Bool → Place α → Place α → Prop
  | all (isType : conditions.type = none) (low : conditions.low.isAbsent = true)
      (high : conditions.high.isAbsent = true) : Kept space conditions false ⊥ ⊤
  | point (value : KeyValue) (isType : conditions.type = some .equals)
      (isValue : conditions.values = [value]) (member : value ∈ space.keys) :
      Kept space conditions true (before (space.rank value)) (after (space.rank value))
  | range (isType : conditions.type = some .range) (bounded : Bounded space conditions) :
      Kept space conditions false (lowPlace space conditions) (highPlace space conditions)

/-- What a condition makes of the conditions before it: the places move together, and
where they meet there is a contradiction. -/
def Narrows (space : KeySpace α) (next : KeyConditions) (isPoint : Bool) (low high : Place α) :
    Prop :=
  if high ≤ low then next.contradiction = true
  else next.contradiction = false ∧ Kept space next isPoint low high

theorem updateRangeLow_ranged (member : value ∈ space.keys)
    (clean : conditions.contradiction = false) (bounded : Bounded space conditions)
    (isType : conditions.low.isAbsent = false → conditions.type = some .range) (inclusive : Bool) :
    ∃ next, conditions.updateRangeLow value inclusive = some next ∧ Bounded space next ∧
      next.type = some .range ∧ next.contradiction = false ∧
      lowPlace space next = max (lowPlace space conditions)
        (if inclusive then before (space.rank value) else after (space.rank value)) ∧
      highPlace space next = highPlace space conditions := by
  have present := space.present value member
  unfold KeyConditions.updateRangeLow
  cases absent : conditions.low.isAbsent with
  | true =>
    refine ⟨_, rfl, ⟨fun _ => member, bounded.high⟩, rfl, clean, ?_, rfl⟩
    simp [lowPlace, absent, present]
  | false =>
    rw [if_neg (by simp), space.compared _ member _ (bounded.low absent)]
    rcases lt_trichotomy (space.rank value) (space.rank conditions.low) with less | same | more
    · refine ⟨conditions, by simp [cmp, cmpUsing, less], bounded, isType absent, clean, ?_, rfl⟩
      rw [eq_comm, max_eq_left_iff]
      cases inclusive <;> cases isInclusive : conditions.lowInclusive <;>
        simp [lowPlace, absent, isInclusive, less, less.le]
    · refine ⟨{ conditions with lowInclusive := conditions.lowInclusive && inclusive },
        by simp [cmp, cmpUsing, same], ⟨bounded.low, bounded.high⟩, isType absent, clean, ?_, rfl⟩
      cases inclusive <;> cases isInclusive : conditions.lowInclusive <;>
        simp [lowPlace, absent, same, isInclusive]
    · refine ⟨{ conditions with low := value, lowInclusive := inclusive },
        by simp [cmp, cmpUsing, more, more.not_gt], ⟨fun _ => member, bounded.high⟩,
        isType absent, clean, ?_, rfl⟩
      rw [eq_comm, max_eq_right]
      · simp [lowPlace, present]
      · cases inclusive <;> cases isInclusive : conditions.lowInclusive <;>
          simp [lowPlace, absent, isInclusive, more, more.le]

theorem updateRangeHigh_ranged (member : value ∈ space.keys)
    (clean : conditions.contradiction = false) (bounded : Bounded space conditions)
    (isType : conditions.high.isAbsent = false → conditions.type = some .range)
    (inclusive : Bool) :
    ∃ next, conditions.updateRangeHigh value inclusive = some next ∧ Bounded space next ∧
      next.type = some .range ∧ next.contradiction = false ∧
      lowPlace space next = lowPlace space conditions ∧
      highPlace space next = min (highPlace space conditions)
        (if inclusive then after (space.rank value) else before (space.rank value)) := by
  have present := space.present value member
  unfold KeyConditions.updateRangeHigh
  cases absent : conditions.high.isAbsent with
  | true =>
    refine ⟨_, rfl, ⟨bounded.low, fun _ => member⟩, rfl, clean, rfl, ?_⟩
    simp [highPlace, absent, present]
  | false =>
    rw [if_neg (by simp), space.compared _ member _ (bounded.high absent)]
    rcases lt_trichotomy (space.rank value) (space.rank conditions.high) with less | same | more
    · refine ⟨{ conditions with high := value, highInclusive := inclusive },
        by simp [cmp, cmpUsing, less], ⟨bounded.low, fun _ => member⟩,
        isType absent, clean, rfl, ?_⟩
      rw [eq_comm, min_eq_right]
      · simp [highPlace, present]
      · cases inclusive <;> cases isInclusive : conditions.highInclusive <;>
          simp [highPlace, absent, isInclusive, less, less.le]
    · refine ⟨{ conditions with highInclusive := conditions.highInclusive && inclusive },
        by simp [cmp, cmpUsing, same], ⟨bounded.low, bounded.high⟩, isType absent, clean, rfl, ?_⟩
      cases inclusive <;> cases isInclusive : conditions.highInclusive <;>
        simp [highPlace, absent, same, isInclusive]
    · refine ⟨conditions, by simp [cmp, cmpUsing, more, more.not_gt], bounded, isType absent,
        clean, rfl, ?_⟩
      rw [eq_comm, min_eq_left_iff]
      cases inclusive <;> cases isInclusive : conditions.highInclusive <;>
        simp [highPlace, absent, isInclusive, more, more.le]

/-- Bounds are verified after one of them has moved. -/
theorem bound_narrows {updated : Option KeyConditions} {low high : Place α}
    (ranged : ∃ next, updated = some next ∧ Bounded space next ∧ next.type = some .range ∧
      next.contradiction = false ∧ lowPlace space next = low ∧ highPlace space next = high) :
    ∃ verified, updated.bind KeyConditions.verifyRangeBounds = some verified ∧
      Narrows space verified false low high := by
  obtain ⟨next, rfl, bounded, isType, clean, rfl, rfl⟩ := ranged
  refine ⟨_, verifyRangeBounds_eq bounded, ?_⟩
  unfold Narrows
  split
  · rfl
  · exact ⟨clean, .range isType bounded⟩

/-- A value that was found is only checked. -/
theorem point_narrows {found : KeyValue} (isType : conditions.type = some .equals)
    (isValue : conditions.values = [found]) (isFound : found ∈ space.keys)
    (clean : conditions.contradiction = false) {low high : Place α} (refused : Bool)
    (refuses : refused = true ↔ min (after (space.rank found)) high ≤
      max (before (space.rank found)) low) :
    Narrows space (if refused then { conditions with contradiction := true } else conditions) true
      (max (before (space.rank found)) low) (min (after (space.rank found)) high) := by
  unfold Narrows
  cases refused with
  | true => simp [refuses.mp rfl]
  | false =>
    have apart := mt refuses.mpr Bool.false_ne_true
    obtain ⟨above, below, -⟩ : before (space.rank found) < high ∧
        low < after (space.rank found) ∧ low < high := by
      simpa [min_le_iff, le_max_iff, not_or] using apart
    rw [if_neg apart, max_eq_left (le_before_iff.mpr below), min_eq_left (after_le_iff.mpr above)]
    exact ⟨clean, .point found isType isValue isFound⟩

section

variable (clean : conditions.contradiction = false) (member : value ∈ space.keys)

include clean member

theorem ranged_step (bounded : Bounded space conditions) (isType : conditions.type ≠ some .equals)
    (lowType : conditions.low.isAbsent = false → conditions.type = some .range)
    (highType : conditions.high.isAbsent = false → conditions.type = some .range)
    (operator : Operator) (bounds : operator ≠ .equals) :
    ∃ next, conditions.applyBinaryKeyCondition operator value = some next ∧
      Narrows space next false (max (lowPlace space conditions) (lower (space.rank value) operator))
        (min (highPlace space conditions) (upper (space.rank value) operator)) := by
  have greater (inclusive : Bool) : conditions.applyGreaterThanCondition value inclusive =
      (conditions.updateRangeLow value inclusive).bind KeyConditions.verifyRangeBounds := by
    unfold KeyConditions.applyGreaterThanCondition
    split
    · exact absurd ‹_› isType
    · rfl
  have less (inclusive : Bool) : conditions.applyLessThanCondition value inclusive =
      (conditions.updateRangeHigh value inclusive).bind KeyConditions.verifyRangeBounds := by
    unfold KeyConditions.applyLessThanCondition
    split
    · exact absurd ‹_› isType
    · rfl
  have low (inclusive : Bool) :=
    bound_narrows (updateRangeLow_ranged member clean bounded lowType inclusive)
  have high (inclusive : Bool) :=
    bound_narrows (updateRangeHigh_ranged member clean bounded highType inclusive)
  simp only [KeyConditions.applyBinaryKeyCondition, clean, Bool.false_eq_true, if_false, greater,
    less]
  cases operator with
  | equals => exact absurd rfl bounds
  | greaterThan => simpa [lower, upper] using low false
  | greaterThanOrEqual => simpa [lower, upper] using low true
  | lessThan => simpa [lower, upper] using high false
  | lessThanOrEqual => simpa [lower, upper] using high true

theorem equals_ranged {low high : Place α} (refused : Bool)
    (contradicts : conditions.contradictsValue value = some refused)
    (refuses : refused = true ↔
      ¬(low ≤ before (space.rank value) ∧ after (space.rank value) ≤ high)) :
    ∃ next, conditions.applyBinaryKeyCondition .equals value = some next ∧
      Narrows space next true (max low (lower (space.rank value) .equals))
        (min high (upper (space.rank value) .equals)) := by
  simp only [KeyConditions.applyBinaryKeyCondition, clean, Bool.false_eq_true, if_false,
    KeyConditions.applyEqualsCondition, contradicts, Option.bind_eq_bind, Option.bind_some]
  cases refused with
  | true =>
    refine ⟨_, rfl, ?_⟩
    have meets : min high (after (space.rank value)) ≤ max low (before (space.rank value)) := by
      rw [min_le_iff, le_max_iff, le_max_iff, le_before_iff, after_le_iff]
      rcases not_and_or.mp (refuses.mp rfl) with below | above
      · exact .inr (.inl (not_le.mp below))
      · exact .inl (.inr (not_le.mp above))
    simp [Narrows, lower, upper, meets]
  | false =>
    refine ⟨_, rfl, ?_⟩
    obtain ⟨below, above⟩ := not_not.mp (mt refuses.mpr Bool.false_ne_true)
    rw [lower, upper, max_eq_right below, min_eq_right above, Narrows, if_neg (by simp)]
    exact ⟨rfl, .point value rfl rfl member⟩

theorem point_step {found : KeyValue} (isType : conditions.type = some .equals)
    (isValue : conditions.values = [found]) (isFound : found ∈ space.keys) (operator : Operator) :
    ∃ next, conditions.applyBinaryKeyCondition operator value = some next ∧
      Narrows space next true (max (before (space.rank found)) (lower (space.rank value) operator))
        (min (after (space.rank found)) (upper (space.rank value) operator)) := by
  have compared := space.compared _ isFound _ member
  have greater (inclusive : Bool) : conditions.applyGreaterThanCondition value inclusive = some
      (if (if inclusive then decide (space.rank found < space.rank value)
          else decide (space.rank found ≤ space.rank value)) then
        { conditions with contradiction := true } else conditions) := by
    simp only [KeyConditions.applyGreaterThanCondition, isType, isValue, List.headD_cons, compared]
    rcases lt_trichotomy (space.rank found) (space.rank value) with less | same | more
    · cases inclusive <;> simp [cmp, cmpUsing, less, less.le]
    · cases inclusive <;> simp [cmp, cmpUsing, same]
    · cases inclusive <;> simp [cmp, cmpUsing, more, more.not_gt, more.not_ge]
  have less (inclusive : Bool) : conditions.applyLessThanCondition value inclusive = some
      (if (if inclusive then decide (space.rank value < space.rank found)
          else decide (space.rank value ≤ space.rank found)) then
        { conditions with contradiction := true } else conditions) := by
    simp only [KeyConditions.applyLessThanCondition, isType, isValue, List.headD_cons, compared]
    rcases lt_trichotomy (space.rank found) (space.rank value) with less | same | more
    · cases inclusive <;> simp [cmp, cmpUsing, less, less.not_gt, less.not_ge]
    · cases inclusive <;> simp [cmp, cmpUsing, same]
    · cases inclusive <;> simp [cmp, cmpUsing, more, more.not_gt, more.le]
  cases operator with
  | equals =>
    refine equals_ranged clean member (decide (space.rank found ≠ space.rank value)) ?_ ?_
    · simp only [KeyConditions.contradictsValue, isType, isValue, KeyConditions.differs, compared]
      by_cases same : space.rank found = space.rank value <;> simp [same, cmp_eq_eq_iff]
    · rw [decide_eq_true_iff, before_le_before, after_le_after, ← le_antisymm_iff]
  | greaterThan =>
    refine ⟨_, ?_, point_narrows isType isValue isFound clean
      (decide (space.rank found ≤ space.rank value)) ?_⟩
    · simpa [KeyConditions.applyBinaryKeyCondition, clean] using greater false
    · simp [lower, upper]
  | greaterThanOrEqual =>
    refine ⟨_, ?_, point_narrows isType isValue isFound clean
      (decide (space.rank found < space.rank value)) ?_⟩
    · simpa [KeyConditions.applyBinaryKeyCondition, clean] using greater true
    · simp [lower, upper]
  | lessThan =>
    refine ⟨_, ?_, point_narrows isType isValue isFound clean
      (decide (space.rank value ≤ space.rank found)) ?_⟩
    · simpa [KeyConditions.applyBinaryKeyCondition, clean] using less false
    · simp [lower, upper]
  | lessThanOrEqual =>
    refine ⟨_, ?_, point_narrows isType isValue isFound clean
      (decide (space.rank value < space.rank found)) ?_⟩
    · simpa [KeyConditions.applyBinaryKeyCondition, clean] using less true
    · simp [lower, upper]

theorem Kept.step {isPoint : Bool} {low high : Place α}
    (kept : Kept space conditions isPoint low high) (operator : Operator) :
    ∃ next, conditions.applyBinaryKeyCondition operator value = some next ∧
      Narrows space next (isPoint || operator = .equals) (max low (lower (space.rank value) operator))
        (min high (upper (space.rank value) operator)) := by
  cases kept with
  | point found isType isValue isFound =>
    exact point_step clean member isType isValue isFound operator
  | range isType bounded =>
    by_cases isEquals : operator = .equals
    · subst isEquals
      refine equals_ranged clean member _ ?_ decide_eq_true_iff
      simp only [KeyConditions.contradictsValue, isType]
      exact checkRangeContradiction_eq bounded member
    · rw [decide_eq_false isEquals]
      exact ranged_step clean member bounded (by simp [isType]) (fun _ => isType)
        (fun _ => isType) operator isEquals
  | all isType noLow noHigh =>
    by_cases isEquals : operator = .equals
    · subst isEquals
      exact equals_ranged clean member false (by simp [KeyConditions.contradictsValue, isType])
        (by simp)
    · have bounded : Bounded space conditions := ⟨by simp [noLow], by simp [noHigh]⟩
      have step := ranged_step clean member bounded (by simp [isType]) (by simp [noLow])
        (by simp [noHigh]) operator isEquals
      rw [decide_eq_false isEquals]
      simpa only [lowPlace, highPlace, noLow, noHigh, if_true, Bool.or_false] using step

end

/-- The places are the innermost of the comparisons' own. -/
structure Tight (space : KeySpace α) (comparisons : List (Operator × KeyValue))
    (low high : Place α) : Prop where
  low : ∀ place, place ≤ low ↔
    place = ⊥ ∨ ∃ comparison ∈ comparisons, place ≤ lower (space.rank comparison.2) comparison.1
  high : ∀ place, high ≤ place ↔
    place = ⊤ ∨ ∃ comparison ∈ comparisons, upper (space.rank comparison.2) comparison.1 ≤ place

namespace Tight

variable {comparisons : List (Operator × KeyValue)} {low high place : Place α}

theorem nil : Tight space [] ⊥ ⊤ := ⟨by simp, by simp⟩

variable (tight : Tight space comparisons low high)

include tight

theorem concat (operator : Operator) (value : KeyValue) :
    Tight space (comparisons ++ [(operator, value)])
      (max low (lower (space.rank value) operator))
      (min high (upper (space.rank value) operator)) := by
  constructor
  · intro place
    rw [le_max_iff, tight.low]
    simp [or_and_right, exists_or, or_assoc]
  · intro place
    rw [min_le_iff, tight.high]
    simp [or_and_right, exists_or, or_assoc]

theorem meets_iff : high ≤ low ↔ ∃ first ∈ comparisons, ∃ second ∈ comparisons,
    upper (space.rank first.2) first.1 ≤ lower (space.rank second.2) second.1 := by
  have below : low ≠ ⊤ := by
    intro top
    rcases (tight.low ⊤).mp top.ge with bot | ⟨comparison, -, above⟩
    · cases bot
    · exact lower_ne_top _ _ (top_le_iff.mp above)
  simp [tight.high, below, tight.low, upper_ne_bot]

theorem low_le_iff : low ≤ place ↔
    ∀ comparison ∈ comparisons, lower (space.rank comparison.2) comparison.1 ≤ place := by
  constructor
  · intro below comparison member
    exact ((tight.low _).mpr (.inr ⟨comparison, member, le_rfl⟩)).trans below
  · intro all
    rcases (tight.low low).mp le_rfl with rfl | ⟨comparison, member, below⟩
    · exact bot_le
    · exact below.trans (all comparison member)

theorem le_high_iff : place ≤ high ↔
    ∀ comparison ∈ comparisons, place ≤ upper (space.rank comparison.2) comparison.1 := by
  constructor
  · intro above comparison member
    exact above.trans ((tight.high _).mpr (.inr ⟨comparison, member, le_rfl⟩))
  · intro all
    rcases (tight.high high).mp le_rfl with rfl | ⟨comparison, member, above⟩
    · exact le_top
    · exact (all comparison member).trans above

end Tight

/-- What the comparisons so far have come to. -/
inductive Settled (space : KeySpace α) (comparisons : List (Operator × KeyValue))
    (found : Found) : Prop
  | contradicted (contradiction : found.conditions.contradiction = true)
      (meets : ∃ first ∈ comparisons, ∃ second ∈ comparisons,
        upper (space.rank first.2) first.1 ≤ lower (space.rank second.2) second.1)
  | kept (isPoint : Bool) (low high : Place α) (clean : found.conditions.contradiction = false)
      (apart : ¬high ≤ low) (tight : Tight space comparisons low high)
      (isPoint_iff : isPoint = true ↔ ∃ value, (.equals, value) ∈ comparisons)
      (kept : Kept space found.conditions isPoint low high)

section

variable {comparisons : List (Operator × KeyValue)} {found : Found}

theorem Settled.compare (settled : Settled space comparisons found)
    (member : value ∈ space.keys) (operator : Operator) :
    ∃ next, found.apply (.compare operator value) = some next ∧
      Settled space (comparisons ++ [(operator, value)]) next := by
  cases settled with
  | contradicted contradiction meets =>
    refine ⟨⟨found.conditions, found.isIn && found.conditions.type.isNone⟩, ?_,
      .contradicted contradiction ?_⟩
    · simp [Found.apply, Found.applyBinaryKeyCondition, KeyConditions.applyBinaryKeyCondition,
        contradiction]
    · obtain ⟨first, isFirst, second, isSecond, meets⟩ := meets
      exact ⟨first, List.mem_append_left _ isFirst, second, List.mem_append_left _ isSecond, meets⟩
  | kept isPoint low high clean apart tight isPoint_iff kept =>
    obtain ⟨next, applied, narrows⟩ := kept.step clean member operator
    have tight := tight.concat operator value
    refine ⟨⟨next, found.isIn && next.type.isNone⟩, ?_, ?_⟩
    · simp [Found.apply, Found.applyBinaryKeyCondition, applied]
    unfold Narrows at narrows
    split at narrows
    next meets => exact .contradicted narrows (tight.meets_iff.mp meets)
    next apart =>
      refine .kept _ _ _ narrows.1 apart tight ?_ narrows.2
      simp [isPoint_iff, exists_or, eq_comm (a := operator)]

theorem Settled.run (rest : List (Operator × KeyValue))
    (members : ∀ comparison ∈ rest, comparison.2 ∈ space.keys)
    (settled : Settled space comparisons found) :
    ∃ next, (rest.map fun (operator, value) => .compare operator value).foldlM Found.apply found =
        some next ∧ Settled space (comparisons ++ rest) next := by
  induction rest generalizing comparisons found with
  | nil => exact ⟨found, rfl, by simpa using settled⟩
  | cons comparison rest induction =>
    obtain ⟨operator, value⟩ := comparison
    obtain ⟨member, members⟩ := List.forall_mem_cons.mp members
    obtain ⟨middle, applied, settled⟩ := settled.compare member operator
    obtain ⟨next, ran, settled⟩ := induction members settled
    refine ⟨next, ?_, by simpa using settled⟩
    rw [List.map_cons, List.foldlM_cons, applied]
    exact ran

/-- Nothing but lists was met. -/
structure Fresh (found : Found) : Prop where
  type : found.conditions.type = none
  low : found.conditions.low.isAbsent = true
  high : found.conditions.high.isAbsent = true
  clean : found.conditions.contradiction = false

theorem Fresh.lists (fresh : Fresh found) (lists : List (List KeyValue)) :
    Fresh (lists.foldl Found.applyList found) := by
  induction lists generalizing found with
  | nil => exact fresh
  | cons values rest induction => exact induction ⟨rfl, fresh.low, fresh.high, fresh.clean⟩

theorem Fresh.settled (fresh : Fresh found) : Settled space [] found :=
  .kept false ⊥ ⊤ fresh.clean (by simp) .nil (by simp) (.all fresh.type fresh.low fresh.high)

theorem foldlM_lists (lists : List (List KeyValue)) (found : Found) :
    (lists.map KeyCondition.oneOf).foldlM Found.apply found =
      some (lists.foldl Found.applyList found) := by
  induction lists generalizing found with
  | nil => rfl
  | cons values rest induction => exact induction (found.applyList values)

theorem contradiction_lists (lists : List (List KeyValue)) (found : Found) :
    (lists.foldl Found.applyList found).conditions.contradiction =
      found.conditions.contradiction := by
  induction lists generalizing found with
  | nil => rfl
  | cons values rest induction => exact induction (found.applyList values)

end

/-! The partitions that are asked. -/

variable {partition : PartitionBounds}

theorem isValueInPartition_eq (within : partition.Over space) (member : value ∈ space.keys) :
    ∃ inside, isValueInPartition value partition = some inside ∧
      (inside = true ↔ partition.Contains space value) := by
  obtain ⟨partitionId, start, end_⟩ := partition
  unfold isValueInPartition PartitionBounds.Contains
  cases start with
  | none =>
    cases end_ with
    | none => exact ⟨true, rfl, by simp⟩
    | some end_ =>
      refine ⟨decide (space.rank value < space.rank end_), ?_, by simp⟩
      simp [space.compared _ member _ (within.end_ end_ rfl)]
  | some start =>
    have starts := space.compared _ member _ (within.start start rfl)
    by_cases below : space.rank value < space.rank start
    · exact ⟨false, by simp [starts, below], by simp [below]⟩
    · cases end_ with
      | none => exact ⟨true, by simp [starts, below], by simpa using below⟩
      | some end_ =>
        refine ⟨decide (space.rank value < space.rank end_), ?_, by simp [not_lt.mp below]⟩
        simp [starts, below, space.compared _ member _ (within.end_ end_ rfl)]

theorem rangeOverlaps_eq (within : partition.Over space) (bounded : Bounded space conditions) :
    ∃ overlaps, rangeOverlaps conditions partition = some overlaps ∧ (overlaps = true ↔
      (∀ end_ ∈ partition.end_, lowPlace space conditions ≤ before (space.rank end_)) ∧
        ∀ start ∈ partition.start, after (space.rank start) ≤ highPlace space conditions) := by
  obtain ⟨partitionId, start, end_⟩ := partition
  unfold rangeOverlaps
  have above : ∃ isAbove, start.elim (some false) conditions.isAboveHigh = some isAbove ∧
      (isAbove = false ↔
        ∀ key ∈ start, after (space.rank key) ≤ highPlace space conditions) := by
    cases start with
    | none => exact ⟨false, rfl, by simp⟩
    | some start => exact ⟨_, isAboveHigh_eq bounded (within.start start rfl), by simp⟩
  obtain ⟨isAbove, isAboveEq, above⟩ := above
  cases end_ with
  | none => exact ⟨!isAbove, by simp [isAboveEq], by simp [above]⟩
  | some end_ =>
    have below := isBelowLow_eq bounded (within.end_ end_ rfl)
    by_cases reaches : lowPlace space conditions ≤ before (space.rank end_)
    · exact ⟨!isAbove, by simp [below, reaches, isAboveEq], by simp [above, reaches]⟩
    · exact ⟨false, by simp [below, reaches], by simp [reaches]⟩

theorem filterM_mem {β : Type} {test : β → Option Bool} {holds : β → Prop} {items : List β}
    (tests : ∀ item ∈ items, ∃ passes, test item = some passes ∧ (passes = true ↔ holds item)) :
    ∃ kept, items.filterM test = some kept ∧ ∀ item, item ∈ kept ↔ item ∈ items ∧ holds item := by
  have aux (found : List β) : ∃ kept, items.filterAuxM test found = some kept ∧
      ∀ item, item ∈ kept ↔ item ∈ found ∨ item ∈ items ∧ holds item := by
    induction items generalizing found with
    | nil => exact ⟨found, rfl, by simp⟩
    | cons first rest induction =>
      obtain ⟨⟨passes, isTest, passes_iff⟩, tests⟩ := List.forall_mem_cons.mp tests
      obtain ⟨kept, isKept, kept_iff⟩ := induction tests (bif passes then first :: found else found)
      refine ⟨kept, by simp [List.filterAuxM, isTest, isKept], fun item => ?_⟩
      rw [kept_iff]
      cases passes <;> grind
  obtain ⟨kept, isKept, kept_iff⟩ := aux []
  exact ⟨kept.reverse, by simp [List.filterM, isKept], by simpa using kept_iff⟩

theorem listed_mem {partitions : List PartitionBounds} {values : List KeyValue}
    (bounds : ∀ partition ∈ partitions, partition.Over space)
    (members : ∀ value ∈ values, value ∈ space.keys) :
    ∃ matching, values.mapM (fun value => partitions.filterM (isValueInPartition value)) =
        some matching ∧ ∀ partition, partition ∈ matching.flatten ↔
          ∃ value ∈ values, partition ∈ partitions ∧ partition.Contains space value := by
  induction values with
  | nil => exact ⟨[], rfl, by simp⟩
  | cons value rest induction =>
    obtain ⟨member, members⟩ := List.forall_mem_cons.mp members
    obtain ⟨kept, isKept, kept_iff⟩ := filterM_mem fun partition isPartition =>
      isValueInPartition_eq (bounds partition isPartition) member
    obtain ⟨matching, isMatching, matching_iff⟩ := induction members
    refine ⟨kept :: matching, by simp [List.mapM_cons, isKept, isMatching], fun partition => ?_⟩
    simp [kept_iff, matching_iff]

section

variable {comparisons : List (Operator × KeyValue)} {low high : Place α}

def ReachesAll (space : KeySpace α) (comparisons : List (Operator × KeyValue))
    (partition : PartitionBounds) : Prop := ∀ comparison ∈ comparisons,
  (KeyCondition.compare comparison.1 comparison.2).Reaches space partition

theorem reaches_bound_iff {operator : Operator} (isBound : operator ≠ .equals) :
    (KeyCondition.compare operator value).Reaches space partition ↔
      (∀ end_ ∈ partition.end_, lower (space.rank value) operator ≤ before (space.rank end_)) ∧
      ∀ start ∈ partition.start, after (space.rank start) ≤ upper (space.rank value) operator := by
  cases operator <;> simp [KeyCondition.Reaches, lower, upper] at isBound ⊢

/-- The partitions that overlap a range are those that each of its bounds leaves. -/
theorem Tight.reaches_range (tight : Tight space comparisons low high)
    (bounds : ∀ comparison ∈ comparisons, comparison.1 ≠ .equals) :
    ReachesAll space comparisons partition ↔
      (∀ end_ ∈ partition.end_, low ≤ before (space.rank end_)) ∧
        ∀ start ∈ partition.start, after (space.rank start) ≤ high := by
  constructor
  · intro reaches
    refine ⟨fun end_ isEnd => tight.low_le_iff.mpr fun comparison member => ?_,
      fun start isStart => tight.le_high_iff.mpr fun comparison member => ?_⟩
    · exact ((reaches_bound_iff (bounds comparison member)).mp
        (reaches comparison member)).1 end_ isEnd
    · exact ((reaches_bound_iff (bounds comparison member)).mp
        (reaches comparison member)).2 start isStart
  · rintro ⟨below, above⟩ comparison member
    refine (reaches_bound_iff (bounds comparison member)).mpr ⟨fun end_ isEnd => ?_,
      fun start isStart => ?_⟩
    · exact tight.low_le_iff.mp (below end_ isEnd) comparison member
    · exact tight.le_high_iff.mp (above start isStart) comparison member

/-- The partitions that hold a value are those that it and its bounds leave. -/
theorem Tight.reaches_point {equal : KeyValue}
    (tight : Tight space comparisons (before (space.rank value)) (after (space.rank value)))
    (isEqual : (.equals, equal) ∈ comparisons) :
    ReachesAll space comparisons partition ↔ partition.Contains space value := by
  have same {found : KeyValue} (member : (.equals, found) ∈ comparisons) :
      space.rank found = space.rank value :=
    le_antisymm (by simpa [lower] using tight.low_le_iff.mp le_rfl _ member)
      (by simpa [upper] using tight.le_high_iff.mp le_rfl _ member)
  constructor
  · intro reaches
    have contains : partition.Contains space equal := reaches _ isEqual
    simpa [PartitionBounds.Contains, same isEqual] using contains
  · rintro contains ⟨operator, found⟩ member
    by_cases isEquals : operator = .equals
    · subst isEquals
      simpa [KeyCondition.Reaches, PartitionBounds.Contains, same member] using contains
    · refine (reaches_bound_iff isEquals).mpr ⟨fun end_ isEnd => ?_, fun start isStart => ?_⟩
      · exact (tight.low_le_iff.mp le_rfl _ member).trans
          (before_le_before.mpr (contains.2 end_ isEnd).le)
      · exact (after_le_after.mpr (contains.1 start isStart)).trans
          (tight.le_high_iff.mp le_rfl _ member)

end

section

variable {Row Result : Type} {table : Table Row} {whereClause : Predicate}
  {keyed : List KeyCondition} {found : Found} {comparisons : List (Operator × KeyValue)}
  {low high : Place α}

theorem resolved_of_matching {matching : List PartitionBounds} {asked : Prop}
    (finds : findKeyConditions table.primaryKey whereClause {} = some (true, found))
    (clean : found.conditions.contradiction = false)
    (matched : findMatchingPartitions table.partitions found = some matching)
    (matching_iff : (∃ partition, partition ∈ matching) ↔ asked) :
    ∃ ids, resolveSingleKeyPartitions table whereClause = some ids ∧ (ids ≠ [] ↔ asked) := by
  refine ⟨_, by simp [resolveSingleKeyPartitions, finds, clean, matched]; rfl, ?_⟩
  rw [← matching_iff]
  cases matching <;> simp [List.eraseDups_cons]

/-- IN lists that were met last: the last one of them. -/
theorem resolved_of_lists {lists : List (List KeyValue)}
    (bounds : ∀ partition ∈ table.partitions, partition.Over space) (nonempty : lists ≠ [])
    (members : ∀ values ∈ lists, ∀ value ∈ values, value ∈ space.keys)
    (finds : findKeyConditions table.primaryKey whereClause {} =
      some (true, lists.foldl Found.applyList found))
    (clean : found.conditions.contradiction = false) (earlier : List KeyCondition) :
    ∃ ids, resolveSingleKeyPartitions table whereClause = some ids ∧ (ids ≠ [] ↔
      ∃ partition ∈ table.partitions,
        Reached space (earlier ++ lists.map .oneOf) partition) := by
  obtain ⟨first, values, rfl⟩ := (List.eq_nil_or_concat' lists).resolve_left nonempty
  rw [List.foldl_append] at finds
  obtain ⟨matching, isMatching, matching_iff⟩ := listed_mem bounds (members values (by simp))
  have matched : findMatchingPartitions table.partitions
      ((first.foldl Found.applyList found).applyList values) = some matching.flatten := by
    simp [findMatchingPartitions, Found.applyList, isMatching]
  refine resolved_of_matching finds ((contradiction_lists first found).trans clean) matched ?_
  simp only [matching_iff, Reached, List.map_append, List.map_cons, List.map_nil,
    ← List.append_assoc, List.getLast?_concat]
  exact ⟨fun ⟨partition, value, isValue, member, contains⟩ =>
      ⟨partition, member, value, isValue, contains⟩,
    fun ⟨partition, member, value, isValue, contains⟩ =>
      ⟨partition, value, isValue, member, contains⟩⟩

/-- Comparisons that were met last. -/
theorem resolved_of_comparisons {isPoint : Bool}
    (bounds : ∀ partition ∈ table.partitions, partition.Over space)
    (finds : findKeyConditions table.primaryKey whereClause {} = some (true, found))
    (clean : found.conditions.contradiction = false) (nonempty : comparisons ≠ [])
    (tight : Tight space comparisons low high)
    (isPoint_iff : isPoint = true ↔ ∃ value, (.equals, value) ∈ comparisons)
    (kept : Kept space found.conditions isPoint low high) :
    ∃ ids, resolveSingleKeyPartitions table whereClause = some ids ∧ (ids ≠ [] ↔
      ∃ partition ∈ table.partitions, ReachesAll space comparisons partition) := by
  cases kept with
  | all =>
    obtain ⟨⟨operator, value⟩, member⟩ := List.exists_mem_of_ne_nil _ nonempty
    have low := tight.low_le_iff.mp le_rfl _ member
    have high := tight.le_high_iff.mp le_rfl _ member
    cases operator <;> simp [lower, upper] at low high
  | point value hasType isValue member =>
    obtain ⟨equal, isEqual⟩ := isPoint_iff.mp rfl
    obtain ⟨matching, isMatching, matching_iff⟩ :=
      listed_mem bounds (List.forall_mem_singleton.mpr member)
    have matched : findMatchingPartitions table.partitions found = some matching.flatten := by
      simp [findMatchingPartitions, hasType, isValue, isMatching]
    refine resolved_of_matching finds clean matched ?_
    simp only [matching_iff, List.mem_singleton, exists_eq_left, tight.reaches_point isEqual]
  | range hasType bounded =>
    have isBound : ∀ comparison ∈ comparisons, comparison.1 ≠ .equals := by
      rintro ⟨operator, value⟩ member rfl
      exact absurd (isPoint_iff.mpr ⟨value, member⟩) Bool.false_ne_true
    obtain ⟨matching, isMatching, matching_iff⟩ := filterM_mem fun partition isPartition =>
      rangeOverlaps_eq (bounds partition isPartition) bounded
    have matched : findMatchingPartitions table.partitions found = some matching := by
      simp [findMatchingPartitions, hasType, isMatching]
    refine resolved_of_matching finds clean matched ?_
    simp only [matching_iff, tight.reaches_range isBound]

theorem reached_comparisons (nonempty : comparisons ≠ [])
    (lists : List (List KeyValue)) : Reached space (lists.map .oneOf ++
      comparisons.map fun (operator, value) => .compare operator value) partition ↔
        ReachesAll space comparisons partition := by
  obtain ⟨first, ⟨operator, value⟩, rfl⟩ := (List.eq_nil_or_concat' comparisons).resolve_left nonempty
  simp only [Reached, List.map_append, List.map_cons, List.map_nil, ← List.append_assoc,
    List.getLast?_concat]
  constructor
  · intro reaches comparison member
    rcases List.mem_append.mp member with isFirst | isLast
    · exact reaches _ (by simp [isFirst])
    · cases List.mem_singleton.mp isLast
      exact reaches _ (by simp)
  · intro reaches condition member
    simp only [List.mem_append, List.mem_map, List.mem_singleton] at member
    rcases member with (⟨values, -, rfl⟩ | ⟨comparison, member, rfl⟩) | rfl
    · trivial
    · exact reaches comparison (List.mem_append_left _ member)
    · exact reaches (operator, value) (by simp)

theorem Tight.consistent
    (tight : Tight space comparisons low high) (apart : ¬high ≤ low)
    (lists later : List (List KeyValue)) :
    let conditions := lists.map .oneOf ++
      comparisons.map (fun (operator, value) => .compare operator value) ++ later.map .oneOf
    ∀ first ∈ conditions, ∀ second ∈ conditions, ¬KeyCondition.EndsBefore space first second := by
  intro conditions first isFirst second isSecond ends
  cases first with
  | oneOf values => exact ends
  | compare operator value =>
    cases second with
    | oneOf values => exact ends
    | compare next other =>
      refine apart (tight.meets_iff.mpr ⟨(operator, value), ?_, (next, other), ?_, ends⟩)
      · simpa [conditions] using isFirst
      · simpa [conditions] using isSecond

/-- Whether a partition is asked, by the conditions and the ranges. -/
theorem resolved_iff (reads : keyConditions table.primaryKey whereClause = some keyed)
    (unmixed : Unmixed keyed) (within : ∀ condition ∈ keyed, condition.Over space)
    (bounds : ∀ partition ∈ table.partitions, partition.Over space) :
    ∃ ids, resolveSingleKeyPartitions table whereClause = some ids ∧ (ids ≠ [] ↔
      (∀ first ∈ keyed, ∀ second ∈ keyed, ¬first.EndsBefore space second) ∧
        ∃ partition ∈ table.partitions, Reached space keyed partition) := by
  obtain ⟨lists, comparisons, later, rfl⟩ := unmixed
  have fresh : Fresh (lists.foldl Found.applyList {}) := Fresh.lists ⟨rfl, rfl, rfl, rfl⟩ lists
  have settled : Settled space [] (lists.foldl Found.applyList {}) := fresh.settled
  obtain ⟨next, ran, settled⟩ := settled.run comparisons
    fun comparison member => within (.compare comparison.1 comparison.2) (by simp [member])
  rw [List.nil_append] at settled
  have finds := findKeyConditions_eq reads {}
  simp only [Found.applyAll, List.foldlM_append, foldlM_lists, Option.bind_eq_bind, Option.bind_some, ran,
    Option.map_some] at finds
  cases settled with
  | contradicted contradiction meets =>
    have stays := (contradiction_lists later next).trans contradiction
    obtain ⟨first, isFirst, second, isSecond, meets⟩ := meets
    have nonempty : comparisons ≠ [] := List.ne_nil_of_mem isFirst
    refine ⟨[], by simp [resolveSingleKeyPartitions, finds, stays, nonempty], ?_⟩
    simp only [ne_eq, not_true_eq_false, false_iff, not_and]
    intro apart
    exact absurd meets (apart (.compare first.1 first.2) (by simp [isFirst])
      (.compare second.1 second.2) (by simp [isSecond]))
  | kept isPoint low high clean apart tight isPoint_iff kept =>
    simp only [and_iff_right (tight.consistent apart lists later)]
    -- The last condition decides: an IN list at the end, a comparison, or a list at the front.
    by_cases noLater : later = []
    · subst noLater
      simp only [List.map_nil, List.append_nil, List.foldl_nil] at finds within ⊢
      by_cases noComparison : comparisons = []
      · subst noComparison
        cases ran
        simp only [List.map_nil, List.append_nil] at finds within ⊢
        by_cases noList : lists = []
        · subst noList
          refine ⟨table.partitions.map (·.partitionId), ?_, ?_⟩
          · simp [resolveSingleKeyPartitions, finds]
          · cases table.partitions <;> simp [Reached]
        · rw [List.isEmpty_eq_false_iff.mpr (by simpa using noList)] at finds
          exact resolved_of_lists bounds noList
            (fun values member => within (.oneOf values) (by simp [member])) finds rfl []
      · simp only [reached_comparisons noComparison]
        rw [List.isEmpty_eq_false_iff.mpr (by simp [noComparison])] at finds
        exact resolved_of_comparisons bounds finds clean noComparison tight isPoint_iff kept
    · rw [List.isEmpty_eq_false_iff.mpr (by simp [noLater])] at finds
      exact resolved_of_lists bounds noLater
        (fun values member => within (.oneOf values) (by simp [member])) finds clean _

variable (table) (holds : Predicate → Row → Bool) (answer : List Row → Result)

end

end

namespace Sample

def numbers : KeySpace Rank :=
  .scalars {element | ∃ value representable, element = .number value representable} nofun false

def number (value : Int) : KeyValue := .primitive (.number (.finite value))

/-- A row is its key. -/
def users : Table Int := ⟨"users", "id", [⟨"p0", none, some (number 10)⟩,
  ⟨"p1", some (number 10), none⟩], fun id => if id = "p0" then [1, 2] else [12]⟩

theorem number_mem (value : Int) (representable : Js.Number.round value = .finite value) :
    number value ∈ numbers.keys :=
  ⟨.number value representable, ⟨value, representable, rfl⟩, rfl, rfl⟩

theorem users_over : ∀ partition ∈ users.partitions, partition.Over numbers := by
  have ten := number_mem 10 (by decide +kernel)
  simp only [users, List.forall_mem_cons, List.not_mem_nil, IsEmpty.forall_iff, implies_true,
    and_true]
  exact ⟨⟨by simp, by simpa using ten⟩, ⟨by simpa using ten, by simp⟩⟩

def listed : Predicate :=
  .and (.inList "id" false [some (some (number 1)), some (some (number 2))])
    (.compare "id" .equals (some (some (number 3))))

theorem listed_reads : keyConditions users.primaryKey listed =
    some [.oneOf [number 1, number 2], .compare .equals (number 3)] := by
  have isKey : isKeyColumn "id" users.primaryKey = true := by decide +kernel
  simp only [listed, keyConditions, keyConditions.ofKey, isKey]
  rfl

end Sample

end LagrangeDb.Routing.SingleKey
