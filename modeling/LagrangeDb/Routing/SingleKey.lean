import LagrangeDb.Routing.KeyConditions

namespace LagrangeDb.Routing.SingleKey

open LagrangeDb.Partition (KeyValue)

/-! A SELECT from a table with one key column: the WHERE clause picks the partitions,
and where it picks none the table counts as missing. -/

/-- An operand throws, has no value, or has one of the key's type. -/
abbrev Operand := Option (Option KeyValue)

inductive Predicate where
  | and (left right : Predicate)
  | compare (column : String) (operator : Operator) (operand : Operand)
  | compareValue (operand : Operand) (operator : Operator) (column : String)
  | inList (column : String) (negated : Bool) (operands : List Operand)
  | between (column : String) (low high : Operand)
  /-- OR, and the forms that put no condition on a key. -/
  | other (text : String)

/-- The condition type IN is `isIn` with no other type. -/
structure Found where
  conditions : KeyConditions := {}
  isIn : Bool := false

def Found.applyBinaryKeyCondition (found : Found) (operator : Operator) (value : KeyValue) :
    Option Found := do
  let conditions ← found.conditions.applyBinaryKeyCondition operator value
  return ⟨conditions, found.isIn && conditions.type.isNone⟩

def handleBinaryExpr (found : Found) (operator : Operator) (operand : Operand) :
    Option (Bool × Found) := do
  let some value ← operand | return (false, found)
  return (true, ← found.applyBinaryKeyCondition operator value)

def handleBetweenExpr (found : Found) (low high : Operand) : Option (Bool × Found) := do
  match ← low, ← high with
  | some low, some high =>
    let found ← found.applyBinaryKeyCondition .greaterThanOrEqual low
    return (true, ← found.applyBinaryKeyCondition .lessThanOrEqual high)
  | _, _ => return (false, found)

/-- The list takes the place of what was found, but a contradiction stays. -/
def Found.applyList (found : Found) (values : List KeyValue) : Found :=
  ⟨{ found.conditions with type := none, values }, true⟩

/-- NOT IN comes as `negated`, which is not what is looked at. -/
def handleInExpr (found : Found) (operands : List Operand) : Option (Bool × Found) := do
  match ← (operands.mapM OptionT.mk).run with
  | none | some [] => return (false, found)
  | some values => return (true, found.applyList values)

def findKeyConditions (primaryKey : String) : Predicate → Found → Option (Bool × Found)
  | .and left right, found => do
    let (leftFound, found) ← findKeyConditions primaryKey left found
    let (rightFound, found) ← findKeyConditions primaryKey right found
    return (leftFound || rightFound, found)
  | .compare column operator operand, found => ofKey found column do
    handleBinaryExpr found operator operand
  | .compareValue operand operator column, found => ofKey found column do
    handleBinaryExpr found operator.invertComparisonOperator operand
  | .inList column _ operands, found => ofKey found column do handleInExpr found operands
  | .between column low high, found => ofKey found column do handleBetweenExpr found low high
  | .other _, found => some (false, found)
where
  ofKey (found : Found) (column : String) (handled : Option (Bool × Found)) :=
    if isKeyColumn column primaryKey then handled else some (false, found)

structure PartitionBounds where
  partitionId : String
  (start end_ : Option KeyValue)

def isValueInPartition (value : KeyValue) (partition : PartitionBounds) : Option Bool := do
  if (← partition.start.mapM (compareRoutingKeys value)) = some .lt then return false
  return (← partition.end_.mapM (compareRoutingKeys value)).all (· = .lt)

def rangeOverlaps (conditions : KeyConditions) (partition : PartitionBounds) : Option Bool := do
  if ← partition.end_.elim (some false) conditions.isBelowLow then return false
  return !(← partition.start.elim (some false) conditions.isAboveHigh)

def findMatchingPartitions (partitions : List PartitionBounds) (found : Found) :
    Option (List PartitionBounds) :=
  match found.conditions.type, found.isIn with
  | none, false => some partitions
  | some .range, _ => partitions.filterM (rangeOverlaps found.conditions)
  | _, _ => do
    return (← found.conditions.values.mapM fun value =>
      partitions.filterM (isValueInPartition value)).flatten

structure Table (Row : Type) where
  (tableName primaryKey : String)
  partitions : List PartitionBounds
  rows : String → List Row

variable {Row Result : Type} (table : Table Row) (holds : Predicate → Row → Bool)
  (answer : List Row → Result) (whereClause : Predicate)

def resolveSingleKeyPartitions : Option (List String) := do
  let (isFound, found) ← findKeyConditions table.primaryKey whereClause {}
  if !isFound then return table.partitions.map PartitionBounds.partitionId
  if found.conditions.contradiction then return []
  let matching ← findMatchingPartitions table.partitions found
  return (matching.map PartitionBounds.partitionId).eraseDups

/-- The rows of the partitions that the WHERE clause holds for, or what the aggregates
make of them. -/
def executeSelectOwned : Option (Except String Result) := do
  let partitionIds ← resolveSingleKeyPartitions table whereClause
  if partitionIds.isEmpty then return .error ("Table not found: " ++ table.tableName)
  return .ok (answer ((partitionIds.flatMap table.rows).filter (holds whereClause)))

end LagrangeDb.Routing.SingleKey
