import LagrangeDb.Partition.SplitKey

namespace LagrangeDb.Routing

open LagrangeDb.Partition (KeyValue compareScalars compareTuples)

/-! The conditions a WHERE clause puts on a key column. A comparison that throws is
none. -/

def compareRoutingKeys (left right : KeyValue) : Option Ordering :=
  if (left.isAbsent || left.routingKeySupported) &&
      (right.isAbsent || right.routingKeySupported) then
    match left.isAbsent, right.isAbsent with
    | true, true => some .eq
    | true, false => some .lt
    | false, true => some .gt
    | false, false =>
      match left, right with
      | .tuple left, .tuple right => compareTuples left right
      | left, right => compareScalars left right
  else none

inductive Operator where
  | equals
  | greaterThan
  | greaterThanOrEqual
  | lessThan
  | lessThanOrEqual
deriving DecidableEq

def Operator.invertComparisonOperator : Operator → Operator
  | equals => equals
  | greaterThan => lessThan
  | greaterThanOrEqual => lessThanOrEqual
  | lessThan => greaterThan
  | lessThanOrEqual => greaterThanOrEqual

/-- A conjunction of comparisons of columns with values of their type. -/
inductive WhereClause where
  | and (left right : WhereClause)
  | compare (column : String) (operator : Operator) (value : KeyValue)
  | compareValue (value : KeyValue) (operator : Operator) (column : String)
  | between (column : String) (low high : KeyValue)

inductive ConditionType where
  | equals
  | range
deriving DecidableEq

structure KeyConditions where
  type : Option ConditionType := none
  values : List KeyValue := []
  low : KeyValue := .primitive .null
  high : KeyValue := .primitive .null
  lowInclusive : Bool := true
  highInclusive : Bool := false
  contradiction : Bool := false

namespace KeyConditions

variable (conditions : KeyConditions)

def isBelowLow (value : KeyValue) : Option Bool :=
  if conditions.low.isAbsent then some false
  else (compareRoutingKeys value conditions.low).map fun order =>
    order = .lt || (order = .eq && !conditions.lowInclusive)

def isAboveHigh (value : KeyValue) : Option Bool :=
  if conditions.high.isAbsent then some false
  else (compareRoutingKeys value conditions.high).map fun order =>
    order = .gt || (order = .eq && !conditions.highInclusive)

def checkRangeContradiction (value : KeyValue) : Option Bool := do
  if ← conditions.isBelowLow value then return true
  conditions.isAboveHigh value

def differs (value : KeyValue) : List KeyValue → Option Bool
  | [] => some false
  | first :: rest => do
    let order ← compareRoutingKeys first value
    if order ≠ .eq then return true
    differs value rest

def contradictsValue (value : KeyValue) : Option Bool :=
  match conditions.type with
  | some .equals => differs value conditions.values
  | some .range => conditions.checkRangeContradiction value
  | none => some false

def applyEqualsCondition (value : KeyValue) : Option KeyConditions := do
  if ← conditions.contradictsValue value then return { conditions with contradiction := true }
  return { conditions with type := some .equals, values := [value] }

def updateRangeLow (value : KeyValue) (inclusive : Bool) : Option KeyConditions :=
  if conditions.low.isAbsent then
    some { conditions with
      low := value, lowInclusive := inclusive, type := some .range }
  else do
    match ← compareRoutingKeys value conditions.low with
    | .gt => return { conditions with low := value, lowInclusive := inclusive }
    | .eq => return { conditions with
        lowInclusive := conditions.lowInclusive && inclusive }
    | .lt => return conditions

def updateRangeHigh (value : KeyValue) (inclusive : Bool) : Option KeyConditions :=
  if conditions.high.isAbsent then
    some { conditions with
      high := value, highInclusive := inclusive, type := some .range }
  else do
    match ← compareRoutingKeys value conditions.high with
    | .lt => return { conditions with high := value, highInclusive := inclusive }
    | .eq => return { conditions with
        highInclusive := conditions.highInclusive && inclusive }
    | .gt => return conditions

def verifyRangeBounds : Option KeyConditions :=
  if conditions.low.isAbsent || conditions.high.isAbsent then some conditions
  else do
    match ← compareRoutingKeys conditions.low conditions.high with
    | .gt => return { conditions with contradiction := true }
    | .eq =>
      if conditions.lowInclusive && conditions.highInclusive then return conditions
      else return { conditions with contradiction := true }
    | .lt => return conditions

/-- An equality is only checked against a bound. The first of its values stands
for it. -/
def applyGreaterThanCondition (value : KeyValue) (inclusive : Bool) : Option KeyConditions :=
  match conditions.type with
  | some .equals => do
    let first := conditions.values.headD (.primitive .undefined)
    let order ← compareRoutingKeys first value
    if order = .lt || (order = .eq && !inclusive) then
      return { conditions with contradiction := true }
    return conditions
  | _ => do (← conditions.updateRangeLow value inclusive).verifyRangeBounds

def applyLessThanCondition (value : KeyValue) (inclusive : Bool) : Option KeyConditions :=
  match conditions.type with
  | some .equals => do
    let first := conditions.values.headD (.primitive .undefined)
    let order ← compareRoutingKeys first value
    if order = .gt || (order = .eq && !inclusive) then
      return { conditions with contradiction := true }
    return conditions
  | _ => do (← conditions.updateRangeHigh value inclusive).verifyRangeBounds

def applyBinaryKeyCondition (operator : Operator) (value : KeyValue) : Option KeyConditions :=
  if conditions.contradiction then some conditions
  else
    match operator with
    | .equals => conditions.applyEqualsCondition value
    | .greaterThan => conditions.applyGreaterThanCondition value false
    | .greaterThanOrEqual => conditions.applyGreaterThanCondition value true
    | .lessThan => conditions.applyLessThanCondition value false
    | .lessThanOrEqual => conditions.applyLessThanCondition value true

end KeyConditions

def isKeyColumn (column primaryKey : String) : Bool := column.toLower = primaryKey.toLower

def findKeyConditions (primaryKey : String) :
    WhereClause → KeyConditions → Option (Bool × KeyConditions)
  | .and left right, conditions => do
    let (leftFound, conditions) ← findKeyConditions primaryKey left conditions
    let (rightFound, conditions) ← findKeyConditions primaryKey right conditions
    return (leftFound || rightFound, conditions)
  | .compare column operator value, conditions =>
    if isKeyColumn column primaryKey then do
      return (true, ← conditions.applyBinaryKeyCondition operator value)
    else some (false, conditions)
  | .compareValue value operator column, conditions =>
    if isKeyColumn column primaryKey then do
      return (true, ← conditions.applyBinaryKeyCondition
        operator.invertComparisonOperator value)
    else some (false, conditions)
  | .between column low high, conditions =>
    if isKeyColumn column primaryKey then do
      let conditions ← conditions.applyBinaryKeyCondition .greaterThanOrEqual low
      return (true, ← conditions.applyBinaryKeyCondition .lessThanOrEqual high)
    else some (false, conditions)

def extractKeyConditions (whereClause : WhereClause) (primaryKey : String) :
    Option (Option KeyConditions) := do
  let (found, conditions) ← findKeyConditions primaryKey whereClause {}
  return if found then some conditions else none

end LagrangeDb.Routing
