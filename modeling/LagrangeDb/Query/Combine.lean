import LagrangeDb.Data.Grouping
import LagrangeDb.Query.Having

namespace LagrangeDb.Query

/-! How the partial rows of the partitions are combined: one row for each group, then
HAVING, ORDER BY and LIMIT once. -/

def numberOrZero (value : Js.Value) : Js.Number :=
  if value.toNumber = .nan then .finite 0 else value.toNumber

def sumNumbers (values : List Js.Value) : Js.Number :=
  values.foldl (fun total value => total.add (numberOrZero value)) (.finite 0)

def combineNullSkipping (reducer : Js.Value → Js.Value → Js.Value)
    (values : List Js.Value) : Js.Value :=
  values.foldl (fun accumulated value =>
    if value.isNullish then accumulated
    else if accumulated = .null then value
    else reducer accumulated value) .null

def lesser (best value : Js.Value) : Js.Value := if value.less best then value else best

def greater (best value : Js.Value) : Js.Value := if best.less value then value else best

def distinctValues (values : List Js.Value) : List Js.Value :=
  values.foldl (fun distinct value =>
    if value.isNullish || distinct.contains value then distinct
    else distinct ++ [value]) []

def sumOf (values : List Js.Value) : Js.Number :=
  values.foldl (fun total value => total.add value.toNumber) (.finite 0)

def combineDistinct (function : AggregateFunction) (values : List Js.Value) : Js.Value :=
  match function, distinctValues values with
  | .count, values => .number (.finite values.length)
  | _, [] => .null
  | .sum, values => .number (sumOf values)
  | .avg, values => .number ((sumOf values).divide (.finite values.length))
  | .min, first :: rest => rest.foldl lesser first
  | .max, first :: rest => rest.foldl greater first
  | .other _, _ => .null

/-- The partial columns of a mode are those it was planned with. -/
def combineAggregate (aggregate : CombinedAggregate) (groupRows : List Row) : Js.Value :=
  let read := fun aliasName => groupRows.map fun row => row.get aliasName
  match aggregate.combineMode, aggregate.partials with
  | .sumOfCounts, .value aliasName => .number (sumNumbers (read aliasName))
  | .sumOfSums, .value aliasName => combineNullSkipping Js.Value.plus (read aliasName)
  | .minOfMins, .value aliasName => combineNullSkipping lesser (read aliasName)
  | .maxOfMaxes, .value aliasName => combineNullSkipping greater (read aliasName)
  | .sumPairRatio, .pair sum count =>
    let totalCount := sumNumbers (read count)
    if totalCount = .finite 0 then .null
    else
      match combineNullSkipping Js.Value.plus (read sum) with
      | .null => .null
      | totalSum => .number (totalSum.toNumber.divide totalCount)
  | .distinctValues, .values aliasName => combineDistinct aggregate.fn (read aliasName)
  | _, _ => .null

def Row.assign (row : Row) (writes : List (String × Js.Value)) : Row :=
  writes.foldl (fun row write => row.insert write.1 write.2) row

def isInternalAlias (key : String) : Bool :=
  key.startsWith "__fanout_gk_" || key.startsWith "__fanout_agg_" || key.startsWith "__fanout_bare_"

def scalarBinary (operator : BinaryOperator) (left right : Js.Value) : Js.Value :=
  let truth := fun holds : Bool => Js.Value.number (.finite (if holds then 1 else 0))
  match operator with
  | .add => left.plus right
  | .subtract => .number (left.toNumber.subtract right.toNumber)
  | .multiply => .number (left.toNumber.multiply right.toNumber)
  | .divide =>
    if right.toNumber = .finite 0 then .null
    else
      match left, right with
      | .number first, .number second =>
        if first.isInteger && second.isInteger then .number (first.divide second).truncate
        else .number (first.divide second)
      | _, _ => .number (left.toNumber.divide right.toNumber)
  | .modulo =>
    let divisor := right.toNumber.truncate
    if divisor = .finite 0 then .null
    else .number (left.toNumber.truncate.remainder divisor)
  | .equals => truth (left.strictEquals right)
  | .notEquals => truth (!left.strictEquals right)
  | .less => truth (left.less right)
  | .lessOrEqual => truth (left.lessOrEqual right)
  | .greater => truth (right.less left)
  | .greaterOrEqual => truth (right.lessOrEqual left)
  | _ => .null

def scalarUnary : UnaryOperator → Js.Value → Js.Value
  | .minus, value => .number value.toNumber.negate
  | .plus, value => .number value.toNumber
  | _, _ => .null

def evaluateScalarExpression (row : Row) (combined : Nat → Js.Value) : CombinedExpr → Js.Value
  | .literal value => value
  | .columnRef column => row.get column
  | .marker specIndex => combined specIndex
  | .unary operator operand =>
    let value := evaluateScalarExpression row combined operand
    if value.isNullish then .null else scalarUnary operator value
  | .binary operator left right =>
    let first := evaluateScalarExpression row combined left
    let second := evaluateScalarExpression row combined right
    if first.isNullish || second.isNullish then .null
    else scalarBinary operator first second

/-- The row of a group, with the columns a star stands for. -/
structure InternalRow where
  row : Row
  starKeys : List String

namespace CombineSpec

variable (spec : CombineSpec) (groupRows : List Row)

def firstRow : Row := groupRows.head?.getD ∅

def starKeys : List String :=
  if spec.includeStar then (firstRow groupRows).keys.filter fun key => !isInternalAlias key
  else []

def groupWrites : List (String × Js.Value) :=
  spec.groupKeys.flatMap fun key =>
    let value := (firstRow groupRows).get key.aliasName
    key.outputKeys.map (·, value) ++ [(key.aliasName, value)]

def bareWrites : List (String × Js.Value) :=
  spec.bareColumns.map fun bare => (bare.outputKey, (firstRow groupRows).get bare.aliasName)

def aggregateWrites : List (String × Js.Value) :=
  spec.aggregates.flatMap fun aggregate =>
    (aggregate.havingKey :: aggregate.outputKeys).map (·, combineAggregate aggregate groupRows)

def combinedBySpecIndex (index : Nat) : Js.Value :=
  match spec.aggregates.reverse.find? fun aggregate => aggregate.index = index with
  | some aggregate => combineAggregate aggregate groupRows
  | none => .undefined

def baseRow : Row :=
  (∅ : Row).assign
    ((spec.starKeys groupRows).map (fun key => (key, (firstRow groupRows).get key)) ++
      spec.groupWrites groupRows ++ spec.bareWrites groupRows ++
      spec.aggregateWrites groupRows)

def buildInternalRow : InternalRow where
  row := spec.expressionColumns.foldl (fun row column =>
    row.insert column.outputKey (evaluateScalarExpression row
      (spec.combinedBySpecIndex groupRows) column.expression)) (spec.baseRow groupRows)
  starKeys := spec.starKeys groupRows

def finalKeys (starKeys : List String) : List String :=
  starKeys ++ spec.groupKeys.flatMap GroupKey.outputKeys ++
    (spec.bareColumns.filter BareColumn.projected).map BareColumn.outputKey ++
    spec.aggregates.flatMap CombinedAggregate.outputKeys ++
    spec.expressionColumns.map ExpressionColumn.outputKey

def projectFinalRow (internal : InternalRow) : Row :=
  (∅ : Row).assign ((spec.finalKeys internal.starKeys).map fun key => (key, internal.row.get key))

/-- The JSON text of a value tells it from the others, but the values JSON has no
text for are all null. -/
def jsonValue : Js.Value → Js.Value
  | .undefined | .number .nan | .number (.infinite _) => .null
  | value => value

def groupKeyOf (row : Row) : List Js.Value :=
  spec.groupKeys.map fun key => jsonValue (row.get key.aliasName)

/-- Without GROUP BY there is always one group. -/
def groups (partialRows : List Row) : List (List Row) :=
  let groups := Groups.collect spec.groupKeyOf partialRows
  if groups.isEmpty && !spec.hasGroupBy then [[]] else groups.map Prod.snd

end CombineSpec

section

variable (localeCompare : String → String → Ordering)

def compareOrderByClauseValues (left right : Js.Value) (direction : Direction) : Ordering :=
  let directed := fun ordering : Ordering => if direction = .desc then ordering.swap else ordering
  if left.strictEquals right then .eq
  else if left = .null then directed .gt
  else if right = .null then directed .lt
  else
    match left, right with
    | .string left, .string right => directed (localeCompare left right)
    | left, right =>
      if left.less right then directed .lt
      else if right.less left then directed .gt
      else .eq

/-- A clause that is no column reads a property no row has. -/
def orderColumn : Expr → String
  | .columnRef _ column => column
  | _ => "undefined"

def compareRows (left right : Row) : List OrderItem → Ordering
  | [] => .eq
  | clause :: rest =>
    (compareOrderByClauseValues localeCompare (left.get (orderColumn clause.expression))
      (right.get (orderColumn clause.expression)) clause.direction).then
        (compareRows left right rest)

def applyOrderBy (orderBy : List OrderItem) (rows : List InternalRow) : List InternalRow :=
  rows.mergeSort fun left right => compareRows localeCompare left.row right.row orderBy ≠ .gt

def applyLimit (limit : Limit) (rows : List InternalRow) : List InternalRow :=
  (rows.drop (limit.offset.getD 0).toNat).take limit.count.toNat

/-- The rows of the result; none where HAVING throws. -/
def combinePartialAggregateRows (spec : CombineSpec) (partialRows : List Row) :
    Option (List Row) := do
  let internal := (spec.groups partialRows).map spec.buildInternalRow
  let kept ← match spec.having with
    | none => some internal
    | some having => applyHaving InternalRow.row having internal
  let ordered := if spec.orderBy.isEmpty then kept
    else applyOrderBy localeCompare spec.orderBy kept
  let limited := match spec.limit with
    | none => ordered
    | some limit => applyLimit limit ordered
  return limited.map spec.projectFinalRow

end

end LagrangeDb.Query
