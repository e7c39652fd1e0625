import LagrangeDb.Query.Evaluate
import LagrangeDb.Query.Merge
import LagrangeDb.Query.Shape
import LagrangeDb.Query.Traversal

namespace LagrangeDb.Query

/-! The fan-out plan of a SELECT: the statement each partition runs and how the
coordinator merges the partitions' rows. -/

structure Aggregate where
  function : AggregateFunction
  argument : Expr
  distinct : Bool
deriving DecidableEq

def Aggregate.expr (aggregate : Aggregate) : Expr :=
  .aggregate aggregate.function aggregate.argument aggregate.distinct

def Aggregate.name (aggregate : Aggregate) : String :=
  aggregateKey aggregate.function aggregate.argument

inductive CombineMode where
  | sumOfCounts
  | sumOfSums
  | sumPairRatio
  | minOfMins
  | maxOfMaxes
  | distinctValues
deriving DecidableEq

def combineModeByFunction : AggregateFunction → Option CombineMode
  | .count => some .sumOfCounts
  | .sum => some .sumOfSums
  | .avg => some .sumPairRatio
  | .min => some .minOfMins
  | .max => some .maxOfMaxes
  | .other _ => none

def Aggregate.combineMode (aggregate : Aggregate) : Option CombineMode :=
  if aggregate.distinct then some .distinctValues
  else combineModeByFunction aggregate.function

structure AggregateSpec where
  aggregate : Aggregate
  outputKeys : List String
  index : Nat
deriving DecidableEq

/-- Aggregates of one shape share a specification. -/
def registerAggregate (specs : List AggregateSpec) (aggregate : Aggregate)
    (outputKey : Option String) : List AggregateSpec :=
  let specs :=
    if specs.any fun spec => spec.aggregate = aggregate then specs
    else specs ++ [⟨aggregate, [], specs.length⟩]
  match outputKey with
  | none => specs
  | some key => specs.map fun spec =>
    if spec.aggregate = aggregate && !spec.outputKeys.contains key then
      { spec with outputKeys := spec.outputKeys ++ [key] }
    else spec

def visitAggregate : Node → Option (List Aggregate)
  | .expression (.aggregate function argument distinct) => some [⟨function, argument, distinct⟩]
  | _ => none

def walkAggregates (expression : Expr) : List Aggregate :=
  walk .properties visitAggregate expression

def containsAggregate (expression : Expr) : Bool := !(walkAggregates expression).isEmpty

def registerNested (specs : List AggregateSpec) (expression : Expr) : List AggregateSpec :=
  (walkAggregates expression).foldl
    (fun specs aggregate => registerAggregate specs aggregate none) specs

def registerColumn (specs : List AggregateSpec) (column : Column) : List AggregateSpec :=
  match column.expression with
  | .aggregate function argument distinct =>
    let aggregate : Aggregate := ⟨function, argument, distinct⟩
    registerAggregate specs aggregate (some (column.asName.getD aggregate.name))
  | expression => registerNested specs expression

def collectAggregateSpecs (ast : Select) : List AggregateSpec :=
  let ofColumns := ast.columns.foldl registerColumn []
  match ast.having with
  | none => ofColumns
  | some having => registerNested ofColumns having

def allAggregatesCombinable (specs : List AggregateSpec) : Bool :=
  specs.all fun spec => spec.aggregate.combineMode.isSome

def isScalarBinary : BinaryOperator → Bool
  | .add | .subtract | .multiply | .divide | .modulo => true
  | .equals | .notEquals => true
  | .less | .lessOrEqual | .greater | .greaterOrEqual => true
  | _ => false

def isScalarUnary : UnaryOperator → Bool
  | .minus | .plus => true
  | _ => false

mutual
def expressionEvaluable : Expr → Bool
  | .aggregate _ _ _ => true
  | .literal _ | .columnRef _ _ | .parameter _ => true
  | .binary operator left right =>
    isScalarBinary operator && expressionEvaluable left && expressionEvaluable right
  | .unary operator operand => isScalarUnary operator && expressionEvaluable operand
  | .list elements => elementsEvaluable elements
  | _ => false

def elementsEvaluable : List Expr → Bool
  | [] => true
  | element :: rest => expressionEvaluable element && elementsEvaluable rest
end

def Expr.isAggregate : Expr → Bool
  | .aggregate _ _ _ => true
  | _ => false

def hasUnsupportedAggregateExpression (ast : Select) : Bool :=
  ast.columns.any fun column =>
    !column.expression.isAggregate && containsAggregate column.expression &&
      !expressionEvaluable column.expression

/-- An expression whose aggregates are replaced by markers of their
specifications. -/
inductive CombinedExpr where
  | literal (value : Js.Value)
  | columnRef (column : String)
  | marker (specIndex : Nat)
  | binary (operator : BinaryOperator) (left right : CombinedExpr)
  | unary (operator : UnaryOperator) (operand : CombinedExpr)
deriving DecidableEq

section

variable (specs : List AggregateSpec) (parameterValue : Nat → Js.Value)

/-- The parameters are replaced by their values. An expression the coordinator
cannot evaluate has no form: such a statement is not combined. -/
def replaceAggregatesWithMarkers : Expr → Option CombinedExpr
  | .aggregate function argument distinct =>
    (specs.find? fun spec =>
      spec.aggregate = ⟨function, argument, distinct⟩).map fun spec => .marker spec.index
  | .literal value => some (.literal value)
  | .columnRef _ column => some (.columnRef column)
  | .parameter index => some (.literal (parameterValue index))
  | .binary operator left right => do
    return .binary operator (← replaceAggregatesWithMarkers left)
      (← replaceAggregatesWithMarkers right)
  | .unary operator operand => do
    return .unary operator (← replaceAggregatesWithMarkers operand)
  | _ => none

end

def visitOutsideColumn : Node → Option (List Expr)
  | .expression (.columnRef table column) => some [.columnRef table column]
  | .expression (.aggregate _ _ _) => some []
  | _ => none

def collectOutsideColumnRefs (expression : Expr) : List Expr :=
  walk .properties visitOutsideColumn expression

structure GroupKey where
  aliasName : String
  shape : Expr
  outputKeys : List String

structure BareColumn where
  (aliasName outputKey : String)
  projected : Bool

structure ExpressionColumn where
  outputKey : String
  expression : CombinedExpr

/-- The columns of the partition's statement that hold an aggregate's partial
values. -/
inductive Partials where
  | value (aliasName : String)
  | pair (sum count : String)
  | values (aliasName : String)
deriving DecidableEq

structure CombinedAggregate where
  index : Nat
  combineMode : CombineMode
  outputKeys : List String
  havingKey : String
  partials : Partials
  fn : AggregateFunction

structure CombineSpec where
  groupKeys : List GroupKey
  bareColumns : List BareColumn
  aggregates : List CombinedAggregate
  having : Option Expr
  orderBy : List OrderItem
  limit : Option Limit
  hasGroupBy : Bool
  expressionColumns : List ExpressionColumn
  includeStar : Bool

structure Projection where
  columns : List Column
  groupKeys : List GroupKey
  bareColumns : List BareColumn
  expressionColumns : List ExpressionColumn
  includeStar : Bool

def groupKeyAlias (index : Nat) : String := "__fanout_gk_" ++ toString index

def aggregateAlias (index : Nat) : String := "__fanout_agg_" ++ toString index

def groupProjection (groupBy : List Expr) : Projection where
  columns := groupBy.zipIdx.map fun (expression, index) => ⟨expression, some (groupKeyAlias index)⟩
  groupKeys := groupBy.zipIdx.map fun (expression, index) => ⟨groupKeyAlias index, expression, []⟩
  bareColumns := []
  expressionColumns := []
  includeStar := false

namespace Projection

/-- The last group key of a shape takes the output key. -/
def addOutputKey (shape : Expr) (outputKey : String) : List GroupKey → List GroupKey
  | [] => []
  | key :: rest =>
    if key.shape = shape && !rest.any fun other => other.shape = shape then
      { key with outputKeys := key.outputKeys ++ [outputKey] } :: rest
    else key :: addOutputKey shape outputKey rest

def ensureBareColumn (index : Nat) (projected : Bool) (projection : Projection)
    (expression : Expr) (outputKey : String) : Projection :=
  if projection.bareColumns.any fun bare => bare.outputKey = outputKey then
    { projection with
      bareColumns := projection.bareColumns.map fun bare =>
        if bare.outputKey = outputKey then
          { bare with projected := bare.projected || projected }
        else bare }
  else
    let aliasName := "__fanout_bare_" ++ toString index ++ "_" ++
      toString projection.bareColumns.length
    { projection with
      bareColumns := projection.bareColumns ++ [⟨aliasName, outputKey, projected⟩]
      columns := projection.columns ++ [⟨expression, some aliasName⟩] }

def ensureOutsideColumn (index : Nat) (projection : Projection) : Expr → Projection
  | .columnRef table column =>
    projection.ensureBareColumn index false (.columnRef table column) column
  | _ => projection

end Projection

/-- The name of a column without an alias: a column's own, the SQL text of
anything else. -/
def columnOutputKey (column : Column) : Option String :=
  match column.asName, column.expression with
  | some name, _ => some name
  | none, .columnRef _ name => some name
  | none, expression => (buildExpressionSQL expression).map Sql.text

section

variable (specs : List AggregateSpec) (parameterValue : Nat → Js.Value)

def projectColumn (projection : Projection) (entry : Column × Nat) : Option Projection :=
  let (column, index) := entry
  match column.expression with
  | .aggregate _ _ _ => some projection
  | .star => some
      { projection with
        includeStar := true
        columns := projection.columns ++ [⟨.star, none⟩] }
  | expression => do
    let outputKey ← columnOutputKey column
    if projection.groupKeys.any fun key => key.shape = expression then
      return { projection with
        groupKeys := Projection.addOutputKey expression outputKey projection.groupKeys }
    else if containsAggregate expression then
      let combined ←
        replaceAggregatesWithMarkers specs parameterValue expression
      let projection := (collectOutsideColumnRefs expression).foldl
        (Projection.ensureOutsideColumn index) projection
      return { projection with
        expressionColumns := projection.expressionColumns ++ [⟨outputKey, combined⟩] }
    else return projection.ensureBareColumn index true expression outputKey

end

/-- The partial columns of the aggregates, the arguments that join the GROUP BY
and how each aggregate finds its partial values. -/
structure PartialColumns where
  columns : List Column
  groupBy : List Expr
  distinctArguments : List (Expr × String)
  aggregates : List CombinedAggregate

def partialSuffix : CombineMode → String
  | .sumOfCounts => "_count"
  | .sumOfSums => "_sum"
  | .minOfMins => "_min"
  | .maxOfMaxes => "_max"
  | .sumPairRatio | .distinctValues => "undefined"

def addPartialColumns (partialColumns : PartialColumns) (spec : AggregateSpec) : PartialColumns :=
  let base := aggregateAlias spec.index
  let argument := spec.aggregate.argument
  let combined := fun mode partials => CombinedAggregate.mk spec.index mode
    spec.outputKeys spec.aggregate.name partials spec.aggregate.function
  match spec.aggregate.combineMode with
  | none => partialColumns
  | some .distinctValues =>
    match partialColumns.distinctArguments.lookup argument with
    | some valueAlias =>
      { partialColumns with
        aggregates := partialColumns.aggregates ++ [combined .distinctValues (.values valueAlias)] }
    | none =>
      let valueAlias := base ++ "_dv"
      { columns := partialColumns.columns ++ [⟨argument, some valueAlias⟩]
        groupBy := partialColumns.groupBy ++ [argument]
        distinctArguments := partialColumns.distinctArguments ++ [(argument, valueAlias)]
        aggregates := partialColumns.aggregates ++ [combined .distinctValues (.values valueAlias)] }
  | some .sumPairRatio =>
    { partialColumns with
      columns := partialColumns.columns ++
        [⟨.aggregate .sum argument false, some (base ++ "_sum")⟩,
          ⟨.aggregate .count argument false, some (base ++ "_count")⟩]
      aggregates := partialColumns.aggregates ++
        [combined .sumPairRatio (.pair (base ++ "_sum") (base ++ "_count"))] }
  | some mode =>
    { partialColumns with
      columns := partialColumns.columns ++
        [⟨spec.aggregate.expr, some (base ++ partialSuffix mode)⟩]
      aggregates := partialColumns.aggregates ++
        [combined mode (.value (base ++ partialSuffix mode))] }

def visitParameter : Node → Option (List Nat)
  | .expression (.parameter index) => some [index]
  | _ => none

def tagParameterOrdinals (ast : Select) : List Nat :=
  walkColumns .properties visitParameter ast.columns ++
    walkOption .properties visitParameter ast.condition ++
    walkAll .properties visitParameter ast.groupBy ++
    walkOption .properties visitParameter ast.having ++
    walkOrders .properties visitParameter ast.orderBy

def collectPartitionParamOrdinals (tagged : List Nat) (partitionAst : Select) : List Nat :=
  (tagParameterOrdinals partitionAst).map tagged.idxOf

mutual
/-- The literals that replace the parameters of a clause the coordinator
evaluates. A parameter that is an element of a list is not replaced, nor is
the clause itself. Nodes the coordinator does not evaluate stay as they
are. -/
def substituteParameterLiterals (parameterValue : Nat → Js.Value) (keyed : Bool) : Expr → Expr
  | .parameter index => if keyed then .literal (parameterValue index) else .parameter index
  | .binary operator left right =>
    .binary operator (substituteParameterLiterals parameterValue true left)
      (substituteParameterLiterals parameterValue true right)
  | .nullTest operand negated =>
    .nullTest (substituteParameterLiterals parameterValue true operand) negated
  | .unary operator operand =>
    .unary operator (substituteParameterLiterals parameterValue true operand)
  | .inList expression values negated =>
    .inList (substituteParameterLiterals parameterValue true expression)
      (substituteElements parameterValue values) negated
  | .between expression low high =>
    .between (substituteParameterLiterals parameterValue true expression)
      (substituteParameterLiterals parameterValue true low)
      (substituteParameterLiterals parameterValue true high)
  | .like expression pattern negated =>
    .like (substituteParameterLiterals parameterValue true expression)
      (substituteParameterLiterals parameterValue true pattern) negated
  | .aggregate function argument distinct =>
    .aggregate function (substituteParameterLiterals parameterValue true argument) distinct
  | expression => expression

def substituteElements (parameterValue : Nat → Js.Value) : List Expr → List Expr
  | [] => []
  | element :: rest =>
    substituteParameterLiterals parameterValue false element ::
      substituteElements parameterValue rest
end

structure PartialParts where
  partitionAst : Select
  combineSpec : CombineSpec

def buildPartialAggregateParts (ast : Select) (specs : List AggregateSpec)
    (parameterValue : Nat → Js.Value) : Option PartialParts := do
  let projection ← ast.columns.zipIdx.foldlM
    (projectColumn specs parameterValue) (groupProjection ast.groupBy)
  let partialColumns := specs.foldl addPartialColumns
    ⟨projection.columns, ast.groupBy, [], []⟩
  return {
    partitionAst :=
      { ast with
        columns := partialColumns.columns
        groupBy := partialColumns.groupBy
        having := none
        orderBy := []
        limit := none
        distinct := false }
    combineSpec :=
      { groupKeys := projection.groupKeys
        bareColumns := projection.bareColumns
        aggregates := partialColumns.aggregates
        having := ast.having.map (substituteParameterLiterals parameterValue false)
        orderBy := ast.orderBy
        limit := ast.limit
        hasGroupBy := !ast.groupBy.isEmpty
        expressionColumns := projection.expressionColumns
        includeStar := projection.includeStar } }

def Source.isSubquery : Source → Bool
  | .subquery _ _ => true
  | .table _ _ => false

def fanoutRewriteApplies (ast : Select) : Bool :=
  ast.setOperation.isNone && ast.ctes.isEmpty &&
    !ast.source.any Source.isSubquery && ast.joins.isEmpty

def hasAggregatesOrGroupBy (ast : Select) (specs : List AggregateSpec) : Bool :=
  !specs.isEmpty || !ast.groupBy.isEmpty

/-- Each partition returns the rows the coordinator may skip or keep. -/
def buildOverfetchLimit (limit : Limit) : Limit where
  count := max limit.count 0 + max (limit.offset.getD 0) 0
  offset := some 0

inductive FanoutBuildState where
  | originalRawRows
  | partialAggregate
  | distributedRawRows
deriving DecidableEq

def fanoutBuildState (ast : Select) : FanoutBuildState :=
  let specs := collectAggregateSpecs ast
  let hasAggregatePlan := hasAggregatesOrGroupBy ast specs
  let mustUseOriginalRows := !fanoutRewriteApplies ast ||
    (hasAggregatePlan && (!allAggregatesCombinable specs || hasUnsupportedAggregateExpression ast))
  if mustUseOriginalRows then .originalRawRows
  else if hasAggregatePlan then .partialAggregate
  else .distributedRawRows

structure FanoutPlan where
  kind : FanoutPlanKind
  partitionAst : Select
  partitionParams : List Js.Value
  combineSpec : Option CombineSpec

def buildSelectFanoutPlan (ast : Select) (params : List Js.Value) : Option FanoutPlan :=
  let tagged := tagParameterOrdinals ast
  let valueAt := fun ordinal => params.getD ordinal .undefined
  match fanoutBuildState ast with
  | .originalRawRows => some ⟨.rawRows, ast, params, none⟩
  | .distributedRawRows =>
    let partitionAst := { ast with limit := ast.limit.map buildOverfetchLimit }
    some ⟨.rawRows, partitionAst,
      (collectPartitionParamOrdinals tagged partitionAst).map valueAt, none⟩
  | .partialAggregate => do
    let parts ← buildPartialAggregateParts ast (collectAggregateSpecs ast)
      fun index => valueAt (tagged.idxOf index)
    return ⟨.partialAggregate, parts.partitionAst,
      (collectPartitionParamOrdinals tagged parts.partitionAst).map valueAt,
      some parts.combineSpec⟩

end LagrangeDb.Query
