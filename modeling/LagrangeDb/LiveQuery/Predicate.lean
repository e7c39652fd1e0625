import LagrangeDb.Query.Evaluate

namespace LagrangeDb.LiveQuery

open Query

/-! The predicate a query group compiles from a WHERE clause, and which queries it evaluates. -/

/-- The subquery of IN, the pattern of LIKE and the query of EXISTS are not looked
into. A function call has another type in the parser than the one that counts as
complex here. -/
def isComplexWhereNode : Expr → Bool
  | .aggregate _ _ _ | .subquery _ | .case _ _ _ | .cast _ _ => true
  | .functionCall _ arguments => anyComplex arguments
  | .binary _ left right => isComplexWhereNode left || isComplexWhereNode right
  | .nullTest operand _ => isComplexWhereNode operand
  | .unary _ operand => isComplexWhereNode operand
  | .inList expression values _ => isComplexWhereNode expression || anyComplex values
  | .inSubquery expression _ _ => isComplexWhereNode expression
  | .between expression low high =>
    isComplexWhereNode expression || isComplexWhereNode low || isComplexWhereNode high
  | .like expression _ _ => isComplexWhereNode expression
  | _ => false
where
  anyComplex : List Expr → Bool
    | [] => false
    | value :: rest => isComplexWhereNode value || anyComplex rest

def aggregateFunctions : List String :=
  ["COUNT", "SUM", "AVG", "MIN", "MAX", "GROUP_CONCAT", "TOTAL"]

/-- The parser's aggregate nodes have their function under another property than
the one that is read here, which makes it an empty name; its function calls have
another type. -/
def isAggregateExpression : Expr → Bool
  | .aggregate _ _ _ => "" ∈ aggregateFunctions
  | _ => false

def hasAggregateColumn (columns : List Column) : Bool :=
  columns.any fun column => isAggregateExpression column.expression

def hasComplexClause (query : Select) : Bool :=
  !query.joins.isEmpty || !query.groupBy.isEmpty || query.having.isSome ||
    query.distinct || query.limit.isSome || !query.orderBy.isEmpty ||
    query.setOperation.isSome ||
    match query.source with
    | some (.subquery _ _) => true
    | _ => false

def isComplexQuery (query : Select) : Bool :=
  hasComplexClause query || hasAggregateColumn query.columns ||
    query.condition.any isComplexWhereNode

def propertyOf (value : Js.Value) (name : String) : Js.Value :=
  match value with
  | .string text =>
    if name = "length" then .number (.finite (Js.utf16 text).length)
    else .undefined
  | _ => .undefined

def getColumnValue (row : Row) (table : Option String) (column : String) : Js.Value :=
  if column.isEmpty then .undefined
  else
    match table with
    | none => row.get column
    | some table =>
      if !table.isEmpty && (row.get table).truthy then propertyOf (row.get table) column
      else row.get column

/-- The nodes of the parser count their parameters from zero. -/
def resolveParameterValue (params : List Js.Value) (index : Nat) : Js.Value :=
  match index with
  | 0 => .null
  | before + 1 =>
    match params.getD before .undefined with
    | .undefined => .null
    | value => value

/-- The operators without a comparator answer `false`. -/
def compareWith : BinaryOperator → Js.Value → Js.Value → Bool
  | .equals, left, right => left.strictEquals right
  | .notEquals, left, right => !left.strictEquals right
  | .less, left, right => left.less right
  | .lessOrEqual, left, right => left.lessOrEqual right
  | .greater, left, right => right.less left
  | .greaterOrEqual, left, right => right.lessOrEqual left
  | _, _, _ => false

/-- How the engine folds the case of a code unit. -/
structure RegExpEngine where
  canonicalize : Nat → Nat

/-- The pattern has no case: the text and the literals of the pattern are compared
in upper case. -/
def likeTest (regExp : RegExpEngine) (pattern value : String) : Bool :=
  likeMatches ((Js.utf16 pattern).map regExp.canonicalize)
    ((Js.utf16 value).map regExp.canonicalize)

def evaluateLikeExpression (regExp : RegExpEngine) : Js.Value → Js.Value → Bool
  | .string value, .string pattern => likeTest regExp pattern value
  | _, _ => false

def evaluateInExpression (value : Js.Value) (values : List Js.Value) : Bool :=
  !value.isNullish && values.any fun candidate => candidate.sameValueZero value

def evaluateBetweenExpression (value low high : Js.Value) : Bool :=
  !value.isNullish && low ≠ .null && high ≠ .null && low.lessOrEqual value && value.lessOrEqual high

section

variable (regExp : RegExpEngine) (row : Row) (params : List Js.Value)

mutual
/-- The evaluators do not read that an IN or a LIKE is negated. -/
def evaluateExpression : Expr → Js.Value
  | .binary .and left right => .boolean
      ((evaluateExpression left).truthy && (evaluateExpression right).truthy)
  | .binary .or left right => .boolean
      ((evaluateExpression left).truthy || (evaluateExpression right).truthy)
  | .binary operator left right => .boolean
      (compareWith operator (evaluateExpression left) (evaluateExpression right))
  | .nullTest operand negated => .boolean
      ((evaluateExpression operand).isNullish != negated)
  | .unary .not operand => .boolean (!(evaluateExpression operand).truthy)
  | .literal value => value
  | .columnRef table column => getColumnValue row table column
  | .inList expression values _ => .boolean
      (evaluateInExpression (evaluateExpression expression) (evaluateExpressions values))
  | .between expression low high => .boolean
      (evaluateBetweenExpression (evaluateExpression expression)
        (evaluateExpression low) (evaluateExpression high))
  | .like expression pattern _ => .boolean
      (evaluateLikeExpression regExp (evaluateExpression expression) (evaluateExpression pattern))
  | .parameter index => resolveParameterValue params index
  | _ => .boolean false

def evaluateExpressions : List Expr → List Js.Value
  | [] => []
  | expression :: rest => evaluateExpression expression :: evaluateExpressions rest
end

theorem evaluateExpressions_eq_map (values : List Expr) :
    evaluateExpressions regExp row params values =
      values.map (evaluateExpression regExp row params) := by
  induction values with
  | nil => rfl
  | cons value rest induction => rw [evaluateExpressions, induction, List.map_cons]

def compilePredicate (condition : Option Expr) : Bool :=
  condition.all fun expression => (evaluateExpression regExp row params expression).truthy

end

end LagrangeDb.LiveQuery
