import Mathlib.Data.List.AList
import LagrangeDb.Query.Rendering

namespace LagrangeDb.Query

abbrev Row := AList fun _ : String => Js.Value

namespace Row

def get (row : Row) (column : String) : Js.Value := (row.lookup column).getD .undefined

def has (row : Row) (column : String) : Bool := (row.lookup column).isSome

theorem get_insert (row : Row) (column name : String) (value : Js.Value) :
    get (row.insert column value) name = if name = column then value else row.get name := by
  by_cases same : name = column
  · subst same
    simp [get]
  · simp [get, AList.lookup_insert_ne same, same]

def qualified (table column : String) : String := table ++ "." ++ column

/-- A column reference: the qualified property of a joined row comes first. -/
def read (row : Row) (table : Option String) (column : String) : Js.Value :=
  match table with
  | none => row.get column
  | some table =>
    if row.has (qualified table column) then row.get (qualified table column)
    else row.get column

end Row

def isLineTerminator (unit : Nat) : Bool := unit = 10 || unit = 13 || unit = 8232 || unit = 8233

/-- What is left of a text after a run of `.*`. -/
def afterRuns : List Nat → List (List Nat)
  | [] => [[]]
  | unit :: rest => (unit :: rest) :: if isLineTerminator unit then [] else afterRuns rest

def likeMatches : List Nat → List Nat → Bool
  | [], text => text.isEmpty
  | 37 :: pattern, text => (afterRuns text).any (likeMatches pattern)
  | 95 :: pattern, text =>
    match text with
    | unit :: rest => !isLineTerminator unit && likeMatches pattern rest
    | [] => false
  | literal :: pattern, text =>
    match text with
    | unit :: rest => unit = literal && likeMatches pattern rest
    | [] => false

/-- The name of an aggregate's argument in its row key. -/
def getArgName : Expr → String
  | .star => "*"
  | .columnRef _ column => column
  | _ => "?"

def aggregateKey (function : AggregateFunction) (argument : Expr) : String :=
  function.name ++ "(" ++ getArgName argument ++ ")"

/-- An operator without a case of its own answers `true`. -/
def evaluateOperator (operator : BinaryOperator) (left right : Js.Value) : Js.Value :=
  match operator with
  | .and => if left.truthy then right else left
  | .or => if left.truthy then left else right
  | .equals => .boolean (left.strictEquals right)
  | .notEquals => .boolean (!left.strictEquals right)
  | .less => .boolean (left.less right)
  | .lessOrEqual => .boolean (left.lessOrEqual right)
  | .greater => .boolean (right.less left)
  | .greaterOrEqual => .boolean (right.lessOrEqual left)
  | _ => .boolean true

def evaluateUnaryOperator (operator : UnaryOperator) (operand : Js.Value) : Js.Value :=
  match operator with
  | .not => .boolean (!operand.truthy)
  | .plus => .number operand.toNumber
  | .minus => .number operand.toNumber.negate
  | .other _ => operand

def evaluateLike (value pattern : Js.Value) (negated : Bool) : Js.Value :=
  if value.isNullish || pattern.isNullish then .boolean false
  else
    let found := likeMatches (Js.utf16 pattern.toText) (Js.utf16 value.toText)
    .boolean (if negated then !found else found)

section

variable (row : Row) (params : List Js.Value)

mutual
/-- There is no value where the evaluation throws: an IN over a subquery has
no list. -/
def evaluateExpression : Expr → Option Js.Value
  | .binary operator left right => do
    return evaluateOperator operator (← evaluateExpression left)
      (← evaluateExpression right)
  | .nullTest operand negated => do
    let value ← evaluateExpression operand
    return .boolean (if negated then !value.isNullish else value.isNullish)
  | .unary operator operand => do
    return evaluateUnaryOperator operator (← evaluateExpression operand)
  | .inList expression values negated => do
    let value ← evaluateExpression expression
    let candidates ← evaluateExpressions values
    let found := candidates.any fun candidate => candidate.strictEquals value
    return .boolean (if negated then !found else found)
  | .inSubquery _ _ _ => none
  | .between expression low high => do
    let value ← evaluateExpression expression
    let low ← evaluateExpression low
    let high ← evaluateExpression high
    return .boolean (low.lessOrEqual value && value.lessOrEqual high)
  | .like expression pattern negated => do
    return evaluateLike (← evaluateExpression expression)
      (← evaluateExpression pattern) negated
  | .literal value => some value
  | .parameter index => some (params.getD index .undefined)
  | .columnRef table column => some (row.read table column)
  | .aggregate function argument _ => some (row.get (aggregateKey function argument))
  | _ => some (.boolean true)

def evaluateExpressions : List Expr → Option (List Js.Value)
  | [] => some []
  | expression :: rest => do
    return (← evaluateExpression expression) ::
      (← evaluateExpressions rest)
end

end

end LagrangeDb.Query
