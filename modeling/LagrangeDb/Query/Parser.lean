import LagrangeDb.Query.Ast

namespace LagrangeDb.Query

/-! The conversion of the external parser's tree. A placeholder of the external
tree carries its position in the text; the converter gives it the next index. -/

mutual
/-- Binary nodes stand by the shape their conversion asks for: an IN by its
list or its subquery. -/
inductive ExternalExpr where
  | literal (value : Js.Value)
  | origin (text : String)
  | placeholder (position : Nat)
  | columnRef (table : Option String) (column : String)
  | star
  | binary (operator : BinaryOperator) (left right : ExternalExpr)
  | inList (left : ExternalExpr) (values : List ExternalExpr) (negated : Bool)
  | inQuery (left : ExternalExpr) (ast : ExternalSelect) (negated : Bool)
  | between (left low high : ExternalExpr)
  | like (left right : ExternalExpr) (negated : Bool)
  | is (left right : ExternalExpr) (negated : Bool)
  | unary (operator : UnaryOperator) (operand : ExternalExpr)
  | aggregate (name : AggregateFunction) (argument : Option ExternalExpr)
      (distinct : Bool)
  | exprList (value : List ExternalExpr)
  | subquery (ast : ExternalSelect)
  | case (operand : Option ExternalExpr) (branches : List ExternalBranch)
      (otherwise : Option ExternalExpr)
  | cast (expression : ExternalExpr) (dataType : String)
  | function (name : String) (args : List ExternalExpr)
  | unknown (type : String)

structure ExternalBranch where
  (cond result : ExternalExpr)

structure ExternalColumn where
  expr : ExternalExpr
  asName : Option String

inductive ExternalTable where
  | name (table : String)
  | subquery (ast : ExternalSelect)

structure ExternalFrom where
  table : ExternalTable
  (asName join : Option String)
  on : Option ExternalExpr

structure ExternalOrder where
  expr : ExternalExpr
  direction : Option Direction

structure ExternalCte where
  name : String
  stmt : ExternalSelect
  recursive : Bool

structure ExternalNext where
  setOp : SetOperator
  ast : ExternalSelect

structure ExternalSelect where
  ctes : List ExternalCte
  distinct : Bool
  columns : List ExternalColumn
  tables : List ExternalFrom
  condition : Option ExternalExpr
  groupby : List ExternalExpr
  having : Option ExternalExpr
  orderby : List ExternalOrder
  limit : List ExternalExpr
  offsetSeparator : Bool
  next : Option ExternalNext
end

/-- The converter's state: the positions numbered so far. Its parameter counter
is their count. There is no result where the conversion throws. -/
abbrev Converting := StateT (List Nat) Option

def createParameterNode (position : Nat) : Converting Expr := do
  let numbered ← get
  set (numbered ++ [position])
  return .parameter numbered.length

def contains (text part : String) : Bool := (text.splitOn part).length != 1

def normalizeJoinType (joinType : String) : JoinType :=
  let upper := joinType.toUpper
  if contains upper "LEFT" then .left
  else if contains upper "RIGHT" then .right
  else if contains upper "CROSS" then .cross
  else .inner

def resolveAffinity (dataType : String) : String :=
  match dataType.toLower with
  | "varchar" | "text" | "char" | "character varying" => "TEXT"
  | "integer" | "int" | "smallint" | "bigint" | "serial" | "bigserial"
  | "boolean" => "INTEGER"
  | "real" | "double precision" | "float" | "numeric" | "decimal" => "REAL"
  | "bytea" => "BLOB"
  | _ => dataType.toUpper

def extractFormat : String → Option String
  | "year" => some "%Y"
  | "month" => some "%m"
  | "day" => some "%d"
  | "hour" => some "%H"
  | "minute" => some "%M"
  | "second" => some "%S"
  | "dow" => some "%w"
  | "doy" => some "%j"
  | "epoch" => some "%s"
  | _ => none

def dateTruncFormat : String → Option String
  | "year" => some "%Y-01-01 00:00:00"
  | "month" => some "%Y-%m-01 00:00:00"
  | "day" => some "%Y-%m-%d 00:00:00"
  | "hour" => some "%Y-%m-%d %H:00:00"
  | "minute" => some "%Y-%m-%d %H:%M:00"
  | "second" => some "%Y-%m-%d %H:%M:%S"
  | _ => none

def fieldText : ExternalExpr → String
  | .literal value => value.toText.toLower
  | .origin text => text.toLower
  | _ => ""

def fieldOf (args : List ExternalExpr) : String := (args.head?.map fieldText).getD ""

def requireIntegerLimitLiteral : ExternalExpr → Option Int
  | .literal (.number (.finite value)) => if value.den = 1 then some value.num else none
  | _ => none

def isLimitAllNode : ExternalExpr → Bool
  | .origin text => text.toUpper = "ALL"
  | _ => false

def convertLimit (values : List ExternalExpr) (offsetSeparator : Bool) : Option (Option Limit) :=
  match values with
  | [] => some none
  | first :: rest =>
    if isLimitAllNode first then if rest.isEmpty then some none else none
    else if offsetSeparator && rest.isEmpty then none
    else do
      let count ← requireIntegerLimitLiteral first
      match rest with
      | [] => return some ⟨count, none⟩
      | second :: _ => return some ⟨count, ← requireIntegerLimitLiteral second⟩

/-- The kinds of function calls by how their arguments are converted. -/
inductive FunctionKind where
  | existsQuery
  | concat
  | extract
  | dateTrunc
  | nullary (name : String)
  | passThrough (name : String)
deriving DecidableEq

def functionKind (name : String) : FunctionKind :=
  if name.toUpper = "EXISTS" then .existsQuery
  else
    match name.toLower with
    | "concat" => .concat
    | "substring" => .passThrough "substr"
    | "now" | "current_timestamp" => .nullary "datetime"
    | "current_date" => .nullary "date"
    | "current_time" => .nullary "time"
    | "extract" => .extract
    | "date_trunc" => .dateTrunc
    | "length" => .passThrough "length"
    | "lower" => .passThrough "lower"
    | "upper" => .passThrough "upper"
    | "trim" => .passThrough "trim"
    | "coalesce" => .passThrough "coalesce"
    | "nullif" => .passThrough "nullif"
    | "substr" => .passThrough "substr"
    | _ => .passThrough name

def concatenate : List Expr → Option Expr
  | [] => none
  | first :: rest => some (rest.foldl (.binary (.other "||")) first)

def strftime (format : String) (source : Expr) : Expr :=
  .functionCall "strftime" [.literal (.string format), source]

/-- IS takes a NULL literal on its right. -/
def isNullOperand : Expr → Bool
  | .literal .null => true
  | _ => false

def isStarColumn : ExternalExpr → Bool
  | .star => true
  | .columnRef _ column => column = "*"
  | _ => false

mutual
def convertExpression : ExternalExpr → Converting Expr
  | .literal value => return .literal value
  | .origin text => return .literal (.string text)
  | .placeholder position => createParameterNode position
  | .columnRef table column => return .columnRef table column
  | .star => return .star
  | .binary operator left right => do
    let left ← convertExpression left
    return .binary operator left (← convertExpression right)
  | .inList left values negated => do
    -- The list comes first, though it stands last in the text.
    let values ← convertExpressions values
    return .inList (← convertExpression left) values negated
  | .inQuery left ast negated => do
    let left ← convertExpression left
    return .inSubquery left (← convertSelect ast) negated
  | .between left low high => do
    let left ← convertExpression left
    let low ← convertExpression low
    return .between left low (← convertExpression high)
  | .like left right negated => do
    let left ← convertExpression left
    return .like left (← convertExpression right) negated
  | .is left right negated => do
    let right ← convertExpression right
    if isNullOperand right then return .nullTest (← convertExpression left) negated
    else failure
  | .unary operator operand => do
    return .unary operator (← convertExpression operand)
  | .aggregate name argument distinct => do
    return .aggregate name ((← convertOption argument).getD .star) distinct
  | .exprList value => do return .list (← convertExpressions value)
  | .subquery ast => do return .subquery (← convertSelect ast)
  | .case operand branches otherwise => do
    -- The operand comes last, though it stands first in the text.
    let conditions ← convertBranches branches
    let elseExpr ← convertOption otherwise
    return .case (← convertOption operand) conditions elseExpr
  | .cast expression dataType => do
    return .cast (← convertExpression expression) (resolveAffinity dataType)
  | .function name args =>
    match functionKind name with
    | .existsQuery => do return .existsQuery (← convertFirstQuery args)
    | .concat => do concatenate (← convertExpressions args)
    | .extract => do
      let format ← extractFormat (fieldOf args)
      return .cast (strftime format (← convertSecond args)) "INTEGER"
    | .dateTrunc => do
      let format ← dateTruncFormat (fieldOf args)
      return strftime format (← convertSecond args)
    | .nullary name => return .functionCall name [.literal (.string "now")]
    | .passThrough name => do
      return .functionCall name (← convertExpressions args)
  | .unknown _ => failure

def convertExpressions : List ExternalExpr → Converting (List Expr)
  | [] => return []
  | expression :: rest => do
    let expression ← convertExpression expression
    return expression :: (← convertExpressions rest)

def convertOption : Option ExternalExpr → Converting (Option Expr)
  | none => return none
  | some expression => do return some (← convertExpression expression)

def convertBranches : List ExternalBranch → Converting (List Branch)
  | [] => return []
  | ⟨cond, result⟩ :: rest => do
    let condition ← convertExpression cond
    let result ← convertExpression result
    return ⟨condition, result⟩ :: (← convertBranches rest)

def convertFirstQuery : List ExternalExpr → Converting Select
  | .subquery ast :: _ => convertSelect ast
  | _ => failure

def convertSecond : List ExternalExpr → Converting Expr
  | _ :: source :: _ => convertExpression source
  | _ => failure

def convertColumns : List ExternalColumn → Converting (List Column)
  | [] => return []
  | ⟨expr, asName⟩ :: rest =>
    if isStarColumn expr then do
      return ⟨.star, none⟩ :: (← convertColumns rest)
    else do
      let expression ← convertExpression expr
      return ⟨expression, asName⟩ :: (← convertColumns rest)

def convertTable (asName : Option String) : ExternalTable → Converting Source
  | .name table => return .table table asName
  | .subquery ast => do return .subquery (← convertSelect ast) asName

def convertFrom : List ExternalFrom → Converting (Option Source)
  | [] => return none
  | ⟨table, asName, _, _⟩ :: _ => do return some (← convertTable asName table)

/-- A table without a join is left out. -/
def convertJoins : List ExternalFrom → Converting (List Join)
  | [] => return []
  | ⟨_, _, none, _⟩ :: rest => convertJoins rest
  | ⟨table, asName, some join, on⟩ :: rest => do
    let table ← convertTable asName table
    let condition ← convertOption on
    return ⟨normalizeJoinType join, table, condition⟩ ::
      (← convertJoins rest)

def convertOrders : List ExternalOrder → Converting (List OrderItem)
  | [] => return []
  | ⟨expr, direction⟩ :: rest => do
    let expression ← convertExpression expr
    return ⟨expression, direction.getD .asc⟩ :: (← convertOrders rest)

def convertCtes : List ExternalCte → Converting (List Cte)
  | [] => return []
  | ⟨name, stmt, _⟩ :: rest => do
    let query ← convertSelect stmt
    return ⟨name, query⟩ :: (← convertCtes rest)

def convertSetOperation : Option ExternalNext → Converting (Option SetOperation)
  | none => return none
  | some ⟨setOp, ast⟩ => do return some ⟨setOp, ← convertSelect ast⟩

/-- The right arm of a set operation comes before the statement's own
clauses. -/
def convertSelect : ExternalSelect → Converting Select
  | ⟨ctes, distinct, columns, tables, condition, groupby, having, orderby,
      limit, offsetSeparator, next⟩ => do
      let converted ← convertCtes ctes
      let setOperation ← convertSetOperation next
      let columns ← convertColumns columns
      let source ← convertFrom tables
      let joins ← convertJoinsAfterFirst tables
      let condition ← convertOption condition
      let groupBy ← convertExpressions groupby
      let having ← convertOption having
      let orderBy ← convertOrders orderby
      let limit ← convertLimit limit offsetSeparator
      return { distinct, columns, source, joins, condition, groupBy, having,
               orderBy, limit, ctes := converted,
               recursive := ctes.any ExternalCte.recursive, setOperation }

def convertJoinsAfterFirst : List ExternalFrom → Converting (List Join)
  | [] => return []
  | _ :: rest => convertJoins rest
end

end LagrangeDb.Query
