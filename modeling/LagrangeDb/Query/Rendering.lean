import LagrangeDb.Query.Ast

namespace LagrangeDb.Query

/-! The SQL text the coordinator sends to a partition. A text is kept in pieces,
so that its placeholders can be told from question marks in literals. -/

inductive Piece where
  | text (value : String)
  | placeholder (index : Nat)
deriving DecidableEq

abbrev Sql := List Piece

namespace Sql

def text : Sql → String
  | [] => ""
  | .text value :: rest => value ++ text rest
  | .placeholder _ :: rest => "?" ++ text rest

/-- The parameters of the placeholders, in the order SQLite binds them. -/
def placeholders : Sql → List Nat
  | [] => []
  | .text _ :: rest => placeholders rest
  | .placeholder index :: rest => index :: placeholders rest

def join (separator : String) : List Sql → Sql
  | [] => []
  | [last] => last
  | first :: rest => first ++ .text separator :: join separator rest

end Sql

def isIdentifierStart (character : Char) : Bool := character.isAlpha || character = '_'

/-- A name that is not a plain identifier is quoted. -/
def renderSqliteIdentifier (identifier : String) : String :=
  match identifier.toList with
  | first :: rest =>
    if isIdentifierStart first &&
        rest.all fun character => isIdentifierStart character || character.isDigit then
      identifier
    else "\"" ++ identifier.replace "\"" "\"\"" ++ "\""
  | [] => "\"\""

def BinaryOperator.text : BinaryOperator → String
  | and => "AND"
  | or => "OR"
  | equals => "="
  | notEquals => "<>"
  | less => "<"
  | lessOrEqual => "<="
  | greater => ">"
  | greaterOrEqual => ">="
  | add => "+"
  | subtract => "-"
  | multiply => "*"
  | divide => "/"
  | modulo => "%"
  | other value => value

def UnaryOperator.text : UnaryOperator → String
  | .not => "NOT"
  | .plus => "+"
  | .minus => "-"
  | .other value => value

def AggregateFunction.name : AggregateFunction → String
  | .count => "COUNT"
  | .sum => "SUM"
  | .avg => "AVG"
  | .min => "MIN"
  | .max => "MAX"
  | .other name => name

def JoinType.text : JoinType → String
  | .inner => "INNER"
  | .left => "LEFT"
  | .right => "RIGHT"
  | .cross => "CROSS"

def Direction.text : Direction → String
  | .asc => "ASC"
  | .desc => "DESC"

def SetOperator.text : SetOperator → String
  | .union => "UNION"
  | .unionAll => "UNION ALL"
  | .intersect => "INTERSECT"
  | .except => "EXCEPT"

def buildLiteralExpressionSQL : Js.Value → String
  | .null => "NULL"
  | .string value => "'" ++ value.replace "'" "''" ++ "'"
  | value => value.toText

def asClause : Option String → Sql
  | some name => [.text (" AS " ++ name)]
  | none => []

def limitClause : Option Limit → Sql
  | none => []
  | some limit =>
    let count := " LIMIT " ++ toString limit.count
    match limit.offset with
    | none | some 0 => [.text count]
    | some offset => [.text (count ++ " OFFSET " ++ toString offset)]

mutual
/-- There is no text where the rendering throws: a list of values and an IN
over a subquery have none. -/
def buildExpressionSQL : Expr → Option Sql
  | .star => some [.text "*"]
  | .literal value => some [.text (buildLiteralExpressionSQL value)]
  | .columnRef none column => some [.text column]
  | .columnRef (some table) column => some [.text (table ++ "." ++ column)]
  | .binary operator left right => do
    let left ← buildExpressionSQL left
    let right ← buildExpressionSQL right
    return .text "(" :: left ++ .text (" " ++ operator.text ++ " ") ::
      right ++ [.text ")"]
  | .nullTest operand negated => do
    let operand ← buildExpressionSQL operand
    return .text "(" :: operand ++
      [.text (if negated then " IS NOT NULL)" else " IS NULL)")]
  | .unary operator operand => do
    return .text (operator.text ++ " ") :: (← buildExpressionSQL operand)
  | .aggregate function argument distinct => do
    let argument ← buildExpressionSQL argument
    return .text (function.name ++ "(" ++
      if distinct then "DISTINCT " else "") :: argument ++ [.text ")"]
  | .inList expression values negated => do
    let values ← buildExpressionsSQL values
    let expression ← buildExpressionSQL expression
    return expression ++ .text (if negated then " NOT IN (" else " IN (") ::
      Sql.join ", " values ++ [.text ")"]
  | .inSubquery _ _ _ => none
  | .between expression low high => do
    return (← buildExpressionSQL expression) ++ .text " BETWEEN " ::
      (← buildExpressionSQL low) ++ .text " AND " ::
      (← buildExpressionSQL high)
  | .like expression pattern negated => do
    return (← buildExpressionSQL expression) ++
      .text (if negated then " NOT LIKE " else " LIKE ") ::
      (← buildExpressionSQL pattern)
  | .parameter index => some [.placeholder index]
  | .cast expression affinity => do
    return .text "CAST(" :: (← buildExpressionSQL expression) ++
      [.text (" AS " ++ affinity ++ ")")]
  | .case operand conditions elseExpr => do
    return .text "CASE" :: (← buildClauseSQL " " operand) ++
      (← buildBranchesSQL conditions) ++
      (← buildClauseSQL " ELSE " elseExpr) ++ [.text " END"]
  | .subquery query => do
    return .text "(" :: (← buildSelectSQL query) ++ [.text ")"]
  | .existsQuery query => do
    return .text "EXISTS (" :: (← buildSelectSQL query) ++ [.text ")"]
  | .functionCall name args => do
    return .text (name ++ "(") :: Sql.join ", " (← buildExpressionsSQL args)
      ++ [.text ")"]
  | .list _ => none

def buildExpressionsSQL : List Expr → Option (List Sql)
  | [] => some []
  | expression :: rest => do
    return (← buildExpressionSQL expression) ::
      (← buildExpressionsSQL rest)

def buildClauseSQL (word : String) : Option Expr → Option Sql
  | none => some []
  | some expression => do
    return .text word :: (← buildExpressionSQL expression)

def buildBranchesSQL : List Branch → Option Sql
  | [] => some []
  | ⟨condition, result⟩ :: rest => do
    return .text " WHEN " :: (← buildExpressionSQL condition) ++
      .text " THEN " :: (← buildExpressionSQL result) ++
      (← buildBranchesSQL rest)

def buildColumnsSQL : List Column → Option (List Sql)
  | [] => some []
  | ⟨expression, asName⟩ :: rest => do
    return ((← buildExpressionSQL expression) ++ asClause asName) ::
      (← buildColumnsSQL rest)

def buildSourceSQL : Source → Option Sql
  | .table name asName => some (.text (renderSqliteIdentifier name) :: asClause asName)
  | .subquery query asName => do
    return .text "(" :: (← buildSelectSQL query) ++ .text ")" ::
      asClause asName

/-- A SELECT without FROM throws. -/
def buildFromSQL : Option Source → Option Sql
  | none => none
  | some source => do
    return .text " FROM " :: (← buildSourceSQL source)

/-- A join without a condition leaves its ON clause empty. -/
def buildJoinsSQL : List Join → Option Sql
  | [] => some []
  | ⟨joinType, table, condition⟩ :: rest => do
    return .text (" " ++ joinType.text ++ " JOIN ") ::
      (← buildSourceSQL table) ++ .text " ON " ::
      (← buildClauseSQL "" condition) ++ (← buildJoinsSQL rest)

def buildOrdersSQL : List OrderItem → Option (List Sql)
  | [] => some []
  | ⟨expression, direction⟩ :: rest => do
    return ((← buildExpressionSQL expression) ++
      [.text (" " ++ direction.text)]) :: (← buildOrdersSQL rest)

def buildCtesSQL : List Cte → Option (List Sql)
  | [] => some []
  | ⟨name, query⟩ :: rest => do
    return (.text (name ++ " AS (") :: (← buildSelectSQL query) ++
      [.text ")"]) :: (← buildCtesSQL rest)

def buildSetOperationSQL : Option SetOperation → Option Sql
  | none => some []
  | some ⟨type, right⟩ => do
    return .text (" " ++ type.text ++ " ") :: (← buildSelectSQL right)

def buildSelectSQL : Select → Option Sql
  | ⟨distinct, columns, source, joins, condition, groupBy, having, orderBy,
      limit, ctes, recursive, setOperation⟩ => do
      let columns ← buildColumnsSQL columns
      let source ← buildFromSQL source
      let joins ← buildJoinsSQL joins
      let condition ← buildClauseSQL " WHERE " condition
      let groups ← buildExpressionsSQL groupBy
      let having ← buildClauseSQL " HAVING " having
      let orders ← buildOrdersSQL orderBy
      let setOperation ← buildSetOperationSQL setOperation
      let definitions ← buildCtesSQL ctes
      let listClause := fun (word : String) (elements : List Sql) =>
        if elements.isEmpty then []
        else .text word :: Sql.join ", " elements
      let body : Sql :=
        .text ("SELECT " ++ if distinct then "DISTINCT " else "") ::
          Sql.join ", " columns ++ source ++ joins ++ condition ++
          listClause " GROUP BY " groups ++ having ++
          listClause " ORDER BY " orders ++ limitClause limit ++ setOperation
      if definitions.isEmpty then return body
      else
        return .text ("WITH " ++ if recursive then "RECURSIVE " else "") ::
          Sql.join ", " definitions ++ .text " " :: body
end

theorem rendered_some_iff {value other : Type} {step : Option value}
    {next : value → Option other} {result : other} : (step >>= next) = some result ↔
      ∃ found, step = some found ∧ next found = some result :=
  Option.bind_eq_some_iff

theorem returned_some_iff {value : Type} {found result : value} :
    (pure found : Option value) = some result ↔ found = result :=
  Option.some_inj

/-- What is true of a value, if there is one. -/
structure Yields {value : Type} (step : Option value) (holds : value → Prop) :
    Prop where
  of_some : ∀ {found}, step = some found → holds found

namespace Yields

variable {value other : Type} {step : Option value} {next : value → Option other}
  {holds : value → Prop} {holdsNext : other → Prop} {found : value}

theorem some (held : holds found) : Yields (some found) holds := ⟨by rintro _ ⟨⟩; exact held⟩

theorem none : Yields none holds := ⟨fun yielded => by cases yielded⟩

theorem bind (first : Yields step holds)
    (second : ∀ found, holds found → Yields (next found) holdsNext) :
    Yields (step >>= next) holdsNext := by
  constructor
  intro result yielded
  obtain ⟨found, first', second'⟩ := rendered_some_iff.mp yielded
  exact (second found (first.of_some first')).of_some second'

end Yields

/-- Where the first has a value, the second has one related to it. -/
structure Carries {value result : Type} (step : Option value)
    (other : Option result) (related : value → result → Prop) : Prop where
  of_some : ∀ {found}, step = some found →
    ∃ followed, other = some followed ∧ related found followed

namespace Carries

variable {value value' result result' : Type} {step : Option value}
  {next : value → Option value'} {other : Option result}
  {otherNext : result → Option result'} {related : value → result → Prop}
  {relatedNext : value' → result' → Prop} {found : value} {followed : result}

theorem some (holds : related found followed) : Carries (some found) (some followed) related :=
  ⟨by rintro _ ⟨⟩; exact ⟨followed, rfl, holds⟩⟩

theorem none : Carries none other related := ⟨fun yielded => by cases yielded⟩

theorem bind (first : Carries step other related)
    (second : ∀ found followed, related found followed →
      Carries (next found) (otherNext followed) relatedNext) :
    Carries (step >>= next) (other >>= otherNext) relatedNext := by
  constructor
  intro final yielded
  obtain ⟨found, first', second'⟩ := rendered_some_iff.mp yielded
  obtain ⟨followed, equal, holds⟩ := first.of_some first'
  rw [equal]
  exact (second found followed holds).of_some second'

end Carries

end LagrangeDb.Query
