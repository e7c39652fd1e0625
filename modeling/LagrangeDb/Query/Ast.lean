import LagrangeDb.Js.Value

namespace LagrangeDb.Query

/-! The syntax tree the parser hands on.  Operators and names the parser
passes through as they are stand under `other`.  A test for null is a binary node
whose right operand is always the null literal. -/

inductive BinaryOperator where
  | and
  | or
  | equals
  | notEquals
  | less
  | lessOrEqual
  | greater
  | greaterOrEqual
  | add
  | subtract
  | multiply
  | divide
  | modulo
  | other (text : String)
deriving DecidableEq

inductive UnaryOperator where
  | not
  | plus
  | minus
  | other (text : String)
deriving DecidableEq

inductive AggregateFunction where
  | count
  | sum
  | avg
  | min
  | max
  | other (name : String)
deriving DecidableEq

inductive JoinType where
  | inner
  | left
  | right
  | cross
deriving DecidableEq

inductive Direction where
  | asc
  | desc
deriving DecidableEq

inductive SetOperator where
  | union
  | unionAll
  | intersect
  | except
deriving DecidableEq

structure Limit where
  count : Int
  offset : Option Int
deriving DecidableEq

mutual
inductive Expr where
  | literal (value : Js.Value)
  | columnRef (table : Option String) (column : String)
  | parameter (index : Nat)
  | star
  | binary (operator : BinaryOperator) (left right : Expr)
  | nullTest (operand : Expr) (negated : Bool)
  | unary (operator : UnaryOperator) (operand : Expr)
  | inList (expression : Expr) (values : List Expr) (negated : Bool)
  | inSubquery (expression : Expr) (query : Select) (negated : Bool)
  | between (expression low high : Expr)
  | like (expression pattern : Expr) (negated : Bool)
  | aggregate (function : AggregateFunction) (argument : Expr)
      (distinct : Bool)
  | cast (expression : Expr) (affinity : String)
  | case (operand : Option Expr) (conditions : List Branch)
      (elseExpr : Option Expr)
  | functionCall (name : String) (args : List Expr)
  | subquery (query : Select)
  | existsQuery (query : Select)
  | list (elements : List Expr)

structure Branch where
  (condition result : Expr)

structure Column where
  expression : Expr
  asName : Option String

inductive Source where
  | table (name : String) (asName : Option String)
  | subquery (query : Select) (asName : Option String)

structure Join where
  joinType : JoinType
  table : Source
  condition : Option Expr

structure OrderItem where
  expression : Expr
  direction : Direction

structure Cte where
  name : String
  query : Select

structure SetOperation where
  type : SetOperator
  right : Select

/-- `source` and `condition` are the FROM and WHERE clauses. A missing GROUP
BY or ORDER BY is the empty list. -/
structure Select where
  distinct : Bool
  columns : List Column
  source : Option Source
  joins : List Join
  condition : Option Expr
  groupBy : List Expr
  having : Option Expr
  orderBy : List OrderItem
  limit : Option Limit
  ctes : List Cte
  recursive : Bool
  setOperation : Option SetOperation
end

end LagrangeDb.Query
