import LagrangeDb.Query.Ast

namespace LagrangeDb.Query

/-! The deep walk the planners make over a tree, in the order in which the parser writes properties.
In the text a WITH clause comes first. -/

inductive WalkOrder where
  | properties
  | text
deriving DecidableEq

inductive Node where
  | expression (value : Expr)
  | select (value : Select)

variable {result : Type*} (order : WalkOrder)
  (visit : Node → Option (List result))

mutual
def walk : Expr → List result
  | .literal value => (visit (.expression (.literal value))).getD []
  | .columnRef table column => (visit (.expression (.columnRef table column))).getD []
  | .parameter index => (visit (.expression (.parameter index))).getD []
  | .star => (visit (.expression .star)).getD []
  | .binary operator left right =>
    (visit (.expression (.binary operator left right))).getD (walk left ++ walk right)
  | .nullTest operand negated =>
    (visit (.expression (.nullTest operand negated))).getD (walk operand)
  | .unary operator operand => (visit (.expression (.unary operator operand))).getD (walk operand)
  | .inList expression values negated =>
    (visit (.expression (.inList expression values negated))).getD
      (walk expression ++ walkAll values)
  | .inSubquery expression query negated =>
    (visit (.expression (.inSubquery expression query negated))).getD
      (walk expression ++ walkSelect query)
  | .between expression low high =>
    (visit (.expression (.between expression low high))).getD
      (walk expression ++ walk low ++ walk high)
  | .like expression pattern negated =>
    (visit (.expression (.like expression pattern negated))).getD (walk expression ++ walk pattern)
  | .aggregate function argument distinct =>
    (visit (.expression (.aggregate function argument distinct))).getD (walk argument)
  | .cast expression affinity =>
    (visit (.expression (.cast expression affinity))).getD (walk expression)
  | .case operand conditions elseExpr =>
    (visit (.expression (.case operand conditions elseExpr))).getD
      (walkOption operand ++ (walkBranches conditions ++ walkOption elseExpr))
  | .functionCall name args => (visit (.expression (.functionCall name args))).getD (walkAll args)
  | .subquery query => (visit (.expression (.subquery query))).getD (walkSelect query)
  | .existsQuery query => (visit (.expression (.existsQuery query))).getD (walkSelect query)
  | .list elements => (visit (.expression (.list elements))).getD (walkAll elements)

def walkAll : List Expr → List result
  | [] => []
  | expression :: rest => walk expression ++ walkAll rest

def walkOption : Option Expr → List result
  | none => []
  | some expression => walk expression

def walkBranches : List Branch → List result
  | [] => []
  | ⟨condition, value⟩ :: rest => walk condition ++ walk value ++ walkBranches rest

def walkColumns : List Column → List result
  | [] => []
  | ⟨expression, _⟩ :: rest => walk expression ++ walkColumns rest

def walkSource : Source → List result
  | .table _ _ => []
  | .subquery query _ => walkSelect query

def walkFrom : Option Source → List result
  | none => []
  | some source => walkSource source

def walkJoins : List Join → List result
  | [] => []
  | ⟨_, table, condition⟩ :: rest => walkSource table ++ walkOption condition ++ walkJoins rest

def walkOrders : List OrderItem → List result
  | [] => []
  | ⟨expression, _⟩ :: rest => walk expression ++ walkOrders rest

def walkCtes : List Cte → List result
  | [] => []
  | ⟨_, query⟩ :: rest => walkSelect query ++ walkCtes rest

def walkSetOperation : Option SetOperation → List result
  | none => []
  | some ⟨_, right⟩ => walkSelect right

def walkSelect : Select → List result
  | ⟨distinct, columns, source, joins, condition, groupBy, having, orderBy,
      limit, ctes, recursive, setOperation⟩ =>
      (visit (.select ⟨distinct, columns, source, joins, condition, groupBy,
        having, orderBy, limit, ctes, recursive, setOperation⟩)).getD
        (let clauses := walkColumns columns ++ walkFrom source ++
            walkJoins joins ++ walkOption condition ++ walkAll groupBy ++
            walkOption having ++ walkOrders orderBy
         match order with
         | .properties => clauses ++ walkCtes ctes ++ walkSetOperation setOperation
         | .text => walkCtes ctes ++ (clauses ++ walkSetOperation setOperation))
end

end LagrangeDb.Query
