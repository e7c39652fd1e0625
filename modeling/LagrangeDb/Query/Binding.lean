import LagrangeDb.Query.AggregateSpecs
import LagrangeDb.Query.Parameters

namespace LagrangeDb.Query

/-- The nested statements that have a WITH clause of their own. -/
def visitWith : Node → Option (List Unit)
  | .select select => if select.ctes.isEmpty then none else some [()]
  | .expression _ => none

structure Walk (result : Type) where
  order : WalkOrder
  visit : Node → Option (List result)

def Walk.select {result : Type} (walk : Walk result) (select : Select)
    (clauses operation : List result) : List result :=
  let ctes := walkCtes walk.order walk.visit select.ctes
  (walk.visit (.select select)).getD <|
    match walk.order with
    | .properties => clauses ++ ctes ++ operation
    | .text => ctes ++ (clauses ++ operation)

structure Comparison (α β γ : Type) where
  first : Walk α
  second : Walk β
  third : Walk γ
  related : List α → List β → List γ → Prop

namespace Comparison

variable {α β γ : Type} (compared : Comparison α β γ)

/-- The results of the walks over a part of the tree are related. -/
def At (part : (result : Type) → WalkOrder → (Node → Option (List result)) → List result) : Prop :=
  compared.related (part α compared.first.order compared.first.visit)
    (part β compared.second.order compared.second.visit)
    (part γ compared.third.order compared.third.visit)

/-- They are related at a node where they are at its parts. -/
structure Inductive : Prop where
  nil : compared.related [] [] []
  append : ∀ {a a' b b' c c'}, compared.related a b c →
    compared.related a' b' c' → compared.related (a ++ a') (b ++ b') (c ++ c')
  parameter : ∀ index, compared.At fun _ order visit => walk order visit (.parameter index)
  aggregate : ∀ function argument distinct,
    (compared.At fun _ order visit => walk order visit argument) →
    compared.At fun _ order visit => walk order visit (.aggregate function argument distinct)
  inner : ∀ expression a b c, (∀ index, expression ≠ .parameter index) →
    (∀ function argument distinct, expression ≠ .aggregate function argument distinct) →
    compared.related a b c →
    compared.related ((compared.first.visit (.expression expression)).getD a)
      ((compared.second.visit (.expression expression)).getD b)
      ((compared.third.visit (.expression expression)).getD c)
  select : ∀ (select : Select) {a a' b b' c c'}, compared.related a b c →
    (compared.At fun _ order visit => walkCtes order visit select.ctes) →
    compared.related a' b' c' → compared.related
      (compared.first.select select a a') (compared.second.select select b b')
      (compared.third.select select c c')

namespace Inductive

variable {compared} (rule : compared.Inductive)

include rule

mutual
theorem walk : (expression : Expr) →
    compared.At fun _ order visit => Query.walk order visit expression
  | .literal _ | .columnRef _ _ | .star => rule.inner _ _ _ _ nofun nofun rule.nil
  | .parameter index => rule.parameter index
  | .aggregate function argument distinct =>
    rule.aggregate function argument distinct (walk argument)
  | .nullTest operand _ | .unary _ operand | .cast operand _ =>
    rule.inner _ _ _ _ nofun nofun (walk operand)
  | .binary _ left right | .like left right _ =>
    rule.inner _ _ _ _ nofun nofun (rule.append (walk left) (walk right))
  | .inList expression values _ =>
    rule.inner _ _ _ _ nofun nofun (rule.append (walk expression) (walkAll values))
  | .inSubquery expression query _ =>
    rule.inner _ _ _ _ nofun nofun (rule.append (walk expression) (walkSelect query))
  | .between expression low high =>
    rule.inner _ _ _ _ nofun nofun
      (rule.append (rule.append (walk expression) (walk low)) (walk high))
  | .case operand conditions elseExpr =>
    rule.inner _ _ _ _ nofun nofun (rule.append (walkOption operand)
      (rule.append (walkBranches conditions) (walkOption elseExpr)))
  | .functionCall _ args | .list args => rule.inner _ _ _ _ nofun nofun (walkAll args)
  | .subquery query | .existsQuery query => rule.inner _ _ _ _ nofun nofun (walkSelect query)

theorem walkAll : (expressions : List Expr) →
    compared.At fun _ order visit => Query.walkAll order visit expressions
  | [] => rule.nil
  | expression :: rest => rule.append (walk expression) (walkAll rest)

theorem walkOption : (expression : Option Expr) →
    compared.At fun _ order visit => Query.walkOption order visit expression
  | none => rule.nil
  | some expression => walk expression

theorem walkBranches : (branches : List Branch) →
    compared.At fun _ order visit => Query.walkBranches order visit branches
  | [] => rule.nil
  | ⟨condition, value⟩ :: rest =>
    rule.append (rule.append (walk condition) (walk value)) (walkBranches rest)

theorem walkColumns : (columns : List Column) →
    compared.At fun _ order visit => Query.walkColumns order visit columns
  | [] => rule.nil
  | ⟨expression, _⟩ :: rest => rule.append (walk expression) (walkColumns rest)

theorem walkSource : (source : Source) →
    compared.At fun _ order visit => Query.walkSource order visit source
  | .table _ _ => rule.nil
  | .subquery query _ => walkSelect query

theorem walkFrom : (source : Option Source) →
    compared.At fun _ order visit => Query.walkFrom order visit source
  | none => rule.nil
  | some source => walkSource source

theorem walkJoins : (joins : List Join) →
    compared.At fun _ order visit => Query.walkJoins order visit joins
  | [] => rule.nil
  | ⟨_, table, condition⟩ :: rest =>
    rule.append (rule.append (walkSource table) (walkOption condition)) (walkJoins rest)

theorem walkOrders : (orders : List OrderItem) →
    compared.At fun _ order visit => Query.walkOrders order visit orders
  | [] => rule.nil
  | ⟨expression, _⟩ :: rest => rule.append (walk expression) (walkOrders rest)

theorem walkCtes : (ctes : List Cte) →
    compared.At fun _ order visit => Query.walkCtes order visit ctes
  | [] => rule.nil
  | ⟨_, query⟩ :: rest => rule.append (walkSelect query) (walkCtes rest)

theorem walkSetOperation : (operation : Option SetOperation) →
    compared.At fun _ order visit => Query.walkSetOperation order visit operation
  | none => rule.nil
  | some ⟨_, right⟩ => walkSelect right

theorem walkSelect : (select : Select) →
    compared.At fun _ order visit => Query.walkSelect order visit select
  | ⟨distinct, columns, source, joins, condition, groupBy, having, orderBy, limit,
      ctes, recursive, setOperation⟩ =>
      rule.select ⟨distinct, columns, source, joins, condition, groupBy, having,
        orderBy, limit, ctes, recursive, setOperation⟩ (rule.append (rule.append (rule.append (rule.append
        (rule.append (rule.append (walkColumns columns) (walkFrom source))
        (walkJoins joins)) (walkOption condition)) (walkAll groupBy))
        (walkOption having)) (walkOrders orderBy)) (walkCtes ctes)
        (walkSetOperation setOperation)
end

end Inductive

end Comparison

/-- A walk that gathers the leaves, or only says that it met something. -/
structure Gathers {result : Type} (visit : Node → Option (List result)) :
    Prop where
  answers : ∀ node answer, visit node = some answer →
    (∃ index, node = .expression (.parameter index)) ∨ ∀ found, found ∈ answer
  ofStar : visit (.expression .star) = none
  ofColumn : ∀ table column, visit (.expression (.columnRef table column)) = none
  ofAggregate : ∀ function argument distinct,
    visit (.expression (.aggregate function argument distinct)) = none

theorem gathers_visitParameter : Gathers visitParameter := by
  refine ⟨?_, rfl, fun _ _ => rfl, fun _ _ _ => rfl⟩
  intro node answer answered
  left
  unfold visitParameter at answered
  split at answered
  · exact ⟨_, rfl⟩
  · cases answered

theorem gathers_visitWith : Gathers visitWith := by
  refine ⟨?_, rfl, fun _ _ => rfl, fun _ _ _ => rfl⟩
  intro node answer answered
  right
  intro found
  unfold visitWith at answered
  split at answered
  · split at answered
    · cases answered
    · cases answered
      exact List.mem_singleton.mpr rfl
  · cases answered

theorem Gathers.mem_getD {result : Type} {visit : Node → Option (List result)}
    (gathers : Gathers visit) {node : Node} {below : List result}
    {found : result} (inner : ∀ index, node ≠ .expression (.parameter index))
    (member : found ∈ below) : found ∈ (visit node).getD below := by
  cases answered : visit node with
  | none => exact member
  | some answer =>
    obtain ⟨index, same⟩ | every := gathers.answers node answer answered
    · exact absurd same (inner index)
    · exact every found

section

variable {result : Type} (order : WalkOrder)
  (visit : Node → Option (List result))

/-- Without a nested WITH clause the order of the text is that of the
properties. -/
def inOrder : Comparison Unit result result where
  first := ⟨.text, visitWith⟩
  second := ⟨.properties, visit⟩
  third := ⟨.text, visit⟩
  related plain found found' := plain = [] → found = found'

theorem inOrder_inductive : (inOrder visit).Inductive where
  nil _ := rfl
  append first second plain := by
    obtain ⟨plain, plain'⟩ := List.append_eq_nil_iff.mp plain
    rw [first plain, second plain']
  parameter _ _ := rfl
  aggregate _ _ _ below plain := congrArg _ (below plain)
  inner _ _ _ _ _ _ below plain := congrArg _ (below plain)
  select select _ _ _ _ _ _ clauses _ operation plain := by
    obtain ⟨_, _, _, _, _, _, _, _, _, ctes, _, _⟩ := select
    cases ctes with
    | cons _ _ => cases plain
    | nil =>
      obtain ⟨plain, plain'⟩ := List.append_eq_nil_iff.mp (List.append_eq_nil_iff.mp plain).2
      simp only [Walk.select, walkCtes, inOrder, clauses plain, operation plain',
        List.append_nil, List.nil_append]

def belowArguments : Comparison Aggregate result result where
  first := ⟨.properties, visitAggregate⟩
  second := ⟨order, visit⟩
  third := ⟨order, visit⟩
  related aggregates found _ :=
    ∀ aggregate ∈ aggregates, walk order visit aggregate.argument ⊆ found

theorem belowArguments_inductive {visit : Node → Option (List result)}
    (gathers : Gathers visit) : (belowArguments order visit).Inductive where
  nil := nofun
  append first second aggregate member := by
    rcases List.mem_append.mp member with member | member
    · exact List.subset_append_of_subset_left _ (first aggregate member)
    · exact List.subset_append_of_subset_right _ (second aggregate member)
  parameter _ := nofun
  aggregate function argument distinct _ aggregate member := by
    obtain rfl := List.mem_singleton.mp member
    exact fun found => gathers.mem_getD nofun
  inner expression a b c leaf other below aggregate member found inside := by
    have silent : visitAggregate (.expression expression) = none := by
      cases expression with
      | aggregate _ _ _ => exact absurd rfl (other _ _ _)
      | _ => rfl
    refine gathers.mem_getD (fun index same =>
      leaf index (Node.expression.inj same)) (below aggregate ?_ inside)
    simpa only [belowArguments, silent, Option.getD_none] using member
  select select _ _ _ _ _ _ clauses ctes operation aggregate member found inside := by
    refine gathers.mem_getD nofun ?_
    have below := List.mem_append.mp member
    rw [List.mem_append] at below
    have clauses := (clauses aggregate · inside)
    have ctes := (ctes aggregate · inside)
    have operation := (operation aggregate · inside)
    cases order <;> grind
end

section

variable {result : Type} (order : WalkOrder)
  (visit : Node → Option (List result))

def walkClauses (ast : Select) : List result :=
  walkColumns order visit ast.columns ++ walkOption order visit ast.condition ++
    walkAll order visit ast.groupBy ++ walkOption order visit ast.having ++
    walkOrders order visit ast.orderBy

theorem walkAll_eq_flatMap (expressions : List Expr) : walkAll order visit expressions =
      expressions.flatMap (walk order visit) := by
  induction expressions with
  | nil => rfl
  | cons expression rest induction => rw [walkAll, induction, List.flatMap_cons]

theorem walkColumns_eq_flatMap (columns : List Column) : walkColumns order visit columns =
      columns.flatMap fun column => walk order visit column.expression := by
  induction columns with
  | nil => rfl
  | cons column rest induction =>
    cases column
    rw [List.flatMap_cons, ← induction]
    rfl

variable {ast : Select} {found : result}

theorem mem_walkClauses_column (member : column ∈ ast.columns)
    (inside : found ∈ walk order visit column.expression) :
    found ∈ walkClauses order visit ast := by
  have ofColumns : found ∈ walkColumns order visit ast.columns := by
    rw [walkColumns_eq_flatMap]
    exact List.mem_flatMap.mpr ⟨column, member, inside⟩
  simp [walkClauses, ofColumns]

theorem mem_walkClauses_group (member : expression ∈ ast.groupBy)
    (inside : found ∈ walk order visit expression) : found ∈ walkClauses order visit ast := by
  have ofGroups : found ∈ walkAll order visit ast.groupBy := by
    rw [walkAll_eq_flatMap]
    exact List.mem_flatMap.mpr ⟨expression, member, inside⟩
  simp [walkClauses, ofGroups]

end

section

variable {result : Type} {visit : Node → Option (List result)}
  (order : WalkOrder) {ast : Select} {spec : AggregateSpec}

theorem mem_walkClauses_aggregate (gathers : Gathers visit)
    (member : spec ∈ collectAggregateSpecs ast) {found : result}
    (inside : found ∈ walk order visit spec.aggregate.argument) :
    found ∈ walkClauses order visit ast := by
  have below := mem_collectAggregateSpecs.mp
    (List.mem_map_of_mem (f := AggregateSpec.aggregate) member)
  have rule := belowArguments_inductive order gathers
  rcases List.mem_append.mp below with ofColumns | ofHaving
  · obtain ⟨column, atColumn, below⟩ := List.mem_flatMap.mp ofColumns
    exact mem_walkClauses_column order visit atColumn (rule.walk column.expression _ below inside)
  cases atHaving : ast.having with
  | none => simp [atHaving] at ofHaving
  | some having =>
    rw [atHaving] at ofHaving
    have ofHaving : found ∈ walk order visit having := rule.walk having _ ofHaving inside
    simp [walkClauses, atHaving, walkOption, ofHaving]

variable (visit) in
def HeldBy (ast : Select) (expression : Expr) : Prop :=
  walk order visit expression ⊆ walkClauses order visit ast

variable {order} {projection : Projection}

theorem ensureBareColumn_held
    (held : ∀ column ∈ projection.columns, HeldBy visit order ast column.expression)
    (new : HeldBy visit order ast expression) : ∀ column ∈
      (projection.ensureBareColumn index projected expression outputKey).columns,
      HeldBy visit order ast column.expression := by
  unfold Projection.ensureBareColumn
  split
  · exact held
  intro column member
  rcases List.mem_append.mp member with old | last
  · exact held column old
  · rw [List.mem_singleton.mp last]
    exact new

section

variable (gathers : Gathers visit)

include gathers

theorem ensureOutsideColumns_held {expressions : List Expr}
    (held : ∀ column ∈ projection.columns, HeldBy visit order ast column.expression) :
    ∀ column ∈ (expressions.foldl (Projection.ensureOutsideColumn index)
        projection).columns, HeldBy visit order ast column.expression := by
  induction expressions generalizing projection with
  | nil => exact held
  | cons expression rest induction =>
    apply induction
    unfold Projection.ensureOutsideColumn
    split
    · apply ensureBareColumn_held held
      intro found inside
      simp [walk, gathers.ofColumn] at inside
    · exact held

variable {specs : List AggregateSpec} {parameterValue : Nat → Js.Value}

theorem projectColumn_held {column : Column} (own : HeldBy visit order ast column.expression)
    (held : ∀ column ∈ projection.columns, HeldBy visit order ast column.expression)
    (projected : projectColumn specs parameterValue projection (column, index) = some next) :
    ∀ column ∈ next.columns, HeldBy visit order ast column.expression := by
  unfold projectColumn at projected
  dsimp only at projected
  split at projected
  · cases projected
    exact held
  · cases projected
    intro other member
    rcases List.mem_append.mp member with old | last
    · exact held other old
    rw [List.mem_singleton.mp last]
    intro found inside
    simp [walk, gathers.ofStar] at inside
  · simp only [rendered_some_iff] at projected
    obtain ⟨outputKey, -, projected⟩ := projected
    split at projected
    · cases projected
      exact held
    split at projected
    · simp only [rendered_some_iff] at projected
      obtain ⟨combined, -, projected⟩ := projected
      cases projected
      exact ensureOutsideColumns_held gathers held
    · cases projected
      exact ensureBareColumn_held held own

theorem projectColumns_held {entries : List (Column × Nat)} {last : Projection}
    (own : ∀ entry ∈ entries, HeldBy visit order ast entry.1.expression)
    (held : ∀ column ∈ projection.columns, HeldBy visit order ast column.expression)
    (projected : entries.foldlM (projectColumn specs parameterValue) projection = some last) :
    ∀ column ∈ last.columns, HeldBy visit order ast column.expression := by
  induction entries generalizing projection with
  | nil =>
    cases projected
    exact held
  | cons entry rest induction =>
    simp only [List.foldlM_cons, rendered_some_iff] at projected
    obtain ⟨next, atNext, projected⟩ := projected
    obtain ⟨atEntry, atRest⟩ := List.forall_mem_cons.mp own
    exact induction atRest (projectColumn_held gathers atEntry held atNext)
      projected

def PartialColumns.Held (visit : Node → Option (List result))
    (order : WalkOrder) (ast : Select) (partialColumns : PartialColumns) : Prop :=
  (∀ column ∈ partialColumns.columns, HeldBy visit order ast column.expression) ∧
    ∀ expression ∈ partialColumns.groupBy, HeldBy visit order ast expression

variable {partialColumns : PartialColumns}

theorem addPartialColumns_held (argument : HeldBy visit order ast spec.aggregate.argument)
    (held : partialColumns.Held visit order ast) :
    (addPartialColumns partialColumns spec).Held visit order ast := by
  have aggregate : ∀ function distinct, HeldBy visit order ast
      (.aggregate function spec.aggregate.argument distinct) := by
    intro function distinct
    rw [HeldBy, walk, gathers.ofAggregate]
    exact argument
  unfold addPartialColumns
  dsimp only
  split
  · exact held
  · split
    · exact held
    refine ⟨?_, ?_⟩
    · intro column member
      rcases List.mem_append.mp member with old | last
      · exact held.1 column old
      · rw [List.mem_singleton.mp last]
        exact argument
    · intro expression member
      rcases List.mem_append.mp member with old | last
      · exact held.2 expression old
      · rw [List.mem_singleton.mp last]
        exact argument
  · refine ⟨?_, held.2⟩
    intro column member
    rcases List.mem_append.mp member with old | last
    · exact held.1 column old
    simp only [List.mem_cons, List.not_mem_nil, or_false] at last
    rcases last with rfl | rfl
    · exact aggregate _ _
    · exact aggregate _ _
  · refine ⟨?_, held.2⟩
    intro column member
    rcases List.mem_append.mp member with old | last
    · exact held.1 column old
    · rw [List.mem_singleton.mp last]
      exact aggregate _ _

theorem addAllPartialColumns_held (arguments : ∀ spec ∈ specs,
      HeldBy visit order ast spec.aggregate.argument) (held : partialColumns.Held visit order ast) :
    (specs.foldl addPartialColumns partialColumns).Held visit order ast := by
  induction specs generalizing partialColumns with
  | nil => exact held
  | cons spec rest induction =>
    obtain ⟨atSpec, atRest⟩ := List.forall_mem_cons.mp arguments
    exact induction atRest (addPartialColumns_held gathers atSpec held)

theorem buildPartialAggregateParts_subset {parts : PartialParts}
    (built : buildPartialAggregateParts ast (collectAggregateSpecs ast)
      parameterValue = some parts) :
    walkClauses order visit parts.partitionAst ⊆ walkClauses order visit ast := by
  simp only [buildPartialAggregateParts, rendered_some_iff, returned_some_iff] at built
  obtain ⟨projection, projected, rfl⟩ := built
  have group : ∀ expression ∈ ast.groupBy, HeldBy visit order ast expression :=
    fun expression member found => mem_walkClauses_group order visit member
  have columns : ∀ column ∈ projection.columns,
      HeldBy visit order ast column.expression := by
    apply projectColumns_held gathers _ _ projected
    · intro entry member found
      exact mem_walkClauses_column order visit (List.fst_mem_of_mem_zipIdx member)
    intro column member
    obtain ⟨entry, atEntry, rfl⟩ := List.mem_map.mp member
    exact group entry.1 (List.fst_mem_of_mem_zipIdx atEntry)
  have held : ((collectAggregateSpecs ast).foldl addPartialColumns
      ⟨projection.columns, ast.groupBy, [], []⟩).Held visit order ast :=
    addAllPartialColumns_held gathers
      (fun spec member found => mem_walkClauses_aggregate order gathers member)
      ⟨columns, group⟩
  intro found inside
  simp only [walkClauses, walkOption, walkOrders, List.append_nil,
    List.mem_append, walkColumns_eq_flatMap, walkAll_eq_flatMap,
    List.mem_flatMap] at inside
  obtain (⟨column, member, inside⟩ | inside) | ⟨expression, member, inside⟩ := inside
  · exact held.1 column member inside
  · simp [walkClauses, inside]
  · exact held.2 expression member inside

end

end

section

variable {result : Type} {visit : Node → Option (List result)} {ast : Select}

theorem walkClauses_order (plain : walkClauses .text visitWith ast = []) :
    walkClauses .properties visit ast = walkClauses .text visit ast := by
  have rule := inOrder_inductive visit
  exact rule.append (rule.append (rule.append (rule.append
    (rule.walkColumns ast.columns) (rule.walkOption ast.condition))
    (rule.walkAll ast.groupBy)) (rule.walkOption ast.having))
    (rule.walkOrders ast.orderBy) plain

theorem tagParameterOrdinals_eq (ast : Select) :
    tagParameterOrdinals ast = walkClauses .properties visitParameter ast := rfl

theorem walkSelect_rewritten (applies : fanoutRewriteApplies ast = true)
    (silent : visit (.select ast) = none) :
    walkSelect .text visit ast = walkClauses .text visit ast := by
  obtain ⟨distinct, columns, source, joins, condition, groupBy, having, orderBy,
    limit, ctes, recursive, setOperation⟩ := ast
  simp only [fanoutRewriteApplies, Bool.and_eq_true, Option.isNone_iff_eq_none,
    List.isEmpty_iff] at applies
  obtain ⟨⟨⟨rfl, rfl⟩, table⟩, rfl⟩ := applies
  have noSource : walkFrom .text visit source = [] := by
    cases source with
    | none => rfl
    | some source =>
      cases source with
      | table _ _ => rfl
      | subquery _ _ => cases table
  simp only [walkSelect, silent, Option.getD_none, noSource, walkJoins, walkCtes,
    walkSetOperation, walkClauses, List.append_nil, List.nil_append]

theorem visitWith_rewritten (applies : fanoutRewriteApplies ast = true) :
    visitWith (.select ast) = none := by
  simp only [fanoutRewriteApplies, Bool.and_eq_true] at applies
  simp [visitWith, applies.1.1.2]

end

variable {ast : Select}

theorem fanoutRewriteApplies_of_state (rewritten : fanoutBuildState ast ≠ .originalRawRows) :
    fanoutRewriteApplies ast = true := by
  by_contra applies
  apply rewritten
  simp [fanoutBuildState, applies]

variable {params : List Js.Value} {n : Nat} {sql : Sql}

theorem partitionParams_rewritten
    (applies : fanoutRewriteApplies ast = true) (plain : walkSelect .text visitWith ast = [])
    (numbered : walkSelect .text visitParameter ast = List.range n)
    (applies' : fanoutRewriteApplies partitionAst = true)
    (parameters : walkClauses .text visitParameter partitionAst ⊆
      walkClauses .text visitParameter ast) (withs : walkClauses .text visitWith partitionAst ⊆
      walkClauses .text visitWith ast) (rendered : buildSelectSQL partitionAst = some sql) :
    sql.placeholders ⊆ List.range n ∧
    (collectPartitionParamOrdinals (tagParameterOrdinals ast) partitionAst).map
        (fun ordinal => params.getD ordinal .undefined) =
      sql.placeholders.map fun index => params.getD index .undefined := by
  rw [walkSelect_rewritten applies (visitWith_rewritten applies)] at plain
  rw [walkSelect_rewritten applies rfl] at numbered
  have plain' : walkClauses .text visitWith partitionAst = [] := List.subset_nil.mp (plain ▸ withs)
  have tagged : tagParameterOrdinals ast = List.range n := (walkClauses_order plain).trans numbered
  have collected : tagParameterOrdinals partitionAst = sql.placeholders := by
    rw [(buildSelectSQL_placeholders partitionAst).of_some rendered,
      walkSelect_rewritten applies' rfl]
    exact walkClauses_order plain'
  have inRange : sql.placeholders ⊆ List.range n := by
    rw [← numbered, ← collected]
    rw [tagParameterOrdinals_eq, walkClauses_order plain']
    exact parameters
  refine ⟨inRange, ?_⟩
  rw [collectPartitionParamOrdinals, collected, tagged, List.map_map]
  apply List.map_congr_left
  intro index member
  rw [Function.comp_apply]
  congr 1
  have found := List.getElem_idxOf (List.idxOf_lt_length_of_mem (inRange member))
  rwa [List.getElem_range] at found

mutual
/-- The coordinator's clause with every placeholder replaced by its value. -/
def Expr.bound (valueOf : Nat → Js.Value) : Expr → Expr
  | .parameter index => .literal (valueOf index)
  | .binary operator left right => .binary operator (left.bound valueOf) (right.bound valueOf)
  | .nullTest operand negated => .nullTest (operand.bound valueOf) negated
  | .unary operator operand => .unary operator (operand.bound valueOf)
  | .inList expression values negated =>
    .inList (expression.bound valueOf) (boundAll valueOf values) negated
  | .between expression low high =>
    .between (expression.bound valueOf) (low.bound valueOf) (high.bound valueOf)
  | .like expression pattern negated =>
    .like (expression.bound valueOf) (pattern.bound valueOf) negated
  | .aggregate function argument distinct =>
    .aggregate function (argument.bound valueOf) distinct
  | expression => expression

def boundAll (valueOf : Nat → Js.Value) : List Expr → List Expr
  | [] => []
  | element :: rest => element.bound valueOf :: boundAll valueOf rest
end

mutual
/-- No placeholder is the clause itself or a member of a list. -/
def Expr.keyed (isKeyed : Bool) : Expr → Bool
  | .parameter _ => isKeyed
  | .binary _ left right => left.keyed true && right.keyed true
  | .nullTest operand _ | .unary _ operand | .aggregate _ operand _ => operand.keyed true
  | .inList expression values _ => expression.keyed true && keyedAll values
  | .between expression low high => expression.keyed true && low.keyed true && high.keyed true
  | .like expression pattern _ => expression.keyed true && pattern.keyed true
  | _ => true

def keyedAll : List Expr → Bool
  | [] => true
  | element :: rest => element.keyed false && keyedAll rest
end

mutual
theorem substituteParameterLiterals_bound (valueOf : Nat → Js.Value) (isKeyed : Bool) :
    ∀ expression : Expr, expression.keyed isKeyed = true →
      substituteParameterLiterals valueOf isKeyed expression = expression.bound valueOf
  | .parameter _, keyed => by simp_all [Expr.keyed, substituteParameterLiterals, Expr.bound]
  | .binary _ left right, keyed => by
    obtain ⟨first, second⟩ := Bool.and_eq_true_iff.mp keyed
    rw [substituteParameterLiterals, Expr.bound, substituteParameterLiterals_bound _ _ left first,
      substituteParameterLiterals_bound _ _ right second]
  | .nullTest operand _, keyed | .unary _ operand, keyed | .aggregate _ operand _, keyed => by
    rw [substituteParameterLiterals, Expr.bound, substituteParameterLiterals_bound _ _ operand keyed]
  | .inList expression values _, keyed => by
    obtain ⟨first, second⟩ := Bool.and_eq_true_iff.mp keyed
    rw [substituteParameterLiterals, Expr.bound,
      substituteParameterLiterals_bound _ _ expression first, substituteElements_bound _ values second]
  | .between expression low high, keyed => by
    obtain ⟨both, third⟩ := Bool.and_eq_true_iff.mp keyed
    obtain ⟨first, second⟩ := Bool.and_eq_true_iff.mp both
    rw [substituteParameterLiterals, Expr.bound,
      substituteParameterLiterals_bound _ _ expression first,
      substituteParameterLiterals_bound _ _ low second,
      substituteParameterLiterals_bound _ _ high third]
  | .like expression pattern _, keyed => by
    obtain ⟨first, second⟩ := Bool.and_eq_true_iff.mp keyed
    rw [substituteParameterLiterals, Expr.bound,
      substituteParameterLiterals_bound _ _ expression first,
      substituteParameterLiterals_bound _ _ pattern second]
  | .literal _, _ | .columnRef _ _, _ | .star, _ | .inSubquery _ _ _, _ | .cast _ _, _
  | .case _ _ _, _ | .functionCall _ _, _ | .subquery _, _ | .existsQuery _, _ | .list _, _ => by
    simp only [substituteParameterLiterals, Expr.bound]

theorem substituteElements_bound (valueOf : Nat → Js.Value) :
    ∀ elements : List Expr, keyedAll elements = true →
      substituteElements valueOf elements = boundAll valueOf elements
  | [], _ => by simp only [substituteElements, boundAll]
  | element :: rest, keyed => by
    obtain ⟨first, second⟩ := Bool.and_eq_true_iff.mp keyed
    rw [substituteElements, boundAll, substituteParameterLiterals_bound _ _ element first,
      substituteElements_bound _ rest second]
end

/-- The value the client gave for the source position of the placeholder with this index. -/
def clientValue (numbered : List Nat) (params : List Js.Value) (index : Nat) : Js.Value :=
  (numbered[index]?.bind (params[·]?)).getD .undefined

/-- The parser numbers the placeholders as the text has them; a partition's statement gets for
each of its placeholders the value of that position, and so does the HAVING clause that the
coordinator evaluates. -/
structure BindsParameters (statement : ExternalSelect) : Prop where
  indices : ∀ ast numbered, convertSelect statement [] = some (ast, numbered) →
    numbered = writtenSelect statement
  values : ∀ ast numbered params plan sql, convertSelect statement [] = some (ast, numbered) →
    params.length = (writtenSelect statement).length →
    buildSelectFanoutPlan ast params = some plan →
    buildSelectSQL plan.partitionAst = some sql →
      plan.partitionParams = sql.placeholders.map (clientValue numbered params)
  having : ∀ ast numbered params plan spec, convertSelect statement [] = some (ast, numbered) →
    params.length = (writtenSelect statement).length →
    buildSelectFanoutPlan ast params = some plan → plan.combineSpec = some spec →
      spec.having = ast.having.map (Expr.bound (clientValue numbered params))

theorem map_getD_range (params : List Js.Value) :
    (List.range params.length).map (fun index => params.getD index .undefined) =
      params := by
  apply List.ext_getElem
  · simp
  · intro index inRange inParams
    simp [List.getD_eq_getElem?_getD, List.getElem?_eq_getElem inParams]

theorem buildSelectFanoutPlan_binds (numbered : walkSelect .text visitParameter ast = List.range n)
    (plain : fanoutBuildState ast = .originalRawRows ∨ walkSelect .text visitWith ast = [])
    (given : params.length = n) (planned : buildSelectFanoutPlan ast params = some plan)
    (rendered : buildSelectSQL plan.partitionAst = some sql) :
    sql.placeholders ⊆ List.range n ∧ plan.partitionParams =
      sql.placeholders.map fun index => params.getD index .undefined := by
  unfold buildSelectFanoutPlan at planned
  dsimp only at planned
  split at planned
  · cases planned
    rw [(buildSelectSQL_placeholders ast).of_some rendered, numbered, ← given, map_getD_range]
    exact ⟨fun _ => id, rfl⟩
  next state =>
    have rewritten : fanoutBuildState ast ≠ .originalRawRows := by
      rw [state]
      nofun
    have applies := fanoutRewriteApplies_of_state rewritten
    cases planned
    exact partitionParams_rewritten applies
      (plain.resolve_left rewritten) numbered applies (fun _ => id)
      (fun _ => id) rendered
  next state =>
    have rewritten : fanoutBuildState ast ≠ .originalRawRows := by
      rw [state]
      nofun
    have applies := fanoutRewriteApplies_of_state rewritten
    simp only [rendered_some_iff, returned_some_iff] at planned
    obtain ⟨parts, built, rfl⟩ := planned
    have applies' : fanoutRewriteApplies parts.partitionAst = true := by
      simp only [buildPartialAggregateParts, rendered_some_iff, returned_some_iff] at built
      obtain ⟨_, -, rfl⟩ := built
      exact applies
    exact partitionParams_rewritten applies (plain.resolve_left rewritten) numbered applies'
      (buildPartialAggregateParts_subset gathers_visitParameter built)
      (buildPartialAggregateParts_subset gathers_visitWith built) rendered

theorem clientValue_range (params : List Js.Value) :
    clientValue (List.range params.length) params = fun index => params.getD index .undefined := by
  funext index
  by_cases inRange : index < params.length
  · simp [clientValue, List.getElem?_range inRange, List.getD_eq_getElem?_getD]
  · have beyond : params.length ≤ index := Nat.le_of_not_lt inRange
    simp [clientValue, List.getD_eq_getElem?_getD, List.getElem?_eq_none, beyond]

theorem getD_idxOf_range (params : List Js.Value) (index : Nat) :
    params.getD ((List.range params.length).idxOf index) .undefined =
      params.getD index .undefined := by
  by_cases member : index ∈ List.range params.length
  · have found := List.getElem_idxOf (List.idxOf_lt_length_of_mem member)
    rw [List.getElem_range] at found
    rw [found]
  · have beyond : params.length ≤ index := by simpa using member
    rw [List.idxOf_eq_length member, List.length_range]
    simp [List.getD_eq_getElem?_getD, beyond]

/-- What the coordinator evaluates of a rewritten statement: its HAVING clause, with the literals
in the order of the tags. -/
theorem buildSelectFanoutPlan_having (planned : buildSelectFanoutPlan ast params = some plan)
    (isSpec : plan.combineSpec = some spec) :
    fanoutRewriteApplies ast = true ∧ spec.having = ast.having.map (substituteParameterLiterals
      (fun index => params.getD ((tagParameterOrdinals ast).idxOf index) .undefined) false) := by
  unfold buildSelectFanoutPlan at planned
  dsimp only at planned
  split at planned
  · cases planned
    cases isSpec
  · cases planned
    cases isSpec
  next state =>
    have rewritten : fanoutBuildState ast ≠ .originalRawRows := by
      rw [state]
      nofun
    simp only [rendered_some_iff, returned_some_iff] at planned
    obtain ⟨parts, built, rfl⟩ := planned
    simp only [buildPartialAggregateParts, rendered_some_iff, returned_some_iff] at built
    obtain ⟨_, -, rfl⟩ := built
    cases isSpec
    exact ⟨fanoutRewriteApplies_of_state rewritten, rfl⟩

def selectFrom (table : String) (columns : List ExternalColumn)
    (condition : Option ExternalExpr) : ExternalSelect where
  ctes := []
  distinct := false
  columns := columns
  tables := [⟨.name table, none, none, none⟩]
  condition := condition
  groupby := []
  having := none
  orderby := []
  limit := []
  offsetSeparator := false
  next := none

/-- SELECT SUM(price * ?) FROM orders WHERE total < ? HAVING COUNT(*) > ? -/
def sumOfOrders : ExternalSelect :=
  { selectFrom "orders"
      [⟨.aggregate .sum (some (.binary .multiply (.columnRef none "price") (.placeholder 0))) false,
        none⟩]
      (some (.binary .less (.columnRef none "total") (.placeholder 1))) with
    having := some (.binary .greater (.aggregate .count none false) (.placeholder 2)) }

/-- SELECT id FROM orders WHERE CASE ? WHEN ? THEN id ELSE total END -/
def ordersByCase : ExternalSelect :=
  selectFrom "orders" [⟨.columnRef none "id", none⟩]
    (some (.case (some (.placeholder 0))
      [⟨.placeholder 1, .columnRef none "id"⟩] (some (.columnRef none "total"))))

end LagrangeDb.Query
