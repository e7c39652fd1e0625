import LagrangeDb.Data.Run
import LagrangeDb.Data.Text
import LagrangeDb.Query.AggregateSpecs
import LagrangeDb.Query.Combine

namespace LagrangeDb.Query

/-! The keys under which a combined row holds its aggregates: the function and the name of the
argument, and nothing else of the aggregate. -/

def Aggregate.SameName (aggregate other : Aggregate) : Prop :=
  aggregate.function.name = other.function.name ∧
    getArgName aggregate.argument = getArgName other.argument

instance (aggregate other : Aggregate) : Decidable (aggregate.SameName other) :=
  inferInstanceAs (Decidable (_ ∧ _))

def AggregateSpec.keys (spec : AggregateSpec) : List String :=
  spec.aggregate.name :: spec.outputKeys

/-- No two aggregates of the statement have the same names, and no output column has
the key of another aggregate. -/
structure KeysApart (ast : Select) : Prop where
  functions : ∀ spec ∈ collectAggregateSpecs ast, '(' ∉ spec.aggregate.function.name.toList
  names : ∀ spec ∈ collectAggregateSpecs ast, ∀ other ∈ collectAggregateSpecs ast,
    spec.aggregate ≠ other.aggregate → ¬spec.aggregate.SameName other.aggregate
  outputs : ∀ spec ∈ collectAggregateSpecs ast, ∀ other ∈ collectAggregateSpecs ast,
    spec.aggregate ≠ other.aggregate → ∀ key ∈ spec.outputKeys, key ∉ other.keys
  expressions : ∀ column ∈ ast.columns, column.expression.isAggregate = false →
    containsAggregate column.expression = true →
    ∀ key, columnOutputKey column = some key →
    ∀ spec ∈ collectAggregateSpecs ast, key ∉ spec.keys

theorem Aggregate.name_eq_iff {aggregate other : Aggregate}
    (plain : '(' ∉ aggregate.function.name.toList) (plainOther : '(' ∉ other.function.name.toList) :
    aggregate.name = other.name ↔ aggregate.SameName other := by
  constructor
  · intro same
    have lists := congrArg String.toList same
    simp only [name, aggregateKey, String.toList_append, List.append_assoc] at lists
    obtain ⟨functions, rest⟩ := Data.Text.split_first plain plainOther lists
    exact ⟨String.toList_injective functions,
      String.toList_injective (List.append_cancel_right rest)⟩
  · rintro ⟨functions, arguments⟩
    rw [name, name, aggregateKey, aggregateKey, functions, arguments]

theorem Row.get_assign {row : Row} (only : ∀ write ∈ writes, write.1 = key → write.2 = value)
    (set : row.get key = value ∨ ∃ write ∈ writes, write.1 = key) :
    (row.assign writes).get key = value := by
  induction writes generalizing row with
  | nil => exact set.resolve_right nofun
  | cons write rest induction =>
    refine induction (fun other member => only other (List.mem_cons_of_mem _ member)) ?_
    by_cases own : write.1 = key
    · left
      rw [get_insert, if_pos own.symm]
      exact only write List.mem_cons_self own
    rcases set with set | ⟨other, member, named⟩
    · left
      rw [get_insert, if_neg (Ne.symm own)]
      exact set
    · rcases List.mem_cons.mp member with rfl | later
      · exact absurd named own
      · exact .inr ⟨other, later, named⟩

/-- Each aggregate has one specification, which knows its place. -/
structure Numbered (specs : List AggregateSpec) : Prop where
  distinct : (specs.map AggregateSpec.aggregate).Nodup
  places : specs.map AggregateSpec.index = List.range specs.length

variable {specs : List AggregateSpec} {aggregate : Aggregate}

theorem Numbered.register (numbered : Numbered specs) (aggregate : Aggregate)
    (outputKey : Option String) : Numbered (registerAggregate specs aggregate outputKey) := by
  have length : (registerAggregate specs aggregate outputKey).length =
      if aggregate ∈ specs.map AggregateSpec.aggregate then specs.length
      else specs.length + 1 := by
    have mapped := congrArg List.length
      (registerAggregate_map specs aggregate outputKey AggregateSpec.index fun _ _ => rfl)
    rw [List.length_map] at mapped
    rw [mapped]
    split <;> simp
  constructor
  · rw [registerAggregate_map specs aggregate outputKey _ fun _ _ => rfl]
    split
    · exact numbered.distinct
    next absent =>
      exact numbered.distinct.append (List.nodup_singleton _) (List.disjoint_singleton.mpr absent)
  · rw [registerAggregate_map specs aggregate outputKey _ fun _ _ => rfl, length]
    split
    · exact numbered.places
    · rw [numbered.places, List.range_succ]

def Outputs (specs : List AggregateSpec) (aggregate : Aggregate) (key : String) : Prop :=
  ∃ spec ∈ specs, spec.aggregate = aggregate ∧ key ∈ spec.outputKeys

variable {key : String}

theorem Outputs.register (outputs : Outputs specs aggregate key)
    (other : Aggregate) (outputKey : Option String) :
    Outputs (registerAggregate specs other outputKey) aggregate key := by
  obtain ⟨spec, member, rfl, own⟩ := outputs
  unfold registerAggregate
  generalize extended : (if specs.any fun spec => spec.aggregate = other then specs
      else specs ++ [⟨other, [], specs.length⟩]) = longer
  have member : spec ∈ longer := by
    rw [← extended]
    split
    · exact member
    · exact List.mem_append_left _ member
  cases outputKey with
  | none => exact ⟨spec, member, rfl, own⟩
  | some added =>
    refine ⟨_, List.mem_map_of_mem member, ?_, ?_⟩
    · split <;> rfl
    split
    · exact List.mem_append_left _ own
    · exact own

theorem outputs_registered (specs : List AggregateSpec) (aggregate : Aggregate)
    (key : String) : Outputs (registerAggregate specs aggregate (some key)) aggregate key := by
  rw [registerAggregate]
  generalize extended : (if specs.any fun spec => spec.aggregate = aggregate then specs
      else specs ++ [⟨aggregate, [], specs.length⟩]) = longer
  obtain ⟨spec, member, own⟩ : ∃ spec ∈ longer, spec.aggregate = aggregate := by
    rw [← extended]
    split
    next known => simpa using known
    · exact ⟨_, List.mem_append_right _ List.mem_cons_self, rfl⟩
  refine ⟨_, List.mem_map_of_mem member, ?_, ?_⟩
  · split <;> exact own
  by_cases contained : key ∈ spec.outputKeys
  · rw [if_neg (by simp [contained])]
    exact contained
  · rw [if_pos (by simp [own, contained])]
    simp

section

variable {holds : List AggregateSpec → Prop}
  (registers : ∀ specs aggregate outputKey, holds specs →
    holds (registerAggregate specs aggregate outputKey))

include registers

theorem registerAll_keeps (aggregates : List Aggregate) (before : holds specs) :
    holds (aggregates.foldl
      (fun specs aggregate => registerAggregate specs aggregate none) specs) := by
  induction aggregates generalizing specs with
  | nil => exact before
  | cons aggregate rest induction => exact induction (registers _ _ _ before)

theorem registerNested_keeps (expression : Expr) (before : holds specs) :
    holds (registerNested specs expression) :=
  registerAll_keeps registers _ before

theorem registerColumns_keeps (columns : List Column) (before : holds specs) :
    holds (columns.foldl registerColumn specs) := by
  induction columns generalizing specs with
  | nil => exact before
  | cons column rest induction =>
    refine induction ?_
    rw [registerColumn]
    split
    · exact registers _ _ _ before
    · exact registerNested_keeps registers _ before

variable {ast : Select}

theorem collect_of_columns (columns : holds (ast.columns.foldl registerColumn [])) :
    holds (collectAggregateSpecs ast) := by
  rw [collectAggregateSpecs]
  cases ast.having with
  | none => exact columns
  | some having => exact registerNested_keeps registers having columns

theorem collect_of_column (member : column ∈ ast.columns)
    (registered : ∀ specs, holds (registerColumn specs column)) :
    holds (collectAggregateSpecs ast) := by
  refine collect_of_columns registers ?_
  obtain ⟨before, after, split⟩ := List.append_of_mem member
  rw [split, List.foldl_append, List.foldl_cons]
  exact registerColumns_keeps registers after (registered _)

end

theorem numbered_collect (ast : Select) : Numbered (collectAggregateSpecs ast) := by
  have registers : ∀ specs aggregate outputKey, Numbered specs →
      Numbered (registerAggregate specs aggregate outputKey) :=
    fun _ aggregate outputKey numbered => numbered.register aggregate outputKey
  exact collect_of_columns registers (registerColumns_keeps registers _ ⟨.nil, rfl⟩)

variable {ast : Select}

theorem outputs_collect (member : column ∈ ast.columns)
    (own : column.expression = aggregate.expr) : Outputs (collectAggregateSpecs ast) aggregate
      (column.asName.getD aggregate.name) := by
  have registers : ∀ specs other outputKey,
      Outputs specs aggregate (column.asName.getD aggregate.name) →
      Outputs (registerAggregate specs other outputKey) aggregate
        (column.asName.getD aggregate.name) :=
    fun _ other outputKey outputs => outputs.register other outputKey
  refine collect_of_column registers member fun specs => ?_
  rw [registerColumn, own, Aggregate.expr]
  exact outputs_registered specs aggregate _

structure Plans (spec : AggregateSpec) (aggregate : CombinedAggregate) : Prop where
  index : aggregate.index = spec.index
  havingKey : aggregate.havingKey = spec.aggregate.name
  outputKeys : aggregate.outputKeys = spec.outputKeys
  fn : aggregate.fn = spec.aggregate.function

theorem addPartialColumns_aggregates (partialColumns : PartialColumns)
    {spec : AggregateSpec} (combinable : spec.aggregate.combineMode.isSome) :
    ∃ combined : CombinedAggregate, (addPartialColumns partialColumns spec).aggregates =
        partialColumns.aggregates ++ [combined] ∧ Plans spec combined := by
  obtain ⟨mode, known⟩ := Option.isSome_iff_exists.mp combinable
  rw [addPartialColumns, known]
  cases mode with
  | distinctValues =>
    simp only
    split
    · exact ⟨_, rfl, rfl, rfl, rfl, rfl⟩
    · exact ⟨_, rfl, rfl, rfl, rfl, rfl⟩
  | _ => exact ⟨_, rfl, rfl, rfl, rfl, rfl⟩

theorem partialColumns_aggregates
    (combinable : allAggregatesCombinable specs = true) (start : PartialColumns) :
    ∃ combined : List CombinedAggregate,
      (specs.foldl addPartialColumns start).aggregates = start.aggregates ++ combined ∧
      List.Forall₂ Plans specs combined := by
  induction specs generalizing start with
  | nil => exact ⟨[], (List.append_nil _).symm, .nil⟩
  | cons spec rest induction =>
    rw [allAggregatesCombinable, List.all_cons, Bool.and_eq_true] at combinable
    obtain ⟨own, added, described⟩ := addPartialColumns_aggregates start combinable.1
    obtain ⟨others, folded, describedRest⟩ := induction combinable.2 (addPartialColumns start spec)
    refine ⟨own :: others, ?_, .cons described describedRest⟩
    rw [List.foldl_cons, folded, added, List.append_assoc]
    rfl

theorem plans_indices {aggregates : List CombinedAggregate}
    (plans : List.Forall₂ Plans specs aggregates) :
    aggregates.map CombinedAggregate.index = specs.map AggregateSpec.index := by
  induction plans with
  | nil => rfl
  | cons own _ induction => rw [List.map_cons, List.map_cons, own.index, induction]

theorem ensureOutsideColumn_expressionColumns (index : Nat) (projection : Projection)
    (expression : Expr) : (projection.ensureOutsideColumn index expression).expressionColumns =
      projection.expressionColumns := by
  cases expression with
  | columnRef table column =>
    rw [Projection.ensureOutsideColumn, Projection.ensureBareColumn]
    split <;> rfl
  | _ => rfl

theorem ensureOutsideColumns_expressionColumns (index : Nat) (expressions : List Expr)
    (projection : Projection) :
    (expressions.foldl (Projection.ensureOutsideColumn index) projection).expressionColumns =
      projection.expressionColumns := by
  induction expressions generalizing projection with
  | nil => rfl
  | cons expression rest induction =>
    rw [List.foldl_cons, induction, ensureOutsideColumn_expressionColumns]

def FromColumns (columns : List Column) (projection : Projection) : Prop :=
  ∀ expressionColumn ∈ projection.expressionColumns, ∃ column ∈ columns,
    column.expression.isAggregate = false ∧ containsAggregate column.expression = true ∧
    columnOutputKey column = some expressionColumn.outputKey

variable {parameterValue : Nat → Js.Value}

theorem FromColumns.project {columns : List Column} {projection next : Projection}
    {entry : Column × Nat} (origin : FromColumns columns projection) (member : entry.1 ∈ columns)
    (projected : projectColumn specs parameterValue projection entry = some next) :
    FromColumns columns next := by
  obtain ⟨column, index⟩ := entry
  unfold projectColumn at projected
  simp only at projected
  split at projected
  · obtain rfl := Option.some.inj projected
    exact origin
  · obtain rfl := Option.some.inj projected
    exact origin
  next notAggregate _ =>
  obtain ⟨outputKey, named, projected⟩ := Option.bind_eq_some_iff.mp projected
  split at projected
  · obtain rfl := Option.some.inj projected
    exact origin
  split at projected
  next contains =>
    obtain ⟨combined, -, projected⟩ := Option.bind_eq_some_iff.mp projected
    obtain rfl := Option.some.inj projected
    intro expressionColumn among
    rw [ensureOutsideColumns_expressionColumns] at among
    rcases List.mem_append.mp among with earlier | own
    · exact origin expressionColumn earlier
    obtain rfl := List.mem_singleton.mp own
    refine ⟨column, member, ?_, contains, named⟩
    cases shape : column.expression with
    | aggregate function argument distinct =>
      exact absurd shape (notAggregate function argument distinct)
    | _ => rfl
  · obtain rfl := Option.some.inj projected
    intro expressionColumn among
    rw [Projection.ensureBareColumn] at among
    split at among <;> exact origin expressionColumn among

theorem fromColumns_parts
    (projected : ast.columns.zipIdx.foldlM (projectColumn specs parameterValue)
      (groupProjection ast.groupBy) = some projection) : FromColumns ast.columns projection := by
  have allowed : Data.Allowed (projectColumn specs parameterValue)
      (fun _ entry => entry.1 ∈ ast.columns) (groupProjection ast.groupBy)
      ast.columns.zipIdx :=
    Data.allowed_of_forall fun entry member _ => List.fst_mem_of_mem_zipIdx member
  have start : FromColumns ast.columns (groupProjection ast.groupBy) := by
    intro expressionColumn among
    cases among
  exact Data.run_invariant FromColumns.project start allowed projected

theorem Row.assign_append (row : Row) (first second : List (String × Js.Value)) :
    row.assign (first ++ second) = (row.assign first).assign second :=
  List.foldl_append

namespace CombineSpec

variable {spec : CombineSpec} {groupRows : List Row} {key : String}

theorem get_buildInternalRow (others : ∀ column ∈ spec.expressionColumns, column.outputKey ≠ key) :
    (spec.buildInternalRow groupRows).row.get key = (spec.baseRow groupRows).get key := by
  rw [buildInternalRow]
  simp only
  generalize spec.baseRow groupRows = row
  generalize spec.expressionColumns = columns at others
  induction columns generalizing row with
  | nil => rfl
  | cons column rest induction =>
    rw [List.foldl_cons, induction _ fun other member =>
      others other (List.mem_cons_of_mem _ member), Row.get_insert,
      if_neg (others column List.mem_cons_self).symm]

theorem get_baseRow {aggregate : CombinedAggregate} (member : aggregate ∈ spec.aggregates)
    (own : key ∈ aggregate.havingKey :: aggregate.outputKeys)
    (alone : ∀ other ∈ spec.aggregates, key ∈ other.havingKey :: other.outputKeys →
      other = aggregate) :
    (spec.baseRow groupRows).get key = combineAggregate aggregate groupRows := by
  rw [baseRow, Row.assign_append]
  apply Row.get_assign
  · intro write among named
    obtain ⟨other, otherMember, written⟩ := List.mem_flatMap.mp among
    obtain ⟨otherKey, otherOwn, rfl⟩ := List.mem_map.mp written
    rw [alone other otherMember (named ▸ otherOwn)]
  · exact .inr ⟨(key, combineAggregate aggregate groupRows),
      List.mem_flatMap.mpr ⟨aggregate, member, List.mem_map.mpr ⟨key, own, rfl⟩⟩, rfl⟩

theorem get_projectFinalRow {internal : InternalRow}
    (final : key ∈ spec.finalKeys internal.starKeys) :
    (spec.projectFinalRow internal).get key = internal.row.get key := by
  rw [projectFinalRow]
  apply Row.get_assign
  · intro write among named
    obtain ⟨other, -, rfl⟩ := List.mem_map.mp among
    rw [← named]
  · exact .inr ⟨_, List.mem_map_of_mem final, rfl⟩

end CombineSpec

theorem KeysApart.same_of_key (apart : KeysApart ast) (member : spec ∈ collectAggregateSpecs ast)
    (otherMember : other ∈ collectAggregateSpecs ast) (own : key ∈ spec.keys)
    (otherOwn : key ∈ other.keys) : spec.aggregate = other.aggregate := by
  by_contra different
  rcases List.mem_cons.mp own with named | output
  · rcases List.mem_cons.mp otherOwn with otherNamed | otherOutput
    · exact apart.names spec member other otherMember different
        ((Aggregate.name_eq_iff (apart.functions spec member)
          (apart.functions other otherMember)).mp (named.symm.trans otherNamed))
    · exact apart.outputs other otherMember spec member (Ne.symm different) key otherOutput own
  · exact apart.outputs spec member other otherMember different key output otherOwn

theorem forall₂_left {α β : Type} {relates : α → β → Prop} {lefts : List α}
    {rights : List β} (related : List.Forall₂ relates lefts rights) {left : α}
    (member : left ∈ lefts) : ∃ right ∈ rights, relates left right := by
  induction related with
  | nil => cases member
  | cons own _ induction =>
    rcases List.mem_cons.mp member with rfl | later
    · exact ⟨_, List.mem_cons_self, own⟩
    · obtain ⟨right, among, relation⟩ := induction later
      exact ⟨right, List.mem_cons_of_mem _ among, relation⟩

section

variable {ast : Select} {parameterValue : Nat → Js.Value} {parts : PartialParts}
  (planned : buildPartialAggregateParts ast (collectAggregateSpecs ast) parameterValue = some parts)

include planned

theorem plans_aggregates (combinable : allAggregatesCombinable (collectAggregateSpecs ast) = true) :
    List.Forall₂ Plans (collectAggregateSpecs ast) parts.combineSpec.aggregates := by
  obtain ⟨projection, projected, built⟩ := Option.bind_eq_some_iff.mp planned
  obtain rfl := Option.some.inj built
  obtain ⟨combined, aggregates, plans⟩ := partialColumns_aggregates combinable
    ⟨projection.columns, ast.groupBy, [], []⟩
  rw [show ((collectAggregateSpecs ast).foldl addPartialColumns
    ⟨projection.columns, ast.groupBy, [], []⟩).aggregates = combined from aggregates]
  exact plans

theorem expressionColumns_apart (apart : KeysApart ast) :
    ∀ column ∈ parts.combineSpec.expressionColumns,
      ∀ spec ∈ collectAggregateSpecs ast, column.outputKey ∉ spec.keys := by
  obtain ⟨projection, projected, built⟩ := Option.bind_eq_some_iff.mp planned
  obtain rfl := Option.some.inj built
  intro expressionColumn among spec member
  obtain ⟨column, own, notAggregate, contains, named⟩ :=
    fromColumns_parts projected expressionColumn among
  exact apart.expressions column own notAggregate contains _ named spec member

theorem combined_eq_of_index
    (combinable : allAggregatesCombinable (collectAggregateSpecs ast) = true)
    {aggregate other : CombinedAggregate} (member : aggregate ∈ parts.combineSpec.aggregates)
    (otherMember : other ∈ parts.combineSpec.aggregates)
    (same : aggregate.index = other.index) : aggregate = other := by
  have once : (parts.combineSpec.aggregates.map CombinedAggregate.index).Nodup := by
    rw [plans_indices (plans_aggregates planned combinable), (numbered_collect ast).places]
    exact List.nodup_range
  exact List.inj_on_of_nodup_map once member otherMember same

theorem get_internal (apart : KeysApart ast)
    (combinable : allAggregatesCombinable (collectAggregateSpecs ast) = true)
    {spec : AggregateSpec} (own : spec ∈ collectAggregateSpecs ast) {combined : CombinedAggregate}
    (member : combined ∈ parts.combineSpec.aggregates)
    (plans : Plans spec combined) (isKey : key ∈ spec.keys) (groupRows : List Row) :
    (parts.combineSpec.buildInternalRow groupRows).row.get key =
      combineAggregate combined groupRows := by
  have allPlans := plans_aggregates planned combinable
  rw [CombineSpec.get_buildInternalRow fun column among named =>
    expressionColumns_apart planned apart column among spec own (named ▸ isKey)]
  refine CombineSpec.get_baseRow member ?_ fun other otherMember otherKey => ?_
  · rw [plans.havingKey, plans.outputKeys]
    exact isKey
  obtain ⟨otherSpec, otherOwn, otherPlans⟩ := forall₂_left (List.Forall₂.flip allPlans) otherMember
  refine combined_eq_of_index planned combinable otherMember member ?_
  rw [otherPlans.havingKey, otherPlans.outputKeys] at otherKey
  have same := apart.same_of_key otherOwn own otherKey isKey
  rw [otherPlans.index, plans.index, List.inj_on_of_nodup_map
    (numbered_collect ast).distinct otherOwn own same]

theorem get_output (apart : KeysApart ast)
    (combinable : allAggregatesCombinable (collectAggregateSpecs ast) = true)
    {spec : AggregateSpec} (own : spec ∈ collectAggregateSpecs ast) {combined : CombinedAggregate}
    (member : combined ∈ parts.combineSpec.aggregates) (plans : Plans spec combined)
    (groupRows : List Row) (column : Column) (among : column ∈ ast.columns)
    (isAggregate : column.expression = spec.aggregate.expr) :
    (parts.combineSpec.projectFinalRow (parts.combineSpec.buildInternalRow groupRows)).get
      (column.asName.getD spec.aggregate.name) = combineAggregate combined groupRows := by
  obtain ⟨outputSpec, outputOwn, same, output⟩ := outputs_collect among isAggregate
  obtain rfl := List.inj_on_of_nodup_map (numbered_collect ast).distinct outputOwn own same
  rw [CombineSpec.get_projectFinalRow]
  · exact get_internal planned apart combinable own member plans
      (List.mem_cons_of_mem _ output) groupRows
  have final : column.asName.getD outputSpec.aggregate.name ∈
      parts.combineSpec.aggregates.flatMap CombinedAggregate.outputKeys :=
    List.mem_flatMap.mpr ⟨combined, member, plans.outputKeys ▸ output⟩
  rw [CombineSpec.finalKeys]
  simp only [List.mem_append]
  exact .inl (.inr final)

end

theorem combinable_of_accepted (accepted : fanoutBuildState ast = .partialAggregate) :
    allAggregatesCombinable (collectAggregateSpecs ast) = true := by
  unfold fanoutBuildState at accepted
  simp only at accepted
  split at accepted
  · cases accepted
  next distributed =>
  split at accepted
  next aggregated => simp_all
  · cases accepted

theorem applyHaving_sublist {Entry : Type} {rowOf : Entry → Row} {having : Expr}
    {entries kept : List Entry} (applied : applyHaving rowOf having entries = some kept) :
    kept.Sublist entries := by
  induction entries generalizing kept with
  | nil =>
    cases applied
    exact .slnil
  | cons entry rest induction =>
    obtain ⟨answer, -, applied⟩ := Option.bind_eq_some_iff.mp applied
    obtain ⟨others, isOthers, applied⟩ := Option.bind_eq_some_iff.mp applied
    cases applied
    split
    · exact (induction isOthers).cons_cons entry
    · exact (induction isOthers).cons entry

/-- A row of the result is that of a group. -/
theorem mem_combinePartialAggregateRows {localeCompare : String → String → Ordering}
    {spec : CombineSpec} {partialRows rows : List Row}
    (combined : combinePartialAggregateRows localeCompare spec partialRows = some rows)
    (member : row ∈ rows) : ∃ groupRows ∈ spec.groups partialRows,
      row = spec.projectFinalRow (spec.buildInternalRow groupRows) := by
  let ordered := fun kept => if spec.orderBy.isEmpty then kept
    else applyOrderBy localeCompare spec.orderBy kept
  have found : ∃ kept : List InternalRow,
      kept.Sublist ((spec.groups partialRows).map spec.buildInternalRow) ∧ rows =
        (spec.limit.elim (ordered kept) (applyLimit · (ordered kept))).map spec.projectFinalRow := by
    simp only [combinePartialAggregateRows] at combined
    cases limit : spec.limit <;> rw [limit] at combined <;> split at combined
    all_goals
      obtain ⟨kept, isKept, built⟩ := Option.bind_eq_some_iff.mp combined
      cases built
      refine ⟨kept, ?_, rfl⟩
      first
        | exact applyHaving_sublist isKept
        | cases isKept
          exact .refl _
  obtain ⟨kept, sublist, rfl⟩ := found
  obtain ⟨internal, isInternal, rfl⟩ := List.mem_map.mp member
  have isOrdered : internal ∈ ordered kept := by
    cases limit : spec.limit <;> rw [limit] at isInternal
    · exact isInternal
    · exact List.mem_of_mem_drop (List.mem_of_mem_take isInternal)
  have isKept : internal ∈ kept := by
    simp only [ordered] at isOrdered
    split at isOrdered
    · exact isOrdered
    · exact List.mem_mergeSort.mp isOrdered
  obtain ⟨groupRows, isGroup, rfl⟩ := List.mem_map.mp (sublist.subset isKept)
  exact ⟨groupRows, isGroup, rfl⟩

/-- Where the names of the aggregates and of the output columns are apart, different
aggregates have different keys, and HAVING, the columns and the expressions over
aggregates each read the value of their own one, in every row of the result. -/
theorem aggregates_apart (ast : Select) (parameterValue : Nat → Js.Value) (parts : PartialParts)
    (planned : buildPartialAggregateParts ast (collectAggregateSpecs ast)
      parameterValue = some parts)
    (accepted : fanoutBuildState ast = .partialAggregate) (apart : KeysApart ast) :
    (∀ aggregate ∈ statementAggregates ast, ∀ other ∈ statementAggregates ast,
      (aggregate.name = other.name ↔ aggregate.SameName other) ∧
      (aggregate ≠ other → aggregate.name ≠ other.name)) ∧
    ∀ aggregate ∈ statementAggregates ast, ∃ spec ∈ collectAggregateSpecs ast,
      ∃ combined ∈ parts.combineSpec.aggregates,
        spec.aggregate = aggregate ∧ Plans spec combined ∧ (∀ groupRows,
          let internal := parts.combineSpec.buildInternalRow groupRows
          let value := combineAggregate combined groupRows
          evaluateExpression internal.row [] aggregate.expr = some value ∧
          parts.combineSpec.combinedBySpecIndex groupRows spec.index = value ∧
          ∀ column ∈ ast.columns, column.expression = aggregate.expr →
            (parts.combineSpec.projectFinalRow internal).get
              (column.asName.getD aggregate.name) = value) ∧
        ∀ localeCompare partialRows rows,
          combinePartialAggregateRows localeCompare parts.combineSpec partialRows = some rows →
          ∀ row ∈ rows, ∃ groupRows ∈ parts.combineSpec.groups partialRows,
            ∀ column ∈ ast.columns, column.expression = aggregate.expr →
              row.get (column.asName.getD aggregate.name) = combineAggregate combined groupRows := by
  have combinable := combinable_of_accepted accepted
  constructor
  · intro aggregate member other otherMember
    obtain ⟨spec, own, rfl⟩ := List.mem_map.mp (mem_collectAggregateSpecs.mpr member)
    obtain ⟨otherSpec, otherOwn, rfl⟩ := List.mem_map.mp (mem_collectAggregateSpecs.mpr otherMember)
    refine ⟨Aggregate.name_eq_iff (apart.functions spec own)
      (apart.functions otherSpec otherOwn), fun different same => ?_⟩
    refine different (apart.same_of_key own otherOwn List.mem_cons_self ?_)
    rw [same]
    exact List.mem_cons_self
  · intro aggregate member
    obtain ⟨spec, own, rfl⟩ := List.mem_map.mp (mem_collectAggregateSpecs.mpr member)
    obtain ⟨combined, combinedMember, plans⟩ :=
      forall₂_left (plans_aggregates planned combinable) own
    have columns := get_output planned apart combinable own combinedMember plans
    refine ⟨spec, own, combined, combinedMember, rfl, plans,
      fun groupRows => ⟨?_, ?_, columns groupRows⟩, ?_⟩
    · rw [Aggregate.expr, evaluateExpression]
      exact congrArg some (get_internal planned apart combinable own combinedMember plans
        List.mem_cons_self groupRows)
    · rw [CombineSpec.combinedBySpecIndex]
      split
      next found isFound =>
        have among := List.mem_reverse.mp (List.mem_of_find?_eq_some isFound)
        have sameIndex := List.find?_some isFound
        rw [decide_eq_true_iff] at sameIndex
        rw [combined_eq_of_index planned combinable among combinedMember
          (sameIndex.trans plans.index.symm)]
      next missing =>
        have different := List.find?_eq_none.mp missing combined
          (List.mem_reverse.mpr combinedMember)
        exact absurd (decide_eq_true plans.index) different
    · intro localeCompare partialRows rows isCombined row isRow
      obtain ⟨groupRows, isGroup, rfl⟩ := mem_combinePartialAggregateRows isCombined isRow
      exact ⟨groupRows, isGroup, columns groupRows⟩

namespace Sample

def aggregates (columns : List Expr) : Select where
  distinct := false
  columns := columns.map fun expression => ⟨expression, none⟩
  source := some (.table "orders" none)
  joins := []
  condition := none
  groupBy := []
  having := none
  orderBy := []
  limit := none
  ctes := []
  recursive := false
  setOperation := none

def amount : Expr := .columnRef none "amount"

def counts : Select := aggregates [.aggregate .count amount false,
  .aggregate .count amount true]

def countsRow : Row :=
  (∅ : Row).insert "__fanout_agg_0_count" (.number (.finite 3))
    |>.insert "__fanout_agg_1_dv" (.number (.finite 5))

def count : Expr := .aggregate .count amount false

def sum : Expr := .aggregate .sum amount false

/-- SELECT COUNT(amount) AS n, SUM(amount) / COUNT(amount) AS mean FROM orders
HAVING SUM(amount) > 1 -/
def countAndSum : Select :=
  { aggregates [] with
    columns := [⟨count, some "n"⟩, ⟨.binary .divide sum count, some "mean"⟩]
    having := some (.binary .greater sum (.literal (.number (.finite 1)))) }

end Sample

open Sample in
theorem count_and_sum_apart : ∃ parts,
    buildPartialAggregateParts countAndSum (collectAggregateSpecs countAndSum)
      (fun _ => .null) = some parts ∧
    (∀ aggregate ∈ statementAggregates countAndSum, ∀ other ∈ statementAggregates countAndSum,
      aggregate ≠ other → aggregate.name ≠ other.name) ∧
    ∀ aggregate ∈ statementAggregates countAndSum, ∃ combined ∈ parts.combineSpec.aggregates,
      ∀ groupRows, evaluateExpression (parts.combineSpec.buildInternalRow groupRows).row []
        aggregate.expr = some (combineAggregate combined groupRows) := by
  obtain ⟨apart, reads⟩ := aggregates_apart countAndSum (fun _ => .null) _ rfl
    (by decide +kernel) ⟨by decide +kernel, by decide +kernel, by decide +kernel,
      by decide +kernel⟩
  refine ⟨_, rfl, fun aggregate member other otherMember => (apart _ member _ otherMember).2,
    fun aggregate member => ?_⟩
  obtain ⟨_, _, combined, isCombined, _, _, values, _⟩ := reads aggregate member
  exact ⟨combined, isCombined, fun groupRows => (values groupRows).1⟩

open Sample in
/-- A count and a count of distinct values have one key, and the column of the first
has the value of the second. -/
theorem distinct_count_shares_key : fanoutBuildState counts = .partialAggregate ∧
    (∃ first ∈ statementAggregates counts, ∃ second ∈ statementAggregates counts,
      first ≠ second ∧ first.name = second.name) ∧
    ∃ parts, buildPartialAggregateParts counts (collectAggregateSpecs counts)
        (fun _ => .null) = some parts ∧
      parts.combineSpec.aggregates.map (fun aggregate =>
        combineAggregate aggregate [countsRow]) = [.number (.finite 3), .number (.finite 1)] ∧
      (parts.combineSpec.projectFinalRow
        (parts.combineSpec.buildInternalRow [countsRow])).get "COUNT(amount)" =
          .number (.finite 1) := by
  refine ⟨by decide +kernel, by decide +kernel, _, rfl, by decide +kernel, by decide +kernel⟩

end LagrangeDb.Query
