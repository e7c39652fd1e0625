import LagrangeDb.Query.FanoutPlan

namespace LagrangeDb.Query

def statementAggregates (ast : Select) : List Aggregate :=
  ast.columns.flatMap (fun column => walkAggregates column.expression) ++
    (ast.having.map walkAggregates).getD []

theorem registerAggregate_map {γ : Type} (specs : List AggregateSpec)
    (aggregate : Aggregate) (outputKey : Option String) (f : AggregateSpec → γ)
    (keeps : ∀ spec keys, f { spec with outputKeys := keys } = f spec) :
    (registerAggregate specs aggregate outputKey).map f =
      if aggregate ∈ specs.map AggregateSpec.aggregate then specs.map f
      else specs.map f ++ [f ⟨aggregate, [], specs.length⟩] := by
  have known : (specs.any fun spec => spec.aggregate = aggregate) =
      decide (aggregate ∈ specs.map AggregateSpec.aggregate) := by
    rw [Bool.eq_iff_iff]
    simp
  have extended : (if specs.any fun spec => spec.aggregate = aggregate then specs
      else specs ++ [⟨aggregate, [], specs.length⟩]).map f =
      if aggregate ∈ specs.map AggregateSpec.aggregate then specs.map f
      else specs.map f ++ [f ⟨aggregate, [], specs.length⟩] := by
    rw [known]
    split <;> simp_all
  cases outputKey with
  | none => exact extended
  | some key =>
    rw [← extended, registerAggregate, List.map_map]
    refine List.map_congr_left fun spec _ => ?_
    rw [Function.comp_apply]
    split
    · exact keeps spec _
    · rfl

theorem mem_aggregates_registerAggregate :
    other ∈ (registerAggregate specs aggregate outputKey).map AggregateSpec.aggregate ↔
      other ∈ specs.map AggregateSpec.aggregate ∨ other = aggregate := by
  rw [registerAggregate_map specs aggregate outputKey _ fun _ _ => rfl]
  split
  next member =>
    constructor
    · exact .inl
    rintro (own | rfl)
    · exact own
    · exact member
  · simp

theorem mem_registerNested :
    aggregate ∈ (registerNested specs expression).map AggregateSpec.aggregate ↔
      aggregate ∈ specs.map AggregateSpec.aggregate ∨ aggregate ∈ walkAggregates expression := by
  rw [registerNested]
  induction walkAggregates expression generalizing specs with
  | nil => simp
  | cons first rest induction =>
    rw [List.foldl_cons, induction, mem_aggregates_registerAggregate, or_assoc, List.mem_cons]

theorem mem_registerColumn :
    aggregate ∈ (registerColumn specs column).map AggregateSpec.aggregate ↔
      aggregate ∈ specs.map AggregateSpec.aggregate ∨
        aggregate ∈ walkAggregates column.expression := by
  rw [registerColumn]
  split
  next function argument distinct expression =>
    rw [mem_aggregates_registerAggregate, expression]
    exact or_congr_right List.mem_singleton.symm
  · exact mem_registerNested

theorem mem_registerColumns {columns : List Column} :
    aggregate ∈ (columns.foldl registerColumn specs).map AggregateSpec.aggregate ↔
      aggregate ∈ specs.map AggregateSpec.aggregate ∨ aggregate ∈ columns.flatMap fun column =>
          walkAggregates column.expression := by
  induction columns generalizing specs with
  | nil => simp
  | cons column rest induction =>
    rw [List.foldl_cons, induction, mem_registerColumn, or_assoc,
      List.flatMap_cons, List.mem_append]

theorem mem_collectAggregateSpecs :
    aggregate ∈ (collectAggregateSpecs ast).map AggregateSpec.aggregate ↔
      aggregate ∈ statementAggregates ast := by
  rw [collectAggregateSpecs, statementAggregates, List.mem_append]
  cases ast.having with
  | none => simp [mem_registerColumns]
  | some having => simp [mem_registerNested, mem_registerColumns]

end LagrangeDb.Query
