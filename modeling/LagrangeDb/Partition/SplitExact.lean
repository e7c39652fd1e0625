import LagrangeDb.Partition.Split

namespace LagrangeDb.Partition

open Data

section

variable {schema : Schema} (sqlite : Sqlite schema) (splitKey : KeyValue)

def sideOf (schema : Schema) (splitKey : KeyValue) (row : Row) : Option Side :=
  resolveSplitTargetPartitionId (schema.key row) splitKey

/-- The left child holds the source's rows below the split key, the right child
the others. -/
structure Exact (schema : Schema) (splitKey : KeyValue) (children : Children)
    (source : Table) : Prop where
  left : ∀ row, row ∈ children.left ↔ row ∈ source ∧ sideOf schema splitKey row = some .left
  right : ∀ row, row ∈ children.right ↔ row ∈ source ∧ sideOf schema splitKey row ≠ some .left

def routedTo (schema : Schema) (splitKey : KeyValue) (entry : Entry) :
    Option Side := do
  resolveSplitTargetPartitionId (← extractSplitRoutingKey entry schema.primaryKeyColumn) splitKey

def rowsOf (schema : Schema) (splitKey : KeyValue) (side : Side) (rows : List Row) : List Row :=
  rows.filter fun row => sideOf schema splitKey row = some side

/-- The statement changes rows of the child only that its text is routed to: a row that
is new to the source is on its side, and the rows of the other side stay. -/
def Confined (source : Table) (entry : Entry) : Prop :=
  ∀ side source', routedTo schema splitKey entry = some side →
    sqlite.execute entry.sql entry.params source = some source' →
    (∀ row ∈ source', row ∈ source ∨ sideOf schema splitKey row = some side) ∧
      ∀ other, other ≠ side → (rowsOf schema splitKey other source').Perm
        (rowsOf schema splitKey other source)

/-- What the statement does to the rows of that child does not depend on the other
rows of the source, nor on their order. A statement that looks at one row at a time is
local; one with a subquery over the table need not be. -/
def Local (source : Table) (entry : Entry) : Prop :=
  ∀ side source' table table', routedTo schema splitKey entry = some side →
    sqlite.execute entry.sql entry.params source = some source' →
    table.Perm (rowsOf schema splitKey side source) →
    sqlite.execute entry.sql entry.params table = some table' →
    table'.Perm (rowsOf schema splitKey side source')

def execute (table : Table) (entry : Entry) : Option Table :=
  sqlite.execute entry.sql entry.params table

variable {row : Row}

theorem map_lookup_zip {columns : List String} (nodup : columns.Nodup)
    (width : row.length = columns.length) : columns.map (fun column =>
      ((columns.zip row).lookup column).getD (.primitive .undefined)) = row := by
  induction columns generalizing row with
  | nil => exact (List.eq_nil_of_length_eq_zero width).symm
  | cons column rest induction =>
    cases row with
    | nil => cases width
    | cons value values =>
      obtain ⟨absent, nodupRest⟩ := List.nodup_cons.mp nodup
      rw [List.map_cons]
      congr 1
      · simp
      rw [← induction nodupRest (Nat.succ.inj width)]
      apply List.map_congr_left
      intro other member
      have different : (other == column) = false := by
        rw [beq_eq_false_iff_ne]
        rintro rfl
        exact absent member
      simp only [List.zip_cons_cons, List.lookup_cons, different]
      rw [induction nodupRest (Nat.succ.inj width)]

theorem map_value_row (width : row.length = schema.columns.length) :
    schema.columns.map (schema.value row) = row :=
  map_lookup_zip schema.columns_nodup width

variable {sqlite splitKey} {rows : List Row}

namespace Children

@[simp] theorem get_put (children : Children) (table : Table) (side : Side) :
    (children.put table side).get side = table := by
  cases side <;> rfl

theorem get_put_other (children : Children) (table : Table)
    (different : other ≠ side) : (children.put table side).get other = children.get other := by
  cases side <;> cases other <;> first | rfl | exact absurd rfl different

def append (children : Children) (side : Side) (rows : List Row) : Children :=
  children.put (children.get side ++ rows) side

theorem get_append (children : Children) (side other : Side) (rows : List Row) :
    (children.append side rows).get other =
      children.get other ++ if other = side then rows else [] := by
  by_cases same : other = side
  · subst same
    simp [append]
  · simp [append, get_put_other _ _ same, same]

theorem append_append (children : Children) (side : Side) (rows more : List Row) :
    (children.append side rows).append side more = children.append side (rows ++ more) := by
  cases side <;> simp [append, put, get]

end Children

variable {children : Children} {side : Side}

theorem copyRows_apart (widths : ∀ row ∈ rows, row.length = schema.columns.length)
    (apart : Apart sqlite.clashes (children.get side) rows) (distinct : Distinct sqlite.clashes rows) :
    copyRows sqlite children side rows = some (children.append side rows) := by
  have spelled : (rows.flatMap fun row => schema.columns.map (schema.value row)) =
      rows.flatten := by
    rw [List.flatMap_def]
    congr 1
    have each : ∀ row ∈ rows, schema.columns.map (schema.value row) = id row :=
      fun row member => map_value_row (widths row member)
    rw [List.map_congr_left each, List.map_id]
  rw [copyRows, routeSplitMirroredWrite, spelled,
    sqlite.execute_snapshot _ rows widths apart distinct]
  rfl

theorem chunks_flatten (positive : 0 < size)
    (enough : rows.length ≤ fuel) : (chunks size fuel rows).flatten = rows := by
  induction fuel generalizing rows with
  | zero => simp [List.eq_nil_of_length_eq_zero (Nat.le_zero.mp enough), chunks]
  | succ fuel induction =>
    rw [chunks]
    split
    next empty => simp [List.isEmpty_iff.mp empty]
    have shorter : (rows.drop size).length ≤ fuel := by
      rw [List.length_drop]
      omega
    rw [List.flatten_cons, induction shorter, List.take_append_drop]

theorem rowLimit_pos (columns requestedRows : Nat) :
    0 < resolveSplitSnapshotBatchRowLimit columns requestedRows := by
  refine lt_min (lt_max_of_lt_right one_pos) ?_
  split
  · exact lt_max_of_lt_left one_pos
  · exact one_pos

theorem copyChunks_apart {parts : List (List Row)}
    (widths : ∀ row ∈ parts.flatten, row.length = schema.columns.length)
    (apart : Apart sqlite.clashes (children.get side) parts.flatten)
    (distinct : Distinct sqlite.clashes parts.flatten) :
    parts.foldlM (fun children rows => copyRows sqlite children side rows)
      children = some (children.append side parts.flatten) := by
  induction parts generalizing children with
  | nil => cases side <;> simp [Children.append, Children.put, Children.get]
  | cons rows rest induction =>
    rw [List.flatten_cons] at widths apart distinct
    obtain ⟨distinctRows, distinctRest, between⟩ := List.pairwise_append.mp distinct
    have first := copyRows_apart
      (fun row member => widths row (List.mem_append_left _ member))
      (fun row member => apart row (List.mem_append_left _ member))
      distinctRows
    have apartRest : Apart sqlite.clashes ((children.append side rows).get side)
        rest.flatten := by
      intro row member other inTable
      rw [Children.get_append, if_pos rfl] at inTable
      rcases List.mem_append.mp inTable with old | new
      · exact apart row (List.mem_append_right _ member) other old
      · exact between other new row member
    rw [List.foldlM_cons, first, Option.bind_eq_bind, Option.bind_some,
      induction (fun row member => widths row (List.mem_append_right _ member))
        apartRest distinctRest,
      Children.append_append, List.flatten_cons]

theorem copyGroup_apart (widths : ∀ row ∈ rows, row.length = schema.columns.length)
    (apart : Apart sqlite.clashes (children.get side) rows)
    (distinct : Distinct sqlite.clashes rows) : copyGroup sqlite children (side, rows) =
      some (children.append side rows) := by
  have whole := chunks_flatten
    (rowLimit_pos schema.columns.length rows.length) (le_refl rows.length)
  unfold copyGroup
  dsimp only
  rw [copyChunks_apart (by rwa [whole]) (by rwa [whole]) (by rwa [whole]), whole]

variable {groups : Groups Side Row}

theorem copyGroups_apart (once : (groups.map Prod.fst).Nodup)
    (widths : ∀ side, ∀ row ∈ groups.members side, row.length = schema.columns.length)
    (apart : ∀ side, Apart sqlite.clashes (children.get side) (groups.members side))
    (distinct : ∀ side, Distinct sqlite.clashes (groups.members side)) :
    ∃ children', groups.foldlM (copyGroup sqlite) children = some children' ∧
      ∀ side, children'.get side = children.get side ++ groups.members side := by
  induction groups generalizing children with
  | nil => exact ⟨children, rfl, fun side => by simp⟩
  | cons group rest induction =>
    obtain ⟨side, rows⟩ := group
    obtain ⟨absent, onceRest⟩ := List.nodup_cons.mp once
    have atSide : Groups.members ((side, rows) :: rest) side = rows := by
      rw [Groups.members_cons, if_pos rfl]
    have none : Groups.members rest side = [] := Groups.members_of_absent absent
    have elsewhere : ∀ other, other ≠ side →
        Groups.members ((side, rows) :: rest) other = Groups.members rest other := by
      intro other different
      rw [Groups.members_cons, if_neg different]
    have first : copyGroup sqlite children (side, rows) =
        some (children.append side rows) := by
      apply copyGroup_apart
      · exact atSide ▸ widths side
      · exact atSide ▸ apart side
      · exact atSide ▸ distinct side
    have tables : ∀ other,
        Groups.members rest other = [] ∨
          other ≠ side ∧ Groups.members ((side, rows) :: rest) other =
            Groups.members rest other := by
      intro other
      by_cases same : other = side
      · exact .inl (same ▸ none)
      · exact .inr ⟨same, elsewhere other same⟩
    have widthsRest : ∀ other, ∀ row ∈ Groups.members rest other,
        row.length = schema.columns.length := by
      intro other
      rcases tables other with empty | ⟨_, same⟩
      · simp [empty]
      · exact same ▸ widths other
    have apartRest : ∀ other, Apart sqlite.clashes
        ((children.append side rows).get other) (Groups.members rest other) := by
      intro other
      rcases tables other with empty | ⟨different, same⟩
      · simp [empty, Apart]
      · rw [Children.get_append, if_neg different, List.append_nil]
        exact same ▸ apart other
    have distinctRest : ∀ other, Distinct sqlite.clashes (Groups.members rest other) := by
      intro other
      rcases tables other with empty | ⟨_, same⟩
      · simp [empty, Distinct]
      · exact same ▸ distinct other
    obtain ⟨children', copied, results⟩ := induction onceRest widthsRest apartRest distinctRest
    refine ⟨children', ?_, ?_⟩
    · rw [List.foldlM_cons, first]
      exact copied
    intro other
    rw [results other, Children.get_append, Groups.members_cons]
    by_cases same : other = side
    · simp [same, none]
    · simp [same]

theorem groupRows_members (once : (groups.map Prod.fst).Nodup)
    (grouped : rows.foldlM (fun groups row => do
      let side ← resolveSplitTargetPartitionId (schema.key row) splitKey
      return groups.insert side row) groups = some groups') :
    (groups'.map Prod.fst).Nodup ∧ (∀ row ∈ rows, ∃ side, sideOf schema splitKey row = some side) ∧
      ∀ side, groups'.members side = groups.members side ++ rowsOf schema splitKey side rows := by
  induction rows generalizing groups with
  | nil =>
    obtain rfl := Option.some.inj grouped
    exact ⟨once, nofun, fun side => by simp [rowsOf]⟩
  | cons row rest induction =>
    rw [List.foldlM_cons, Option.bind_eq_bind, Option.bind_eq_some_iff]
      at grouped
    obtain ⟨next, atRow, atRest⟩ := grouped
    rw [Option.bind_eq_bind, Option.bind_eq_some_iff] at atRow
    obtain ⟨side, sided, inserted⟩ := atRow
    obtain rfl := Option.some.inj inserted
    obtain ⟨once', sidedRest, tables⟩ := induction (Groups.keys_insert_nodup side row once) atRest
    have sided' : sideOf schema splitKey row = some side := sided
    refine ⟨once', ?_, ?_⟩
    · exact List.forall_mem_cons.mpr ⟨⟨side, sided⟩, sidedRest⟩
    intro other
    rw [tables other, Groups.members_insert, rowsOf, rowsOf, List.filter_cons, sided']
    by_cases same : other = side
    · simp [same]
    · simp [same, Ne.symm same]

structure Follows (schema : Schema) (splitKey : KeyValue) (children : Children)
    (source : Table) : Prop where
  sided : ∀ row ∈ source, ∃ side, sideOf schema splitKey row = some side
  rows : ∀ side, (children.get side).Perm (rowsOf schema splitKey side source)

variable {source : Table}

theorem Follows.exact (follows : Follows schema splitKey children source) :
    Exact schema splitKey children source where
  left row := by
    have onSide : row ∈ rowsOf schema splitKey .left source ↔
        row ∈ source ∧ sideOf schema splitKey row = some .left := by
      simp [rowsOf]
    exact (follows.rows .left).mem_iff.trans onSide
  right row := by
    have onSide : row ∈ rowsOf schema splitKey .right source ↔
        row ∈ source ∧ sideOf schema splitKey row ≠ some .left := by
      rw [rowsOf, List.mem_filter]
      refine and_congr_right fun inSource => ?_
      obtain ⟨side, sided⟩ := follows.sided row inSource
      cases side <;> simp [sided]
    exact (follows.rows .right).mem_iff.trans onSide

structure Stored (sqlite : Sqlite schema) (source : Table) : Prop where
  widths : ∀ row ∈ source, row.length = schema.columns.length
  distinct : source.Pairwise fun row other =>
    sqlite.clashes row other = false ∧ sqlite.clashes other row = false

theorem Stored.perm {rows : Table} (stored : Stored sqlite source)
    (same : rows.Perm source) : Stored sqlite rows where
  widths row member := stored.widths row (same.subset member)
  distinct := same.symm.pairwise stored.distinct fun both => both.symm

variable {copied : Table}

theorem routeSplitSnapshotBatch_follows
    (follows : Follows schema splitKey children copied) (stored : Stored sqlite (copied ++ batch))
    (routed : routeSplitSnapshotBatch sqlite splitKey children batch = some children') :
    Follows schema splitKey children' (copied ++ batch) := by
  rw [routeSplitSnapshotBatch, Option.bind_eq_bind, Option.bind_eq_some_iff]
    at routed
  obtain ⟨groups, grouped, routed⟩ := routed
  have empty : (([] : Groups Side Row).map Prod.fst).Nodup := List.nodup_nil
  obtain ⟨once, sided, tables⟩ := groupRows_members empty grouped
  have members : ∀ side, groups.members side =
      rowsOf schema splitKey side batch := by
    intro side
    simpa using tables side
  obtain ⟨_, distinctBatch, between⟩ := List.pairwise_append.mp stored.distinct
  have widths : ∀ side, ∀ row ∈ groups.members side,
      row.length = schema.columns.length := by
    intro side row member
    rw [members] at member
    exact stored.widths row (List.mem_append_right _ (List.mem_of_mem_filter member))
  have apart : ∀ side,
      Apart sqlite.clashes (children.get side) (groups.members side) := by
    intro side row inBatch other inChild
    rw [members] at inBatch
    have inCopied := (follows.rows side).subset inChild
    exact (between other (List.mem_of_mem_filter inCopied) row (List.mem_of_mem_filter inBatch)).2
  have distinct : ∀ side, Distinct sqlite.clashes (groups.members side) := by
    intro side
    rw [members]
    exact (distinctBatch.imp And.right).sublist List.filter_sublist
  obtain ⟨children'', routed', rows⟩ := copyGroups_apart once widths apart distinct
  obtain rfl : children'' = children' := Option.some.inj (routed'.symm.trans routed)
  constructor
  · intro row member
    rcases List.mem_append.mp member with old | new
    · exact follows.sided row old
    · exact sided row new
  · intro side
    have appended : rowsOf schema splitKey side (copied ++ batch) =
        rowsOf schema splitKey side copied ++ rowsOf schema splitKey side batch :=
      List.filter_append ..
    rw [rows, members, appended]
    exact (follows.rows side).append_right _

variable {batches : List Table}

theorem backfill_follows (follows : Follows schema splitKey children copied)
    (stored : Stored sqlite (copied ++ batches.flatten))
    (filled : batches.foldlM (routeSplitSnapshotBatch sqlite splitKey) children = some children') :
    Follows schema splitKey children' (copied ++ batches.flatten) := by
  induction batches generalizing children copied with
  | nil =>
    obtain rfl := Option.some.inj filled
    simpa using follows
  | cons batch rest induction =>
    rw [List.foldlM_cons, Option.bind_eq_bind, Option.bind_eq_some_iff]
      at filled
    obtain ⟨next, routed, filled⟩ := filled
    rw [List.flatten_cons, ← List.append_assoc] at stored ⊢
    have storedFirst : Stored sqlite (copied ++ batch) := by
      constructor
      · exact fun row member => stored.widths row (List.mem_append_left _ member)
      · exact stored.distinct.sublist (List.sublist_append_left _ _)
    exact induction (routeSplitSnapshotBatch_follows follows storedFirst routed) stored filled

theorem replaySplitEntry_follows {entry : Entry} (follows : Follows schema splitKey children source)
    (confined : Confined sqlite splitKey source entry) (isLocal : Local sqlite splitKey source entry)
    (executed : execute sqlite source entry = some source')
    (replayed : replaySplitEntry sqlite splitKey children entry =
      some children') : Follows schema splitKey children' source' := by
  simp only [replaySplitEntry, routeSplitMirroredWrite, Option.bind_eq_bind,
    Option.bind_eq_some_iff] at replayed
  obtain ⟨key, extracted, side, routed, table', child, put⟩ := replayed
  obtain rfl := Option.some.inj put
  have routedSide : routedTo schema splitKey entry = some side := by
    simp [routedTo, extracted, routed]
  obtain ⟨sided, others⟩ := confined side source' routedSide executed
  constructor
  · intro row member
    rcases sided row member with old | new
    · exact follows.sided row old
    · exact ⟨side, new⟩
  intro other
  by_cases same : other = side
  · subst same
    rw [Children.get_put]
    exact isLocal other source' _ table' routedSide executed (follows.rows other) child
  · rw [Children.get_put_other _ _ same]
    exact (follows.rows other).trans (others other same).symm

variable {entries : List Entry}

theorem replay_follows (follows : Follows schema splitKey children source)
    (confined : Allowed (execute sqlite) (Confined sqlite splitKey) source entries)
    (locals : Allowed (execute sqlite) (Local sqlite splitKey) source entries)
    (executed : entries.foldlM (execute sqlite) source = some source')
    (replayed : entries.foldlM (replaySplitEntry sqlite splitKey) children = some children') :
    Follows schema splitKey children' source' := by
  induction entries generalizing children source with
  | nil =>
    obtain rfl := Option.some.inj executed
    obtain rfl := Option.some.inj replayed
    exact follows
  | cons entry rest induction =>
    rw [List.foldlM_cons, Option.bind_eq_bind, Option.bind_eq_some_iff]
      at executed replayed
    obtain ⟨sourceNext, executedEntry, executedRest⟩ := executed
    obtain ⟨childrenNext, replayedEntry, replayedRest⟩ := replayed
    exact induction
      (replaySplitEntry_follows follows confined.1 locals.1 executedEntry replayedEntry)
      (confined.2 _ executedEntry) (locals.2 _ executedEntry) executedRest replayedRest

end

namespace Names

def schema : Schema where
  tableName := "names"
  columns := ["name"]
  primaryKeyColumn := "name"
  columns_nodup := List.nodup_cons.mpr ⟨List.not_mem_nil, List.nodup_nil⟩

def text (value : String) : KeyValue := .primitive (.string value)

theorem map_singleton_flatten {rows : List Row} (widths : ∀ row ∈ rows, row.length = 1) :
    rows.flatten.length = rows.length ∧ rows.flatten.map ([·]) = rows := by
  induction rows with
  | nil => exact ⟨rfl, rfl⟩
  | cons row rest induction =>
    obtain ⟨width, widthsRest⟩ := List.forall_mem_cons.mp widths
    obtain ⟨value, rfl⟩ := List.length_eq_one_iff.mp width
    obtain ⟨length, rows⟩ := induction widthsRest
    simp [length, rows]

/-- A database that adds the rows of a snapshot's copies and of the given texts. -/
def sqlite (statements : List (String × List Row)) : Sqlite schema where
  execute sql params table :=
    if sql = snapshotSql "names" ["name"] params.length then some (table ++ params.map ([·]))
    else (statements.lookup sql).map (table ++ ·)
  clashes
    | [.primitive (.string name)], [.primitive (.string other)] => name = other
    | _, _ => false
  execute_snapshot table rows widths _ _ := by
    obtain ⟨length, singletons⟩ := map_singleton_flatten widths
    rw [if_pos (by rw [length]; rfl), singletons]

def snapshot : Table := [[text "bea"], [text "zoe"]]

theorem snapshot_stored (statements : List (String × List Row)) :
    Stored (sqlite statements) snapshot where
  widths := by simp [snapshot, schema]
  distinct := by
    refine List.Pairwise.cons ?_ (List.pairwise_singleton _ _)
    intro row member
    obtain rfl := List.mem_singleton.mp member
    exact ⟨by simp [sqlite, text], by simp [sqlite, text]⟩

def entry (sql : String) : Entry := ⟨none, sql, [], none, none⟩

def insertOne : String := "INSERT INTO names (name) VALUES ('ann')"

def insertTwo : String := "INSERT INTO names (name) VALUES ('ann'), ('yan')"

def reads : Sqlite schema :=
  sqlite [(insertOne, [[text "ann"]]), (insertTwo, [[text "ann"], [text "yan"]])]

theorem execute_insertOne (table : Table) :
    execute reads table (entry insertOne) = some (table ++ [[text "ann"]]) := rfl

theorem routedTo_insertOne (routed : routedTo schema (text "m") (entry insertOne) = some side) :
    side = .left :=
  Option.some.inj (routed.symm.trans rfl)

theorem rowsOf_ann (side : Side) (table : Table) :
    rowsOf schema (text "m") side (table ++ [[text "ann"]]) =
      rowsOf schema (text "m") side table ++ if side = .left then [[text "ann"]] else [] := by
  rw [rowsOf, List.filter_append]
  cases side <;> rfl

theorem insertOne_confined : Confined reads (text "m") snapshot (entry insertOne) := by
  intro side source' routed executed
  obtain rfl := routedTo_insertOne routed
  obtain rfl := Option.some.inj ((execute_insertOne snapshot).symm.trans executed)
  refine ⟨fun row member => ?_, fun other different => ?_⟩
  · rcases List.mem_append.mp member with old | new
    · exact .inl old
    · obtain rfl := List.mem_singleton.mp new
      exact .inr rfl
  · rw [rowsOf_ann, if_neg different, List.append_nil]

theorem insertOne_local : Local reads (text "m") snapshot (entry insertOne) := by
  intro side source' table table' routed executed same child
  obtain rfl := routedTo_insertOne routed
  obtain rfl := Option.some.inj ((execute_insertOne snapshot).symm.trans executed)
  obtain rfl := Option.some.inj ((execute_insertOne table).symm.trans child)
  rw [rowsOf_ann, if_pos rfl]
  exact same.append_right _

end Names

end LagrangeDb.Partition
