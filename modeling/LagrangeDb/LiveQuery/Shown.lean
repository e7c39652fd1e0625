import LagrangeDb.LiveQuery.Agreement
import LagrangeDb.LiveQuery.Group

namespace LagrangeDb.LiveQuery

open Query

/-! Which rows of a group show a row of the table. -/

namespace Row

theorem get_spread (base top : Row) (name : String) : (spread base top).get name =
      if name ∈ top then top.get name else base.get name := by
  by_cases present : name ∈ top
  · simp [spread, Query.Row.get, AList.lookup_union_left present, present]
  · simp [spread, Query.Row.get, AList.lookup_union_right present, present]

theorem get_of_not_mem {row : Row} {name : String} (missing : name ∉ row) :
    row.get name = .undefined := by
  rw [Query.Row.get, AList.lookup_eq_none.mpr missing]
  rfl

theorem kunion_eq_left {first second : List (Σ _ : String, Js.Value)} (distinct : second.NodupKeys)
    (within : ∀ name ∈ second.keys, name ∈ first.keys) : first.kunion second = first := by
  induction first generalizing second with
  | nil =>
    have none : second.keys = [] :=
      List.eq_nil_iff_forall_not_mem.mpr fun name member => List.not_mem_nil (within name member)
    rw [List.nil_kunion]
    exact List.map_eq_nil_iff.mp none
  | cons entry rest induction =>
    rw [List.kunion, induction (distinct.kerase entry.1)]
    intro name member
    have differ : name ≠ entry.1 := by
      rintro rfl
      exact List.notMem_keys_kerase entry.1 distinct member
    have among := within name ((List.mem_keys_kerase_of_ne differ).mp member)
    rw [List.keys_cons, List.mem_cons] at among
    exact among.resolve_left differ

theorem spread_eq_over (within : ∀ name ∈ base, name ∈ top) :
    spread base top = top := by
  rw [spread]
  apply AList.ext
  rw [AList.union_entries]
  exact kunion_eq_left base.nodupKeys within

end Row

/-- A column of the table, under its own name or another. -/
def Shape.Returns (shape : Shape) (column : Column) (source target : String) : Prop :=
  ∃ qualifier, ∃ found ∈ shape.columns,
    column.expression = .columnRef qualifier found.name ∧
      source = found.name ∧ target = column.asName.getD found.name ∧
      target.isEmpty = false

/-- The select list is a star, or has columns of the table whose new names are not
taken for another column, and not for the key. -/
inductive Shape.Projects (shape : Shape) (key : String) : List Column → Prop where
  | star (asName : Option String) : Projects shape key [⟨.star, asName⟩]
  | columns (columns : List Column) : columns ≠ [] →
      (∀ column ∈ columns, ∃ source target, shape.Returns column source target) →
      (∀ column ∈ columns, ∀ other ∈ columns, ∀ source target source' target',
        shape.Returns column source target →
        shape.Returns other source' target' →
        target = target' ∨ target = source' → source = source') →
      (∀ column ∈ columns, ∀ source target, shape.Returns column source target →
        target ∈ [key, "id", "rowid"] → source = key) →
      Projects shape key columns

def Shape.visible (shape : Shape) (columns : List Column) : List String :=
  shape.columns.map TableColumn.name ++ columns.filterMap targetKey

structure Shape.Full (shape : Shape) (key : String) (row : Row) : Prop where
  names : ∀ name, name ∈ row ↔ name ∈ shape.columns.map TableColumn.name
  admitted : ∀ column ∈ shape.columns,
    (shape.domain column.name).admits (row.get column.name) = true
  key : (row.get key).isNullish = false

section

variable {shape : Shape} {key : String} {columns : List Column}
  {column : Column} {source target : String}

theorem Shape.Returns.columnName_eq (returns : shape.Returns column source target) :
    columnName column = some source := by
  obtain ⟨qualifier, found, member, expression, rfl, -, -⟩ := returns
  rw [columnName, expression]
  simp [nonEmpty, shape.named found member]

theorem Shape.Returns.targetKey_eq (returns : shape.Returns column source target) :
    targetKey column = some target := by
  rw [targetKey, returns.columnName_eq]
  obtain ⟨qualifier, found, member, expression, rfl, rfl, filled⟩ := returns
  cases named : column.asName with
  | none => rfl
  | some name =>
    rw [named] at filled
    have filled : name.isEmpty = false := filled
    simp [nonEmpty, filled]

theorem Shape.Returns.not_star (returns : shape.Returns column source target) :
    isStar column = false := by
  obtain ⟨qualifier, found, member, expression, -⟩ := returns
  rw [isStar, expression]

variable {row : Row}

theorem Shape.Full.present (full : shape.Full key row) {column : TableColumn}
    (member : column ∈ shape.columns) : row.get column.name ≠ .undefined := by
  intro undefined
  have admitted := full.admitted column member
  rw [undefined] at admitted
  generalize shape.domain column.name = domain at admitted
  obtain ⟨kind, nullable⟩ := domain
  cases kind <;> simp [Domain.admits, Kind.admits] at admitted

theorem Shape.Full.reads (rowFull : shape.Full key full)
    (same : ∀ column ∈ shape.columns, row.get column.name = full.get column.name)
    (hidden : ∀ name, name ∉ shape.visible columns → row.get name = .undefined) :
    shape.Reads (shape.visible columns) row full :=
  ⟨same, rowFull.admitted, hidden⟩

theorem Shape.Full.hidden (full : shape.Full key row) (name : String)
    (unseen : name ∉ shape.visible columns) : row.get name = .undefined := by
  apply Row.get_of_not_mem
  rw [full.names]
  exact fun member => unseen (List.mem_append_left _ member)

end

section

variable (sqlite : Sqlite) (shape : Shape) (key : String) (params : List Js.Value)
  (columns : List Column)

def returned (row : Row) : Row := sqlite.project shape.columns params row columns

/-- The row is projected to what SQLite returns of the table's row, and under a
star it is that row. -/
structure Shows (row full : Row) : Prop where
  projected : projectRow columns row = returned sqlite shape params columns full
  hidden : ∀ name, name ∉ shape.visible columns → row.get name = .undefined
  whole : isStarProjection columns = true → row = full

variable {sqlite shape key params columns} {row : Row}

theorem foldl_eq_returned (all : ∀ column ∈ columns, ∃ source target,
      shape.Returns column source target) {full : Row}
    (values : ∀ column ∈ columns, ∀ source target, shape.Returns column source target →
      projectedValue row column target = full.get source) :
    columns.foldl (projectSingleColumn row) ∅ = returned sqlite shape params columns full := by
  rw [returned, Sqlite.project]
  apply List.foldl_ext
  intro result column member
  obtain ⟨source, target, returns⟩ := all column member
  rw [projectSingleColumn, returns.targetKey_eq]
  dsimp only
  rw [values column member source target returns]
  obtain ⟨qualifier, found, among, expression, rfl, rfl, -⟩ := returns
  simp [expression, Sqlite.columnName, Shape.columnNamed_eq among, Sqlite.evaluate]

variable {name : String}

theorem get_foldl {start : Row}
    (agree : ∀ column ∈ columns, targetKey column = some name →
      projectedValue row column name = value) (given : start.get name = value ∨
      ∃ column ∈ columns, targetKey column = some name) :
    (columns.foldl (projectSingleColumn row) start).get name = value := by
  induction columns generalizing start with
  | nil =>
    rcases given with given | ⟨column, member, -⟩
    · exact given
    · exact absurd member List.not_mem_nil
  | cons column rest induction =>
    apply induction fun other member => agree other (List.mem_cons_of_mem _ member)
    by_cases own : targetKey column = some name
    · refine .inl ?_
      rw [projectSingleColumn, own]
      dsimp only
      rw [Row.get_insert, if_pos rfl, agree column List.mem_cons_self own]
    rcases given with given | ⟨other, member, target⟩
    · refine .inl ?_
      rw [projectSingleColumn]
      cases found : targetKey column with
      | none => exact given
      | some target =>
        have differ : name ≠ target := by
          rintro rfl
          exact own found
        dsimp only
        rw [Row.get_insert, if_neg differ, given]
    · rcases List.mem_cons.mp member with rfl | member
      · exact absurd target own
      · exact .inr ⟨other, member, target⟩

variable {column : Column} {source target : String} {row : Row}

theorem projectedValue_of_source (returns : shape.Returns column source target)
    (present : row.get source ≠ .undefined) :
    projectedValue row column target = row.get source := by
  rw [projectedValue, returns.columnName_eq, Option.map_some, Option.getD_some]
  split
  next undefined => exact absurd undefined present
  · rfl

theorem projectedValue_of_target (returns : shape.Returns column source target)
    (missing : row.get source = .undefined) (present : row.get target ≠ .undefined) :
    projectedValue row column target = row.get target := by
  rw [projectedValue, returns.columnName_eq, Option.map_some, Option.getD_some, missing]
  dsimp only
  cases found : row.get target <;> simp_all [Js.Value.isNullish]

theorem Shape.Returns.mem (returns : shape.Returns column source target) :
    ∃ found ∈ shape.columns, source = found.name := by
  obtain ⟨qualifier, found, among, -, source_eq, -⟩ := returns
  exact ⟨found, among, source_eq⟩

theorem foldl_of_same (all : ∀ column ∈ columns, ∃ source target,
      shape.Returns column source target)
    (rowFull : shape.Full key full) (same : ∀ column ∈ shape.columns,
      row.get column.name = full.get column.name) : columns.foldl (projectSingleColumn row) ∅ =
      returned sqlite shape params columns full := by
  apply foldl_eq_returned all
  intro column member source target returns
  obtain ⟨found, among, rfl⟩ := returns.mem
  rw [projectedValue_of_source returns, same found among]
  rw [same found among]
  exact rowFull.present among

theorem Shape.Projects.not_star (all : ∀ column ∈ columns, ∃ source target,
      shape.Returns column source target) (some_column : columns ≠ []) :
    isStarProjection columns = false := by
  rw [isStarProjection, Bool.or_eq_false_iff]
  refine ⟨by simpa using some_column, List.any_eq_false.mpr ?_⟩
  intro column member
  obtain ⟨source, target, returns⟩ := all column member
  simp [returns.not_star]

theorem projectRow_star (asName : Option String) (row : Row) :
    projectRow [⟨.star, asName⟩] row = row := rfl

theorem returned_star (asName : Option String) (row : Row) :
    returned sqlite shape params [⟨.star, asName⟩] row = row := by
  rw [returned, Sqlite.project]
  exact AList.union_empty

theorem Shape.Projects.shows_of_same (projects : shape.Projects key columns) (rowFull : shape.Full key full)
    (same : ∀ column ∈ shape.columns, row.get column.name = full.get column.name)
    (hidden : ∀ name, name ∉ shape.visible columns → row.get name = .undefined)
    (whole : isStarProjection columns = true → row = full) :
    Shows sqlite shape params columns row full := by
  refine ⟨?_, hidden, whole⟩
  cases projects with
  | star asName => rw [whole rfl, projectRow_star, returned_star]
  | columns _ some_column all _ _ =>
    rw [projectRow, not_star all some_column]
    exact foldl_of_same all rowFull same

theorem Shape.Projects.shows_self (projects : shape.Projects key columns)
    (full : shape.Full key row) : Shows sqlite shape params columns row row :=
  projects.shows_of_same full (fun _ _ => rfl) full.hidden fun _ => rfl

section

theorem get_spread_image (imageFull : shape.Full key image)
    {column : TableColumn} (member : column ∈ shape.columns) :
    (spread stored image).get column.name = image.get column.name := by
  rw [Row.get_spread, if_pos ((imageFull.names column.name).mpr (List.mem_map_of_mem member))]

theorem hidden_spread (imageFull : shape.Full key image)
    (shows : Shows sqlite shape params columns stored before) (name : String)
    (unseen : name ∉ shape.visible columns) : (spread stored image).get name = .undefined := by
  rw [Row.get_spread]
  split
  · exact imageFull.hidden name unseen
  · exact shows.hidden name unseen

theorem Shape.Projects.shows_spread (projects : shape.Projects key columns)
    (beforeFull : shape.Full key before) (imageFull : shape.Full key image)
    (shows : Shows sqlite shape params columns stored before) :
    Shows sqlite shape params columns (spread stored image) image := by
  refine projects.shows_of_same imageFull
    (fun column member => get_spread_image imageFull member)
    (hidden_spread imageFull shows) ?_
  intro star
  rw [shows.whole star]
  apply Row.spread_eq_over
  intro name member
  rw [imageFull.names, ← beforeFull.names]
  exact member

theorem reads_spread (imageFull : shape.Full key image)
    (shows : Shows sqlite shape params columns stored before) :
    shape.Reads (shape.visible columns) (spread stored image) image :=
  imageFull.reads (fun _ member => get_spread_image imageFull member)
    (hidden_spread imageFull shows)

end

theorem reads_self (full : shape.Full key row) : shape.Reads (shape.visible columns) row row :=
  full.reads (fun _ _ => rfl) full.hidden

section

variable (sqlite params)
  (all : ∀ column ∈ columns, ∃ source target, shape.Returns column source target)
  (apart : ∀ column ∈ columns, ∀ other ∈ columns, ∀ source target source' target',
    shape.Returns column source target → shape.Returns other source' target' →
    target = target' ∨ target = source' → source = source')
  {row : Row} (full : shape.Full key row)

include all full

theorem get_returned_missing (missing : ∀ column ∈ columns, targetKey column ≠ some name) :
    (returned sqlite shape params columns row).get name = .undefined := by
  rw [← foldl_of_same all full fun _ _ => rfl]
  exact get_foldl (fun column member target => absurd target (missing column member)) (.inl rfl)

include apart

theorem get_returned (member : column ∈ columns) (returns : shape.Returns column source target) :
    (returned sqlite shape params columns row).get target = row.get source := by
  rw [← foldl_of_same all full fun _ _ => rfl]
  refine get_foldl ?_ (.inr ⟨column, member, returns.targetKey_eq⟩)
  intro other among same
  obtain ⟨source', target', returns'⟩ := all other among
  obtain rfl : target' = target := Option.some.inj (returns'.targetKey_eq.symm.trans same)
  obtain rfl := apart other among column member _ _ _ _ returns' returns (.inl rfl)
  obtain ⟨found, present, rfl⟩ := returns.mem
  exact projectedValue_of_source returns' (full.present present)

theorem shows_returned (some_column : columns ≠ []) : Shows sqlite shape params columns
      (returned sqlite shape params columns row) row := by
  have plain := Shape.Projects.not_star all some_column
  refine ⟨?_, ?_, fun star => absurd (plain ▸ star) Bool.false_ne_true⟩
  · rw [projectRow, plain]
    apply foldl_eq_returned all
    intro column member source target returns
    obtain ⟨found, present, rfl⟩ := returns.mem
    have own := get_returned sqlite params all apart full member returns
    -- The source is a name of the row only as the source of that name.
    by_cases named : ∃ other ∈ columns, targetKey other = some found.name
    · obtain ⟨other, among, key_eq⟩ := named
      obtain ⟨source', target', returns'⟩ := all other among
      obtain rfl : target' = found.name := Option.some.inj (returns'.targetKey_eq.symm.trans key_eq)
      have same := apart other among column member _ _ _ _ returns' returns (.inr rfl)
      have value := get_returned sqlite params all apart full among returns'
      rw [same] at value
      rw [projectedValue_of_source returns, value]
      rw [value]
      exact full.present present
    · have missing := get_returned_missing sqlite params all full
        fun other among same => named ⟨other, among, same⟩
      rw [projectedValue_of_target returns missing, own]
      rw [own]
      exact full.present present
  · intro name unseen
    apply get_returned_missing sqlite params all full
    intro column member same
    exact unseen (List.mem_append_right _ (List.mem_filterMap.mpr ⟨column, member, same⟩))

end

theorem Shape.Projects.shows_returned (projects : shape.Projects key columns)
    (full : shape.Full key row) : Shows sqlite shape params columns
      (returned sqlite shape params columns row) row := by
  cases projects with
  | star asName =>
    rw [returned_star]
    exact (Shape.Projects.star asName).shows_self full
  | columns _ some_column all apart _ =>
    exact LiveQuery.shows_returned sqlite params all apart full some_column

end

def Shape.KeepsKey (shape : Shape) (key : String) (columns : List Column) : Prop :=
  isStarProjection columns = true ∨ ∃ column ∈ columns, shape.Returns column key key

namespace Group

variable {group : Group} {row : Row}

theorem getRowPrimaryKey_of_own (present : (row.get group.keyColumn).isNullish = false) :
    group.getRowPrimaryKey row = row.get group.keyColumn := by
  simp [getRowPrimaryKey, present]

theorem getRowPrimaryKey_of_names
    (names : ∀ name ∈ [group.keyColumn, "id", "rowid"],
      row.get name = value ∨ row.get name = .undefined) : group.getRowPrimaryKey row = value ∨
      (group.getRowPrimaryKey row).isNullish = true := by
  simp only [List.mem_cons, List.not_mem_nil, or_false, forall_eq_or_imp, forall_eq] at names
  obtain ⟨own, id, rowid⟩ := names
  simp only [getRowPrimaryKey]
  split
  next present =>
    exact .inl (own.resolve_right fun missing => by simp [missing,
      Js.Value.isNullish] at present)
  split
  next present =>
    exact .inl (id.resolve_right fun missing => by simp [missing,
      Js.Value.isNullish] at present)
  split
  next present =>
    exact .inl (rowid.resolve_right fun missing => by simp [missing,
      Js.Value.isNullish] at present)
  · exact .inr rfl

end Group

section

variable (sqlite : Sqlite) (params : List Js.Value) {shape : Shape}
  {columns : List Column} {group : Group} {row : Row}

theorem Shape.Projects.key_returned (projects : shape.Projects group.keyColumn columns)
    (full : shape.Full group.keyColumn row) :
    group.getRowPrimaryKey (returned sqlite shape params columns row) =
        row.get group.keyColumn ∨ (group.getRowPrimaryKey
        (returned sqlite shape params columns row)).isNullish = true := by
  cases projects with
  | star asName =>
    rw [returned_star]
    exact .inl (Group.getRowPrimaryKey_of_own full.key)
  | columns _ some_column all apart keyed =>
    apply Group.getRowPrimaryKey_of_names
    intro name looked
    by_cases named : ∃ column ∈ columns, targetKey column = some name
    · obtain ⟨column, member, target_eq⟩ := named
      obtain ⟨source, target, returns⟩ := all column member
      obtain rfl : target = name := Option.some.inj (returns.targetKey_eq.symm.trans target_eq)
      refine .inl ?_
      rw [get_returned sqlite params all apart full member returns,
        keyed column member source target returns looked]
    · exact .inr (get_returned_missing sqlite params all full
        fun column member same => named ⟨column, member, same⟩)

theorem Shape.Projects.key_returned_of_keepsKey (projects : shape.Projects group.keyColumn columns)
    (full : shape.Full group.keyColumn row) (keeps : shape.KeepsKey group.keyColumn columns) :
    group.getRowPrimaryKey (returned sqlite shape params columns row) =
      row.get group.keyColumn := by
  cases projects with
  | star asName =>
    rw [returned_star]
    exact Group.getRowPrimaryKey_of_own full.key
  | columns _ some_column all apart keyed =>
    rcases keeps with star | ⟨column, member, returns⟩
    · exact absurd (Shape.Projects.not_star all some_column ▸ star)
        Bool.false_ne_true
    · have own := get_returned sqlite params all apart full member returns
      rw [Group.getRowPrimaryKey_of_own (own ▸ full.key), own]

end

end LagrangeDb.LiveQuery
