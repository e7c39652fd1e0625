import LagrangeDb.Data.Run
import LagrangeDb.LiveQuery.Shown

namespace LagrangeDb.LiveQuery

open Query Data

/-! A client that applies the events of its group holds what the query returns. -/

/-- A live query whose predicate and projection are SQLite's. -/
structure Fit (setting : Setting) (shape : Shape) (key : String) (query : Select) :
    Prop where
  incremental : isComplexQuery query = false
  schema : setting.schema = shape.columns
  folds : setting.regExp.FoldsAscii
  keyed : setting.primaryKeyColumns.head? = some key
  named : key.isEmpty = false
  condition : ∀ expression, query.condition = some expression →
    ∃ certain, shape.Agreeable (shape.visible query.columns) certain expression
  projects : shape.Projects key query.columns

/-- A change the group can follow: the first column of the key is unique and is not
changed, there is no UPSERT, a DELETE has the old row, and so has an UPDATE if the
query does not return the key. -/
def Covered (shape : Shape) (key : String) (query : Select) (live : Live)
    (delivery : Write × Change) : Prop :=
  match delivery.1 with
  | .insert row => shape.Full key row ∧
      ∀ other ∈ live.table, other.get key ≠ row.get key
  | .update old new => shape.Full key new ∧ new.get key = old.get key ∧
      (delivery.2.oldData = some old ∨ shape.KeepsKey key query.columns)
  | .upsert _ => False
  | .delete row => delivery.2.oldData = some row

section

variable (setting : Setting) (shape : Shape) (key : String) (query : Select)
  (params : List Js.Value)

abbrev satisfied (row : Row) : Bool :=
  setting.sqlite.satisfies shape.columns params row query.condition

abbrev Shown (row full : Row) : Prop := Shows setting.sqlite shape params query.columns row full

/-- The rows of the group are rows of the result, and all of them if the query
returns the key. -/
structure Tracks (resultSet : AList fun _ : Js.Value => Row) (table : List Row) :
    Prop where
  shown : ∀ found stored, resultSet.lookup found = some stored →
    ∃ row ∈ table, row.get key = found ∧ satisfied setting shape query params row = true ∧
      Shown setting shape query params stored row
  kept : shape.KeepsKey key query.columns → ∀ row ∈ table,
    satisfied setting shape query params row = true → (resultSet.lookup (row.get key)).isSome = true

structure Sound (live : Live) : Prop where
  queried : live.group.query = query
  bound : live.group.params = params
  keyColumn : live.group.keyColumn = key
  full : ∀ row ∈ live.table, shape.Full key row
  keys : (live.table.map fun row => row.get key).Nodup
  tracks : Tracks setting shape key query params live.group.resultSet live.table
  client : live.client.Perm
    ((live.table.filter (satisfied setting shape query params)).map
      (returned setting.sqlite shape params query.columns))

variable {setting shape key query params}

def IsRest (key : String) (value : Js.Value) (table rest : List Row) : Prop :=
  ∀ row, row ∈ rest ↔ row ∈ table ∧ row.get key ≠ value

namespace Tracks

theorem drop (tracks : Tracks setting shape key query params resultSet table)
    (others : IsRest key value table rest) :
    Tracks setting shape key query params (resultSet.erase value) rest := by
  constructor
  · intro found stored lookup
    have differ : found ≠ value := by
      rintro rfl
      rw [AList.lookup_erase] at lookup
      exact absurd lookup (Option.some_ne_none stored).symm
    rw [AList.lookup_erase_ne differ] at lookup
    obtain ⟨row, member, keyed, also⟩ := tracks.shown found stored lookup
    exact ⟨row, (others row).mpr ⟨member, keyed ▸ differ⟩, keyed, also⟩
  · intro keeps row member satisfied
    obtain ⟨among, differ⟩ := (others row).mp member
    rw [AList.lookup_erase_ne differ]
    exact tracks.kept keeps row among satisfied

theorem skip (tracks : Tracks setting shape key query params resultSet rest)
    (unsatisfied : satisfied setting shape query params row = false) :
    Tracks setting shape key query params resultSet (row :: rest) := by
  constructor
  · intro found stored lookup
    obtain ⟨other, member, also⟩ := tracks.shown found stored lookup
    exact ⟨other, List.mem_cons_of_mem _ member, also⟩
  intro keeps other member satisfies
  rcases List.mem_cons.mp member with rfl | member
  · exact absurd (unsatisfied ▸ satisfies) Bool.false_ne_true
  · exact tracks.kept keeps other member satisfies

theorem put (tracks : Tracks setting shape key query params resultSet table)
    {stored : Row} (others : IsRest key (row.get key) table rest)
    (satisfies : satisfied setting shape query params row = true)
    (shown : Shown setting shape query params stored row) : Tracks setting shape key query params
      (resultSet.insert (row.get key) stored) (row :: rest) := by
  constructor
  · intro found other lookup
    by_cases own : found = row.get key
    · subst own
      rw [AList.lookup_insert, Option.some.injEq] at lookup
      subst lookup
      exact ⟨row, List.mem_cons_self, rfl, satisfies, shown⟩
    · rw [AList.lookup_insert_ne own] at lookup
      obtain ⟨source, member, keyed, also⟩ := tracks.shown found other lookup
      exact ⟨source, List.mem_cons_of_mem _
        ((others source).mpr ⟨member, keyed ▸ own⟩), keyed, also⟩
  · intro keeps other member satisfiesOther
    rcases List.mem_cons.mp member with rfl | member
    · rw [AList.lookup_insert]
      rfl
    obtain ⟨among, differ⟩ := (others other).mp member
    rw [AList.lookup_insert_ne differ]
    exact tracks.kept keeps other among satisfiesOther

end Tracks

variable {row : Row} {table : List Row}

theorem isRest_of_fresh (fresh : ∀ other ∈ table, other.get key ≠ row.get key) :
    IsRest key (row.get key) table table :=
  fun other => ⟨fun member => ⟨member, fresh other member⟩, And.left⟩

theorem eq_of_key (keys : (table.map fun row => row.get key).Nodup)
    {other : Row} (member : row ∈ table) (among : other ∈ table)
    (same : row.get key = other.get key) : row = other :=
  List.inj_on_of_nodup_map keys member among same

theorem isRest_erase (keys : (table.map fun row => row.get key).Nodup) (member : row ∈ table) :
    IsRest key (row.get key) table (table.erase row) := by
  intro other
  rw [keys.of_map.mem_erase_iff, and_comm]
  refine and_congr_right fun among => not_congr ⟨?_, ?_⟩
  · rintro rfl
    rfl
  · exact fun same => eq_of_key keys among member same

section

variable (fit : Fit setting shape key query) {live : Live}
  (sound : Sound setting shape key query params live)

include fit sound

variable {full : Row}

theorem predicate_eq (reads : shape.Reads (shape.visible query.columns) row full) :
    live.group.predicate setting.regExp row = satisfied setting shape query params full := by
  rw [Group.predicate, compilePredicate, sound.queried, sound.bound, satisfied, Sqlite.satisfies]
  cases condition : query.condition with
  | none => rfl
  | some expression =>
    obtain ⟨certain, agreeable⟩ := fit.condition expression condition
    have agrees := (agreeable.sound reads setting.sqlite fit.folds params).1
    rw [Option.all_some, Option.all_some, Bool.eq_iff_iff, agrees, decide_eq_true_eq]

omit fit in
theorem project_eq (shown : Shown setting shape query params row full) : live.group.project row =
      returned setting.sqlite shape params query.columns full := by
  rw [Group.project, sound.queried]
  exact shown.projected

omit fit in
theorem key_eq (full : shape.Full key row) : live.group.getRowPrimaryKey row = row.get key := by
  have own := sound.keyColumn
  subst own
  exact Group.getRowPrimaryKey_of_own full.key

omit fit in
theorem stored_shown {stored : Row} (member : row ∈ live.table)
    (found : live.group.storedRow (row.get key) = some stored) :
    satisfied setting shape query params row = true ∧
      Shown setting shape query params stored row := by
  rw [Group.storedRow, (sound.full row member).key] at found
  obtain ⟨other, among, keyed, satisfies, shown⟩ := sound.tracks.shown _ stored found
  obtain rfl := eq_of_key sound.keys among member keyed
  exact ⟨satisfies, shown⟩

theorem evaluateInsert_eq (full : shape.Full key row) :
    live.group.evaluateInsert setting.regExp row =
      if satisfied setting shape query params row then ({ live.group with
            resultSet := live.group.resultSet.insert (row.get key) row },
          some (.insert (returned setting.sqlite shape params query.columns row)))
      else
        ({ live.group with
            resultSet := live.group.resultSet.erase (row.get key) }, none) := by
  rw [Group.evaluateInsert, key_eq sound full, predicate_eq fit sound (reads_self full),
    project_eq sound (fit.projects.shows_self full), Group.store, Group.discard,
    full.key]
  rfl

theorem evaluateDelete_eq (member : row ∈ live.table) :
    live.group.evaluateDelete setting.regExp row = ({ live.group with
          resultSet := live.group.resultSet.erase (row.get key) },
        if satisfied setting shape query params row then
          some (.delete (returned setting.sqlite shape params query.columns row))
        else none) := by
  have full := sound.full row member
  rw [Group.evaluateDelete, key_eq sound full, Group.discard, full.key]
  cases found : live.group.storedRow (row.get key) with
  | none =>
    simp only [Option.map_none, Option.getD_none, Option.isSome_none,
      Bool.false_or, predicate_eq fit sound (reads_self full),
      project_eq sound (fit.projects.shows_self full)]
    rfl
  | some stored =>
    obtain ⟨satisfies, shown⟩ := stored_shown sound member found
    simp only [Option.map_some, Option.getD_some, Option.isSome_some,
      Bool.true_or, if_true, satisfies,
      project_eq sound (fit.projects.shows_spread full full shown)]
    rfl

theorem effective_new (member : old ∈ live.table) (full : shape.Full key new) :
    ∃ row, Group.effective (live.group.storedRow (old.get key)) (some new) =
        some row ∧ Shown setting shape query params row new ∧
      live.group.predicate setting.regExp row = satisfied setting shape query params new := by
  cases found : live.group.storedRow (old.get key) with
  | none =>
    exact ⟨new, rfl, fit.projects.shows_self full, predicate_eq fit sound (reads_self full)⟩
  | some stored =>
    obtain ⟨-, shown⟩ := stored_shown sound member found
    exact ⟨spread stored new, rfl, fit.projects.shows_spread (sound.full old member) full shown,
      predicate_eq fit sound (reads_spread full shown)⟩

theorem effective_old (member : old ∈ live.table) (described : image.all (· = old) = true)
    (given : image = some old ∨ shape.KeepsKey key query.columns) :
    ((live.group.storedRow (old.get key)).isSome ||
      (Group.effective (live.group.storedRow (old.get key)) image).any
        (live.group.predicate setting.regExp)) = satisfied setting shape query params old ∧
      (satisfied setting shape query params old = true → ∃ row,
        Group.effective (live.group.storedRow (old.get key)) image = some row ∧
          Shown setting shape query params row old) := by
  have full := sound.full old member
  have shows : Shown setting shape query params old old := fit.projects.shows_self full
  cases found : live.group.storedRow (old.get key) with
  | none =>
    cases image with
    | none =>
      -- Nothing is stored and nothing is told: the row was not in the result.
      have unsatisfied : satisfied setting shape query params old = false := by
        rw [Bool.eq_false_iff]
        intro satisfies
        have kept := sound.tracks.kept (given.resolve_left nofun) old member
          satisfies
        rw [Group.storedRow, full.key] at found
        have found : live.group.resultSet.lookup (old.get key) = none := found
        rw [found] at kept
        exact absurd kept Bool.false_ne_true
      rw [unsatisfied]
      exact ⟨rfl, nofun⟩
    | some image =>
      obtain rfl : image = old := of_decide_eq_true described
      refine ⟨?_, fun _ => ⟨image, rfl, shows⟩⟩
      exact predicate_eq fit sound (reads_self full)
  | some stored =>
    obtain ⟨satisfies, shown⟩ := stored_shown sound member found
    refine ⟨satisfies.symm, fun _ => ?_⟩
    cases image with
    | none =>
      refine ⟨stored, ?_, shown⟩
      rw [Group.effective, Option.getD_none, spread, AList.empty_union]
    | some image =>
      obtain rfl : image = old := of_decide_eq_true described
      exact ⟨_, rfl, fit.projects.shows_spread full full shown⟩

theorem evaluateUpdate_eq (member : old ∈ live.table) (full : shape.Full key new)
    (keyed : new.get key = old.get key) (described : image.all (· = old) = true)
    (given : image = some old ∨ shape.KeepsKey key query.columns) :
    ∃ stored, Shown setting shape query params stored new ∧
      live.group.evaluateUpdate setting.regExp image (some new) =
        if satisfied setting shape query params new then ({ live.group with
              resultSet := live.group.resultSet.insert (new.get key) stored },
            if satisfied setting shape query params old then
              some (.update (returned setting.sqlite shape params query.columns old)
                (returned setting.sqlite shape params query.columns new))
            else some (.insert
              (returned setting.sqlite shape params query.columns new)))
        else
          ({ live.group with
              resultSet := live.group.resultSet.erase (new.get key) },
            if satisfied setting shape query params old then
              some (.delete (returned setting.sqlite shape params query.columns old))
            else none) := by
  obtain ⟨row, isRow, shown, matches_new⟩ := effective_new fit sound member full
  obtain ⟨matches_old, told⟩ := effective_old fit sound member described given
  refine ⟨row, shown, ?_⟩
  simp only [Group.evaluateUpdate, Option.map_some, Option.getD_some,
    key_eq sound full, Bool.false_eq_true, if_false, keyed, isRow, matches_old,
    Option.filter_some, matches_new, Group.store, Group.discard,
    (sound.full old member).key]
  cases satisfied setting shape query params new with
  | true =>
    cases satisfies : satisfied setting shape query params old with
    | true =>
      obtain ⟨before, isBefore, shownBefore⟩ := told satisfies
      simp [isBefore, project_eq sound shown, project_eq sound shownBefore]
    | false => simp [project_eq sound shown]
  | false =>
    cases satisfies : satisfied setting shape query params old with
    | true =>
      obtain ⟨before, isBefore, shownBefore⟩ := told satisfies
      simp [isBefore, project_eq sound shownBefore]
    | false => simp

omit fit in
theorem Sound.next
    {client : List Row} (full : ∀ row ∈ table, shape.Full key row)
    (keys : (table.map fun row => row.get key).Nodup)
    (tracks : Tracks setting shape key query params resultSet table)
    (held : client.Perm
      ((table.filter (satisfied setting shape query params)).map
        (returned setting.sqlite shape params query.columns))) :
    Sound setting shape key query params
      ⟨{ live.group with resultSet := resultSet }, client, table⟩ :=
  ⟨sound.queried, sound.bound, sound.keyColumn, full, keys, tracks, held⟩

omit fit in
theorem Sound.client_erase (member : row ∈ live.table) : live.client.Perm
      ((((row :: live.table.erase row).filter (satisfied setting shape query params))).map
          (returned setting.sqlite shape params query.columns)) :=
  sound.client.trans (((List.perm_cons_erase member).filter _).map _)

theorem insert_sound (full : shape.Full key row)
    (fresh : ∀ other ∈ live.table, other.get key ≠ row.get key) :
    let (group, event) := live.group.evaluateInsert setting.regExp row
    Sound setting shape key query params ⟨group,
      (event.map (applyEvent live.client)).getD live.client,
      row :: live.table⟩ := by
  rw [evaluateInsert_eq fit sound full]
  have allFull : ∀ other ∈ row :: live.table, shape.Full key other :=
    List.forall_mem_cons.mpr ⟨full, sound.full⟩
  have keys : ((row :: live.table).map fun row => row.get key).Nodup := by
    rw [List.map_cons, List.nodup_cons]
    refine ⟨?_, sound.keys⟩
    intro member
    obtain ⟨other, among, same⟩ := List.mem_map.mp member
    exact fresh other among same
  have rest := isRest_of_fresh fresh
  cases satisfies : satisfied setting shape query params row with
  | true =>
    refine sound.next allFull keys (sound.tracks.put rest satisfies
      (fit.projects.shows_self full)) ?_
    rw [List.filter_cons_of_pos satisfies, List.map_cons]
    exact sound.client.cons _
  | false =>
    refine sound.next allFull keys ((sound.tracks.drop rest).skip satisfies) ?_
    rw [List.filter_cons_of_neg (by simp [satisfies])]
    exact sound.client

theorem delete_sound (member : row ∈ live.table) :
    let (group, event) := live.group.evaluateDelete setting.regExp row
    Sound setting shape key query params ⟨group,
      (event.map (applyEvent live.client)).getD live.client,
      live.table.erase row⟩ := by
  rw [evaluateDelete_eq fit sound member]
  have client := sound.client_erase member
  refine sound.next
    (fun other among => sound.full other (List.mem_of_mem_erase among))
    (sound.keys.sublist (List.erase_sublist.map _))
    (sound.tracks.drop (isRest_erase sound.keys member)) ?_
  cases satisfies : satisfied setting shape query params row with
  | true =>
    rw [List.filter_cons_of_pos satisfies, List.map_cons] at client
    exact (client.erase _).trans (by rw [List.erase_cons_head])
  | false =>
    rw [List.filter_cons_of_neg (by simp [satisfies])] at client
    exact client

theorem update_sound (member : old ∈ live.table) (full : shape.Full key new)
    (keyed : new.get key = old.get key) (described : image.all (· = old) = true)
    (given : image = some old ∨ shape.KeepsKey key query.columns) :
    let (group, event) := live.group.evaluateUpdate setting.regExp image (some new)
    Sound setting shape key query params ⟨group,
      (event.map (applyEvent live.client)).getD live.client,
      new :: live.table.erase old⟩ := by
  obtain ⟨stored, shown, answer⟩ := evaluateUpdate_eq fit sound member full keyed described given
  rw [answer]
  have client := sound.client_erase member
  have allFull : ∀ row ∈ new :: live.table.erase old, shape.Full key row :=
    List.forall_mem_cons.mpr ⟨full, fun other among =>
      sound.full other (List.mem_of_mem_erase among)⟩
  have rest : IsRest key (new.get key) live.table (live.table.erase old) :=
    keyed ▸ isRest_erase sound.keys member
  have keys : ((new :: live.table.erase old).map fun row => row.get key).Nodup := by
    rw [List.map_cons, keyed]
    exact ((List.perm_cons_erase member).map _).nodup_iff.mp sound.keys
  have removed : ∀ {row : Row} {others : List Row},
      live.client.Perm (row :: others) → (live.client.erase row).Perm others := by
    intro row others same
    exact (same.erase row).trans (by rw [List.erase_cons_head])
  cases satisfiesNew : satisfied setting shape query params new with
  | true =>
    refine sound.next allFull keys (sound.tracks.put rest satisfiesNew shown) ?_
    rw [List.filter_cons_of_pos satisfiesNew, List.map_cons]
    cases satisfiesOld : satisfied setting shape query params old with
    | true =>
      rw [List.filter_cons_of_pos satisfiesOld, List.map_cons] at client
      exact (removed client).cons _
    | false =>
      rw [List.filter_cons_of_neg (by simp [satisfiesOld])] at client
      exact client.cons _
  | false =>
    refine sound.next allFull keys ((sound.tracks.drop rest).skip satisfiesNew) ?_
    rw [List.filter_cons_of_neg (by simp [satisfiesNew])]
    cases satisfiesOld : satisfied setting shape query params old with
    | true =>
      rw [List.filter_cons_of_pos satisfiesOld, List.map_cons] at client
      exact removed client
    | false =>
      rw [List.filter_cons_of_neg (by simp [satisfiesOld])] at client
      exact client

theorem step_sound {next : Live} (covered : Covered shape key query live delivery)
    (stepped : setting.step live delivery = some next) :
    Sound setting shape key query params next := by
  obtain ⟨write, change⟩ := delivery
  rw [Setting.step] at stepped
  split at stepped
  · next described =>
    obtain ⟨table, applied, rfl⟩ := Option.map_eq_some_iff.mp stepped
    obtain ⟨operation, data, oldData⟩ := change
    cases write with
    | insert row =>
      simp only [Write.describedBy, Bool.and_eq_true, decide_eq_true_eq]
        at described
      obtain ⟨rfl, rfl⟩ := described
      dsimp only [Write.apply] at applied
      split at applied
      · cases applied
      · cases applied
        exact insert_sound fit sound covered.1 covered.2
    | update old new =>
      simp only [Write.describedBy, Bool.and_eq_true, decide_eq_true_eq]
        at described
      obtain ⟨⟨rfl, rfl⟩, image⟩ := described
      dsimp only [Write.apply] at applied
      split at applied
      · next admitted =>
        cases applied
        exact update_sound fit sound admitted.1 covered.1 covered.2.1 image
          covered.2.2
      · cases applied
    | upsert row => exact absurd covered id
    | delete row =>
      simp only [Write.describedBy, Bool.and_eq_true, decide_eq_true_eq]
        at described
      obtain ⟨⟨⟨rfl, -⟩, -⟩, -⟩ := described
      obtain rfl : oldData = some row := covered
      dsimp only [Write.apply] at applied
      split at applied
      · next member =>
        cases applied
        exact delete_sound fit sound member
      · cases applied
  · cases stepped

end

theorem storeSnapshotRows_eq (rows : List Row) (group : Group) :
    ∃ resultSet, group.storeSnapshotRows rows = { group with resultSet } ∧
      (∀ found stored, resultSet.lookup found = some stored →
        group.resultSet.lookup found = some stored ∨
          stored ∈ rows ∧ group.getRowPrimaryKey stored = found ∧ found.isNullish = false) ∧
      (∀ found, (group.resultSet.lookup found).isSome = true →
        (resultSet.lookup found).isSome = true) ∧
      ∀ row ∈ rows, (group.getRowPrimaryKey row).isNullish = false →
        (resultSet.lookup (group.getRowPrimaryKey row)).isSome = true := by
  induction rows generalizing group with
  | nil =>
    exact ⟨group.resultSet, rfl, fun _ _ lookup => .inl lookup,
      fun _ present => present, fun _ member => absurd member List.not_mem_nil⟩
  | cons row rest induction =>
    cases keyless : (group.getRowPrimaryKey row).isNullish with
    | true =>
      obtain ⟨resultSet, same, from_rows, kept, all⟩ := induction group
      have unstored : group.store (group.getRowPrimaryKey row) row = group := by
        rw [Group.store, keyless, if_pos rfl]
      refine ⟨resultSet, ?_, ?_, kept, ?_⟩
      · rw [Group.storeSnapshotRows, List.foldl_cons, unstored]
        exact same
      · intro found stored lookup
        refine (from_rows found stored lookup).imp_right fun also => ?_
        exact ⟨List.mem_cons_of_mem _ also.1, also.2⟩
      intro other member keyed
      rcases List.mem_cons.mp member with rfl | member
      · rw [keyless] at keyed
        exact absurd keyed.symm Bool.false_ne_true
      · exact all other member keyed
    | false =>
      have stored_eq : group.store (group.getRowPrimaryKey row) row =
          { group with resultSet :=
              group.resultSet.insert (group.getRowPrimaryKey row) row } := by
        rw [Group.store, keyless]
        rfl
      obtain ⟨resultSet, same, from_rows, kept, all⟩ :=
        induction (group.store (group.getRowPrimaryKey row) row)
      rw [stored_eq] at same from_rows kept all
      refine ⟨resultSet, ?_, ?_, ?_, ?_⟩
      · rw [Group.storeSnapshotRows, List.foldl_cons, stored_eq]
        exact same
      · intro found stored lookup
        rcases from_rows found stored lookup with before | also
        · by_cases own : found = group.getRowPrimaryKey row
          · subst own
            rw [AList.lookup_insert, Option.some.injEq] at before
            subst before
            exact .inr ⟨List.mem_cons_self, rfl, keyless⟩
          · rw [AList.lookup_insert_ne own] at before
            exact .inl before
        · exact .inr ⟨List.mem_cons_of_mem _ also.1, also.2⟩
      · intro found present
        apply kept
        by_cases own : found = group.getRowPrimaryKey row
        · subst own
          rw [AList.lookup_insert]
          rfl
        · rwa [AList.lookup_insert_ne own]
      · intro other member keyed
        rcases List.mem_cons.mp member with rfl | member
        · apply kept
          rw [AList.lookup_insert]
          rfl
        · exact all other member keyed

theorem initial_sound (fit : Fit setting shape key query) (full : ∀ row ∈ table, shape.Full key row)
    (keys : (table.map fun row => row.get key).Nodup) :
    Sound setting shape key query params (setting.executeInitialQuery query params table) := by
  let group : Group := ⟨query, params, setting.primaryKeyColumns.head?, ∅⟩
  let result := table.filter (satisfied setting shape query params)
  let rows := result.map (returned setting.sqlite shape params query.columns)
  have keyColumn : group.keyColumn = key := by
    simp [group, Group.keyColumn, fit.keyed, nonEmpty, fit.named]
  have member : ∀ {row}, row ∈ result → row ∈ table ∧
      satisfied setting shape query params row = true := List.mem_filter.mp
  obtain ⟨resultSet, stores, from_rows, -, all⟩ := storeSnapshotRows_eq rows group
  have snapshot : setting.executeInitialQuery query params table =
      ⟨{ group with resultSet }, rows.map group.project, table⟩ := by
    rw [Setting.executeInitialQuery, Setting.select, Sqlite.select, fit.schema, ← stores]
    rfl
  rw [snapshot]
  refine ⟨rfl, rfl, keyColumn, full, keys, ⟨?_, ?_⟩, ?_⟩
  · intro found stored lookup
    rcases from_rows found stored lookup with none | ⟨among, keyed, present⟩
    · exact absurd none (Option.some_ne_none stored).symm
    obtain ⟨row, selected, rfl⟩ := List.mem_map.mp among
    obtain ⟨inTable, satisfies⟩ := member selected
    refine ⟨row, inTable, ?_, satisfies, fit.projects.shows_returned (full row inTable)⟩
    rw [← keyColumn, ← keyed]
    rw [← keyed] at present
    have either := Shape.Projects.key_returned setting.sqlite params
      (keyColumn ▸ fit.projects) (keyColumn ▸ full row inTable)
    exact (either.resolve_right fun nullish =>
      absurd (present.symm.trans nullish) Bool.false_ne_true).symm
  · intro keeps row inTable satisfies
    have selected : row ∈ result := List.mem_filter.mpr ⟨inTable, satisfies⟩
    have own := Shape.Projects.key_returned_of_keepsKey setting.sqlite params
      (keyColumn ▸ fit.projects) (keyColumn ▸ full row inTable)
      (keyColumn ▸ keeps)
    rw [keyColumn] at own
    rw [← own]
    apply all _ (List.mem_map_of_mem selected)
    rw [own]
    exact (full row inTable).key
  · apply List.Perm.of_eq
    rw [List.map_map]
    apply List.map_congr_left
    intro row selected
    exact (fit.projects.shows_returned (full row (member selected).1)).projected

/-- In every run whose changes the group can follow, the client has the rows the
query returns from the table. -/
theorem live_query_equals_select (fit : Fit setting shape key query)
    (params : List Js.Value) {table : List Row} (full : ∀ row ∈ table, shape.Full key row)
    (keys : (table.map fun row => row.get key).Nodup)
    {deliveries : List (Write × Change)} {final : Live}
    (covered : Allowed setting.step (Covered shape key query)
      (setting.executeInitialQuery query params table) deliveries)
    (ran : deliveries.foldlM setting.step
      (setting.executeInitialQuery query params table) = some final) :
    final.client.Perm (setting.select query params final.table) := by
  have sound : Sound setting shape key query params final :=
    run_invariant (fun sound covered stepped => step_sound fit sound covered stepped)
      (initial_sound fit full keys) covered ran
  rw [Setting.select, Sqlite.select, fit.schema]
  exact sound.client

end

namespace Sample

def columns : List TableColumn := [⟨"id", .numeric⟩, ⟨"state", .text⟩]

def setting : Setting where
  regExp := ⟨asciiUpper⟩
  sqlite := ⟨.string, fun _ => .finite 0, Js.Number.toText, fun _ => ""⟩
  schema := columns
  primaryKeyColumns := ["id"]

def query (condition : Option Expr) : Select where
  distinct := false
  columns := [⟨.star, none⟩]
  source := some (.table "notes" none)
  joins := []
  condition := condition
  groupBy := []
  having := none
  orderBy := []
  limit := none
  ctes := []
  recursive := false
  setOperation := none

def note (id : ℚ) (state : String) : Row :=
  (AList.singleton "id" (Js.Value.number (.finite id))).insert "state" (Js.Value.string state)

def stored : List (Write × Change) :=
  [(.upsert (note 1 "open"), ⟨.upsert, some (note 1 "open"), none⟩)]

/-- A row that is upserted is in the result of a query without a WHERE clause, and
no client hears of it. -/
theorem upsert_not_sent : isComplexQuery (query none) = false ∧ ∃ final, stored.foldlM setting.step
        (setting.executeInitialQuery (query none) [] []) = some final ∧
      setting.select (query none) [] final.table = [note 1 "open"] ∧ final.client = [] := by
  exact ⟨rfl, ⟨⟨query none, [], some "id", ∅⟩, [], [note 1 "open"]⟩, rfl, rfl, rfl⟩

def isOpen : Expr := .binary .equals (.columnRef none "state") (.literal (.string "open"))

def shape : Shape where
  columns := columns
  domain := fun name => if name = "id" then ⟨.number, false⟩ else ⟨.text, true⟩
  named := by decide
  distinct := by decide +kernel

theorem fit : Fit setting shape "id" (query (some isOpen)) where
  incremental := rfl
  schema := rfl
  folds := fun _ _ => rfl
  keyed := rfl
  named := by decide
  condition := by
    rintro _ ⟨⟩
    refine ⟨_, .equals .text true false nofun rfl
      (.column none ⟨"state", .text⟩ (by decide) (fun _ admitted => admitted)
        (.inr rfl) nofun) (.literal _ rfl)⟩
  projects := .star none

theorem full (id : ℚ) (state : String) : shape.Full "id" (note id state) := by
  refine ⟨?_, ?_, rfl⟩
  · intro name
    simp [note, shape, columns, AList.singleton, or_comm]
  intro column member
  simp only [shape, columns, List.mem_cons, List.not_mem_nil, or_false] at member
  rcases member with rfl | rfl <;> rfl

def worked : List (Write × Change) :=
  [(.insert (note 2 "open"), ⟨.insert, some (note 2 "open"), none⟩),
   (.update (note 1 "open") (note 1 "done"), ⟨.update, some (note 1 "done"), none⟩),
   (.delete (note 2 "open"), ⟨.delete, none, some (note 2 "open")⟩)]

theorem worked_followed : ∃ final, worked.foldlM setting.step
        (setting.executeInitialQuery (query (some isOpen)) [] [note 1 "open"]) = some final ∧
      final.client.Perm (setting.select (query (some isOpen)) [] final.table) := by
  have ends : (worked.foldlM setting.step (setting.executeInitialQuery
      (query (some isOpen)) [] [note 1 "open"])).isSome = true := by
    decide +kernel
  obtain ⟨final, ran⟩ := Option.isSome_iff_exists.mp ends
  have rows : ∀ row ∈ [note 1 "open"], shape.Full "id" row := by simp [full]
  have keys : ([note 1 "open"].map fun row => row.get "id").Nodup := by simp
  have covered : Allowed setting.step (Covered shape "id" (query (some isOpen)))
      (setting.executeInitialQuery (query (some isOpen)) [] [note 1 "open"])
      worked := by
    refine ⟨⟨full 2 "open", ?_⟩, fun _ _ => ⟨⟨full 1 "done", rfl, .inr (.inl rfl)⟩,
      fun _ _ => ⟨rfl, fun _ _ => trivial⟩⟩⟩
    intro other member
    obtain rfl := List.mem_singleton.mp member
    decide
  exact ⟨final, ran, live_query_equals_select fit [] rows keys covered ran⟩

end Sample

end LagrangeDb.LiveQuery
