import Mathlib.Data.List.Induction

namespace LagrangeDb

/-! Items grouped by a key in the order in which the keys first occur. -/

abbrev Groups (key item : Type*) := List (key × List item)

namespace Groups

variable {key item : Type*} [DecidableEq key]

def insert (groupKey : key) (entry : item) : Groups key item → Groups key item
  | [] => [(groupKey, [entry])]
  | (other, members) :: rest =>
    if other = groupKey then (other, members ++ [entry]) :: rest
    else (other, members) :: insert groupKey entry rest

def collect (keyOf : item → key) (items : List item) : Groups key item :=
  items.foldl (fun groups entry => insert (keyOf entry) entry groups) []

def members (groups : Groups key item) (groupKey : key) : List item :=
  (groups.lookup groupKey).getD []

@[simp] theorem members_nil (groupKey : key) : members ([] : Groups key item) groupKey = [] := rfl

theorem members_cons (groupKey other : key) (group : List item)
    (rest : Groups key item) : members ((other, group) :: rest) groupKey =
      if groupKey = other then group else members rest groupKey := by
  by_cases same : groupKey = other
  · simp [members, same]
  · simp [members, List.lookup_cons, beq_eq_false_iff_ne.mpr same, same]

theorem members_insert (groups : Groups key item) (groupKey other : key)
    (entry : item) : members (insert groupKey entry groups) other =
      if other = groupKey then members groups other ++ [entry] else members groups other := by
  induction groups with
  | nil => simp [insert, members_cons]
  | cons head rest induction =>
    obtain ⟨first, group⟩ := head
    unfold insert
    split
    next same =>
      subst same
      simp only [members_cons]
      split <;> rfl
    next differs =>
      simp only [members_cons, induction]
      by_cases found : other = first
      · subst found
        simp [differs]
      · simp [found]

variable {groups : Groups key item}

theorem members_of_absent (absent : groupKey ∉ groups.map Prod.fst) : members groups groupKey = [] := by
  induction groups with
  | nil => rfl
  | cons head rest induction =>
    obtain ⟨different, absentRest⟩ := List.ne_and_not_mem_of_not_mem_cons absent
    rw [members_cons, if_neg different, induction absentRest]

theorem mem_keys_insert :
    other ∈ (insert groupKey entry groups).map Prod.fst ↔
      other = groupKey ∨ other ∈ groups.map Prod.fst := by
  induction groups with
  | nil => simp [insert]
  | cons head rest induction =>
    obtain ⟨first, group⟩ := head
    unfold insert
    split
    next same => simp [same]
    · rw [List.map_cons, List.mem_cons, induction, List.map_cons, List.mem_cons]
      exact or_left_comm

theorem keys_insert_nodup (groupKey : key) (entry : item) (once : (groups.map Prod.fst).Nodup) :
    ((insert groupKey entry groups).map Prod.fst).Nodup := by
  induction groups with
  | nil => simp [insert]
  | cons head rest induction =>
    obtain ⟨first, group⟩ := head
    obtain ⟨absent, onceRest⟩ := List.nodup_cons.mp once
    unfold insert
    split
    · exact once
    next different =>
    rw [List.map_cons, List.nodup_cons]
    refine ⟨?_, induction onceRest⟩
    rw [mem_keys_insert]
    rintro (same | member)
    · exact different same
    · exact absent member

end Groups

end LagrangeDb
