import Mathlib

namespace LagrangeDb.Data

section

variable {α : Type*} [LinearOrder α]

def tupleCompare : List α → List α → Ordering
  | [], [] => .eq
  | [], _ :: _ => .lt
  | _ :: _, [] => .gt
  | left :: lefts, right :: rights => (cmp left right).then (tupleCompare lefts rights)

@[simp] theorem tupleCompare_nil : tupleCompare ([] : List α) [] = .eq := rfl

@[simp] theorem tupleCompare_cons (left right : α) (lefts rights : List α) :
    tupleCompare (left :: lefts) (right :: rights) =
      (cmp left right).then (tupleCompare lefts rights) := rfl

theorem tupleCompare_append {fronts otherFronts : List α} (lefts rights : List α)
    (length : fronts.length = otherFronts.length) :
    tupleCompare (fronts ++ lefts) (otherFronts ++ rights) =
      (tupleCompare fronts otherFronts).then (tupleCompare lefts rights) := by
  induction fronts generalizing otherFronts with
  | nil =>
    obtain rfl := List.length_eq_zero_iff.mp length.symm
    rfl
  | cons front fronts induction =>
    cases otherFronts with
    | nil => cases length
    | cons other others =>
      simp only [List.cons_append, tupleCompare_cons,
        induction (Nat.succ.inj length), Ordering.then_assoc]

theorem tupleCompare_eq_eq_iff {lefts rights : List α} :
    tupleCompare lefts rights = .eq ↔ lefts = rights := by
  induction lefts generalizing rights with
  | nil => cases rights <;> simp [tupleCompare]
  | cons left lefts induction =>
    cases rights with
    | nil => simp [tupleCompare]
    | cons right rights =>
      rw [tupleCompare_cons, Ordering.then_eq_eq, cmp_eq_eq_iff, induction, List.cons.injEq]

theorem isLE_cmp {left right : α} : (cmp left right).isLE ↔ left ≤ right := by
  rw [← not_lt, ← cmp_eq_gt_iff]
  cases cmp left right <;> simp

theorem tupleCompare_isLE_trans {firsts seconds thirds : List α}
    (early : (tupleCompare firsts seconds).isLE) (late : (tupleCompare seconds thirds).isLE) :
    (tupleCompare firsts thirds).isLE := by
  induction firsts generalizing seconds thirds with
  | nil => cases thirds <;> rfl
  | cons first firsts induction =>
    cases seconds with
    | nil => cases early
    | cons second seconds =>
      cases thirds with
      | nil => cases late
      | cons third thirds =>
        rw [tupleCompare_cons, Ordering.isLE_then_iff_and, isLE_cmp, cmp_eq_lt_iff] at early late ⊢
        refine ⟨early.1.trans late.1, ?_⟩
        rcases early.2 with below | early'
        · exact .inl (below.trans_le late.1)
        rcases late.2 with below | late'
        · exact .inl (early.1.trans_lt below)
        · exact .inr (induction early' late')

variable {value boundary : α} {values boundaries : List α}

theorem le_of_tupleCompare_ne_lt
    (above : tupleCompare (value :: values) (boundary :: boundaries) ≠ .lt) : boundary ≤ value := by
  by_contra below
  refine above ?_
  rw [tupleCompare_cons, (cmp_eq_lt_iff ..).mpr (not_le.mp below)]
  rfl

theorem le_of_tupleCompare_eq_lt
    (below : tupleCompare (value :: values) (boundary :: boundaries) = .lt) : value ≤ boundary := by
  by_contra above
  rw [tupleCompare_cons, (cmp_eq_gt_iff ..).mpr (not_le.mp above)] at below
  cases below

theorem lt_of_tupleCompare_single (below : tupleCompare [value] [boundary] = .lt) : value < boundary := by
  rw [tupleCompare_cons, tupleCompare_nil] at below
  cases order : cmp value boundary with
  | lt => exact (cmp_eq_lt_iff ..).mp order
  | eq =>
    rw [order] at below
    cases below
  | gt =>
    rw [order] at below
    cases below

end

end LagrangeDb.Data
