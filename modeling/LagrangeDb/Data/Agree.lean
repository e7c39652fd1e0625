import LagrangeDb.Data.Result

namespace LagrangeDb.Data

/-! Two runs of one computation: if neither fails, they give the same result. -/

section

variable {ε ε' α β : Type}

def Agree (first second : Except ε α) : Prop :=
  ∀ left right, first = .ok left → second = .ok right → left = right

namespace Agree

theorem refl (result : Except ε α) : Agree result result := by
  intro left right isLeft isRight
  exact Except.ok.inj (isLeft.symm.trans isRight)

theorem of_error_left (error : ε) (second : Except ε α) : Agree (.error error) second := by
  intro left right isLeft
  cases isLeft

theorem of_error_right (first : Except ε α) (error : ε) : Agree first (.error error) := by
  intro left right _ isRight
  cases isRight

variable {first second : Except ε α} {rest rest' : α → Except ε β}

theorem bind (same : Agree first second) (after : ∀ value, Agree (rest value) (rest' value)) :
    Agree (first >>= rest) (second >>= rest') := by
  intro left right isLeft isRight
  obtain ⟨value, isValue, isLeft⟩ := Result.ok_of_bind isLeft
  obtain ⟨value', isValue', isRight⟩ := Result.ok_of_bind isRight
  obtain rfl := same _ _ isValue isValue'
  exact after value _ _ isLeft isRight

theorem map (f : α → β) (same : Agree first second) : Agree (first.map f) (second.map f) := by
  intro left right isLeft isRight
  obtain ⟨value, isValue, rfl⟩ := Result.ok_of_map isLeft
  obtain ⟨value', isValue', rfl⟩ := Result.ok_of_map isRight
  rw [same _ _ isValue isValue']

theorem map_bind {γ : Type} {f : β → γ} (same : Agree first second)
    (after : ∀ value, Agree ((rest value).map f) ((rest' value).map f)) :
    Agree ((first >>= rest).map f) ((second >>= rest').map f) := by
  rw [Result.map_bind, Result.map_bind]
  exact same.bind after

theorem mapError (f : ε → ε') (same : Agree first second) :
    Agree (first.mapError f) (second.mapError f) := by
  cases first with
  | error error => exact of_error_left _ _
  | ok left =>
    cases second with
    | error error => exact of_error_right _ _
    | ok right =>
      rw [same _ _ rfl rfl]
      exact refl _

end Agree

end

end LagrangeDb.Data
