namespace LagrangeDb.Data.Result

variable {ε α β : Type} {first : Except ε α} {result : β}

theorem ok_of_bind (h : (first >>= rest) = .ok result) :
    ∃ value, first = .ok value ∧ rest value = .ok result := by
  cases first with
  | error error => cases h
  | ok value => exact ⟨value, rfl, h⟩

theorem ok_of_map (h : first.map f = .ok result) :
    ∃ value, first = .ok value ∧ f value = result := by
  cases first with
  | error error => cases h
  | ok value => exact ⟨value, rfl, Except.ok.inj h⟩

theorem ok_of_mapError {ε' : Type} {f : ε → ε'} {result : α}
    (h : first.mapError f = .ok result) : first = .ok result := by
  cases first with
  | error error => cases h
  | ok value => exact congrArg Except.ok (Except.ok.inj h)

theorem map_bind {γ : Type} (f : β → γ) (first : Except ε α) (rest : α → Except ε β) :
    (first >>= rest).map f = first >>= fun value => (rest value).map f := by
  cases first <;> rfl

/-- What every step keeps holds at the end of a fold. -/
theorem foldlM_invariant (holds : β → Prop) {step : β → α → Except ε β} {items : List α}
    (keeps : ∀ item ∈ items, ∀ before after, holds before → step before item = .ok after →
      holds after) {start final : β} (initial : holds start)
    (ok : items.foldlM step start = .ok final) : holds final := by
  induction items generalizing start with
  | nil =>
    cases ok
    exact initial
  | cons item rest induction =>
    obtain ⟨middle, first, ok⟩ := ok_of_bind ok
    exact induction (fun item member => keeps item (List.mem_cons_of_mem _ member))
      (keeps item List.mem_cons_self _ _ initial first) ok

end LagrangeDb.Data.Result
