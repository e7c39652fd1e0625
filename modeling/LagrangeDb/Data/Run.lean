import Mathlib.Data.List.Basic

namespace LagrangeDb.Data

/-! Runs of a machine: events taken one after the other, as long as each finds a
next state. -/

theorem guarded_eq_some {condition : Prop} [Decidable condition] {value : Type*}
    {found result : value} : (if condition then some found else none) = some result ↔
      condition ∧ found = result :=
  Option.ite_none_right_eq_some.trans (and_congr_right' Option.some_inj)

section

variable {State Event : Type*} (step : State → Event → Option State)

/-- Every event of the run comes to a state that allows it. -/
def Allowed (allows : State → Event → Prop) : State → List Event → Prop
  | _, [] => True
  | state, event :: rest =>
    allows state event ∧ ∀ next, step state event = some next → Allowed allows next rest

instance decidableForallSome {value : Type*} {holds : value → Prop} [DecidablePred holds] :
    (option : Option value) → Decidable (∀ some', option = some some' → holds some')
  | none => isTrue nofun
  | some found => decidable_of_iff (holds found)
      ⟨fun held _ equal => Option.some.inj equal ▸ held, fun all => all found rfl⟩

instance decidableAllowed {allows : State → Event → Prop}
    [∀ state event, Decidable (allows state event)] : (state : State) → (events : List Event) →
      Decidable (Allowed step allows state events)
  | _, [] => isTrue trivial
  | state, event :: rest =>
    have (next : State) : Decidable (Allowed step allows next rest) := decidableAllowed next rest
    inferInstanceAs (Decidable (allows state event ∧
      ∀ next, step state event = some next → Allowed step allows next rest))

variable {step} {allows : State → Event → Prop} {events : List Event} {state : State}

theorem allowed_of_forall (all : ∀ event ∈ events, ∀ state, allows state event) :
    Allowed step allows state events := by
  induction events generalizing state with
  | nil => trivial
  | cons event rest induction =>
    refine ⟨all event List.mem_cons_self state, fun next _ => ?_⟩
    exact induction fun later member => all later (List.mem_cons_of_mem _ member)

theorem Allowed.append (first : Allowed step allows state events)
    (second : ∀ final, events.foldlM step state = some final → Allowed step allows final later) :
    Allowed step allows state (events ++ later) := by
  induction events generalizing state with
  | nil => exact second state rfl
  | cons event rest induction =>
    refine ⟨first.1, fun next stepped => induction (first.2 next stepped) fun final ran => ?_⟩
    exact second final (by rw [List.foldlM_cons, stepped]; exact ran)

variable {holds : State → Prop}

theorem run_invariant (preserves : ∀ {state event next}, holds state → allows state event →
      step state event = some next → holds next)
    (start : holds state) (allowed : Allowed step allows state events)
    (ran : events.foldlM step state = some final) : holds final := by
  induction events generalizing state with
  | nil =>
    obtain rfl := Option.some.inj ran
    exact start
  | cons event rest induction =>
    rw [List.foldlM_cons, Option.bind_eq_bind, Option.bind_eq_some_iff] at ran
    obtain ⟨next, stepped, ran⟩ := ran
    exact induction (preserves start allowed.1 stepped) (allowed.2 next stepped) ran

theorem Allowed.of_invariant
    (preserves : ∀ {state event next}, holds state → allows state event →
      step state event = some next → holds next)
    (gives : ∀ {state event}, holds state → allows state event →
      yields state event) (start : holds state) (allowed : Allowed step allows state events) :
    Allowed step yields state events := by
  induction events generalizing state with
  | nil => trivial
  | cons event rest induction =>
    refine ⟨gives start allowed.1, fun next stepped => ?_⟩
    exact induction (preserves start allowed.1 stepped) (allowed.2 next stepped)

end

end LagrangeDb.Data
