import LagrangeDb.Data.Program

namespace LagrangeDb.Data.Program

/-! Programs that can be stopped between two calls, each of which is one indivisible change of the
state. -/

variable {Call : Type} {Answer : Call → Type} {ε α β σ : Type}
variable (operate : (request : Call) → σ → Answer request × σ)

/-- What the program answers and leaves when nothing cuts it off. -/
def exec : Program Call Answer ε α → σ → Except ε α × σ
  | done result, state => (result, state)
  | call request next, state => (next (operate request state).1).exec (operate request state).2

/-- The states the program can be cut off in, its last one included. -/
def stops : Program Call Answer ε α → σ → List σ
  | done _, state => [state]
  | call request next, state =>
    state :: (next (operate request state).1).stops (operate request state).2

theorem exec_mem_stops (program : Program Call Answer ε α) (state : σ) :
    (program.exec operate state).2 ∈ program.stops operate state := by
  induction program generalizing state with
  | done result => exact List.mem_singleton_self state
  | call request next ih => exact List.mem_cons_of_mem _ (ih _ _)

/-- The invariant holds wherever the program is cut off, and it ends in
`post`. -/
def Throughout (invariant : σ → Prop) (post : σ → Except ε α → Prop) :
    Program Call Answer ε α → σ → Prop
  | done result, state => invariant state ∧ post state result
  | call request next, state => invariant state ∧
      Throughout invariant post (next (operate request state).1) (operate request state).2

variable {operate}

namespace Throughout

theorem stops : ∀ {program : Program Call Answer ε α} {state : σ},
      Throughout operate invariant post program state →
      ∀ stop ∈ program.stops operate state, invariant stop
  | done _, state, holds, stop, member => by
    rw [Program.stops, List.mem_singleton] at member
    exact member ▸ holds.1
  | call request next, state, holds, stop, member => by
    rcases List.mem_cons.mp member with rfl | later
    · exact holds.1
    · exact holds.2.stops stop later

theorem exec : ∀ {program : Program Call Answer ε α} {state : σ},
      Throughout operate invariant post program state →
      post (program.exec operate state).2 (program.exec operate state).1
  | done _, _, holds => holds.2
  | call _ _, _, holds => holds.2.exec

theorem pure (holds : invariant state)
    (ends : post state (.ok value)) : Throughout operate invariant post
      (Pure.pure value : Program Call Answer ε α) state :=
  ⟨holds, ends⟩

end Throughout

end LagrangeDb.Data.Program
