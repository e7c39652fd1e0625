namespace LagrangeDb.Data

/-! Programs that stop at every call to their environment, where anything may happen before they go
on. -/

inductive Program (Call : Type) (Answer : Call → Type) (ε α : Type) : Type where
  | done (result : Except ε α)
  | call (request : Call) (next : Answer request → Program Call Answer ε α)

namespace Program

variable {Call : Type} {Answer : Call → Type} {ε α β σ : Type}

def bind : Program Call Answer ε α → (α → Program Call Answer ε β) → Program Call Answer ε β
  | done (.ok value), rest => rest value
  | done (.error error), _ => done (.error error)
  | call request next, rest => call request fun answer => (next answer).bind rest

def handle : Program Call Answer ε α → (ε → Program Call Answer ε α) → Program Call Answer ε α
  | done (.ok value), _ => done (.ok value)
  | done (.error error), handler => handler error
  | call request next, handler => call request fun answer => (next answer).handle handler

instance : Monad (Program Call Answer ε) where
  pure value := done (.ok value)
  bind := bind

instance : MonadExcept ε (Program Call Answer ε) where
  throw error := done (.error error)
  tryCatch := handle

def perform (request : Call) : Program Call Answer ε (Answer request) :=
  call request fun answer => done (.ok answer)

theorem bind_bind {γ : Type} (program : Program Call Answer ε α)
    (first : α → Program Call Answer ε β)
    (second : β → Program Call Answer ε γ) : (program >>= first) >>= second =
      program >>= fun value => first value >>= second := by
  induction program with
  | done result =>
    cases result with
    | ok value => rfl
    | error error => rfl
  | call request next ih => exact congrArg (call request) (funext ih)

theorem bind_pure (program : Program Call Answer ε α) : program >>= pure = program := by
  induction program with
  | done result =>
    cases result with
    | ok value => rfl
    | error error => rfl
  | call request next ih => exact congrArg (call request) (funext ih)

/-! Rely and guarantee: `performs` and `requires` are those of a call, `rely` is what others may do
between two calls, and `guarantee` what every call of the program must stay within. -/

structure Discipline (σ : Type) (Call : Type) (Answer : Call → Type) where
  invariant : σ → Prop
  (rely guarantee : σ → σ → Prop)
  requires : Call → σ → Prop
  performs : (request : Call) → σ → Answer request → σ → Prop

variable (discipline : Discipline σ Call Answer)

/-- From the given state the program keeps the invariant and its guarantee,
whatever others do within `rely`, and ends only in `post`. -/
def Safe (post : σ → Except ε α → Prop) : Program Call Answer ε α → σ → Prop
  | done result, state => post state result
  | call request next, state =>
    ∀ before, discipline.rely state before →
    discipline.invariant before →
    discipline.requires request before ∧
    ∀ answer after, discipline.performs request before answer after →
    discipline.invariant after ∧ discipline.guarantee before after ∧ Safe post (next answer) after

variable {discipline}

theorem Safe.step {post' : σ → Except ε β → Prop} {request : Call}
    {next : Answer request → Program Call Answer ε α}
    {other : Answer request → Program Call Answer ε β}
    (hrest : ∀ answer after, Safe discipline post (next answer) after →
      Safe discipline post' (other answer) after)
    (h : Safe discipline post (.call request next) state) :
    Safe discipline post' (.call request other) state := by
  intro before hrely hinvariant
  obtain ⟨hrequires, hcall⟩ := h before hrely hinvariant
  refine ⟨hrequires, fun answer after hperforms => ?_⟩
  obtain ⟨hafter, hguarantee, hnext⟩ := hcall answer after hperforms
  exact ⟨hafter, hguarantee, hrest answer after hnext⟩

theorem Safe.mono (hpost : ∀ state result, post state result → weaker state result) :
    ∀ {program : Program Call Answer ε α} {state : σ},
      Safe discipline post program state → Safe discipline weaker program state
  | done _, _, h => hpost _ _ h
  | call _ _, _, h => .step (fun _ _ hnext => hnext.mono hpost) h

theorem Safe.bind {post : σ → Except ε β → Prop} {rest : α → Program Call Answer ε β}
    (hvalue : ∀ state value, mid state (.ok value) → Safe discipline post (rest value) state)
    (herror : ∀ state error, mid state (.error error) → post state (.error error)) :
    ∀ {program : Program Call Answer ε α} {state : σ}, Safe discipline mid program state →
      Safe discipline post (program >>= rest) state
  | done (.ok value), state, h => hvalue state value h
  | done (.error error), state, h => herror state error h
  | call _ _, _, h => .step (fun _ _ hnext => .bind hvalue herror hnext) h

theorem Safe.handle
    (hvalue : ∀ state value, mid state (.ok value) → post state (.ok value))
    (herror : ∀ state error, mid state (.error error) →
      Safe discipline post (handler error) state) :
    ∀ {program : Program Call Answer ε α} {state : σ}, Safe discipline mid program state →
      Safe discipline post (tryCatch program handler) state
  | done (.ok value), state, h => hvalue state value h
  | done (.error error), state, h => herror state error h
  | call _ _, _, h => .step (fun _ _ hnext => .handle hvalue herror hnext) h

theorem Safe.caught {program : Program Call Answer ε α} {state : σ}
    (h : Safe discipline post program state) : Safe discipline
      (fun final result => ∃ found, result = .ok found ∧ post final found)
      (tryCatch (program >>= fun value => pure (.ok value))
        fun error => pure (.error error) : Program Call Answer ε (Except ε α)) state := by
  have hbind : Safe discipline
      (fun final result =>
        match result with
        | .ok found => post final found
        | .error error => post final (.error error))
      (program >>= fun value => pure (.ok value) : Program Call Answer ε (Except ε α)) state := by
    refine Safe.bind ?_ ?_ h
    · intro final value hpost
      exact hpost
    · intro final error hpost
      exact hpost
  refine Safe.handle ?_ ?_ hbind
  · intro final found hpost
    exact ⟨found, rfl, hpost⟩
  · intro final error hpost
    exact ⟨.error error, rfl, hpost⟩

theorem Safe.later (htrans : ∀ {first second third}, discipline.rely first second →
      discipline.rely second third → discipline.rely first third)
    (hstable : ∀ {first second result}, discipline.rely first second →
      post first result → post second result) {state later : σ}
    (hrely : discipline.rely state later) : ∀ {program : Program Call Answer ε α},
      Safe discipline post program state → Safe discipline post program later
  | done _, h => hstable hrely h
  | call _ _, h => fun before hbefore => h before (htrans hrely hbefore)

/-- What every step of the others and of the program keeps, the whole run
keeps; the invariant holds where it ends. -/
theorem Safe.track {track : σ → σ → Prop} (hrefl : ∀ state, track state state)
    (htrans : ∀ {first second third}, track first second → track second third → track first third)
    (hrely : ∀ {first second}, discipline.rely first second → track first second)
    (hguarantee : ∀ {first second}, discipline.guarantee first second → track first second) :
    ∀ {program : Program Call Answer ε α} {state : σ},
      discipline.invariant state → Safe discipline post program state →
      Safe discipline (fun final result => discipline.invariant final ∧
        track state final ∧ post final result) program state
  | done _, state, hinvariant, h => ⟨hinvariant, hrefl state, h⟩
  | call _ _, _, _, h => by
    intro before hbefore hinvariant
    obtain ⟨hrequires, hcall⟩ := h before hbefore hinvariant
    refine ⟨hrequires, fun answer after hperforms => ?_⟩
    obtain ⟨hafter, hstep, hnext⟩ := hcall answer after hperforms
    refine ⟨hafter, hstep, ?_⟩
    refine Safe.mono ?_ (Safe.track hrefl htrans hrely hguarantee hafter hnext)
    rintro final result ⟨hfinal, htrack, hpost⟩
    exact ⟨hfinal, htrans (htrans (hrely hbefore) (hguarantee hstep)) htrack, hpost⟩

end Program

end LagrangeDb.Data
