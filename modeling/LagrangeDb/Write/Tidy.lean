import LagrangeDb.Write.Desk

namespace LagrangeDb.Write

/-! The desk of one entry while its writes come one after the other. -/

namespace Attempt

/-- The answer will be, as things stand, that the write was not proposed. -/
def Unproposed (attempt : Attempt) : Prop :=
  match attempt.response with
  | .pending mark => mark = .queued
  | .resolved _ => False
  | .rejected rejection =>
    attempt.proposal = .refused .coreRefused ∨ ∃ cause, rejection = .released cause .queued

theorem unproposed_of_answered {attempt : Attempt} (given : attempt.answered = some answer)
    (unproposed : answer.isUnproposed = true) : attempt.Unproposed := by
  unfold answered at given
  split at given
  · cases given
    cases unproposed
  split at given
  · cases given
  unfold Unproposed
  cases isResponse : attempt.response with
  | pending mark => simp [isResponse] at given
  | resolved verdict =>
    simp only [isResponse, Option.some.injEq] at given
    subst given
    cases unproposed
  | rejected rejection =>
    simp only [isResponse, Option.some.injEq] at given
    subst given
    split at unproposed
    · cases unproposed
    cases isProposal : attempt.proposal with
    | refused result =>
      rw [isProposal] at unproposed
      cases result <;> first | exact .inl rfl | cases unproposed
    | accepted =>
      rw [isProposal] at unproposed
      cases rejection with
      | released cause mark =>
        cases mark with
        | queued => exact .inr ⟨cause, rfl⟩
        | proposed => cases unproposed
      | _ => cases unproposed
    | notMade =>
      rw [isProposal] at unproposed
      cases rejection with
      | released cause mark =>
        cases mark with
        | queued => exact .inr ⟨cause, rfl⟩
        | proposed => cases unproposed
      | _ => cases unproposed

end Attempt

namespace Attempt

def Clean (attempt : Attempt) : Prop :=
  attempt.isPending = true → attempt.proposal ≠ .refused .coreRefused

theorem isPending_iff (attempt : Attempt) :
    attempt.isPending = true ↔ ∃ mark, attempt.response = .pending mark := by
  unfold isPending
  cases attempt.response <;> simp

@[simp] theorem parked_markProposal (mark : Mark) (attempt : Attempt) :
    (attempt.markProposal mark).parked = attempt.parked := by
  unfold markProposal
  split <;> rfl

@[simp] theorem parked_respond (response : Response) (attempt : Attempt) :
    (attempt.respond response).parked = attempt.parked := by
  unfold respond
  split <;> rfl

@[simp] theorem parked_releaseEntry (cause : ReleaseCause) (attempt : Attempt) :
    (attempt.releaseEntry cause).parked = attempt.parked := by
  unfold releaseEntry
  split <;> rfl

theorem Clean.markProposal {attempt : Attempt} (clean : attempt.Clean)
    (mark : Mark) : (attempt.markProposal mark).Clean := by
  unfold Attempt.markProposal
  split
  next _ isResponse => exact fun _ => clean (attempt.isPending_iff.mpr ⟨_, isResponse⟩)
  · exact clean

theorem isPending_rejected (rejection : Rejection) (attempt : Attempt) :
    (attempt.respond (.rejected rejection)).isPending = false := by
  unfold respond
  split
  · rfl
  next notPending =>
  by_contra isPending
  obtain ⟨mark, isResponse⟩ := attempt.isPending_iff.mp (by simpa using isPending)
  exact notPending mark isResponse

end Attempt

namespace Desk

def waiting (desk : Desk) : Nat :=
  desk.handoffs.countP (fun handoff => handoff.awaited.isNone) +
    if desk.attempt.any Attempt.parked then 1 else 0

theorem waiting_update
    (parked : ∀ attempt, (change attempt).parked = attempt.parked) (desk : Desk) :
    (desk.update change).waiting = desk.waiting := by
  unfold waiting update
  cases desk.attempt with
  | none => rfl
  | some attempt => simp [parked]

@[simp] theorem waiting_markProposal (mark : Mark) (desk : Desk) :
    (desk.markProposal mark).waiting = desk.waiting :=
  waiting_update (Attempt.parked_markProposal mark) desk

@[simp] theorem waiting_resolve (verdict : Verdict) (desk : Desk) :
    (desk.resolve verdict).waiting = desk.waiting :=
  waiting_update (Attempt.parked_respond _) desk

@[simp] theorem waiting_reject (rejection : Rejection) (desk : Desk) :
    (desk.reject rejection).waiting = desk.waiting :=
  waiting_update (Attempt.parked_respond _) desk

theorem waiting_ofHandoff (handoff : Handoff)
    (parked : ∀ attempt, (change attempt).parked = attempt.parked) (desk : Desk) :
    (desk.ofHandoff handoff change).waiting = desk.waiting :=
  waiting_update (fun attempt => by split <;> simp [parked]) desk

variable {position : Nat}

theorem countP_eraseIdx {α : Type} (p : α → Bool) {items : List α} {item : α}
    (found : items[position]? = some item) : items.countP p =
      (items.eraseIdx position).countP p + if p item then 1 else 0 := by
  obtain ⟨lt, rfl⟩ := List.getElem?_eq_some_iff.mp found
  conv_lhs => rw [← List.take_append_drop position items, List.drop_eq_getElem_cons lt]
  rw [List.eraseIdx_eq_take_drop_succ, List.countP_append, List.countP_append, List.countP_cons]
  omega

theorem waiting_endHandoff {handoff : Handoff} {desk : Desk}
    (found : desk.handoffs[position]? = some handoff) :
    (desk.endHandoff position handoff).waiting ≤ desk.waiting := by
  have marked : (desk.ofHandoff handoff fun attempt =>
      if handoff.own then { attempt with handingOff := false }
      else attempt).waiting = desk.waiting :=
    waiting_ofHandoff handoff (fun _ => by split <;> rfl) desk
  have counted := countP_eraseIdx (fun handoff => handoff.awaited.isNone) found
  rw [← marked]
  refine Nat.add_le_add_right ?_ _
  change _ ≤ desk.handoffs.countP _
  dsimp only [endHandoff]
  omega

theorem waiting_setHandoff (position : Nat) (handoff : Handoff) (desk : Desk) :
    (desk.setHandoff position handoff).waiting ≤ desk.waiting + 1 := by
  unfold waiting setHandoff
  dsimp only
  by_cases lt : position < desk.handoffs.length
  · rw [List.countP_set lt]
    split <;> split <;> omega
  · rw [List.set_eq_of_length_le (by omega)]
    omega

/-- The write of one entry is in one place only: parked, about to be proposed, or
on its way in one copy; and it was not proposed where the queue says so. -/
structure Tidy (desk : Desk) (copies : Nat) (settled : Bool) : Prop where
  single : copies + desk.waiting ≤ 1
  unproposed : ∀ attempt, desk.attempt = some attempt → attempt.Unproposed → copies = 0
  clean : ∀ attempt, desk.attempt = some attempt → attempt.Clean
  ended : settled = true → copies = 0 ∧ desk.waiting = 0 ∧
    ∀ attempt, desk.attempt = some attempt → attempt.isPending = false ∧ ¬ attempt.Unproposed

namespace Tidy

variable {desk : Desk} {copies : Nat} {settled : Bool}

theorem empty (single : copies ≤ 1) (ended : settled = true → copies = 0) :
    Tidy {} copies settled where
  single := single
  unproposed _ is := by cases is
  clean _ is := by cases is
  ended isSettled := ⟨ended isSettled, rfl, fun _ is => by cases is⟩

section

variable (tidy : Tidy desk copies settled)

include tidy

theorem fewer (le : less ≤ copies) : Tidy desk less settled where
  single := (Nat.add_le_add_right le _).trans tidy.single
  unproposed attempt is unproposed := by
    have := tidy.unproposed attempt is unproposed
    omega
  clean := tidy.clean
  ended isSettled := by
    obtain ⟨none, rest⟩ := tidy.ended isSettled
    exact ⟨by omega, rest⟩

theorem unsettled (some : 0 < copies + desk.waiting) : settled = false := by
  cases settled with
  | false => rfl
  | true =>
    obtain ⟨noCopies, noWaiting, _⟩ := tidy.ended rfl
    omega

theorem unsettled_of_pending (pending : desk.isPending = true) : settled = false := by
  cases settled with
  | false => rfl
  | true =>
    obtain ⟨attempt, is, isPending⟩ := (Option.any_eq_true _ _).mp pending
    rw [((tidy.ended rfl).2.2 attempt is).1] at isPending
    cases isPending

theorem update (parked : ∀ attempt, (change attempt).parked = attempt.parked)
    (unproposed : ∀ attempt, attempt.Clean → (change attempt).Unproposed → attempt.Unproposed)
    (pending : ∀ attempt, (change attempt).isPending = true → attempt.isPending = true)
    (clean : ∀ attempt, attempt.Clean → (change attempt).Clean) :
    Tidy (desk.update change) copies settled := by
  have waiting := waiting_update parked desk
  have changed : ∀ attempt, (desk.update change).attempt = some attempt →
      ∃ before, desk.attempt = some before ∧ change before = attempt := by
    intro attempt is
    exact Option.map_eq_some_iff.mp is
  refine ⟨by rw [waiting]; exact tidy.single, ?_, ?_, ?_⟩
  · intro attempt is isUnproposed
    obtain ⟨before, isBefore, rfl⟩ := changed attempt is
    exact tidy.unproposed before isBefore
      (unproposed before (tidy.clean before isBefore) isUnproposed)
  · intro attempt is
    obtain ⟨before, isBefore, rfl⟩ := changed attempt is
    exact clean before (tidy.clean before isBefore)
  intro isSettled
  obtain ⟨noCopies, noWaiting, attempts⟩ := tidy.ended isSettled
  refine ⟨noCopies, by rw [waiting]; exact noWaiting, fun attempt is => ?_⟩
  obtain ⟨before, isBefore, rfl⟩ := changed attempt is
  obtain ⟨notPending, notUnproposed⟩ := attempts before isBefore
  refine ⟨?_, fun isUnproposed => notUnproposed
    (unproposed before (tidy.clean before isBefore) isUnproposed)⟩
  by_contra isPending
  have := pending before (by simpa using isPending)
  rw [notPending] at this
  cases this

theorem reject (own : ∀ cause mark, rejection ≠ .released cause mark) :
    Tidy (desk.reject rejection) copies settled := by
  refine tidy.update (Attempt.parked_respond _) ?_ ?_ ?_
  · intro attempt clean
    unfold Attempt.respond
    split
    next mark isResponse =>
      rintro (refused | ⟨cause, released⟩)
      · exact absurd refused (clean (attempt.isPending_iff.mpr ⟨_, isResponse⟩))
      · exact absurd released (own _ _)
    · exact id
  · intro attempt isPending
    rw [Attempt.isPending_rejected] at isPending
    cases isPending
  · intro attempt clean isPending
    rw [Attempt.isPending_rejected] at isPending
    cases isPending

theorem releaseEntry (cause : ReleaseCause) : Tidy (desk.releaseEntry cause) copies settled := by
  refine tidy.update (Attempt.parked_releaseEntry cause) ?_ ?_ ?_
  · intro attempt clean
    unfold Attempt.releaseEntry
    split
    next mark isResponse =>
      rintro (refused | ⟨_, released⟩)
      · exact absurd refused (clean (attempt.isPending_iff.mpr ⟨_, isResponse⟩))
      · cases released
        simp [Attempt.Unproposed, isResponse]
    · exact id
  · intro attempt
    unfold Attempt.releaseEntry
    split
    · intro isPending
      cases isPending
    · exact id
  · intro attempt clean
    unfold Attempt.releaseEntry
    split
    · intro isPending
      cases isPending
    · exact clean

theorem ofHandoff (handoff : Handoff) (parked : ∀ attempt, (change attempt).parked = attempt.parked)
    (response : ∀ attempt, (change attempt).response = attempt.response)
    (proposal : ∀ attempt, (change attempt).proposal = .refused .coreRefused →
      attempt.proposal = .refused .coreRefused) :
    Tidy (desk.ofHandoff handoff change) copies settled := by
  refine tidy.update ?_ ?_ ?_ ?_
  · intro attempt
    split
    · exact parked attempt
    · rfl
  · intro attempt _
    split
    · unfold Attempt.Unproposed
      rw [response]
      split
      · exact id
      · exact id
      · exact Or.imp_left (proposal attempt)
    · exact id
  · intro attempt
    split
    · unfold Attempt.isPending
      rw [response]
      exact id
    · exact id
  · intro attempt clean
    split
    · unfold Attempt.Clean Attempt.isPending
      rw [response]
      exact fun isPending refused => clean isPending (proposal attempt refused)
    · exact clean

theorem handoffs {handoffs : List Handoff}
    (fewer : handoffs.countP (fun handoff => handoff.awaited.isNone) ≤
      desk.handoffs.countP fun handoff => handoff.awaited.isNone) :
    Tidy { desk with handoffs } copies settled := by
  have waiting : ({ desk with handoffs } : Desk).waiting ≤ desk.waiting :=
    Nat.add_le_add_right fewer _
  refine ⟨(Nat.add_le_add_left waiting _).trans tidy.single, tidy.unproposed,
    tidy.clean, fun isSettled => ?_⟩
  obtain ⟨noCopies, noWaiting, attempts⟩ := tidy.ended isSettled
  exact ⟨noCopies, by omega, attempts⟩

theorem endHandoff (found : desk.handoffs[position]? = some handoff) :
    Tidy (desk.endHandoff position handoff) copies settled := by
  have marked : Tidy (desk.ofHandoff handoff fun attempt =>
      if handoff.own then { attempt with handingOff := false } else attempt)
      copies settled :=
    tidy.ofHandoff handoff (fun _ => by split <;> rfl) (fun _ => by split <;> rfl)
      (fun _ => by split <;> exact id)
  refine marked.handoffs ?_
  have counted := countP_eraseIdx (fun handoff => handoff.awaited.isNone) found
  change _ ≤ desk.handoffs.countP _
  omega

end

theorem vacated (tidy : Tidy desk 1 settled) {after : Desk}
    (single : after.waiting ≤ desk.waiting + 1)
    (clean : ∀ attempt, after.attempt = some attempt → attempt.Clean) : Tidy after 0 settled := by
  have noWaiting : desk.waiting = 0 := by
    have := tidy.single
    omega
  have isUnsettled := tidy.unsettled (by omega)
  refine ⟨by omega, fun _ _ _ => rfl, clean, fun isSettled => ?_⟩
  rw [isUnsettled] at isSettled
  cases isSettled

theorem resolve (tidy : Tidy desk 1 settled) (verdict : Verdict) (after : Bool) :
    Tidy (desk.resolve verdict) 0 after := by
  have noWaiting : desk.waiting = 0 := by
    have := tidy.single
    omega
  have waiting : (desk.resolve verdict).waiting = 0 := by rw [waiting_resolve, noWaiting]
  have closed : ∀ attempt, (desk.resolve verdict).attempt = some attempt →
      attempt.isPending = false ∧ ¬ attempt.Unproposed := by
    intro attempt is
    obtain ⟨before, isBefore, rfl⟩ := Option.map_eq_some_iff.mp is
    unfold Attempt.respond
    split
    · exact ⟨rfl, id⟩
    next notPending =>
    refine ⟨?_, fun unproposed => one_ne_zero (tidy.unproposed before isBefore unproposed)⟩
    unfold Attempt.isPending
    split
    next mark isResponse => exact absurd isResponse (notPending mark)
    · rfl
  refine ⟨by omega, fun _ _ _ => rfl, fun attempt is isPending => ?_,
    fun _ => ⟨rfl, waiting, closed⟩⟩
  rw [(closed attempt is).1] at isPending
  cases isPending

theorem reparkReservedWrite (tidy : Tidy desk 1 settled) :
    Tidy desk.reparkReservedWrite 0 settled := by
  unfold Desk.reparkReservedWrite
  split
  · refine tidy.vacated ?_ ?_
    · unfold waiting Desk.markProposal Desk.update
      dsimp only
      split <;> omega
    intro attempt is
    obtain ⟨marked, isMarked, rfl⟩ := Option.map_eq_some_iff.mp is
    obtain ⟨before, isBefore, rfl⟩ := Option.map_eq_some_iff.mp isMarked
    exact (tidy.clean before isBefore).markProposal .queued
  · exact tidy.resolve .reserved settled

theorem readmitReservedWrites (tidy : Tidy desk copies settled) :
    Tidy desk.readmitReservedWrites copies settled := by
  unfold Desk.readmitReservedWrites
  split
  next attempt isAttempt =>
    split
    next parked =>
      have waiting : ∀ handoff : Handoff, handoff.awaited = none →
          ({ attempt := some { attempt with parked := false },
             handoffs := desk.handoffs ++ [handoff] } : Desk).waiting =
            desk.waiting := by
        intro handoff ready
        simp [Desk.waiting, isAttempt, parked, ready]
      refine ⟨?_, ?_, ?_, ?_⟩
      · rw [waiting _ rfl]
        exact tidy.single
      · intro _ is
        cases is
        exact tidy.unproposed attempt isAttempt
      · intro _ is
        cases is
        exact tidy.clean attempt isAttempt
      intro isSettled
      rw [waiting _ rfl]
      obtain ⟨noCopies, noWaiting, attempts⟩ := tidy.ended isSettled
      refine ⟨noCopies, noWaiting, ?_⟩
      intro _ is
      cases is
      exact attempts attempt isAttempt
    · exact tidy
  · exact tidy

theorem finish (tidy : Tidy desk copies settled) :
    Tidy { desk with attempt := none } copies settled := by
  have waiting : ({ desk with attempt := none } : Desk).waiting ≤ desk.waiting :=
    Nat.le_add_right _ _
  refine ⟨(Nat.add_le_add_left waiting _).trans tidy.single,
    fun _ is => (by cases is), fun _ is => (by cases is), fun isSettled => ?_⟩
  obtain ⟨noCopies, noWaiting, _⟩ := tidy.ended isSettled
  exact ⟨noCopies, by omega, fun _ is => by cases is⟩

theorem propose (tidy : Tidy desk copies settled) {number : Nat}
    (found : desk.handoffs[position]? = some handoff)
    (ready : handoff.awaited = none) (pending : desk.isPending = true) :
    Tidy ((desk.markProposal .proposed).setHandoff position
      { handoff with awaited := some number }) (copies + 1) settled := by
  obtain ⟨attempt, isAttempt, isPending⟩ := (Option.any_eq_true _ _).mp pending
  have isUnsettled := tidy.unsettled_of_pending pending
  have marked : (attempt.markProposal .proposed).response = .pending .proposed ∧
      (attempt.markProposal .proposed).parked = attempt.parked ∧
      (attempt.markProposal .proposed).proposal = attempt.proposal := by
    unfold Attempt.isPending at isPending
    unfold Attempt.markProposal
    split at isPending
    next mark isResponse => simp
    · cases isPending
  have after : ((desk.markProposal .proposed).setHandoff position
      { handoff with awaited := some number }).attempt =
        some (attempt.markProposal .proposed) := by
    simp [Desk.setHandoff, Desk.markProposal, Desk.update, isAttempt]
  obtain ⟨lt, isHandoff⟩ := List.getElem?_eq_some_iff.mp found
  have waiting : ((desk.markProposal .proposed).setHandoff position
      { handoff with awaited := some number }).waiting + 1 = desk.waiting := by
    have counted : 0 < desk.handoffs.countP fun handoff => handoff.awaited.isNone :=
      List.countP_pos_iff.mpr ⟨handoff, List.mem_of_getElem? found, by simp [ready]⟩
    simp only [Desk.waiting, after, isAttempt, Option.any_some, marked.2.1]
    simp only [Desk.setHandoff, Desk.markProposal, Desk.update,
      List.countP_set lt, isHandoff, ready, Option.isNone_none, if_true,
      Option.isNone_some, Bool.false_eq_true, if_false]
    omega
  have single := tidy.single
  refine ⟨by omega, ?_, ?_, ?_⟩
  · intro other is unproposed
    obtain rfl := Option.some.inj (after.symm.trans is)
    rw [Attempt.Unproposed, marked.1] at unproposed
    cases unproposed
  · intro other is _
    obtain rfl := Option.some.inj (after.symm.trans is)
    rw [marked.2.2]
    exact tidy.clean attempt isAttempt isPending
  · intro isSettled
    rw [isUnsettled] at isSettled
    cases isSettled

theorem rejected (position : Nat) (handoff : Handoff) {before : Desk} (attempt : Attempt)
    (is : ((before.reject rejection).endHandoff position handoff).attempt = some attempt) :
    attempt.Clean := by
  obtain ⟨taken, isTaken, rfl⟩ := Option.map_eq_some_iff.mp is
  obtain ⟨earlier, _, rfl⟩ := Option.map_eq_some_iff.mp isTaken
  intro isPending
  have notPending := Attempt.isPending_rejected rejection earlier
  split at isPending
  · split at isPending
    · exact absurd (isPending.symm.trans notPending) Bool.true_eq_false.mp
    · exact absurd (isPending.symm.trans notPending) Bool.true_eq_false.mp
  · exact absurd (isPending.symm.trans notPending) Bool.true_eq_false.mp

theorem portAnswers_nothing (tidy : Tidy desk 1 settled)
    (found : desk.handoffs[position]? = some handoff) (nothing : result.entersNothing = true) :
    Tidy (desk.portAnswers position handoff result) 0 settled := by
  cases result with
  | deferred exhausted =>
    cases exhausted with
    | false =>
      refine tidy.vacated ?_ ?_
      · have := waiting_setHandoff position { handoff with awaited := none }
          (desk.markProposal .queued)
        simpa [portAnswers] using this
      · intro attempt is
        obtain ⟨before, isBefore, rfl⟩ := Option.map_eq_some_iff.mp is
        exact (tidy.clean before isBefore).markProposal .queued
    | true =>
      refine tidy.vacated ?_ (rejected _ _)
      have found' : ((desk.markProposal .queued).portWriteDeferral
          handoff).handoffs[position]? = some handoff := found
      have ended := waiting_endHandoff found'
      rw [portWriteDeferral, waiting_reject,
        waiting_ofHandoff handoff (by intro _; rfl), waiting_markProposal] at ended
      exact ended.trans (Nat.le_succ _)
  | coreRefused =>
    refine tidy.vacated ?_ (rejected _ _)
    have found' : ((desk.ofHandoff handoff fun attempt => { attempt with
        proposal := .refused .coreRefused }).reject .port).handoffs[position]? =
          some handoff := found
    have ended := waiting_endHandoff found'
    rw [waiting_reject, waiting_ofHandoff handoff (by intro _; rfl)] at ended
    exact ended.trans (Nat.le_succ _)
  | _ => cases nothing

theorem portAnswers_entered (tidy : Tidy desk copies settled)
    (found : desk.handoffs[position]? = some handoff) (entered : result.entersNothing = false) :
    Tidy (desk.portAnswers position handoff result) copies settled := by
  have failed : ∀ failure, failure ≠ .coreRefused →
      Tidy (((desk.ofHandoff handoff fun attempt =>
        { attempt with proposal := .refused failure }).reject .port).endHandoff
          position handoff) copies settled := by
    intro failure other
    have refused : Tidy (desk.ofHandoff handoff fun attempt =>
        { attempt with proposal := .refused failure }) copies settled :=
      tidy.ofHandoff handoff (fun _ => rfl) (fun _ => rfl)
        (fun _ is => absurd (WriteProposal.refused.inj is) other)
    have rejected := refused.reject
      (fun _ _ => Rejection.noConfusion : ∀ cause mark, Rejection.port ≠ .released cause mark)
    exact rejected.endHandoff found
  cases result with
  | accepted => exact tidy.endHandoff found
  | deferred => cases entered
  | coreRefused => cases entered
  | coreFatal => exact failed _ (by decide)
  | hostFailure => exact failed _ (by decide)
  | other => exact failed _ (by decide)

end Tidy

end Desk

namespace Desk

structure Labelled (desk : Desk) (entryId : String) (known : Nat → Prop) :
    Prop where
  attempt : ∀ attempt, desk.attempt = some attempt → attempt.command.entryId = entryId
  handoffs : ∀ handoff ∈ desk.handoffs, handoff.command.entryId = entryId ∧
    ∀ number, handoff.awaited = some number → known number

namespace Labelled

variable {desk : Desk} {entryId : String} {known known' : Nat → Prop}

theorem empty : Labelled {} entryId known :=
  ⟨fun _ is => (by cases is), fun _ member => (by cases member)⟩

section

variable (labelled : Labelled desk entryId known)

include labelled

theorem mono (weaker : ∀ number, known number → known' number) : Labelled desk entryId known' :=
  ⟨labelled.attempt, fun handoff member =>
    ⟨(labelled.handoffs handoff member).1, fun number awaited =>
      weaker number ((labelled.handoffs handoff member).2 number awaited)⟩⟩

theorem update (command : ∀ attempt, (change attempt).command = attempt.command) :
    Labelled (desk.update change) entryId known := by
  refine ⟨fun attempt is => ?_, labelled.handoffs⟩
  obtain ⟨before, isBefore, rfl⟩ := Option.map_eq_some_iff.mp is
  rw [command]
  exact labelled.attempt before isBefore

theorem markProposal (mark : Mark) : Labelled (desk.markProposal mark) entryId known :=
  labelled.update fun attempt => by unfold Attempt.markProposal; split <;> rfl

theorem resolve (verdict : Verdict) : Labelled (desk.resolve verdict) entryId known :=
  labelled.update fun attempt => by unfold Attempt.respond; split <;> rfl

theorem reject (rejection : Rejection) : Labelled (desk.reject rejection) entryId known :=
  labelled.update fun attempt => by unfold Attempt.respond; split <;> rfl

theorem releaseEntry (cause : ReleaseCause) : Labelled (desk.releaseEntry cause) entryId known :=
  labelled.update fun attempt => by unfold Attempt.releaseEntry; split <;> rfl

theorem ofHandoff (handoff : Handoff)
    (command : ∀ attempt, (change attempt).command = attempt.command) :
    Labelled (desk.ofHandoff handoff change) entryId known :=
  labelled.update fun attempt => by split <;> simp [command]

theorem endHandoff (position : Nat) (handoff : Handoff) :
    Labelled (desk.endHandoff position handoff) entryId known :=
  ⟨(labelled.ofHandoff handoff (fun _ => by split <;> rfl)).attempt,
    fun _ member => labelled.handoffs _ (List.mem_of_mem_eraseIdx member)⟩

theorem setHandoff (position : Nat) (command : handoff.command.entryId = entryId)
    (awaited : ∀ number, handoff.awaited = some number → known number) :
    Labelled (desk.setHandoff position handoff) entryId known := by
  refine ⟨labelled.attempt, fun other member => ?_⟩
  rcases List.mem_or_eq_of_mem_set member with member | rfl
  · exact labelled.handoffs other member
  · exact ⟨command, awaited⟩

theorem portAnswers (found : desk.handoffs[position]? = some handoff) (result : PortResult) :
    Labelled (desk.portAnswers position handoff result) entryId known := by
  have command := (labelled.handoffs handoff (List.mem_of_getElem? found)).1
  have failed : ∀ failure, Labelled (((desk.ofHandoff handoff fun attempt =>
      { attempt with proposal := .refused failure }).reject .port).endHandoff
        position handoff) entryId known := fun failure =>
    ((labelled.ofHandoff handoff (by intro _; rfl)).reject _).endHandoff _ _
  cases result with
  | accepted => exact labelled.endHandoff _ _
  | deferred exhausted =>
    cases exhausted with
    | false =>
      exact (labelled.markProposal _).setHandoff _ command fun _ awaited => by cases awaited
    | true =>
      exact (((labelled.markProposal _).ofHandoff handoff
        (by intro _; rfl)).reject _).endHandoff _ _
  | coreRefused => exact failed _
  | coreFatal => exact failed _
  | hostFailure => exact failed _
  | other => exact failed _

theorem reparkReservedWrite : Labelled desk.reparkReservedWrite entryId known := by
  unfold Desk.reparkReservedWrite
  split
  · exact (labelled.markProposal _).update fun _ => rfl
  · exact labelled.resolve _

theorem readmitReservedWrites : Labelled desk.readmitReservedWrites entryId known := by
  unfold Desk.readmitReservedWrites
  split
  next attempt isAttempt =>
    split
    · have command := labelled.attempt attempt isAttempt
      refine ⟨fun other is => ?_, fun handoff member => ?_⟩
      · cases is
        exact command
      rcases List.mem_append.mp member with member | member
      · exact labelled.handoffs handoff member
      · obtain rfl := List.mem_singleton.mp member
        exact ⟨command, fun _ awaited => by cases awaited⟩
    · exact labelled
  · exact labelled

end

end Labelled

end Desk

end LagrangeDb.Write
