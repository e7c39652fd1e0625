import Mathlib.Data.List.Pairwise
import Mathlib.Order.Basic

namespace LagrangeDb.Data

/-! A line of items that wait for their turn. Only the head is executed, and it
leaves the line no sooner than that. -/

structure Line (item : Type*) where
  (offered executed backlog : List item)

namespace Line

variable {item rank : Type*} [Preorder rank]

/-- What may happen to a line. The exempt items need not be executed. -/
inductive Move (rankOf : item → rank) (exempt : item → Prop) :
    Line item → Line item → Prop where
  | stay (line) : Move rankOf exempt line line
  | offer (line) (new) :
      (∀ old ∈ line.offered, rankOf old < rankOf new) →
      Move rankOf exempt line ⟨line.offered ++ [new], line.executed, line.backlog ++ [new]⟩
  | attempt (offered executed head rest) :
      Move rankOf exempt ⟨offered, executed, head :: rest⟩
        ⟨offered, executed ++ [head], head :: rest⟩
  | finish (offered executed head rest) :
      Move rankOf exempt ⟨offered, executed, head :: rest⟩ ⟨offered, executed ++ [head], rest⟩
  | exempted (offered executed before head rest) : exempt head →
      Move rankOf exempt ⟨offered, executed, before ++ head :: rest⟩
        ⟨offered, executed, before ++ rest⟩

/-- Nothing is lost, and what was executed comes before what waits. -/
structure Sound (rankOf : item → rank) (exempt : item → Prop)
    (line : Line item) : Prop where
  known : ∀ entry ∈ line.executed ++ line.backlog, entry ∈ line.offered
  kept : ∀ entry ∈ line.offered, ¬exempt entry → entry ∈ line.executed ∨ entry ∈ line.backlog
  ordered : line.executed.Pairwise fun first second => rankOf first ≤ rankOf second
  waiting : line.backlog.Pairwise fun first second => rankOf first < rankOf second
  before : ∀ done ∈ line.executed, ∀ entry ∈ line.backlog, rankOf done ≤ rankOf entry

variable {rankOf : item → rank} {exempt : item → Prop}

theorem sound_nil : Sound rankOf exempt ⟨[], [], []⟩ where
  known := nofun
  kept := nofun
  ordered := .nil
  waiting := .nil
  before := nofun

variable {line : Line item}

theorem Sound.offer (sound : Sound rankOf exempt line)
    (newer : ∀ old ∈ line.offered, rankOf old < rankOf new) : Sound rankOf exempt
      ⟨line.offered ++ [new], line.executed, line.backlog ++ [new]⟩ where
  known entry member := by
    rw [← List.append_assoc] at member
    rcases List.mem_append.mp member with old | latest
    · exact List.mem_append_left _ (sound.known entry old)
    · exact List.mem_append_right _ latest
  kept entry member needed := by
    rcases List.mem_append.mp member with old | latest
    · exact (sound.kept entry old needed).imp_right (List.mem_append_left _)
    · exact .inr (List.mem_append_right _ latest)
  ordered := sound.ordered
  waiting := by
    rw [List.pairwise_append]
    refine ⟨sound.waiting, List.pairwise_singleton _ _, ?_⟩
    intro entry member latest isNew
    rw [List.mem_singleton.mp isNew]
    exact newer entry (sound.known entry (List.mem_append_right _ member))
  before done executed entry member := by
    rcases List.mem_append.mp member with old | latest
    · exact sound.before done executed entry old
    · rw [List.mem_singleton.mp latest]
      exact (newer done (sound.known done (List.mem_append_left _ executed))).le

variable {head : item} {offered executed rest : List item}

theorem Sound.attempt (sound : Sound rankOf exempt ⟨offered, executed, head :: rest⟩) :
    Sound rankOf exempt ⟨offered, executed ++ [head], head :: rest⟩ where
  known entry member := by
    apply sound.known
    rcases List.mem_append.mp member with done | waits
    · rcases List.mem_append.mp done with old | latest
      · exact List.mem_append_left _ old
      · rw [List.mem_singleton.mp latest]
        exact List.mem_append_right _ List.mem_cons_self
    · exact List.mem_append_right _ waits
  kept entry member needed := (sound.kept entry member needed).imp_left (List.mem_append_left _)
  ordered := by
    rw [List.pairwise_append]
    refine ⟨sound.ordered, List.pairwise_singleton _ _, ?_⟩
    intro done member latest isHead
    rw [List.mem_singleton.mp isHead]
    exact sound.before done member head List.mem_cons_self
  waiting := sound.waiting
  before done member entry waits := by
    rcases List.mem_append.mp member with old | latest
    · exact sound.before done old entry waits
    rw [List.mem_singleton.mp latest]
    rcases List.mem_cons.mp waits with rfl | later
    · exact le_refl _
    · exact (List.rel_of_pairwise_cons sound.waiting later).le

theorem Sound.leave {before : List item}
    (sound : Sound rankOf exempt ⟨offered, executed, before ++ head :: rest⟩)
    (free : head ∈ executed ∨ exempt head) :
    Sound rankOf exempt ⟨offered, executed, before ++ rest⟩ := by
  have shorter : (before ++ rest).Sublist (before ++ head :: rest) :=
    List.Sublist.append_left (List.sublist_cons_self _ _) _
  refine ⟨?_, ?_, sound.ordered, sound.waiting.sublist shorter, ?_⟩
  · intro entry member
    exact sound.known entry ((List.Sublist.append_left shorter executed).subset member)
  · intro entry member needed
    rcases sound.kept entry member needed with done | waits
    · exact .inl done
    rcases List.mem_append.mp waits with early | late
    · exact .inr (List.mem_append_left _ early)
    rcases List.mem_cons.mp late with rfl | later
    · exact .inl (free.resolve_right needed)
    · exact .inr (List.mem_append_right _ later)
  · exact fun done member entry waits => sound.before done member entry (shorter.subset waits)

theorem Move.sound (sound : Sound rankOf exempt line)
    (move : Move rankOf exempt line line') : Sound rankOf exempt line' := by
  cases move with
  | stay => exact sound
  | offer _ _ newer => exact sound.offer newer
  | attempt => exact sound.attempt
  | finish offered executed head rest =>
    have executedHead : head ∈ executed ++ [head] :=
      List.mem_append_right _ (List.mem_singleton.mpr rfl)
    have attempted : Sound rankOf exempt
        ⟨offered, executed ++ [head], [] ++ head :: rest⟩ := sound.attempt
    exact attempted.leave (.inl executedHead)
  | exempted offered executed before head rest free => exact sound.leave (.inr free)

end Line

end LagrangeDb.Data
