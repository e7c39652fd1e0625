import Mathlib.Order.WithBot
import Mathlib.Data.List.Nodup
import Mathlib.Data.List.Pairwise

namespace LagrangeDb.Data.Tiling

/-! Half-open intervals of a linear order that follow one another. An interval may
be unbounded below or above. -/

section

variable {item α : Type*} [LinearOrder α] (low : item → WithBot α)
  (high : item → WithTop α)

def Contains (point : α) (interval : item) : Prop := low interval ≤ point ∧ point < high interval

/-- The intervals go on from a bound to the end, each from where the one before it
ends. -/
def Linked : WithBot α → List item → Prop
  | _, [] => False
  | bound, interval :: rest =>
    low interval = bound ∧
      (high interval = ⊤ ∧ rest = [] ∨
        ∃ cut : α, high interval = cut ∧ bound ≤ cut ∧ Linked cut rest)

def Meets (interval next : item) : Prop := ∃ cut : α, high interval = cut ∧ low next = cut

def Full (intervals : List item) : Prop :=
  ∀ interval ∈ intervals, ∀ cut : α, high interval = cut → low interval < cut

variable {low high} {bound : WithBot α} {intervals : List item} {point : α}

theorem Linked.not_contains (linked : Linked low high bound intervals)
    (below : ¬bound ≤ point) : ∀ interval ∈ intervals, ¬Contains low high point interval := by
  induction intervals generalizing bound with
  | nil => nofun
  | cons head rest induction =>
    obtain ⟨starts, ends⟩ := linked
    intro interval member contained
    rcases List.mem_cons.mp member with rfl | later
    · exact below (starts ▸ contained.1)
    rcases ends with ⟨-, rfl⟩ | ⟨cut, -, order, linked⟩
    · cases later
    · exact induction linked (fun above => below (order.trans above)) interval later
        contained

theorem Linked.contains (linked : Linked low high bound intervals)
    (above : bound ≤ point) : ∃ before interval after,
      intervals = before ++ interval :: after ∧ Contains low high point interval ∧
        ∀ other ∈ before ++ after, ¬Contains low high point other := by
  induction intervals generalizing bound with
  | nil => cases linked
  | cons head rest induction =>
    obtain ⟨starts, ends⟩ := linked
    rcases ends with ⟨top, rfl⟩ | ⟨cut, stops, order, linked⟩
    · refine ⟨[], head, [], rfl, ⟨starts ▸ above, ?_⟩, nofun⟩
      rw [top]
      exact WithTop.coe_lt_top point
    by_cases beyond : cut ≤ point
    · obtain ⟨before, interval, after, rfl, inside, others⟩ :=
        induction linked (WithBot.coe_le_coe.mpr beyond)
      refine ⟨head :: before, interval, after, rfl, inside, ?_⟩
      intro other member
      rcases List.mem_cons.mp member with rfl | later
      · rintro ⟨-, contained⟩
        rw [stops, WithTop.coe_lt_coe] at contained
        exact absurd beyond (not_le.mpr contained)
      · exact others other later
    · refine ⟨[], head, rest, rfl, ⟨starts ▸ above, ?_⟩, ?_⟩
      · rw [stops, WithTop.coe_lt_coe]
        exact not_le.mp beyond
      · exact linked.not_contains fun covered => beyond (WithBot.coe_le_coe.mp covered)

theorem Linked.low_ge (linked : Linked low high bound intervals) :
    ∀ interval ∈ intervals, bound ≤ low interval := by
  induction intervals generalizing bound with
  | nil => nofun
  | cons head rest induction =>
    obtain ⟨starts, ends⟩ := linked
    intro interval member
    rcases List.mem_cons.mp member with rfl | later
    · exact starts.ge
    rcases ends with ⟨-, rfl⟩ | ⟨cut, -, order, linked⟩
    · cases later
    · exact order.trans (induction linked interval later)

variable {before after : List item} {interval left right : item}

theorem Linked.split {cut : α} (linked : Linked low high bound (before ++ interval :: after))
    (leftLow : low left = low interval) (leftHigh : high left = cut)
    (rightLow : low right = cut) (rightHigh : high right = high interval)
    (above : low interval ≤ cut) (below : cut ≤ high interval) :
    Linked low high bound (before ++ left :: right :: after) := by
  induction before generalizing bound with
  | nil =>
    obtain ⟨starts, ends⟩ := linked
    refine ⟨leftLow.trans starts, .inr ⟨cut, leftHigh, starts ▸ above, rightLow, ?_⟩⟩
    rw [rightHigh]
    rcases ends with last | ⟨other, stops, -, linked⟩
    · exact .inl last
    · rw [stops, WithTop.coe_le_coe] at below
      exact .inr ⟨other, stops, WithBot.coe_le_coe.mpr below, linked⟩
  | cons head before induction =>
    obtain ⟨starts, ends⟩ := linked
    refine ⟨starts, ?_⟩
    rcases ends with ⟨-, nothing⟩ | ⟨other, stops, order, linked⟩
    · simp at nothing
    · exact .inr ⟨other, stops, order, induction linked⟩

theorem Linked.merge (linked : Linked low high bound (before ++ left :: right :: after))
    (mergedLow : low merged = low left) (mergedHigh : high merged = high right) :
    Linked low high bound (before ++ merged :: after) := by
  induction before generalizing bound with
  | nil =>
    obtain ⟨starts, ends⟩ := linked
    rcases ends with ⟨-, nothing⟩ | ⟨cut, -, order, -, ends⟩
    · cases nothing
    refine ⟨mergedLow.trans starts, ?_⟩
    rw [mergedHigh]
    rcases ends with last | ⟨other, stops, further, linked⟩
    · exact .inl last
    · exact .inr ⟨other, stops, order.trans further, linked⟩
  | cons head before induction =>
    obtain ⟨starts, ends⟩ := linked
    refine ⟨starts, ?_⟩
    rcases ends with ⟨-, nothing⟩ | ⟨cut, stops, order, linked⟩
    · simp at nothing
    · exact .inr ⟨cut, stops, order, induction linked⟩

theorem linked_cons_iff
    (sorted : (head :: rest).Pairwise fun interval later => low interval ≤ low later) :
    Linked low high bound (head :: rest) ↔ low head = bound ∧
      (∀ last ∈ (head :: rest).getLast?, high last = ⊤) ∧
      (head :: rest).IsChain (Meets low high) := by
  induction rest generalizing head bound with
  | nil =>
    refine and_congr_right fun _ => ?_
    simp [Linked]
  | cons next rest induction =>
    obtain ⟨first, sortedRest⟩ := List.pairwise_cons.mp sorted
    refine and_congr_right fun starts => ?_
    rw [List.isChain_cons_cons, List.getLast?_cons_cons]
    constructor
    · rintro (⟨-, nothing⟩ | ⟨cut, stops, -, linked⟩)
      · cases nothing
      · obtain ⟨meets, last, chain⟩ := (induction sortedRest).mp linked
        exact ⟨last, ⟨cut, stops, meets⟩, chain⟩
    · rintro ⟨last, ⟨cut, stops, meets⟩, chain⟩
      refine .inr ⟨cut, stops, ?_, (induction sortedRest).mpr ⟨meets, last, chain⟩⟩
      rw [← starts, ← meets]
      exact first next List.mem_cons_self

theorem Linked.suffix (linked : Linked low high bound (before ++ interval :: after)) :
    Linked low high (low interval) (interval :: after) := by
  induction before generalizing bound with
  | nil => exact linked.1 ▸ linked
  | cons head before induction =>
    obtain ⟨-, ⟨-, nothing⟩ | ⟨_, -, -, linked⟩⟩ := linked
    · simp at nothing
    · exact induction linked

theorem Linked.pairwise_lt (linked : Linked low high bound intervals)
    (full : Full low high intervals) :
    intervals.Pairwise fun interval later => low interval < low later := by
  induction intervals generalizing bound with
  | nil => exact .nil
  | cons head rest induction =>
    obtain ⟨-, ⟨-, rfl⟩ | ⟨cut, stops, -, linked⟩⟩ := linked
    · exact List.pairwise_singleton ..
    have fullRest : Full low high rest := fun interval member =>
      full interval (List.mem_cons_of_mem _ member)
    refine .cons (fun later member => ?_) (induction linked fullRest)
    calc low head < cut := full head List.mem_cons_self cut stops
      _ ≤ low later := linked.low_ge later member

theorem Linked.eq_of_low (linked : Linked low high bound intervals) (full : Full low high intervals)
    (member : interval ∈ intervals) (otherMember : other ∈ intervals)
    (same : low interval = low other) : interval = other := by
  have distinct : (intervals.map low).Nodup :=
    (List.pairwise_map.mpr (linked.pairwise_lt full)).imp ne_of_lt
  exact List.inj_on_of_nodup_map distinct member otherMember same

theorem Linked.exists_of_meets (linked : Linked low high bound intervals)
    (full : Full low high intervals) (leftMember : left ∈ intervals)
    (rightMember : right ∈ intervals) (meets : Meets low high left right) :
    ∃ before after, intervals = before ++ left :: right :: after := by
  obtain ⟨before, after, rfl⟩ := List.append_of_mem leftMember
  obtain ⟨cut, stops, starts⟩ := meets
  obtain ⟨-, ⟨top, -⟩ | ⟨other, otherStops, -, linkedAfter⟩⟩ := linked.suffix
  · rw [top] at stops
    cases stops
  obtain rfl : other = cut := WithTop.coe_injective (otherStops.symm.trans stops)
  cases after with
  | nil => cases linkedAfter
  | cons next after =>
    have same : low next = low right := linkedAfter.1.trans starts.symm
    have nextMember : next ∈ before ++ left :: next :: after := by simp
    obtain rfl := linked.eq_of_low full nextMember rightMember same
    exact ⟨before, after, rfl⟩

end

end LagrangeDb.Data.Tiling
