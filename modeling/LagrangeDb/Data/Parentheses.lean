import Mathlib
import LagrangeDb.Data.Precedence

namespace LagrangeDb.Data

/-! Parentheses. A tree is told by its text and its structure without the
groups, whether it is ordered or not. -/

namespace Grammar

variable {Token : Type*} {grammar : Grammar Token}

inductive Turn where
  | up
  | down
  | flat

def Turn.step : Turn → Nat → Option Nat
  | .up, depth => some (depth + 1)
  | .down, 0 => none
  | .down, depth + 1 => some depth
  | .flat, depth => some depth

variable (grammar) in
def turn (token : Token) : Turn :=
  match grammar.operand token, grammar.operator token, grammar.inside token with
  | .opening, _, _ | _, .suffix _, _ => .up
  | _, _, .closing => .down
  | _, _, _ => .flat

variable (grammar) in
/-- How deep a text ends that begins at a depth; none where it closes more than
was opened. -/
def height (depth : Nat) (text : List Token) : Option Nat :=
  text.foldlM (fun depth token => (grammar.turn token).step depth) depth

theorem height_append (text rest : List Token) (depth : Nat) : grammar.height depth (text ++ rest) =
      grammar.height depth text >>= fun depth => grammar.height depth rest :=
  List.foldlM_append

theorem height_cons (token : Token) (text : List Token) (depth : Nat) :
    grammar.height depth (token :: text) =
      (grammar.turn token).step depth >>= fun depth => grammar.height depth text :=
  List.foldlM_cons

theorem height_succ (ends : grammar.height depth text = some result) :
    grammar.height (depth + 1) text = some (result + 1) := by
  induction text generalizing depth with
  | nil =>
    cases ends
    rfl
  | cons token text induction =>
    rw [height_cons] at ends ⊢
    cases turned : grammar.turn token with
    | up =>
      rw [turned] at ends
      exact induction ends
    | down =>
      rw [turned] at ends
      cases depth with
      | zero => cases ends
      | succ depth => exact induction ends
    | flat =>
      rw [turned] at ends
      exact induction ends

section

theorem turn_opening (role : grammar.operand token = .opening) : grammar.turn token = .up := by
  simp [turn, role]

theorem turn_suffix {level : Nat} (role : grammar.operator token = .suffix level) :
    grammar.turn token = .up := by
  simp [turn, grammar.suffix_operand token level role, role]

theorem turn_closing (role : grammar.inside token = .closing) : grammar.turn token = .down := by
  have present : grammar.inside token ≠ .absent := by
    rw [role]
    nofun
  simp [turn, grammar.inside_operand token present, grammar.inside_operator token present, role]

theorem turn_mark (role : grammar.inside token = .mark) : grammar.turn token = .flat := by
  have present : grammar.inside token ≠ .absent := by
    rw [role]
    nofun
  simp [turn, grammar.inside_operand token present, grammar.inside_operator token present, role]

theorem turn_flat (operand : grammar.operand token ≠ .opening)
    (operator : ∀ level, grammar.operator token ≠ .suffix level)
    (inside : grammar.inside token = .absent) : grammar.turn token = .flat := by
  simp only [turn, inside]

theorem inside_absent_of_operand (role : grammar.operand token ≠ .absent) :
    grammar.inside token = .absent := by
  by_contra present
  exact role (grammar.inside_operand token present)

theorem inside_absent_of_operator (role : grammar.operator token ≠ .absent) :
    grammar.inside token = .absent := by
  by_contra present
  exact role (grammar.inside_operator token present)

theorem turn_operand (role : grammar.operand token ≠ .opening)
    (present : grammar.operand token ≠ .absent) : grammar.turn token = .flat := by
  apply turn_flat role _ (inside_absent_of_operand present)
  intro level suffix
  exact present (grammar.suffix_operand token level suffix)

theorem turn_operator (role : ∀ level, grammar.operator token ≠ .suffix level)
    (present : grammar.operator token ≠ .absent) : grammar.turn token = .flat := by
  apply turn_flat _ role (inside_absent_of_operator present)
  intro opening
  exact present (grammar.opening_operator token opening)

end

theorem height_flat (flat : grammar.turn token = .flat) (text : List Token) (depth : Nat) :
    grammar.height depth (token :: text) = grammar.height depth text := by
  rw [height_cons, flat]
  rfl

theorem height_up (up : grammar.turn token = .up) (text : List Token) (depth : Nat) :
    grammar.height depth (token :: text) = grammar.height (depth + 1) text := by
  rw [height_cons, up]
  rfl

theorem height_pass (ends : grammar.height depth text = some depth') (rest : List Token) :
    grammar.height depth (text ++ rest) = grammar.height depth' rest := by
  rw [height_append, ends]
  rfl

theorem height_yield (tree : Reading Token) : (grammar.Shaped .expression tree → ∀ depth,
      grammar.height depth (grammar.yield tree) = some depth) ∧
    (∀ {atStart}, grammar.Shaped (.inside atStart) tree → ∀ depth,
      grammar.height (depth + 1) (grammar.yield tree) = some depth) := by
  induction tree with
  | leaf token =>
    constructor
    · intro role depth
      have role : grammar.operand token = .leaf := role
      exact height_flat (turn_operand (by simp [role])
        (by simp [role])) [] depth
    · intro _ shaped
      cases shaped
  | unary operator operand induction =>
    constructor
    · rintro ⟨⟨level, role⟩, shaped⟩ depth
      rw [yield, height_flat (turn_operand (by simp [role])
        (by simp [role]))]
      exact induction.1 shaped depth
    · intro _ shaped
      cases shaped
  | binary left operator right inductionLeft inductionRight =>
    constructor
    · rintro ⟨⟨level, role⟩, shapedLeft, shapedRight⟩ depth
      rw [yield, height_pass (inductionLeft.1 shapedLeft depth),
        height_flat (turn_operator (by simp [role])
          (by simp [role]))]
      exact inductionRight.1 shapedRight depth
    · intro _ shaped
      cases shaped
  | ternary left operator middle last right inductionLeft inductionMiddle
      inductionRight =>
      constructor
      · rintro ⟨⟨level, inner, role⟩, ⟨levelLast, roleLast⟩, shapedLeft,
          shapedMiddle, shapedRight⟩ depth
        rw [yield, height_pass (inductionLeft.1 shapedLeft depth),
          height_flat (turn_operator (by simp [role])
            (by simp [role])),
          height_pass (inductionMiddle.1 shapedMiddle depth),
          height_flat (turn_operator (by simp [roleLast])
            (by simp [roleLast]))]
        exact inductionRight.1 shapedRight depth
      · intro _ shaped
        cases shaped
  | group content induction =>
    constructor
    · intro shaped depth
      rw [yield, height_up (turn_opening grammar.operand_group),
        height_pass (induction.1 shaped (depth + 1)), height_cons,
        turn_closing grammar.inside_ungroup]
      rfl
    · intro _ shaped
      cases shaped
  | bracket opening inside induction =>
    constructor
    · rintro ⟨role, -, shaped⟩ depth
      rw [yield, height_up (turn_opening role)]
      exact induction.2 shaped depth
    · intro _ shaped
      cases shaped
  | suffix left opening inside inductionLeft inductionInside =>
    constructor
    · rintro ⟨⟨level, role⟩, shapedLeft, shapedInside⟩ depth
      rw [yield, height_pass (inductionLeft.1 shapedLeft depth), height_up (turn_suffix role)]
      exact inductionInside.2 shapedInside depth
    · intro _ shaped
      cases shaped
  | done closing =>
    constructor
    · intro shaped
      cases shaped
    intro atStart role depth
    rw [yield, height_cons, turn_closing role]
    rfl
  | part mark content inside inductionContent inductionInside =>
    constructor
    · intro shaped
      cases shaped
    intro atStart shaped depth
    obtain ⟨marks, -, shapedContent, shapedInside⟩ := shaped_part shaped
    have below : grammar.height (depth + 1)
        (grammar.yield content ++ grammar.yield inside) = some depth := by
      rw [height_pass (inductionContent.1 shapedContent (depth + 1))]
      exact inductionInside.2 shapedInside depth
    cases mark with
    | none => exact below
    | some mark => exact (height_flat (turn_mark (marks mark rfl)) _ _).trans below

end Grammar

namespace Reading

variable {Token : Type*}

def bare : Reading Token → Reading Token
  | .leaf token => .leaf token
  | .unary operator operand => .unary operator operand.bare
  | .binary left operator right => .binary left.bare operator right.bare
  | .ternary left operator middle last right =>
    .ternary left.bare operator middle.bare last right.bare
  | .group content => content.bare
  | .bracket opening inside => .bracket opening inside.bare
  | .suffix left opening inside => .suffix left.bare opening inside.bare
  | .done closing => .done closing
  | .part mark content inside => .part mark content.bare inside.bare

end Reading

namespace Grammar

variable {Token : Type*} {grammar : Grammar Token} {tree : Reading Token}

theorem shaped_bare (shaped : grammar.Shaped place tree) :
    grammar.Shaped place tree.bare := by
  induction tree generalizing place with
  | leaf _ | done _ => exact shaped
  | unary operator operand induction =>
    cases place with
    | expression => exact ⟨shaped.1, induction shaped.2⟩
    | inside _ => cases shaped
  | binary left operator right inductionLeft inductionRight =>
    cases place with
    | expression => exact ⟨shaped.1, inductionLeft shaped.2.1, inductionRight shaped.2.2⟩
    | inside _ => cases shaped
  | ternary left operator middle last right inductionLeft inductionMiddle
      inductionRight =>
      cases place with
      | expression =>
        obtain ⟨role, roleLast, onLeft, onMiddle, onRight⟩ := shaped
        exact ⟨role, roleLast, inductionLeft onLeft, inductionMiddle onMiddle,
          inductionRight onRight⟩
      | inside _ => cases shaped
  | group content induction =>
    cases place with
    | expression => exact induction shaped
    | inside _ => cases shaped
  | bracket opening inside induction =>
    cases place with
    | expression => exact ⟨shaped.1, shaped.2.1, induction shaped.2.2⟩
    | inside _ => cases shaped
  | suffix left opening inside inductionLeft inductionInside =>
    cases place with
    | expression => exact ⟨shaped.1, inductionLeft shaped.2.1, inductionInside shaped.2.2⟩
    | inside _ => cases shaped
  | part mark content inside inductionContent inductionInside =>
    cases place with
    | expression => cases shaped
    | inside atStart =>
      obtain ⟨marks, starts, onContent, onInside⟩ := shaped_part shaped
      have content' := inductionContent onContent
      have inside' := inductionInside onInside
      cases mark with
      | none =>
        obtain rfl := starts rfl
        exact ⟨content', inside'⟩
      | some mark => cases atStart <;> exact ⟨marks mark rfl, content', inside'⟩

section

variable [DecidableEq Token]

variable (grammar) in
def grouping (token : Token) : Bool := token = grammar.group || token = grammar.ungroup

theorem frontier_bare (tree : Reading Token) :
    (grammar.yield tree.bare).filter (!grammar.grouping ·) =
      (grammar.yield tree).filter (!grammar.grouping ·) := by
  induction tree with
  | leaf _ | done _ => rfl
  | unary operator operand induction => simp only [Reading.bare, yield, List.filter_cons, induction]
  | binary left operator right inductionLeft inductionRight =>
    simp only [Reading.bare, yield, List.filter_append, List.filter_cons,
      inductionLeft, inductionRight]
  | ternary left operator middle last right inductionLeft inductionMiddle
      inductionRight =>
      simp only [Reading.bare, yield, List.filter_append, List.filter_cons,
        inductionLeft, inductionMiddle, inductionRight]
  | group content induction =>
    have opens : grammar.grouping grammar.group = true := by simp [grouping]
    have closes : grammar.grouping grammar.ungroup = true := by simp [grouping]
    simp [Reading.bare, yield, opens, closes, induction]
  | bracket opening inside induction => simp only [Reading.bare, yield, List.filter_cons, induction]
  | suffix left opening inside inductionLeft inductionInside =>
    simp only [Reading.bare, yield, List.filter_append, List.filter_cons,
      inductionLeft, inductionInside]
  | part mark content inside inductionContent inductionInside =>
    simp only [Reading.bare, yield, List.filter_append, inductionContent, inductionInside]

theorem frontier_of_bare {tree' : Reading Token} (same : tree.bare = tree'.bare) :
    (grammar.yield tree).filter (!grammar.grouping ·) =
      (grammar.yield tree').filter (!grammar.grouping ·) := by
  rw [← frontier_bare, same, frontier_bare]

theorem no_longer (ends : grammar.height 0 text = some 0) (ends' : grammar.height 0 text' = some 0)
    (other : token ≠ grammar.group)
    (frontier : text.filter (!grammar.grouping ·) = text'.filter (!grammar.grouping ·)) :
    text' ≠ text ++ token :: rest := by
  rintro rfl
  rw [height_pass ends] at ends'
  rw [List.filter_append, List.self_eq_append_right, List.filter_eq_nil_iff] at frontier
  have grouped := frontier token List.mem_cons_self
  simp only [Bool.not_eq_true, Bool.not_eq_false', grouping, Bool.or_eq_true,
    decide_eq_true_eq, other, false_or] at grouped
  rw [grouped, height_cons, turn_closing grammar.inside_ungroup] at ends'
  cases ends'

theorem split_at (ends : grammar.height 0 text = some 0)
    (ends' : grammar.height 0 text' = some 0) (other : token ≠ grammar.group)
    (frontier : text.filter (!grammar.grouping ·) = text'.filter (!grammar.grouping ·))
    (same : text ++ token :: rest = text' ++ token :: rest') : text = text' ∧ rest = rest' := by
  rcases List.append_eq_append_iff.mp same with
    ⟨between, atText, atRest⟩ | ⟨between, atText, atRest⟩
  · cases between with
    | nil =>
      rw [List.append_nil] at atText
      exact ⟨atText.symm, (List.cons.inj atRest).2⟩
    | cons first between =>
      obtain ⟨rfl, -⟩ := List.cons.inj atRest
      exact absurd atText (no_longer ends ends' other frontier)
  · cases between with
    | nil =>
      rw [List.append_nil] at atText
      exact ⟨atText, (List.cons.inj atRest).2.symm⟩
    | cons first between =>
      obtain ⟨rfl, -⟩ := List.cons.inj atRest
      exact absurd atText (no_longer ends' ends other frontier.symm)

end

theorem group_ne_left (shaped : grammar.Shaped .expression content)
    (shapedLeft : grammar.Shaped .expression left) :
    grammar.yield (.group content) ≠ grammar.yield left ++ token :: rest := by
  intro same
  obtain ⟨first, more, text, -⟩ := head_of_shaped shapedLeft
  have closes := (height_yield left).1 shapedLeft 0
  rw [text, yield, List.cons_append] at same
  obtain ⟨rfl, content'⟩ := List.cons.inj same
  rw [text, height_up (turn_opening grammar.operand_group)] at closes
  -- The rest of the left operand is part of the content.
  obtain ⟨tail, within⟩ : ∃ tail, grammar.yield content = more ++ tail := by
    rcases List.append_eq_append_iff.mp content' with
      ⟨between, atMore, atRest⟩ | ⟨between, atContent, -⟩
    · cases between with
      | nil => exact ⟨[], by simpa using atMore.symm⟩
      | cons _ between => simp at atRest
    · exact ⟨between, atContent⟩
  have ends := (height_yield content).1 shaped 0
  rw [within, height_append] at ends
  obtain ⟨depth, atMore, -⟩ := Option.bind_eq_some_iff.mp ends
  have deeper := height_succ atMore
  rw [closes] at deeper
  cases deeper

section

theorem yield_group_ne (shaped : grammar.Shaped .expression content)
    (shaped' : grammar.Shaped .expression tree') (other : ∀ content', tree' ≠ .group content') :
    grammar.yield (.group content) ≠ grammar.yield tree' := by
  intro same
  cases tree' with
  | leaf token =>
    have lengths := congrArg List.length same
    simp [yield] at lengths
  | unary operator operand =>
    obtain ⟨⟨level, role⟩, -⟩ := shaped'
    rw [← (List.cons.inj same).1, grammar.operand_group] at role
    cases role
  | binary left operator right => exact group_ne_left shaped shaped'.2.1 same
  | ternary left operator middle last right => exact group_ne_left shaped shaped'.2.2.1 same
  | group content' => exact other content' rfl
  | bracket opening inside => exact shaped'.2.1 (List.cons.inj same).1.symm
  | suffix left opening inside => exact group_ne_left shaped shaped'.2.1 same
  | done _ => cases shaped'
  | part _ _ _ => cases shaped'

theorem ne_group_of_operator (role : grammar.operator token ≠ .absent) : token ≠ grammar.group := by
  rintro rfl
  exact role (grammar.opening_operator _ grammar.operand_group)

theorem ne_group_of_inside (role : grammar.inside token ≠ .absent) : token ≠ grammar.group := by
  rintro rfl
  have absent := grammar.inside_operand _ role
  rw [grammar.operand_group] at absent
  cases absent

theorem yield_inside {inside : Reading Token} (shaped : grammar.Shaped (.inside false) inside) :
    ∃ token rest, grammar.yield inside = token :: rest ∧ grammar.inside token ≠ .absent ∧
      ∀ inside', grammar.Shaped (.inside false) inside' → inside.bare = inside'.bare →
          ∃ rest', grammar.yield inside' = token :: rest' := by
  cases inside with
  | done closing =>
    have role : grammar.inside closing = .closing := shaped
    refine ⟨closing, [], rfl, by rw [role]; nofun, ?_⟩
    intro inside' shaped' same
    cases inside' with
    | done closing' =>
      cases same
      exact ⟨[], rfl⟩
    | group _ => cases shaped'
    | _ => cases same
  | part mark content below =>
    obtain ⟨marks, starts, -, -⟩ := shaped_part shaped
    cases mark with
    | none => cases starts rfl
    | some mark =>
      refine ⟨mark, _, rfl, by rw [marks mark rfl]; nofun, ?_⟩
      intro inside' shaped' same
      cases inside' with
      | part mark' content' below' =>
        obtain ⟨rfl, -, -⟩ := Reading.part.inj same
        exact ⟨_, rfl⟩
      | group _ => cases shaped'
      | _ => cases same
  | _ => cases shaped

variable [DecidableEq Token]

theorem split_left (shaped : grammar.Shaped .expression left)
    (shaped' : grammar.Shaped .expression left') (other : token ≠ grammar.group)
    (structures : left.bare = left'.bare)
    (same : grammar.yield left ++ token :: rest = grammar.yield left' ++ token :: rest') :
    grammar.yield left = grammar.yield left' ∧ rest = rest' :=
  split_at ((height_yield left).1 shaped 0) ((height_yield left').1 shaped' 0)
    other (frontier_of_bare structures) same

theorem eq_of_bare (tree : Reading Token) : (∀ tree', grammar.Shaped .expression tree →
      grammar.Shaped .expression tree' →
      grammar.yield tree = grammar.yield tree' → tree.bare = tree'.bare → tree = tree') ∧
    (∀ tree' atStart, grammar.Shaped (.inside atStart) tree →
      grammar.Shaped (.inside atStart) tree' →
      grammar.yield tree = grammar.yield tree' → tree.bare = tree'.bare → tree = tree') := by
  induction tree with
  | leaf token =>
    refine ⟨?_, nofun⟩
    intro tree' shaped shaped' same structures
    cases tree' with
    | leaf token' => exact structures
    | group _ => exact absurd same.symm (yield_group_ne shaped' shaped nofun)
    | _ => cases structures
  | unary operator operand induction =>
    refine ⟨?_, nofun⟩
    intro tree' shaped shaped' same structures
    cases tree' with
    | unary operator' operand' =>
      obtain ⟨rfl, below⟩ := Reading.unary.inj structures
      rw [induction.1 operand' shaped.2 shaped'.2 (List.cons.inj same).2 below]
    | group _ => exact absurd same.symm (yield_group_ne shaped' shaped nofun)
    | _ => cases structures
  | binary left operator right inductionLeft inductionRight =>
    refine ⟨?_, nofun⟩
    intro tree' shaped shaped' same structures
    cases tree' with
    | binary left' operator' right' =>
      obtain ⟨structuresLeft, rfl, structuresRight⟩ := Reading.binary.inj structures
      obtain ⟨⟨level, role⟩, shapedLeft, shapedRight⟩ := shaped
      have other : operator ≠ grammar.group := ne_group_of_operator (by rw [role]; nofun)
      obtain ⟨sameLeft, sameRight⟩ := split_left shapedLeft shaped'.2.1 other structuresLeft same
      rw [inductionLeft.1 left' shapedLeft shaped'.2.1 sameLeft structuresLeft,
        inductionRight.1 right' shapedRight shaped'.2.2 sameRight structuresRight]
    | group _ => exact absurd same.symm (yield_group_ne shaped' shaped nofun)
    | _ => cases structures
  | ternary left operator middle last right inductionLeft inductionMiddle
      inductionRight =>
      refine ⟨?_, nofun⟩
      intro tree' shaped shaped' same structures
      cases tree' with
      | ternary left' operator' middle' last' right' =>
        obtain ⟨structuresLeft, rfl, structuresMiddle, rfl, structuresRight⟩ :=
          Reading.ternary.inj structures
        obtain ⟨⟨level, inner, role⟩, ⟨levelLast, roleLast⟩, shapedLeft,
          shapedMiddle, shapedRight⟩ := shaped
        obtain ⟨-, -, shapedLeft', shapedMiddle', shapedRight'⟩ := shaped'
        have other : operator ≠ grammar.group := ne_group_of_operator (by rw [role]; nofun)
        have otherLast : last ≠ grammar.group := ne_group_of_operator (by rw [roleLast]; nofun)
        obtain ⟨sameLeft, sameRest⟩ := split_left shapedLeft shapedLeft' other structuresLeft same
        obtain ⟨sameMiddle, sameRight⟩ := split_left shapedMiddle
          shapedMiddle' otherLast structuresMiddle sameRest
        rw [inductionLeft.1 left' shapedLeft shapedLeft' sameLeft structuresLeft,
          inductionMiddle.1 middle' shapedMiddle shapedMiddle' sameMiddle structuresMiddle,
          inductionRight.1 right' shapedRight shapedRight' sameRight structuresRight]
      | group _ => exact absurd same.symm (yield_group_ne shaped' shaped nofun)
      | _ => cases structures
  | group content induction =>
    refine ⟨?_, nofun⟩
    intro tree' shaped shaped' same structures
    by_cases grouped : ∃ content', tree' = .group content'
    · obtain ⟨content', rfl⟩ := grouped
      have inner := List.append_cancel_right (List.cons.inj same).2
      rw [induction.1 content' shaped shaped' inner structures]
    · exact absurd same (yield_group_ne shaped shaped'
        fun content' atTree => grouped ⟨content', atTree⟩)
  | bracket opening inside induction =>
    refine ⟨?_, nofun⟩
    intro tree' shaped shaped' same structures
    cases tree' with
    | bracket opening' inside' =>
      obtain ⟨rfl, below⟩ := Reading.bracket.inj structures
      rw [induction.2 inside' true shaped.2.2 shaped'.2.2 (List.cons.inj same).2 below]
    | group _ => exact absurd same.symm (yield_group_ne shaped' shaped nofun)
    | _ => cases structures
  | suffix left opening inside inductionLeft inductionInside =>
    refine ⟨?_, nofun⟩
    intro tree' shaped shaped' same structures
    cases tree' with
    | suffix left' opening' inside' =>
      obtain ⟨structuresLeft, rfl, structuresInside⟩ := Reading.suffix.inj structures
      obtain ⟨⟨level, role⟩, shapedLeft, shapedInside⟩ := shaped
      have other : opening ≠ grammar.group := ne_group_of_operator (by rw [role]; nofun)
      obtain ⟨sameLeft, sameInside⟩ := split_left shapedLeft shaped'.2.1 other structuresLeft same
      rw [inductionLeft.1 left' shapedLeft shaped'.2.1 sameLeft structuresLeft,
        inductionInside.2 inside' true shapedInside shaped'.2.2 sameInside structuresInside]
    | group _ => exact absurd same.symm (yield_group_ne shaped' shaped nofun)
    | _ => cases structures
  | done closing =>
    refine ⟨nofun, ?_⟩
    intro tree' atStart shaped shaped' same structures
    cases tree' with
    | done closing' => exact structures
    | group _ => cases shaped'
    | _ => cases structures
  | part mark content inside inductionContent inductionInside =>
    refine ⟨nofun, ?_⟩
    intro tree' atStart shaped shaped' same structures
    cases tree' with
    | part mark' content' inside' =>
      obtain ⟨rfl, structuresContent, structuresInside⟩ := Reading.part.inj structures
      obtain ⟨-, -, shapedContent, shapedInside⟩ := shaped_part shaped
      obtain ⟨-, -, shapedContent', shapedInside'⟩ := shaped_part shaped'
      obtain ⟨token, rest, text, role, heads⟩ := yield_inside shapedInside
      obtain ⟨rest', text'⟩ := heads inside' shapedInside' structuresInside
      have inner := List.append_cancel_left same
      rw [text, text'] at inner
      obtain ⟨sameContent, sameRest⟩ := split_left shapedContent
        shapedContent' (ne_group_of_inside role) structuresContent inner
      have sameInside : grammar.yield inside = grammar.yield inside' := by
        rw [text, text', sameRest]
      rw [inductionContent.1 content' shapedContent shapedContent' sameContent structuresContent,
        inductionInside.2 inside' false shapedInside shapedInside' sameInside structuresInside]
    | group _ => cases shaped'
    | _ => cases structures

end

end Grammar

end LagrangeDb.Data
