import Mathlib.Data.List.Basic

namespace LagrangeDb.Data

/-! Texts of operators with precedence, and the trees that are readings of them. -/

inductive OperandRole where
  | leaf
  | opening
  | operator (level : Nat)
  | absent
deriving DecidableEq

/-- What a token does after an operand. A ternary operator has an expression of
the inner level and a last token, itself a binary operator, before its right
operand. -/
inductive OperatorRole (Token : Type*) where
  | binary (level : Nat)
  | suffix (level : Nat)
  | ternary (level inner : Nat) (last : Token)
  | absent
deriving DecidableEq

/-- What a token does between an opening and its closing. -/
inductive InsideRole where
  | mark
  | closing
  | absent
deriving DecidableEq

structure Grammar (Token : Type*) where
  operand : Token → OperandRole
  operator : Token → OperatorRole Token
  inside : Token → InsideRole
  (group ungroup : Token)
  operand_group : operand group = .opening
  inside_ungroup : inside ungroup = .closing
  inside_operand : ∀ token, inside token ≠ .absent → operand token = .absent
  inside_operator : ∀ token, inside token ≠ .absent → operator token = .absent
  opening_operator : ∀ token, operand token = .opening → operator token = .absent
  suffix_operand : ∀ token level, operator token = .suffix level → operand token = .absent

/-- `done` and `part` are what stands inside a bracket. -/
inductive Reading (Token : Type*) where
  | leaf (token : Token)
  | unary (operator : Token) (operand : Reading Token)
  | binary (left : Reading Token) (operator : Token) (right : Reading Token)
  | ternary (left : Reading Token) (operator : Token) (middle : Reading Token)
      (last : Token) (right : Reading Token)
  | group (content : Reading Token)
  | bracket (opening : Token) (inside : Reading Token)
  | suffix (left : Reading Token) (opening : Token) (inside : Reading Token)
  | done (closing : Token)
  | part (mark : Option Token) (content inside : Reading Token)

inductive Place where
  | expression
  | inside (atStart : Bool)

namespace Grammar

variable {Token : Type*} (grammar : Grammar Token)

def unaryLevel (token : Token) : Nat :=
  match grammar.operand token with
  | .operator level => level
  | _ => 0

def level (token : Token) : Nat :=
  match grammar.operator token with
  | .binary level | .suffix level | .ternary level _ _ => level
  | .absent => 0

def innerLevel (token : Token) : Nat :=
  match grammar.operator token with
  | .ternary _ inner _ => inner
  | _ => 0

def yield : Reading Token → List Token
  | .leaf token => [token]
  | .unary operator operand => operator :: yield operand
  | .binary left operator right => yield left ++ operator :: yield right
  | .ternary left operator middle last right =>
    yield left ++ operator :: (yield middle ++ last :: yield right)
  | .group content => grammar.group :: (yield content ++ [grammar.ungroup])
  | .bracket opening inside => opening :: yield inside
  | .suffix left opening inside => yield left ++ opening :: yield inside
  | .done closing => [closing]
  | .part mark content inside => mark.toList ++ (yield content ++ yield inside)

def Shaped : Place → Reading Token → Prop
  | .expression, .leaf token => grammar.operand token = .leaf
  | .expression, .unary operator operand =>
    (∃ level, grammar.operand operator = .operator level) ∧ Shaped .expression operand
  | .expression, .binary left operator right =>
    (∃ level, grammar.operator operator = .binary level) ∧
      Shaped .expression left ∧ Shaped .expression right
  | .expression, .ternary left operator middle last right =>
    (∃ level inner, grammar.operator operator = .ternary level inner last) ∧
      (∃ level, grammar.operator last = .binary level) ∧
      Shaped .expression left ∧ Shaped .expression middle ∧
      Shaped .expression right
  | .expression, .group content => Shaped .expression content
  | .expression, .bracket opening inside =>
    grammar.operand opening = .opening ∧ opening ≠ grammar.group ∧ Shaped (.inside true) inside
  | .expression, .suffix left opening inside =>
    (∃ level, grammar.operator opening = .suffix level) ∧
      Shaped .expression left ∧ Shaped (.inside true) inside
  | .inside _, .done closing => grammar.inside closing = .closing
  | .inside true, .part none content inside =>
    Shaped .expression content ∧ Shaped (.inside false) inside
  | .inside _, .part (some mark) content inside =>
    grammar.inside mark = .mark ∧ Shaped .expression content ∧ Shaped (.inside false) inside
  | _, _ => False

/-- No operator open on the left binds less tightly than the level. -/
def LeftAtLeast (least : Nat) : Reading Token → Prop
  | .binary left operator _ | .ternary left operator _ _ _
  | .suffix left operator _ => least ≤ grammar.level operator ∧ LeftAtLeast least left
  | _ => True

def RightAtLeast (least : Nat) : Reading Token → Prop
  | .unary operator operand => least ≤ grammar.unaryLevel operator ∧ RightAtLeast least operand
  | .binary _ operator right | .ternary _ operator _ _ right =>
    least ≤ grammar.level operator ∧ RightAtLeast least right
  | _ => True

/-- The operands of every operator bind more tightly than it does, or as tightly
on its left. -/
def Ordered : Reading Token → Prop
  | .leaf _ => True
  | .unary operator operand =>
    grammar.LeftAtLeast (grammar.unaryLevel operator + 1) operand ∧ Ordered operand
  | .binary left operator right =>
    grammar.RightAtLeast (grammar.level operator) left ∧
      grammar.LeftAtLeast (grammar.level operator + 1) right ∧
      Ordered left ∧ Ordered right
  | .ternary left operator middle last right =>
    grammar.RightAtLeast (grammar.level operator) left ∧
      grammar.level last < grammar.innerLevel operator ∧
      grammar.LeftAtLeast (grammar.innerLevel operator) middle ∧
      grammar.RightAtLeast (grammar.level last) middle ∧
      grammar.LeftAtLeast (grammar.level operator + 1) right ∧
      Ordered left ∧ Ordered middle ∧ Ordered right
  | .group content => Ordered content
  | .bracket _ inside => Ordered inside
  | .suffix left opening inside =>
    grammar.RightAtLeast (grammar.level opening) left ∧ Ordered left ∧ Ordered inside
  | .done _ => True
  | .part _ content inside => Ordered content ∧ Ordered inside

inductive Task (Token : Type*) where
  | operand
  | expression (least : Nat)
  | operators (least : Nat) (left : Reading Token)
  | inside (atStart : Bool)

def Continues (least : Nat) : List Token → Prop
  | [] => False
  | token :: _ => grammar.operator token ≠ .absent ∧ least ≤ grammar.level token

inductive Reads : Task Token → List Token → Reading Token → List Token → Prop
  | leaf {token rest} (role : grammar.operand token = .leaf) :
      Reads .operand (token :: rest) (.leaf token) rest
  | unary {token level text operand rest}
      (role : grammar.operand token = .operator level)
      (below : Reads (.expression (level + 1)) text operand rest) :
      Reads .operand (token :: text) (.unary token operand) rest
  | group {text content rest}
      (below : Reads (.expression 0) text content (grammar.ungroup :: rest)) :
      Reads .operand (grammar.group :: text) (.group content) rest
  | bracket {token text inside rest}
      (role : grammar.operand token = .opening) (other : token ≠ grammar.group)
      (below : Reads (.inside true) text inside rest) :
      Reads .operand (token :: text) (.bracket token inside) rest
  | expression {least text left middle tree rest}
      (first : Reads .operand text left middle)
      (next : Reads (.operators least left) middle tree rest) :
      Reads (.expression least) text tree rest
  | stop {least left text} (ends : ¬grammar.Continues least text) :
      Reads (.operators least left) text left text
  | binary {least left token level text right middle tree rest}
      (role : grammar.operator token = .binary level) (binds : least ≤ level)
      (below : Reads (.expression (level + 1)) text right middle)
      (next : Reads (.operators least (.binary left token right)) middle tree rest) :
      Reads (.operators least left) (token :: text) tree rest
  | ternary {least left token level inner last text middleReading middle right after
        tree rest}
      (role : grammar.operator token = .ternary level inner last)
      (binds : least ≤ level)
      (between : Reads (.expression inner) text middleReading (last :: middle))
      (below : Reads (.expression (level + 1)) middle right after)
      (next : Reads (.operators least (.ternary left token middleReading last right)) after tree
        rest) :
      Reads (.operators least left) (token :: text) tree rest
  | suffix {least left token level text inside middle tree rest}
      (role : grammar.operator token = .suffix level) (binds : least ≤ level)
      (below : Reads (.inside true) text inside middle)
      (next : Reads (.operators least (.suffix left token inside)) middle tree rest) :
      Reads (.operators least left) (token :: text) tree rest
  | done {atStart token rest} (role : grammar.inside token = .closing) :
      Reads (.inside atStart) (token :: rest) (.done token) rest
  | first {token text content middle inside rest}
      (begins : grammar.operand token ≠ .absent)
      (below : Reads (.expression 0) (token :: text) content middle)
      (next : Reads (.inside false) middle inside rest) :
      Reads (.inside true) (token :: text) (.part none content inside) rest
  | marked {atStart token text content middle inside rest}
      (role : grammar.inside token = .mark)
      (below : Reads (.expression 0) text content middle)
      (next : Reads (.inside false) middle inside rest) :
      Reads (.inside atStart) (token :: text) (.part (some token) content inside)
        rest

variable {grammar} {token : Token} {level least : Nat}

theorem continues_binary (role : grammar.operator token = .binary level)
    (binds : least ≤ level) : grammar.Continues least (token :: rest) := by
  simp [Continues, Grammar.level, role, binds]

theorem continues_ternary {inner : Nat}
    (role : grammar.operator token = .ternary level inner last) (binds : least ≤ level) :
    grammar.Continues least (token :: rest) := by
  simp [Continues, Grammar.level, role, binds]

theorem continues_suffix (role : grammar.operator token = .suffix level)
    (binds : least ≤ level) : grammar.Continues least (token :: rest) := by
  simp [Continues, Grammar.level, role, binds]

variable {tree : Reading Token}

theorem Reads.unique
    (reads : grammar.Reads task text tree rest) (reads' : grammar.Reads task text tree' rest') :
    tree = tree' ∧ rest = rest' := by
  induction reads generalizing tree' rest' with
  | leaf role =>
    cases reads' with
    | leaf _ => exact ⟨rfl, rfl⟩
    | unary role' _ => cases role.symm.trans role'
    | group _ => cases role.symm.trans grammar.operand_group
    | bracket role' _ _ => cases role.symm.trans role'
  | unary role below induction =>
    cases reads' with
    | leaf role' => cases role.symm.trans role'
    | unary role' below' =>
      cases role.symm.trans role'
      obtain ⟨rfl, rfl⟩ := induction below'
      exact ⟨rfl, rfl⟩
    | group _ => cases role.symm.trans grammar.operand_group
    | bracket role' _ _ => cases role.symm.trans role'
  | group below induction =>
    cases reads' with
    | leaf role' => cases grammar.operand_group.symm.trans role'
    | unary role' _ => cases grammar.operand_group.symm.trans role'
    | group below' =>
      obtain ⟨rfl, same⟩ := induction below'
      exact ⟨rfl, (List.cons.inj same).2⟩
    | bracket _ other _ => exact absurd rfl other
  | bracket role other below induction =>
    cases reads' with
    | leaf role' => cases role.symm.trans role'
    | unary role' _ => cases role.symm.trans role'
    | group _ => exact absurd rfl other
    | bracket _ _ below' =>
      obtain ⟨rfl, rfl⟩ := induction below'
      exact ⟨rfl, rfl⟩
  | expression first next inductionFirst inductionNext =>
    cases reads' with
    | expression first' next' =>
      obtain ⟨rfl, rfl⟩ := inductionFirst first'
      exact inductionNext next'
  | stop ends =>
    cases reads' with
    | stop _ => exact ⟨rfl, rfl⟩
    | binary role binds _ _ => exact absurd (continues_binary role binds) ends
    | ternary role binds _ _ _ => exact absurd (continues_ternary role binds) ends
    | suffix role binds _ _ => exact absurd (continues_suffix role binds) ends
  | binary role binds below next inductionBelow inductionNext =>
    cases reads' with
    | stop ends => exact absurd (continues_binary role binds) ends
    | binary role' _ below' next' =>
      cases role.symm.trans role'
      obtain ⟨rfl, rfl⟩ := inductionBelow below'
      exact inductionNext next'
    | ternary role' _ _ _ _ => cases role.symm.trans role'
    | suffix role' _ _ _ => cases role.symm.trans role'
  | ternary role binds between below next inductionBetween inductionBelow
      inductionNext =>
      cases reads' with
      | stop ends => exact absurd (continues_ternary role binds) ends
      | binary role' _ _ _ => cases role.symm.trans role'
      | ternary role' _ between' below' next' =>
        cases role.symm.trans role'
        obtain ⟨rfl, same⟩ := inductionBetween between'
        cases same
        obtain ⟨rfl, rfl⟩ := inductionBelow below'
        exact inductionNext next'
      | suffix role' _ _ _ => cases role.symm.trans role'
  | suffix role binds below next inductionBelow inductionNext =>
    cases reads' with
    | stop ends => exact absurd (continues_suffix role binds) ends
    | binary role' _ _ _ => cases role.symm.trans role'
    | ternary role' _ _ _ _ => cases role.symm.trans role'
    | suffix role' _ below' next' =>
      cases role.symm.trans role'
      obtain ⟨rfl, rfl⟩ := inductionBelow below'
      exact inductionNext next'
  | done role =>
    cases reads' with
    | done _ => exact ⟨rfl, rfl⟩
    | first begins _ _ => exact absurd (grammar.inside_operand _ (by rw [role]; nofun)) begins
    | marked role' _ _ => cases role.symm.trans role'
  | first begins below next inductionBelow inductionNext =>
    cases reads' with
    | done role => exact absurd (grammar.inside_operand _ (by rw [role]; nofun)) begins
    | first _ below' next' =>
      obtain ⟨rfl, rfl⟩ := inductionBelow below'
      obtain ⟨rfl, rfl⟩ := inductionNext next'
      exact ⟨rfl, rfl⟩
    | marked role _ _ => exact absurd (grammar.inside_operand _ (by rw [role]; nofun)) begins
  | marked role below next inductionBelow inductionNext =>
    cases reads' with
    | done role' => cases role.symm.trans role'
    | first begins _ _ => exact absurd (grammar.inside_operand _ (by rw [role]; nofun)) begins
    | marked _ below' next' =>
      obtain ⟨rfl, rfl⟩ := inductionBelow below'
      obtain ⟨rfl, rfl⟩ := inductionNext next'
      exact ⟨rfl, rfl⟩

theorem head_of_shaped (shaped : grammar.Shaped .expression tree) :
    ∃ token rest, grammar.yield tree = token :: rest ∧ grammar.operand token ≠ .absent := by
  induction tree with
  | leaf token => exact ⟨token, [], rfl, by rw [shaped]; nofun⟩
  | unary operator operand _ =>
    obtain ⟨⟨level, role⟩, -⟩ := shaped
    exact ⟨operator, _, rfl, by rw [role]; nofun⟩
  | binary left operator right inductionLeft _ =>
    obtain ⟨token, rest, text, begins⟩ := inductionLeft shaped.2.1
    exact ⟨token, rest ++ operator :: grammar.yield right,
      by rw [yield, text, List.cons_append], begins⟩
  | ternary left operator middle last right inductionLeft _ _ =>
    obtain ⟨token, rest, text, begins⟩ := inductionLeft shaped.2.2.1
    exact ⟨token, _, by rw [yield, text, List.cons_append], begins⟩
  | group content _ => exact ⟨grammar.group, _, rfl, by rw [grammar.operand_group]; nofun⟩
  | bracket opening inside _ => exact ⟨opening, _, rfl, by rw [shaped.1]; nofun⟩
  | suffix left opening inside inductionLeft _ =>
    obtain ⟨token, rest, text, begins⟩ := inductionLeft shaped.2.1
    exact ⟨token, _, by rw [yield, text, List.cons_append], begins⟩
  | done closing => cases shaped
  | part mark content inside => cases shaped

theorem shaped_part {content inside : Reading Token}
    (shaped : grammar.Shaped (.inside atStart) (.part mark content inside)) :
    (∀ token ∈ mark, grammar.inside token = .mark) ∧
      (mark = none → atStart = true) ∧ grammar.Shaped .expression content ∧
      grammar.Shaped (.inside false) inside := by
  cases mark with
  | none =>
    cases atStart with
    | true => exact ⟨nofun, fun _ => rfl, shaped⟩
    | false => cases shaped
  | some mark =>
    refine ⟨?_, nofun, shaped.2⟩
    intro token member
    obtain rfl := Option.mem_some_iff.mp member
    exact shaped.1

theorem head_of_inside {inside : Reading Token} (shaped : grammar.Shaped (.inside false) inside)
    (rest : List Token) (least : Nat) : ¬grammar.Continues least (grammar.yield inside ++ rest) := by
  cases inside with
  | done closing =>
    have role : grammar.inside closing = .closing := shaped
    have absent := grammar.inside_operator closing (by rw [role]; nofun)
    intro continues
    exact continues.1 absent
  | part mark content below =>
    cases mark with
    | none => cases shaped
    | some mark =>
      have role : grammar.inside mark = .mark := shaped.1
      have absent := grammar.inside_operator mark (by rw [role]; nofun)
      intro continues
      exact continues.1 absent
  | _ => cases shaped

variable (grammar) in
def Follows (tree : Reading Token) : List Token → Prop
  | [] => True
  | token :: _ => grammar.operator token ≠ .absent →
      grammar.RightAtLeast (grammar.level token) tree

/-- What follows an operator's right operand, the operator's level and the
operand both open to it. -/
theorem follows_right (follows : grammar.Follows tree rest)
    (opens : ∀ least, grammar.RightAtLeast least tree →
      least ≤ bound ∧ grammar.RightAtLeast least right) :
    ¬grammar.Continues (bound + 1) rest ∧ grammar.Follows right rest := by
  cases rest with
  | nil => exact ⟨id, trivial⟩
  | cons token rest =>
    constructor
    · rintro ⟨role, binds⟩
      have := (opens _ (follows role)).1
      omega
    · exact fun role => (opens _ (follows role)).2

theorem follows_of_not_continues (ends : ¬grammar.Continues 0 rest) :
    grammar.Follows tree rest := by
  cases rest with
  | nil => trivial
  | cons token rest =>
    intro role
    exact absurd ⟨role, Nat.zero_le _⟩ ends

theorem leftAtLeast_zero (tree : Reading Token) : grammar.LeftAtLeast 0 tree := by
  induction tree with
  | binary _ _ _ onLeft _ | ternary _ _ _ _ _ onLeft _ _
  | suffix _ _ _ onLeft _ => exact ⟨Nat.zero_le _, onLeft⟩
  | _ => trivial

/-- Two facts by one induction: a tree is read up to the operators after it, and
the inside of a bracket up to its closing. -/
theorem reads_of_ordered (tree : Reading Token) (ordered : grammar.Ordered tree) :
    (grammar.Shaped .expression tree → ∀ {least rest result rest'},
      grammar.LeftAtLeast least tree → grammar.Follows tree rest →
      grammar.Reads (.operators least tree) rest result rest' →
        grammar.Reads (.expression least) (grammar.yield tree ++ rest) result
          rest') ∧ (∀ {atStart}, grammar.Shaped (.inside atStart) tree → ∀ rest,
      grammar.Reads (.inside atStart) (grammar.yield tree ++ rest) tree rest) := by
  induction tree with
  | leaf token =>
    constructor
    · intro role least rest result rest' _ _ next
      exact .expression (.leaf role) next
    · nofun
  | unary operator operand induction =>
    constructor
    · intro shaped least rest result rest' _ follows next
      obtain ⟨⟨level, role⟩, shapedOperand⟩ := shaped
      have levels : grammar.unaryLevel operator = level := by simp [unaryLevel, role]
      obtain ⟨ends, followsOperand⟩ := follows_right follows
        fun least atLeast => ⟨levels ▸ atLeast.1, atLeast.2⟩
      have below := (induction ordered.2).1 shapedOperand
        (levels ▸ ordered.1) followsOperand (.stop ends)
      exact .expression (.unary role below) next
    · nofun
  | binary left operator right inductionLeft inductionRight =>
    constructor
    · intro shaped least rest result rest' atLeast follows next
      obtain ⟨⟨level, role⟩, shapedLeft, shapedRight⟩ := shaped
      obtain ⟨onLeft, onRight, orderedLeft, orderedRight⟩ := ordered
      have levels : grammar.level operator = level := by simp [Grammar.level, role]
      obtain ⟨ends, followsRight⟩ := follows_right follows
        fun least atLeast => ⟨levels ▸ atLeast.1, atLeast.2⟩
      have below := (inductionRight orderedRight).1 shapedRight
        (levels ▸ onRight) followsRight (.stop ends)
      rw [yield, List.append_assoc]
      exact (inductionLeft orderedLeft).1 shapedLeft atLeast.2
        (fun _ => onLeft)
        (.binary role (levels ▸ atLeast.1) below next)
    · nofun
  | ternary left operator middle last right inductionLeft inductionMiddle
      inductionRight =>
      constructor
      · intro shaped least rest result rest' atLeast follows next
        obtain ⟨⟨level, inner, role⟩, -, shapedLeft, shapedMiddle, shapedRight⟩ := shaped
        obtain ⟨onLeft, before, inMiddle, onLast, onRight, orderedLeft,
          orderedMiddle, orderedRight⟩ := ordered
        have levels : grammar.level operator = level := by simp [Grammar.level, role]
        have inners : grammar.innerLevel operator = inner := by simp [Grammar.innerLevel, role]
        rw [inners] at before inMiddle
        obtain ⟨ends, followsRight⟩ := follows_right follows
          fun least atLeast => ⟨levels ▸ atLeast.1, atLeast.2⟩
        have between : grammar.Reads (.expression inner)
            (grammar.yield middle ++ last :: (grammar.yield right ++ rest))
            middle (last :: (grammar.yield right ++ rest)) :=
          (inductionMiddle orderedMiddle).1 shapedMiddle inMiddle
            (fun _ => onLast)
            (.stop fun continues => absurd continues.2 (by omega))
        have below := (inductionRight orderedRight).1 shapedRight
          (levels ▸ onRight) followsRight (.stop ends)
        rw [yield, List.append_assoc, List.cons_append, List.append_assoc, List.cons_append]
        exact (inductionLeft orderedLeft).1 shapedLeft atLeast.2
          (fun _ => onLeft)
          (.ternary role (levels ▸ atLeast.1) between below next)
      · nofun
  | group content induction =>
    constructor
    · intro shaped least rest result rest' _ _ next
      have ends : ¬grammar.Continues 0 (grammar.ungroup :: rest) := by
        intro continues
        exact continues.1 (grammar.inside_operator _ (by rw [grammar.inside_ungroup]; nofun))
      have below := (induction ordered).1 shaped (leftAtLeast_zero content)
        (follows_of_not_continues ends) (.stop ends)
      rw [yield, List.cons_append, List.append_assoc]
      exact .expression (.group below) next
    · nofun
  | bracket opening inside induction =>
    constructor
    · intro shaped least rest result rest' _ _ next
      obtain ⟨role, other, shapedInside⟩ := shaped
      exact .expression (.bracket role other ((induction ordered).2 shapedInside rest)) next
    · nofun
  | suffix left opening inside inductionLeft inductionInside =>
    constructor
    · intro shaped least rest result rest' atLeast _ next
      obtain ⟨⟨level, role⟩, shapedLeft, shapedInside⟩ := shaped
      obtain ⟨onLeft, orderedLeft, orderedInside⟩ := ordered
      have levels : grammar.level opening = level := by simp [Grammar.level, role]
      rw [yield, List.append_assoc]
      exact (inductionLeft orderedLeft).1 shapedLeft atLeast.2
        (fun _ => onLeft)
        (.suffix role (levels ▸ atLeast.1)
          ((inductionInside orderedInside).2 shapedInside rest) next)
    · nofun
  | done closing =>
    constructor
    · nofun
    · intro atStart role rest
      exact .done role
  | part mark content inside inductionContent inductionInside =>
    constructor
    · nofun
    intro atStart shaped rest
    obtain ⟨marks, starts, shapedContent, shapedInside⟩ := shaped_part shaped
    have ends := head_of_inside shapedInside rest 0
    have below := (inductionContent ordered.1).1 shapedContent
      (leftAtLeast_zero content) (follows_of_not_continues ends) (.stop ends)
    have next := (inductionInside ordered.2).2 shapedInside rest
    cases mark with
    | none =>
      obtain rfl := starts rfl
      obtain ⟨token, more, text, begins⟩ := head_of_shaped shapedContent
      rw [yield, Option.toList_none, List.nil_append, List.append_assoc, text, List.cons_append]
      rw [text, List.cons_append] at below
      exact .first begins below next
    | some mark =>
      rw [yield, Option.toList_some, List.append_assoc]
      exact .marked (marks mark rfl) (by rwa [List.append_assoc]) next

theorem eq_of_yield (shaped : grammar.Shaped .expression tree) (ordered : grammar.Ordered tree)
    (shaped' : grammar.Shaped .expression tree') (ordered' : grammar.Ordered tree')
    (same : grammar.yield tree = grammar.yield tree') : tree = tree' := by
  have whole : ∀ tree, grammar.Shaped .expression tree → grammar.Ordered tree →
      grammar.Reads (.expression 0) (grammar.yield tree) tree [] := by
    intro tree shaped ordered
    have reads : grammar.Reads (.expression 0) (grammar.yield tree ++ []) tree [] :=
      (reads_of_ordered tree ordered).1 shaped (leftAtLeast_zero tree) trivial (.stop id)
    rwa [List.append_nil] at reads
  have reads' := whole tree' shaped' ordered'
  rw [← same] at reads'
  exact ((whole tree shaped ordered).unique reads').1

end Grammar

end LagrangeDb.Data
