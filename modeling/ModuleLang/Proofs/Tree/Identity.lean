import ModuleLang.Proofs.Parser.RoundTrip

/-!
# `Proofs.Tree.Identity` — comparison is identity

Trees are compared by a loop with a work list of pairs of subtrees, and lists of statements by their lengths first.
Both are short cuts: what they decide is whether the trees are the same, with the same tokens at the same places.

## Contents
- **The work list** (`Expr.agree_iff`): the loop says whether all pending pairs are pairs of identical trees.
- **Lawful comparison**, from expressions up to modules: instances of `LawfulBEq`.
- **`Statements.Built`**: the lists that can be made. Their lengths are right (`Statements.built_iff_counted`), and so
  comparing lengths first never tells lists of the same statements apart (`Statements.Built.eq_iff`).
- **`beq_iff_identical`**: the comparison of expressions, lists, programs and modules.
-/

namespace ModuleLang

/-! ## Expressions -/

namespace Expr

/-- **The work list.** The loop succeeds if and only if each of the pairs is a pair of identical trees: one round
    takes a pair off the list and puts pairs on it that are identical if and only if the first was. -/
theorem agree_iff (pairs : List (Expr × Expr)) : agree pairs = true ↔ ∀ pair ∈ pairs, pair.1 = pair.2 := by
  fun_induction agree pairs with
  | case1 => exact iff_of_true rfl nofun
  | case2 operator lhs rhs operator' lhs' rhs' pending ih =>
      rw [Bool.and_eq_true, beq_iff_eq, ih, List.forall_mem_cons, List.forall_mem_cons, List.forall_mem_cons,
        operation.injEq]
      constructor
      · rintro ⟨hoperator, hright, hleft, hpending⟩
        exact ⟨⟨hoperator, hleft, hright⟩, hpending⟩
      · rintro ⟨⟨hoperator, hleft, hright⟩, hpending⟩
        exact ⟨hoperator, hright, hleft, hpending⟩
  | case3 value value' pending ih =>
      rw [Bool.and_eq_true, beq_iff_eq, ih, List.forall_mem_cons, literal.injEq]
  | case4 name name' pending ih =>
      rw [Bool.and_eq_true, beq_iff_eq, ih, List.forall_mem_cons, reference.injEq]
  | case5 pairs hnil hoperations hliterals hreferences =>
      -- the trees of the first pair are not of one sort, so they are not the same
      refine iff_of_false Bool.false_ne_true fun hall => ?_
      obtain ⟨⟨a, b⟩, pending, rfl⟩ := List.exists_cons_of_ne_nil hnil
      obtain rfl : a = b := hall (a, b) List.mem_cons_self
      cases a with
      | literal value => exact hliterals _ _ _ rfl
      | reference name => exact hreferences _ _ _ rfl
      | operation operator lhs rhs => exact hoperations _ _ _ _ _ _ _ rfl

/-- **Expressions are compared as trees.** -/
theorem beq_iff {a b : Expr} : (a == b) = true ↔ a = b := by
  have hpair := agree_iff [(a, b)]
  rwa [List.forall_mem_singleton] at hpair

instance : LawfulBEq Expr where
  eq_of_beq h := beq_iff.mp h
  rfl := beq_iff.mpr rfl

end Expr

/-! ## Statements, programs and modules -/

/-- **Statements** are the same if they are of one sort, with the same name and the same expression. -/
theorem Statement.beq_iff {a b : Statement} : (a == b) = true ↔ a = b := by
  cases a with
  | declaration name =>
      cases b with
      | declaration name' =>
          change (name == name') = true ↔ _
          rw [beq_iff_eq, declaration.injEq]
      | assignment => exact iff_of_false Bool.false_ne_true nofun
      | expression => exact iff_of_false Bool.false_ne_true nofun
  | assignment name value =>
      cases b with
      | declaration => exact iff_of_false Bool.false_ne_true nofun
      | assignment name' value' =>
          change (name == name' && value == value') = true ↔ _
          rw [Bool.and_eq_true, beq_iff_eq, beq_iff_eq, assignment.injEq]
      | expression => exact iff_of_false Bool.false_ne_true nofun
  | expression value =>
      cases b with
      | declaration => exact iff_of_false Bool.false_ne_true nofun
      | assignment => exact iff_of_false Bool.false_ne_true nofun
      | expression value' =>
          change (value == value') = true ↔ _
          rw [beq_iff_eq, expression.injEq]

instance : LawfulBEq Statement where
  eq_of_beq h := Statement.beq_iff.mp h
  rfl := Statement.beq_iff.mpr rfl

/-- **Lists of statements** are the same if their statements and their lengths are. -/
theorem Statements.beq_iff {a b : Statements} : (a == b) = true ↔ a = b := by
  obtain ⟨items, length⟩ := a
  obtain ⟨items', length'⟩ := b
  change (length == length' && items == items') = true ↔ _
  rw [Bool.and_eq_true, beq_iff_eq, beq_iff_eq, mk.injEq]
  exact and_comm

instance : LawfulBEq Statements where
  eq_of_beq h := Statements.beq_iff.mp h
  rfl := Statements.beq_iff.mpr rfl

theorem Program.beq_iff {a b : Program} : (a == b) = true ↔ a.statements = b.statements :=
  Statements.beq_iff

theorem Module.beq_iff {a b : Module} :
    (a == b) = true ↔ a.identifier = b.identifier ∧ a.statements = b.statements := by
  change (a.identifier == b.identifier && a.program == b.program) = true ↔ _
  rw [Bool.and_eq_true, beq_iff_eq, Program.beq_iff]
  exact Iff.rfl

/-! ## Lists that can be made -/

/-- **The lists that can be made**: from nothing, from a statement and a list that was made, and from any number of
    statements at once. -/
inductive Statements.Built : Statements → Prop where
  | empty : Built .empty
  | cons (statement : Statement) {rest : Statements} : Built rest → Built (.cons statement rest)
  | ofList (statements : List Statement) : Built (.ofList statements)

namespace Statements

/-- **Lists that can be made are counted right**, and all lists that are counted right can be made. -/
theorem built_iff_counted {statements : Statements} : statements.Built ↔ statements.Counted := by
  constructor
  · intro h
    induction h with
    | empty => rfl
    | cons statement _ ih => exact congrArg (· + 1) ih
    | ofList items => exact counted_ofList items
  · intro h
    rw [eq_of_items h (counted_ofList _) (items_ofList statements.items).symm]
    exact .ofList statements.items

/-- **Lists that can be made are compared by their statements**: lists of the same statements have the same length. -/
theorem Built.eq_iff {a b : Statements} (ha : a.Built) (hb : b.Built) : a = b ↔ a.items = b.items :=
  ⟨congrArg items, eq_of_items (built_iff_counted.mp ha) (built_iff_counted.mp hb)⟩

end Statements

/-- The statements of a parsed module are a list that can be made. -/
theorem built_of_parse {source : String} {m : Module} (h : parse source = .ok m) : m.statements.Built :=
  Statements.built_iff_counted.mpr (parse_wellFormed h).2

/-! ## Identity -/

/-- **Comparison is identity.** Two expressions of any tokens, shape and depth are equal in comparison if and only if
    they are the same tree. Two lists of statements, however they were made, are equal if and only if they hold the
    same statements in the same order, and so are two programs; and two modules, if and only if their names are the
    same token too. The statements of a parsed module are such a list. -/
theorem beq_iff_identical :
    (∀ a b : Expr, (a == b) = true ↔ a = b) ∧
    (∀ a b : Statements, a.Built → b.Built → ((a == b) = true ↔ a.items = b.items)) ∧
    (∀ a b : Program, a.statements.Built → b.statements.Built →
      ((a == b) = true ↔ a.statements.items = b.statements.items)) ∧
    (∀ a b : Module, a.statements.Built → b.statements.Built →
      ((a == b) = true ↔ a.identifier = b.identifier ∧ a.statements.items = b.statements.items)) ∧
    ∀ source m, parse source = .ok m → m.statements.Built := by
  refine ⟨fun a b => Expr.beq_iff, fun a b ha hb => ?_, fun a b ha hb => ?_, fun a b ha hb => ?_,
    fun source m => built_of_parse⟩
  · rw [Statements.beq_iff, ha.eq_iff hb]
  · rw [Program.beq_iff, ha.eq_iff hb]
  · rw [Module.beq_iff, ha.eq_iff hb]

/-- A list of two statements that is made in one go equals the same list made from the back, but not the program with
    the first statement at another column. And the module in a source without statements equals one that was built
    by hand. -/
theorem beq_iff_identical_made_twice :
    let x : Statement := .declaration ⟨.identifier, "x", .origin⟩
    let moved : Statement := .declaration ⟨.identifier, "x", ⟨0, 1, 1⟩⟩
    let one : Statement := .expression (.literal ⟨.number, "1", .origin⟩)
    (Statements.ofList [x, one] == .cons x (.cons one .empty)) = true ∧
      ¬ (Program.mk (.ofList [x, one]) == ⟨.cons moved (.cons one .empty)⟩) = true ∧
      ∃ m, parse "module m\x7b\x7d" = .ok m ∧ (m == ⟨m.identifier, .empty⟩) = true := by
  intro x moved one
  obtain ⟨-, hlists, hprograms, hmodules, hparsed⟩ := beq_iff_identical
  have hatOnce := Statements.Built.ofList [x, one]
  have hfromBack (first : Statement) : (Statements.cons first (.cons one .empty)).Built :=
    .cons first (.cons one .empty)
  refine ⟨(hlists _ _ hatOnce (hfromBack x)).mpr rfl, fun hequal => ?_, ?_⟩
  · have hitems := (hprograms ⟨_⟩ ⟨_⟩ hatOnce (hfromBack moved)).mp hequal
    have hfirst : x = moved := (List.cons.inj hitems).1
    injection hfirst with hname
    injection hname with _ _ hlocation
    cases hlocation
  · have hnone : (parse "module m\x7b\x7d").toOption.map (fun m => m.statements.items.length) = some 0 := by
      decide +kernel
    cases hparse : parse "module m\x7b\x7d" with
    | error error =>
        rw [hparse] at hnone
        cases hnone
    | ok m =>
        rw [hparse] at hnone
        have hitems : m.statements.items = [] := List.length_eq_zero_iff.mp (Option.some.inj hnone)
        exact ⟨m, rfl, (hmodules m ⟨_, .empty⟩ (hparsed _ m hparse) .empty).mpr ⟨rfl, hitems⟩⟩

end ModuleLang
