import ModuleLang.Proofs.Tree.WellFormed

/-!
# `Proofs.Tree.Unambiguous` — the tree of a printed expression

A printed expression has parentheses where an operation is the right operand of another, and nowhere else. So its text
tells the tree, for trees of any form: read from the back, it ends with its last operand, which is a run of digits or
letters, or stands in parentheses. In front of that operand there is an operator with blanks, or else the expression
begins there.

## Contents
- **Leaves** (`Token.IsWord`, `Expr.Spelled`): their texts are runs of digits or of letters (`Expr.Spelled.run`), and
  tell what they are (`Expr.Spelled.leaf_eq`).
- **Runs** (`Delimits`, `Opens`, `run_unique`): where the last run of a text begins.
- **Operands** (`Expr.operandText`, `Expr.operand_unique`): where the last operand of a text begins, and what it is.
- **Expressions** (`Expr.ReadsBack`, `Expr.readsBack`): an expression at the end of a text is told by the text, if it
  is all of it or follows a parenthesis.
- **`Expr.render_unambiguous`**: equal texts, equal trees.
-/

namespace ModuleLang

/-! ## Leaves -/

/-- A token with the kind of an identifier and letters for its spelling. It may be spelled like a keyword. -/
def Token.IsWord (token : Token) : Prop :=
  token.kind = .identifier ∧ token.lexeme ≠ "" ∧ ∀ c ∈ token.lexeme.toList, isWordCharacter c

/-- Whether a character can stand in a number or a word. -/
def isLeafCharacter (c : Char) : Bool :=
  isDigit c || isWordCharacter c

/-- Literals hold numbers, and references hold words. -/
def Expr.Spelled : Expr → Prop :=
  Leaves Token.IsNumber Token.IsWord

/-- The text of a leaf is a run of digits and letters, and not empty. -/
theorem Expr.Spelled.run {expr : Expr} (h : expr.Spelled) (hleaf : expr.isOperation = false) :
    expr.text.toList ≠ [] ∧ ∀ c ∈ expr.text.toList, isLeafCharacter c = true := by
  cases expr with
  | literal value =>
      obtain ⟨-, hne, hdigits⟩ := h
      refine ⟨fun hnil => hne (String.toList_eq_nil_iff.mp hnil), fun c hc => ?_⟩
      rw [isLeafCharacter, hdigits c hc, Bool.true_or]
  | reference name =>
      obtain ⟨-, hne, hletters⟩ := h
      refine ⟨fun hnil => hne (String.toList_eq_nil_iff.mp hnil), fun c hc => ?_⟩
      rw [isLeafCharacter, hletters c hc, Bool.or_true]
  | operation => cases hleaf

/-- No number is spelled like a word. -/
theorem Token.IsNumber.lexeme_ne {number word : Token} (hnumber : number.IsNumber) (hword : word.IsWord) :
    number.lexeme ≠ word.lexeme := by
  intro heq
  obtain ⟨-, hne, hdigits⟩ := hnumber
  obtain ⟨-, -, hletters⟩ := hword
  obtain ⟨c, hc⟩ := List.exists_mem_of_ne_nil _ fun hnil => hne (String.toList_eq_nil_iff.mp hnil)
  have hletter := hletters c (heq ▸ hc)
  rw [(classes_of_digit (hdigits c hc)).1] at hletter
  cases hletter

theorem Token.eraseLocation_eq_of_lexeme {first second : Token} (hkind : first.kind = second.kind)
    (hlexeme : first.lexeme = second.lexeme) : first.eraseLocation = second.eraseLocation := by
  have hword : first.word = second.word := Prod.ext hkind (congrArg String.toList hlexeme)
  exact eraseLocation_eq_of_word hword

/-- **The text of a leaf** tells what it is. -/
theorem Expr.Spelled.leaf_eq {a b : Expr} (ha : a.Spelled) (hb : b.Spelled) (hleaf : a.isOperation = false)
    (hleaf' : b.isOperation = false) (h : a.text = b.text) : a.eraseLocations = b.eraseLocations := by
  cases a with
  | operation => cases hleaf
  | literal value =>
      cases b with
      | operation => cases hleaf'
      | literal value' => exact congrArg literal (Token.eraseLocation_eq_of_lexeme (ha.1.trans hb.1.symm) h)
      | reference name => exact absurd h (Token.IsNumber.lexeme_ne ha hb)
  | reference name =>
      cases b with
      | operation => cases hleaf'
      | literal value => exact absurd h.symm (Token.IsNumber.lexeme_ne hb ha)
      | reference name' => exact congrArg reference (Token.eraseLocation_eq_of_lexeme (ha.1.trans hb.1.symm) h)

/-! ## Where a run begins -/

/-- No leaf goes on over the end of the text. -/
def Delimits (front : List Char) : Prop :=
  ∀ c ∈ front.getLast?, isLeafCharacter c = false

/-- An expression can begin behind the text: it is empty, or ends with a parenthesis. -/
def Opens (front : List Char) : Prop :=
  ∀ c ∈ front.getLast?, c = '('

theorem delimits_concat {c : Char} (hc : isLeafCharacter c = false) (front : List Char) : Delimits (front ++ [c]) := by
  intro last hlast
  simp only [List.getLast?_concat, Option.mem_some_iff] at hlast
  subst hlast
  exact hc

theorem opens_concat_iff {c : Char} {front : List Char} : Opens (front ++ [c]) ↔ c = '(' := by
  simp [Opens]

theorem Opens.delimits {front : List Char} (h : Opens front) : Delimits front := by
  intro c hc
  have hparenthesis : isLeafCharacter '(' = false := by decide +kernel
  rw [h c hc]
  exact hparenthesis

/-- A run of digits and letters does not delimit what follows. -/
theorem not_delimits_append {front run : List Char} (hne : run ≠ [])
    (hrun : ∀ c ∈ run, isLeafCharacter c = true) : ¬ Delimits (front ++ run) := by
  intro h
  rcases run.eq_nil_or_concat with rfl | ⟨before, c, rfl⟩
  · exact hne rfl
  · simp only [List.concat_eq_append] at h hrun
    have hlast := h c (by simp)
    rw [hrun c (by simp)] at hlast
    cases hlast

/-- **Where the last run begins**: it goes back as far as there are digits and letters. -/
theorem run_unique {front front' run run' : List Char} (hfront : Delimits front) (hfront' : Delimits front')
    (hrun : ∀ c ∈ run, isLeafCharacter c = true) (hrun' : ∀ c ∈ run', isLeafCharacter c = true)
    (h : front ++ run = front' ++ run') : front = front' ∧ run = run' := by
  -- one of the fronts is the other with some of the run behind it, which is then empty
  rcases List.append_eq_append_iff.mp h with ⟨more, rfl, rfl⟩ | ⟨more, rfl, rfl⟩
  · by_cases hmore : more = []
    · simp [hmore]
    · exact absurd hfront' (not_delimits_append hmore (List.forall_mem_append.mp hrun).1)
  · by_cases hmore : more = []
    · simp [hmore]
    · exact absurd hfront (not_delimits_append hmore (List.forall_mem_append.mp hrun').1)

/-- Behind a leaf there is no parenthesis. -/
theorem Expr.Spelled.ne_parenthesis {expr : Expr} (h : expr.Spelled) (hleaf : expr.isOperation = false)
    (front before : List Char) : front ++ expr.text.toList ≠ before ++ [')'] := by
  intro heq
  obtain ⟨hne, hrun⟩ := h.run hleaf
  have hends : Delimits (before ++ [')']) := delimits_concat (by decide +kernel) before
  rw [← heq] at hends
  exact not_delimits_append hne hrun hends

/-! ## Operands -/

namespace Expr

/-- The text of an expression as the right operand of another. -/
def operandText (expr : Expr) : List Char :=
  if expr.isOperation then '(' :: (expr.text.toList ++ [')']) else expr.text.toList

theorem operandText_of_leaf {expr : Expr} (h : expr.isOperation = false) : expr.operandText = expr.text.toList := by
  simp [operandText, h]

theorem append_operandText {expr : Expr} (h : expr.isOperation = true) (front : List Char) :
    front ++ expr.operandText = front ++ ['('] ++ expr.text.toList ++ [')'] := by
  simp [operandText, h]

/-- **An expression reads back** if the texts that end with it, where it can begin, end with no other. -/
def ReadsBack (a : Expr) : Prop :=
  ∀ b : Expr, b.Spelled → ∀ front front', Opens front → Opens front' →
    front ++ a.text.toList = front' ++ b.text.toList → front = front' ∧ a.eraseLocations = b.eraseLocations

/-- **The last operand of a text.** A leaf is the last run of digits and letters. An operation ends with a
    parenthesis, and it reads back behind the one that belongs to it. -/
theorem operand_unique {a b : Expr} (ha : a.Spelled) (hb : b.Spelled) (hback : a.isOperation = true → a.ReadsBack)
    {front front' : List Char} (hfront : Delimits front) (hfront' : Delimits front')
    (h : front ++ a.operandText = front' ++ b.operandText) :
    front = front' ∧ a.eraseLocations = b.eraseLocations := by
  cases hleaf : a.isOperation with
  | false =>
      rw [operandText_of_leaf hleaf] at h
      cases hleaf' : b.isOperation with
      | false =>
          rw [operandText_of_leaf hleaf'] at h
          obtain ⟨-, hrun⟩ := ha.run hleaf
          obtain ⟨-, hrun'⟩ := hb.run hleaf'
          obtain ⟨hsame, htext⟩ := run_unique hfront hfront' hrun hrun' h
          exact ⟨hsame, ha.leaf_eq hb hleaf hleaf' (String.toList_inj.mp htext)⟩
      | true =>
          rw [append_operandText hleaf'] at h
          exact absurd h (ha.ne_parenthesis hleaf _ _)
  | true =>
      rw [append_operandText hleaf] at h
      cases hleaf' : b.isOperation with
      | false =>
          rw [operandText_of_leaf hleaf'] at h
          exact absurd h.symm (hb.ne_parenthesis hleaf' _ _)
      | true =>
          rw [append_operandText hleaf'] at h
          -- without the last parenthesis, both texts end with an expression behind its own
          have hinner := List.append_cancel_right h
          have hopens (text : List Char) : Opens (text ++ ['(']) := opens_concat_iff.mpr rfl
          obtain ⟨hopening, herase⟩ := hback hleaf b hb _ _ (hopens front) (hopens front') hinner
          exact ⟨List.append_cancel_right hopening, herase⟩

/-! ## Expressions -/

/-- An operator, with a blank before and behind it. -/
def infixText (operator : Operator) : List Char :=
  ' ' :: (operator.symbol.toList ++ [' '])

/-- An operation ends with its right operand, and the operator is in front of it. -/
theorem append_text_operation (front : List Char) (operator : Operator) (lhs rhs : Expr) :
    front ++ (operation operator lhs rhs).text.toList =
      front ++ lhs.text.toList ++ infixText operator ++ rhs.operandText := by
  rw [text, operandText, infixText]
  split
  · simp
  · simp

theorem delimits_infixText (front : List Char) (operator : Operator) : Delimits (front ++ infixText operator) := by
  unfold infixText
  rw [← List.cons_append, ← List.append_assoc]
  apply delimits_concat
  decide +kernel

/-- No expression begins behind an operator. -/
theorem not_opens_infixText (front : List Char) (operator : Operator) : ¬ Opens (front ++ infixText operator) := by
  unfold infixText
  rw [← List.cons_append, ← List.append_assoc, opens_concat_iff]
  decide

/-- The operator in front of the last operand. -/
theorem infixText_unique {front front' : List Char} {operator operator' : Operator}
    (h : front ++ infixText operator = front' ++ infixText operator') : front = front' ∧ operator = operator' := by
  have hlength : (infixText operator).length = (infixText operator').length := by
    cases operator <;> cases operator' <;> rfl
  obtain ⟨hfront, hsymbol⟩ := List.append_inj' h hlength
  refine ⟨hfront, ?_⟩
  cases operator <;> cases operator' <;> cases hsymbol <;> rfl

theorem exists_of_isOperation {expr : Expr} (h : expr.isOperation = true) :
    ∃ operator lhs rhs, expr = operation operator lhs rhs := by
  cases expr with
  | operation operator lhs rhs => exact ⟨operator, lhs, rhs, rfl⟩
  | literal => cases h
  | reference => cases h

/-- A leaf is not the last operand of a longer expression that begins at the same place. -/
theorem readsBack_of_leaf {a : Expr} (ha : a.Spelled) (hleaf : a.isOperation = false) : a.ReadsBack := by
  intro b hb front front' hfront hfront' h
  have hback : a.isOperation = true → a.ReadsBack := by
    intro hoperation
    cases hleaf.symm.trans hoperation
  rw [← operandText_of_leaf hleaf] at h
  cases hleaf' : b.isOperation with
  | false =>
      rw [← operandText_of_leaf hleaf'] at h
      exact operand_unique ha hb hback hfront.delimits hfront'.delimits h
  | true =>
      obtain ⟨operator, lhs, rhs, rfl⟩ := exists_of_isOperation hleaf'
      rw [append_text_operation] at h
      obtain ⟨hsame, -⟩ := operand_unique ha hb.2 hback hfront.delimits (delimits_infixText _ operator) h
      rw [hsame] at hfront
      exact absurd hfront (not_opens_infixText _ operator)

/-- **Every expression reads back.** The last operand is told first, then the operator in front of it, and then
    the left operand, which begins where the whole expression does. -/
theorem readsBack {a : Expr} (ha : a.Spelled) : a.ReadsBack := by
  induction a with
  | literal value => exact readsBack_of_leaf ha rfl
  | reference name => exact readsBack_of_leaf ha rfl
  | operation operator lhs rhs ihLeft ihRight =>
      intro b hb front front' hfront hfront' h
      obtain ⟨haLeft, haRight⟩ := ha
      have hback : rhs.isOperation = true → rhs.ReadsBack := fun _ => ihRight haRight
      have hdelimits := delimits_infixText (front ++ lhs.text.toList) operator
      rw [append_text_operation] at h
      cases hleaf : b.isOperation with
      | false =>
          -- the last operand would be all of the other expression
          rw [← operandText_of_leaf hleaf] at h
          obtain ⟨hsame, -⟩ := operand_unique haRight hb hback hdelimits hfront'.delimits h
          rw [← hsame] at hfront'
          exact absurd hfront' (not_opens_infixText _ operator)
      | true =>
          obtain ⟨operator', lhs', rhs', rfl⟩ := exists_of_isOperation hleaf
          obtain ⟨hbLeft, hbRight⟩ := hb
          rw [append_text_operation] at h
          have hdelimits' := delimits_infixText (front' ++ lhs'.text.toList) operator'
          obtain ⟨hsame, hright⟩ := operand_unique haRight hbRight hback hdelimits hdelimits' h
          obtain ⟨hchain, rfl⟩ := infixText_unique hsame
          obtain ⟨rfl, hleft⟩ := ihLeft haLeft lhs' hbLeft front front' hfront hfront' hchain
          refine ⟨rfl, ?_⟩
          simp only [eraseLocations, hleft, hright]

/-- **Printed expressions are unambiguous**, however their operators are nested: two expressions with numbers and
    words for leaves have the same text if and only if they are the same tree, up to locations. -/
theorem render_unambiguous {a b : Expr} (ha : a.Spelled) (hb : b.Spelled) :
    a.render = b.render ↔ a.eraseLocations = b.eraseLocations := by
  rw [render_eq_text, render_eq_text]
  constructor
  · intro htext
    obtain ⟨-, herase⟩ := readsBack ha b hb [] [] nofun nofun (congrArg String.toList htext)
    exact herase
  · intro herase
    rw [← text_eraseLocations a, herase, text_eraseLocations]

/-- Operators that are nested to the right are not taken for a chain. -/
theorem render_unambiguous_nested :
    let x : Expr := reference ⟨.identifier, "x", ⟨0, 0, 0⟩⟩
    let y : Expr := reference ⟨.identifier, "var", ⟨0, 4, 4⟩⟩
    let one : Expr := literal ⟨.number, "1", ⟨1, 2, 9⟩⟩
    (operation .sub x (operation .sub y one)).render ≠ (operation .sub (operation .sub x y) one).render := by
  intro x y one
  have hx : x.Spelled := ⟨rfl, by decide, List.all_eq_true.mp (by decide +kernel)⟩
  have hy : y.Spelled := ⟨rfl, by decide, List.all_eq_true.mp (by decide +kernel)⟩
  have hone : one.Spelled := Token.isNumber_of_digits (by decide +kernel) (by decide) _
  have hnested : (operation .sub x (operation .sub y one)).Spelled := ⟨hx, hy, hone⟩
  have hchain : (operation .sub (operation .sub x y) one).Spelled := ⟨⟨hx, hy⟩, hone⟩
  exact mt (render_unambiguous hnested hchain).mp nofun

end Expr

end ModuleLang
