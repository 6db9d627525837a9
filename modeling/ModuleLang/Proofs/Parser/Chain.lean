import ModuleLang.Proofs.Parser.Stopping

/-!
# `Proofs.Parser.Chain` — an expression is the longest chain of operators

Wherever a parser stands, to parse an expression is to take the longest chain of terms and operators there. What comes
of it is said in terms of the row in front of the parser alone: which tree, or which error.

## Contents
- **`Chain`**: a term, and operators with a term behind each. It has a row of tokens and a tree, which covers them
  (`Chain.covers`).
- **Stops.** `Chain.LongestIn`: a chain that a row begins with and that goes no further. `Row.ChainFault`: what keeps a
  row from beginning with such a chain. Terms are due at the beginning and behind an operator (`Row.TermDue`).
- **One link** (`meets_link_mark`, `meets_link_end`): what a round of the parser does to each sort of row.
- **Along a chain** (`Meets.expression_chain`): the rounds take a chain token by token, and put its tree together. So
  the longest chain is taken as a whole (`meets_expression_of_longest`), and a fault behind a part of it is reported
  (`meets_expression_of_fault`).
- **No other stops** (`meets_expression_stops`): every row has one or the other.
- **One run** (`expression_of_longest`, `longest_of_expression`, `expression_error_iff`): its tree, the tokens that it
  takes, and its errors.
- **`expression_takes_longest_chain`**: the same from every place that a parser can come to.
-/

namespace ModuleLang

open Grammar

/-! ## Chains -/

/-- An operator and the term behind it. -/
structure Link where
  /-- The token of the operator. -/
  mark : Token
  /-- The token of the term. -/
  term : Token
  /-- It is a plus or a minus. -/
  mark_kind : IsOperator mark.kind
  /-- It is a number or an identifier. -/
  term_kind : IsTerm term.kind

/-- **A chain of operators**: a term, and any number of links. -/
structure Chain where
  /-- The token of the first term. -/
  first : Token
  /-- The operators with their right operands. -/
  links : List Link
  /-- It is a number or an identifier. -/
  first_kind : IsTerm first.kind

/-- The tokens of a link. -/
def Link.tokens (link : Link) : List Token :=
  [link.mark, link.term]

/-- The operator of a token: the sum for a plus, and the difference for a minus. -/
def Operator.ofMark (mark : Token) : Operator :=
  if mark.kind = .plus then .add else .sub

/-- The expression of a token: a literal for a number, and a reference for an identifier. -/
def Expr.ofTerm (term : Token) : Expr :=
  if term.kind = .number then .literal term else .reference term

theorem Operator.kind_ofMark {mark : Token} (h : IsOperator mark.kind) : mark.kind = (Operator.ofMark mark).kind := by
  rw [ofMark]
  generalize mark.kind = kind at h
  cases h <;> rfl

theorem Expr.covers_ofTerm {term : Token} (h : IsTerm term.kind) : (Expr.ofTerm term).Covers [term] := by
  rw [ofTerm]
  generalize hkind : term.kind = kind at h
  cases h with
  | number => exact .literal hkind
  | identifier => exact .reference hkind

/-- The operands of some links, put behind a left operand one after the other. -/
def Link.fold (lhs : Expr) (links : List Link) : Expr :=
  links.foldl (fun lhs link => .operation (.ofMark link.mark) lhs (.ofTerm link.term)) lhs

namespace Chain

/-- The tokens of a chain, in order. -/
def tokens (chain : Chain) : List Token :=
  chain.first :: chain.links.flatMap Link.tokens

/-- The tree of a chain: operators associate to the left. -/
def tree (chain : Chain) : Expr :=
  Link.fold (.ofTerm chain.first) chain.links

/-- The chain with a link more. -/
def concat (chain : Chain) (link : Link) : Chain :=
  { chain with links := chain.links ++ [link] }

theorem length_tokens (chain : Chain) : chain.tokens.length = 2 * chain.links.length + 1 := by
  obtain ⟨first, links, hfirst⟩ := chain
  rw [tokens, List.length_cons, Nat.add_left_inj]
  induction links with
  | nil => rfl
  | cons link links ih =>
      rw [List.flatMap_cons, List.length_append, ih, List.length_cons, Nat.mul_succ, Nat.add_comm]
      rfl

theorem tokens_concat (chain : Chain) (link : Link) :
    (chain.concat link).tokens = (chain.tokens ++ [link.mark]) ++ [link.term] := by
  simp [tokens, concat, Link.tokens]

theorem tree_concat (chain : Chain) (link : Link) :
    (chain.concat link).tree = .operation (.ofMark link.mark) chain.tree (.ofTerm link.term) := by
  simp [tree, concat, Link.fold]

/-- **The tree of a chain covers its tokens**, so a chain is an expression of the grammar. -/
theorem covers (chain : Chain) : chain.tree.Covers chain.tokens := by
  obtain ⟨first, links, hfirst⟩ := chain
  have hfold {lhs : Expr} {before : List Token} (h : lhs.Covers before) :
      (Link.fold lhs links).Covers (before ++ links.flatMap Link.tokens) := by
    induction links generalizing lhs before with
    | nil => rwa [List.flatMap_nil, List.append_nil]
    | cons link links ih =>
        rw [List.flatMap_cons, ← List.append_assoc]
        exact ih (.operation h (Operator.kind_ofMark link.mark_kind) (Expr.covers_ofTerm link.term_kind))
  exact hfold (Expr.covers_ofTerm hfirst)

/-- There is no end token in a chain. -/
theorem inner_tokens (chain : Chain) : ∀ token ∈ chain.tokens, token.kind ≠ .eof := by
  have hterm {kind : TokenKind} (h : IsTerm kind) : kind ≠ .eof := by cases h <;> decide
  have hmark {kind : TokenKind} (h : IsOperator kind) : kind ≠ .eof := by cases h <;> decide
  intro token hmem
  rcases List.mem_cons.mp hmem with rfl | hmem
  · exact hterm chain.first_kind
  · obtain ⟨link, -, hmem⟩ := List.mem_flatMap.mp hmem
    rw [Link.tokens] at hmem
    rcases List.mem_cons.mp hmem with rfl | hmem
    · exact hmark link.mark_kind
    · rw [List.mem_singleton.mp hmem]
      exact hterm link.term_kind

end Chain

/-! ## Where a chain stops -/

namespace Row

/-- The tokens are the first answers of the row. -/
def Begins (row : Row) (tokens : List Token) : Prop :=
  ∀ n (hn : n < tokens.length), row n = .ok tokens[n]

theorem Begins.singleton {row : Row} {token : Token} (h : row 0 = .ok token) : row.Begins [token] := by
  intro n hn
  obtain rfl := Nat.lt_one_iff.mp hn
  exact h

theorem Begins.concat {row : Row} {tokens : List Token} {token : Token} (h : row.Begins tokens)
    (htoken : row tokens.length = .ok token) : row.Begins (tokens ++ [token]) := by
  intro n hn
  by_cases hlt : n < tokens.length
  · rw [List.getElem_append_left hlt]
    exact h n hlt
  · obtain rfl : n = tokens.length := by
      rw [List.length_append, List.length_singleton] at hn
      omega
    rw [List.getElem_concat_length rfl]
    exact htoken

/-- A row that begins with some tokens is these tokens in front of the rest. -/
theorem Begins.eq_foldr {row : Row} {tokens : List Token} (h : row.Begins tokens) :
    row = tokens.foldr cons (row.drop tokens.length) := by
  funext n
  by_cases hlt : n < tokens.length
  · rw [h n hlt, foldr_cons_lt hlt]
  · obtain ⟨more, rfl⟩ := Nat.le.dest (Nat.le_of_not_lt hlt)
    rw [foldr_cons_add]
    rfl

/-- A row with a token at some place has it in front of what comes behind that place. -/
theorem drop_eq_cons {row : Row} {n : Nat} {token : Token} (h : row n = .ok token) :
    row.drop n = cons token (row.drop (n + 1)) := by
  funext m
  cases m with
  | zero => exact h
  | succ m =>
      rw [cons_succ, drop, drop, Nat.add_right_comm]
      rfl

/-- **The places where a term is due**: the beginning, and behind a chain and an operator. -/
inductive TermDue (row : Row) : Nat → Prop where
  | first : TermDue row 0
  | behindMark {chain : Chain} {mark : Token} : IsOperator mark.kind → row.Begins (chain.tokens ++ [mark]) →
      TermDue row (chain.tokens.length + 1)

/-- The places directly behind a term: those behind a chain. -/
inductive TermPassed (row : Row) : Nat → Prop where
  | behindChain {chain : Chain} : row.Begins chain.tokens → TermPassed row chain.tokens.length

/-- **What keeps a row from beginning with a chain that ends**: a bad character where a term is due, or directly behind
    a term, or a token where a term is due that is none. -/
inductive ChainFault (row : Row) : ParseError → Prop where
  | strayDue {n : Nat} {failure : LexError} : row.TermDue n → row n = .error failure →
      ChainFault row (.lexical failure)
  | strayPassed {n : Nat} {failure : LexError} : row.TermPassed n → row n = .error failure →
      ChainFault row (.lexical failure)
  | missing {n : Nat} {found : Token} : row.TermDue n → row n = .ok found → ¬ IsTerm found.kind →
      ChainFault row (.unexpected [.number, .identifier] found)

/-- The number of tokens that were taken is known from the row that is left, if none is an end token. -/
theorem Settles.inner_unique {row : Row} (h : row.Settles) {p count count' : Nat} (hinner : (row.drop p).Inner count)
    (hinner' : (row.drop p).Inner count') (hsame : row.drop (p + count) = row.drop (p + count')) :
    count = count' := by
  -- the place behind the smaller number would hold an inner token, and be where the row has settled
  have hordered {fewer more : Nat} (hinner : (row.drop p).Inner more) (hle : fewer ≤ more)
      (hsame : row.drop (p + fewer) = row.drop (p + more)) : fewer = more := by
    obtain ⟨extra, rfl⟩ := Nat.le.dest hle
    rcases Nat.eq_zero_or_pos extra with rfl | hextra
    · rfl
    · obtain ⟨token, htoken, hkind⟩ := hinner fewer (by omega)
      rw [← Nat.add_assoc] at hsame
      rcases h.of_repeats hextra hsame with ⟨last, hlast, hrow⟩ | ⟨failure, hrow⟩
      · cases htoken.symm.trans (hrow 0)
        exact absurd hlast hkind
      · cases htoken.symm.trans (hrow 0)
  rcases Nat.le_total count count' with hcount | hcount
  · exact hordered hinner' hcount hsame
  · exact (hordered hinner hcount hsame.symm).symm

end Row

/-- **The longest chain of a row**: the row begins with it, and the next token is no operator. -/
structure Chain.LongestIn (row : Row) (chain : Chain) : Prop where
  /-- The tokens of the chain come first. -/
  begins : row.Begins chain.tokens
  /-- Behind them comes a token that is no operator. -/
  ends : ∃ next, row chain.tokens.length = .ok next ∧ ¬ IsOperator next.kind

theorem Chain.LongestIn.inner {row : Row} {chain : Chain} (h : chain.LongestIn row) :
    row.Inner chain.tokens.length := by
  intro n hn
  exact ⟨_, h.begins n hn, chain.inner_tokens _ (List.getElem_mem hn)⟩

namespace Parser

variable {α : Type} {step : α → Parser (Option α)} {advances : Advances step} {row left : Row} {lhs : Expr}
  {mark token : Token} {bad : ParseError → Row → Prop} {good : Expr → Row → Prop}

/-! ## One link -/

theorem operator?_ofMark (h : IsOperator mark.kind) : operator? mark.kind = some (.ofMark mark) := by
  rw [Operator.ofMark]
  generalize mark.kind = kind at h
  cases h <;> rfl

theorem operator?_of_not_isOperator (h : ¬ IsOperator token.kind) : operator? token.kind = none := by
  generalize token.kind = kind at h
  cases kind with
  | plus => exact absurd .plus h
  | minus => exact absurd .minus h
  | _ => rfl

/-- A token that is a term is taken, and becomes a leaf. -/
theorem meets_term_leaf (h : IsTerm token.kind) :
    Meets term (Row.cons token left) bad fun expr row => expr = .ofTerm token ∧ row = left := by
  refine (meets_term_cons h).mono ?_
  rintro expr row ⟨hcovers, rfl⟩
  exact ⟨hcovers.unique (Expr.covers_ofTerm h), rfl⟩

/-- Where a row fails there is no term. -/
theorem meets_term_failing {failure : LexError} (hrow : row 0 = .error failure) (h : bad (.lexical failure) row) :
    Meets term row bad good :=
  .stop (.peekKind_failing hrow h)

/-- **An operator**, and what becomes of the term behind it: the chain so far and the term are its operands. -/
theorem meets_link_mark {middle : Expr → Row → Prop} (hmark : IsOperator mark.kind)
    (hterm : Meets term left bad middle) :
    Meets (link lhs) (Row.cons mark left) bad fun next row =>
      ∃ rhs, next = some (.operation (.ofMark mark) lhs rhs) ∧ middle rhs row := by
  refine Meets.peekKind.next ?_
  rw [operator?_ofMark hmark]
  refine Meets.advance.next (hterm.bind ?_)
  intro rhs row hmiddle
  exact .pure ⟨rhs, rfl, hmiddle⟩

/-- **No operator**, no link: the token stays in place. -/
theorem meets_link_end (h : ¬ IsOperator token.kind) :
    Meets (link lhs) (Row.cons token left) bad fun next row => next = none ∧ row = Row.cons token left := by
  refine Meets.peekKind.next ?_
  rw [operator?_of_not_isOperator h]
  exact .pure ⟨rfl, rfl⟩

/-! ## Along a chain -/

/-- **One round** of a repetition, and then the rest. -/
theorem Meets.unroll {good : α → Row → Prop} {a : α}
    (hround : Meets (step a) row bad fun next between =>
      match next with
      | none => good a between
      | some b => Meets (Parser.repeatedly step advances b) between bad good) :
    Meets (Parser.repeatedly step advances a) row bad good := by
  intro reader hreader
  rw [Parser.repeatedly]
  rcases hround reader hreader with ⟨next, between, hrun, hnext⟩ | ⟨error, between, hrun, hbad⟩
  · cases next with
    | none =>
        refine .inl ⟨a, between, ?_, hnext⟩
        split <;> cases hrun.symm.trans ‹_›
        rfl
    | some b =>
        have hrest := hnext between rfl
        split <;> cases hrun.symm.trans ‹_›
        exact hrest
  · refine .inr ⟨error, between, ?_, hbad⟩
    split <;> cases hrun.symm.trans ‹_›
    rfl

/-- The links of a chain are taken one after the other. -/
theorem Meets.chain_links {links : List Link} (h : Meets (Parser.chain (Link.fold lhs links)) left bad good) :
    Meets (Parser.chain lhs) ((links.flatMap Link.tokens).foldr Row.cons left) bad good := by
  induction links generalizing lhs with
  | nil => exact h
  | cons link links ih =>
      refine .unroll ((meets_link_mark link.mark_kind (meets_term_leaf link.term_kind)).mono ?_)
      rintro _ _ ⟨_, rfl, rfl, rfl⟩
      exact ih h

/-- **A chain is taken** with its tree as the outcome so far, and the parser goes on behind it. -/
theorem Meets.expression_chain {chain : Chain} (hbegins : row.Begins chain.tokens)
    (h : Meets (Parser.chain chain.tree) (row.drop chain.tokens.length) bad good) :
    Meets Parser.expression row bad good := by
  rw [hbegins.eq_foldr]
  exact (meets_term_leaf chain.first_kind).next (.chain_links h)

/-- **The longest chain** is taken, and its tree is the outcome. -/
theorem meets_expression_of_longest {chain : Chain} (h : chain.LongestIn row) :
    Meets expression row bad fun expr left => expr = chain.tree ∧ left = row.drop chain.tokens.length := by
  obtain ⟨next, hnext, hend⟩ := h.ends
  refine .expression_chain h.begins (.unroll ?_)
  rw [Row.drop_eq_cons hnext]
  refine (meets_link_end hend).mono ?_
  rintro _ _ ⟨rfl, rfl⟩
  exact ⟨rfl, rfl⟩

/-- Where a term is due and cannot be taken, there is no expression. -/
theorem meets_expression_of_due {n : Nat} (hdue : row.TermDue n)
    (hterm : Meets term (row.drop n) bad fun _ _ => False) : Meets expression row bad good := by
  cases hdue with
  | first =>
      rw [Row.drop_zero] at hterm
      exact hterm.stop
  | @behindMark chain mark hmark hbegins =>
      have hchain : row.Begins chain.tokens := by
        intro n hn
        have htoken := hbegins n (by rw [List.length_append]; omega)
        rwa [List.getElem_append_left hn] at htoken
      have hnext : row chain.tokens.length = .ok mark := by
        have htoken := hbegins chain.tokens.length (by rw [List.length_append, List.length_singleton]; omega)
        rwa [List.getElem_concat_length rfl] at htoken
      refine .expression_chain hchain (.unroll ?_)
      rw [Row.drop_eq_cons hnext]
      refine (meets_link_mark hmark hterm).mono ?_
      rintro _ _ ⟨_, _, hfalse⟩
      exact hfalse.elim

/-- **A fault** is reported. -/
theorem meets_expression_of_fault {error : ParseError} (h : row.ChainFault error) :
    Meets expression row (fun found _ => found = error) fun _ _ => False := by
  cases h with
  | strayDue hdue hrow => exact meets_expression_of_due hdue (meets_term_failing hrow rfl)
  | strayPassed hpassed hrow =>
      cases hpassed with
      | behindChain hbegins =>
          exact .expression_chain hbegins (.unroll (.stop (.peekKind_failing hrow rfl)))
  | missing hdue hrow hterm =>
      refine meets_expression_of_due hdue ?_
      rw [Row.drop_eq_cons hrow]
      exact meets_term_other hterm rfl

/-! ## No other stops -/

/-- **Where a term is due**, a term is taken, or there is a fault. -/
theorem meets_term_due {n : Nat} (hdue : row.TermDue n) :
    Meets term (row.drop n) (fun error _ => row.ChainFault error) fun expr left =>
      ∃ token, IsTerm token.kind ∧ row n = .ok token ∧ expr = .ofTerm token ∧ left = row.drop (n + 1) := by
  cases hrow : row n with
  | error failure => exact meets_term_failing hrow (.strayDue hdue hrow)
  | ok token =>
      rw [Row.drop_eq_cons hrow]
      by_cases hterm : IsTerm token.kind
      · refine (meets_term_leaf hterm).mono ?_
        rintro _ _ ⟨rfl, rfl⟩
        exact ⟨token, hterm, rfl, rfl, rfl⟩
      · exact meets_term_other hterm (.missing hdue hrow hterm)

/-- A part of the row that was read as a chain. -/
def ReadChain (origin : Row) (expr : Expr) (row : Row) : Prop :=
  ∃ chain : Chain, origin.Begins chain.tokens ∧ expr = chain.tree ∧ row = origin.drop chain.tokens.length

/-- **A link of a chain** makes it longer, or the chain is the longest, or there is a fault. -/
theorem meets_link_chain {origin : Row} {expr : Expr} (h : ReadChain origin expr row) :
    Meets (link expr) row (fun error _ => origin.ChainFault error) fun next left =>
      match next with
      | none => ∃ chain : Chain, chain.LongestIn origin ∧ expr = chain.tree
      | some longer => ReadChain origin longer left := by
  obtain ⟨chain, hbegins, rfl, rfl⟩ := h
  cases hrow : origin chain.tokens.length with
  | error failure => exact .stop (.peekKind_failing hrow (.strayPassed (.behindChain hbegins) hrow))
  | ok mark =>
      rw [Row.drop_eq_cons hrow]
      by_cases hmark : IsOperator mark.kind
      · -- behind the operator a term is due
        have hdue := Row.TermDue.behindMark hmark (hbegins.concat hrow)
        refine (meets_link_mark hmark (meets_term_due hdue)).mono ?_
        rintro _ _ ⟨_, rfl, term, hterm, htoken, rfl, rfl⟩
        let link : Link := ⟨mark, term, hmark, hterm⟩
        have hlonger : origin.Begins (chain.concat link).tokens := by
          rw [Chain.tokens_concat]
          refine (hbegins.concat hrow).concat ?_
          rw [List.length_append]
          exact htoken
        refine ⟨chain.concat link, hlonger, (chain.tree_concat link).symm, ?_⟩
        rw [Chain.tokens_concat, List.length_append, List.length_append]
        rfl
      · refine (meets_link_end hmark).mono ?_
        rintro _ _ ⟨rfl, rfl⟩
        exact ⟨chain, ⟨hbegins, mark, hrow, hmark⟩, rfl⟩

/-- **Every row stops a chain.** An expression is the tree of the longest chain, or there is a fault. -/
theorem meets_expression_stops (origin : Row) :
    Meets expression origin (fun error _ => origin.ChainFault error) fun expr _ =>
      ∃ chain : Chain, chain.LongestIn origin ∧ expr = chain.tree := by
  have hfirst := @meets_term_due origin 0 .first
  rw [Row.drop_zero] at hfirst
  refine hfirst.bind ?_
  rintro _ _ ⟨token, hterm, htoken, rfl, rfl⟩
  have hread : ReadChain origin (.ofTerm token) (origin.drop (0 + 1)) :=
    ⟨⟨token, [], hterm⟩, .singleton htoken, rfl, rfl⟩
  refine Meets.repeatedly (ReadChain origin) (fun expr row h => (meets_link_chain h).mono ?_) hread
  intro next left hnext
  cases next <;> exact hnext

/-! ## From every place -/

variable {here : Lookahead} {chain : Chain} {expr : Expr} {error : ParseError}

/-- The longest chain is parsed to its tree, and all of its tokens are taken. -/
theorem expression_of_longest {source : String} {p : Nat} (hhere : here.row = (Cursor.ofSource source).row.drop p)
    (h : chain.LongestIn here.row) :
    ∃ left, expression here = .ok chain.tree left ∧ here.Takes (2 * chain.links.length + 1) left := by
  have hmeets : Meets expression here.row (fun _ _ => False) _ := meets_expression_of_longest h
  rcases hmeets here rfl with ⟨expr, left, hrun, rfl, hleft⟩ | ⟨_, _, _, hfalse⟩
  · refine ⟨left, hrun, ?_⟩
    obtain ⟨count, hcount, hinner⟩ := (@exact_expression False _ here rfl).1 _ left hrun
    -- the row that is left tells how many tokens were taken
    have hlongest := h.inner
    rw [hcount.row_eq, hhere, Row.drop_drop, Row.drop_drop] at hleft
    rw [hhere] at hinner hlongest
    have hlength := (Cursor.row_settles _).inner_unique hinner hlongest hleft
    rwa [hlength, chain.length_tokens] at hcount
  · exact hfalse.elim

/-- What is parsed is the tree of a longest chain. -/
theorem longest_of_expression {left : Lookahead} (hrun : expression here = .ok expr left) :
    ∃ chain : Chain, chain.LongestIn here.row ∧ expr = chain.tree := by
  rcases meets_expression_stops here.row here rfl with ⟨_, _, hrun', hlongest⟩ | ⟨_, _, hrun', -⟩
  · cases hrun.symm.trans hrun'
    exact hlongest
  · cases hrun.symm.trans hrun'

/-- The errors are the faults of the row. -/
theorem expression_error_iff : (∃ left, expression here = .error error left) ↔ here.row.ChainFault error := by
  constructor
  · rintro ⟨left, hrun⟩
    rcases meets_expression_stops here.row here rfl with ⟨_, _, hrun', -⟩ | ⟨_, _, hrun', hfault⟩
    · cases hrun.symm.trans hrun'
    · cases hrun.symm.trans hrun'
      exact hfault
  · intro hfault
    rcases meets_expression_of_fault hfault here rfl with ⟨_, _, _, hfalse⟩ | ⟨_, left, hrun, rfl⟩
    · exact hfalse.elim
    · exact ⟨left, hrun⟩

/-- **An expression is the longest chain of operators.** Let `S` be the row of a source from the place on to which any
    steps have led, whether they succeeded or failed. To parse an expression there succeeds if and only if `S` begins
    with a chain and then has a token that is no operator. Then the tokens of the chain are taken, two for each link
    and one more, and the expression is the tree of the chain. Else it fails, and the error is the fault of `S`: the
    failure for a bad character where a term is due or directly behind a term, or the token that is found where a
    number or an identifier is due. -/
theorem expression_takes_longest_chain (source : String) :
    (∀ steps, ∃ p, (Lookahead.ofSource source).Takes p (session perform (.ofSource source) steps).2) ∧
    ∀ here p, (Lookahead.ofSource source).Takes p here →
      let S := (Cursor.ofSource source).row.drop p
      (∀ chain : Chain, chain.LongestIn S → ∃ left,
        perform .expression here = .ok (.expression chain.tree) left ∧ here.Takes (2 * chain.links.length + 1) left) ∧
      (∀ answer left, perform .expression here = .ok answer left →
        ∃ chain : Chain, chain.LongestIn S ∧ answer = .expression chain.tree) ∧
      ∀ error, (∃ left, perform .expression here = .error error left) ↔ S.ChainFault error := by
  refine ⟨fun steps => session_takes steps (.ofSource source), fun here p htakes => ?_⟩
  intro S
  have hhere : here.row = S := htakes.row_ofSource
  rw [← hhere]
  refine ⟨fun chain hlongest => ?_, fun answer left hrun => ?_, fun error => ?_⟩
  · obtain ⟨left, hrun, hleft⟩ := expression_of_longest hhere hlongest
    exact ⟨left, bind_of_ok hrun, hleft⟩
  · obtain ⟨expr, between, hexpr, hpure⟩ := bind_ok hrun
    cases hpure
    obtain ⟨chain, hlongest, rfl⟩ := longest_of_expression hexpr
    exact ⟨chain, hlongest, rfl⟩
  · rw [← expression_error_iff]
    constructor
    · rintro ⟨left, hrun⟩
      rcases bind_error hrun with hexpr | ⟨_, _, _, hpure⟩
      · exact ⟨left, hexpr⟩
      · cases hpure
    · rintro ⟨left, hexpr⟩
      exact ⟨left, bind_of_error hexpr⟩

/-- A difference behind a keyword that was taken, and behind a step that failed: three tokens are taken. -/
theorem expression_takes_longest_chain_behind_failure :
    let start := Lookahead.ofSource "var x - 2;"
    let here := (session perform start [.expect .varKeyword, .expect .number]).2
    let x : Token := ⟨.identifier, "x", ⟨0, 4, 4⟩⟩
    let two : Token := ⟨.number, "2", ⟨0, 8, 8⟩⟩
    start.Takes 1 here ∧ ∃ left,
      perform .expression here = .ok (.expression (.operation .sub (.reference x) (.literal two))) left ∧
        here.Takes 3 left := by
  intro start here x two
  have hhere : start.Takes 1 here := by
    obtain ⟨answer, count, between, hword⟩ := (Request.expect .varKeyword).does start
    obtain ⟨answer', count', last, hnumber⟩ := (Request.expect .number).does between
    have hsession : session perform start [.expect .varKeyword, .expect .number] = ([answer, answer'], last) := by
      rw [session_conclude hword.run_eq, session_conclude hnumber.run_eq]
      rfl
    -- the first step takes its token, and the second fails
    have hends : (session perform start [.expect .varKeyword, .expect .number]).1.map Except.isOk = [true, false] := by
      decide +kernel
    rw [hsession] at hends
    obtain ⟨hok, hfails⟩ : answer.isOk = true ∧ answer'.isOk = false := by simpa using hends
    have hcount : count = 1 := hword.moves.trans (if_pos hok)
    have hcount' : count' = 0 := hnumber.moves.trans (by rw [hfails]; rfl)
    have hlast : here = last := congrArg Prod.snd hsession
    have htakes := hword.takes.trans hnumber.takes
    rwa [hcount, hcount', ← hlast] at htakes
  refine ⟨hhere, ?_⟩
  let minus : Token := ⟨.minus, "-", ⟨0, 6, 6⟩⟩
  let chain : Chain := ⟨x, [⟨minus, two, .minus, .number⟩], .identifier⟩
  have hx : (Cursor.ofSource "var x - 2;").row 1 = .ok x := by decide +kernel
  have hminus : (Cursor.ofSource "var x - 2;").row 2 = .ok minus := by decide +kernel
  have htwo : (Cursor.ofSource "var x - 2;").row 3 = .ok two := by decide +kernel
  have hend : (Cursor.ofSource "var x - 2;").row 4 = .ok ⟨.semicolon, ";", ⟨0, 9, 9⟩⟩ := by decide +kernel
  have hbegins : ((Cursor.ofSource "var x - 2;").row.drop 1).Begins chain.tokens :=
    ((Row.Begins.singleton hx).concat hminus).concat htwo
  exact ((expression_takes_longest_chain "var x - 2;").2 here 1 hhere).1 chain ⟨hbegins, _, hend, nofun⟩

end Parser

end ModuleLang
