import StreamBot.Proofs.Script.Literals

/-! # How sources are refused

The parser reports most of what it refuses as a fault of its own.  Two things it does not: an expression whose type is asked for
and that has none, and a number with a digit that is not decimal.  Both can be pointed out in the tokens (`Explained`), as the
walk over the grammar says of expressions (`expression_told`) and of scripts (`script_told`).

Main statement: `ofSource_reports`.  That a type is missing is always due to an operator that is not made for the types of
its operands, or to an empty list (`Expr.exists_misfit`).
-/

namespace StreamBot.Script

open List Script.Expr

variable {scope : Scope} {tokens : List Token} {source : String}

def SourceFault.isReported : SourceFault → Bool
  | lex _ => true
  | parse fault => fault.isReported

/-! ### Expressions without a type -/

/-- An expression has no type although its operands have: it is an empty list, or an operator that is not made for
the types of its operands. -/
inductive Expr.Misfit : TypeFault → Expr → Prop where
  | emptyLists (literal : EmptyLists) : Misfit .untypedEmptyList (.emptyLists literal)
  | unary {op : UnaryOp} {operand : Expr} {type : DataType} {fault : TypeFault}
      (has : operand.dataType = .ok type) (lacks : op.resultType type = .error fault) :
      Misfit fault (.unary op operand)
  | binary {left right : Expr} {op : BinaryOp} {leftType rightType : DataType} {fault : TypeFault}
      (hasLeft : left.dataType = .ok leftType) (hasRight : right.dataType = .ok rightType)
      (lacks : BinaryOp.resultType leftType op rightType = .error fault) : Misfit fault (.binary left op right)

/-- Where a type is missing, it is because of such an expression. -/
theorem Expr.exists_misfit {e : Expr} {fault : TypeFault} (h : e.dataType = .error fault) :
    ∃ d : Expr, d.Occurs e ∧ d.Misfit fault := by
  induction e using childInduction with
  | step e ih =>
    have hpart (part : Expr) (hmem : part ∈ e.children) (hfault : part.dataType = .error fault) :
        ∃ d : Expr, d.Occurs e ∧ d.Misfit fault := by
      obtain ⟨d, hd, hmisfit⟩ := ih part hmem hfault
      exact ⟨d, .inside hmem hd, hmisfit⟩
    cases e with
    | emptyLists literal =>
      cases h
      exact ⟨_, .here, .emptyLists literal⟩
    | unary op operand =>
      cases htype : operand.dataType with
      | error fault' =>
        rw [dataType, htype] at h
        cases h
        exact hpart operand (by simp [children]) htype
      | ok type =>
        rw [dataType, htype] at h
        exact ⟨_, .here, .unary htype h⟩
    | binary left op right =>
      cases hleft : left.dataType with
      | error fault' =>
        rw [dataType, hleft] at h
        cases h
        exact hpart left (by simp [children]) hleft
      | ok leftType =>
        cases hright : right.dataType with
        | error fault' =>
          rw [dataType, hleft, hright] at h
          cases h
          exact hpart right (by simp [children]) hright
        | ok rightType =>
          rw [dataType, hleft, hright] at h
          exact ⟨_, .here, .binary hleft hright h⟩
    | comprehension iterable element condition body =>
      cases hbody : body.dataType with
      | error fault' =>
        rw [dataType, hbody] at h
        cases h
        exact hpart body (by simp [children]) hbody
      | ok type =>
        rw [dataType, hbody] at h
        cases h
    | fold iterable start accumulator element body => exact hpart body (by simp [children]) h
    | sort list left right comparison => exact hpart list (by simp [children]) h
    | _ => cases h

namespace Parser

variable {α : Type} {n : ℕ} {all : List Token}

/-- The tokens `before` begin with the expression `e`, perhaps with more operators behind it, and go on with
`rest`. -/
inductive Spelled (scope : Scope) (before : List Token) : Expr → List Token → Prop where
  | operand {e : Expr} {rest : List Token} (reads : Reads (operand expression scope) before e rest) :
      Spelled scope before e rest
  | operation {left e : Expr} {t : Token} {tokens rest : List Token} {op : Infix}
      (spelled : Spelled scope before left (t :: tokens)) (sign : t.kind.afterOperand? = some op)
      (reads : Reads (infixOperation expression scope left op) (t :: tokens) e rest) :
      Spelled scope before e rest

/-- An expression is spelled somewhere in the tokens. -/
def SpelledIn (all : List Token) (e : Expr) : Prop :=
  ∃ scope before rest, before <:+ all ∧ Spelled scope before e rest

/-- A fault that is not reported is explained by the tokens. -/
inductive Explained (all : List Token) : ParseFault → Prop where
  | untyped {e : Expr} {fault : TypeFault} (spelled : SpelledIn all e) (lacks : e.dataType = .error fault) :
      Explained all (.typing fault)
  | digit {t : Token} {c : Char} (word : t ∈ all) (kind : t.kind = .numberLiteral) (char : c ∈ t.lexeme.toList)
      (digit : Text.isDigit c) (notDecimal : Text.decimalValue? c = none) :
      Explained all (.numberText t.lexeme)

/-- On at most `n` tokens at the end of `all` each fault of a reader is reported or explained, its results have a property, and
it consumes at least `k` tokens. -/
abbrev Told (all : List Token) (n k : ℕ) (p : Parse α) (P : α → Prop) : Prop := Fares (Explained all) all n k p p P

/-- The first values of the stores in a scope are spelled in the tokens. -/
def StoresSpelled (all : List Token) (scope : Scope) : Prop := ∀ store ∈ scope.stores, SpelledIn all store.value

/-! ### Expressions -/

theorem Gathered.spelled {Q : Scope → Expr → Prop} {before rest : List Token} {e : Expr}
    (h : Gathered expression scope Q before e rest) : Spelled scope before e rest := by
  induction h with
  | operand hreads _ => exact .operand hreads
  | operation _ hsign hreads _ ih => exact .operation ih hsign hreads

theorem excuses_explained (hall : ∀ t ∈ all, t.kind.isLiteral → Lexer.StandsAlone t) :
    Excuses (Explained all) all (StoresSpelled all) fun _ => SpelledIn all where
  -- a variable leaves the stores alone
  bind hscope := hscope
  untyped := .untyped
  store hscope hstore := .untyped (hscope _ hstore)
  number {t} hmem hkind hread := by
    obtain ⟨c, hc, hdigit, hdecimal⟩ := (hall t hmem (by simp [hkind, TokenKind.isLiteral])).number hkind hread
    exact .digit hmem hkind hc hdigit hdecimal
  string {t} hmem hkind hnone := by
    have hsome := (hall t hmem (by simp [hkind, TokenKind.isLiteral])).string hkind
    rw [hnone] at hsome
    cases hsome
  bool {t} hmem hkind htrue hfalse := by
    rcases (hall t hmem (by simp [hkind, TokenKind.isLiteral])).bool hkind with h | h
    · exact absurd h htrue
    · exact absurd h hfalse

/-- **Expressions are told**, in every scope whose stores are spelled in the tokens. -/
theorem expression_told (hall : ∀ t ∈ all, t.kind.isLiteral → Lexer.StandsAlone t) (scope : Scope)
    (least : Precedence) (hscope : StoresSpelled all scope) :
    Told all n 1 (expression scope least) (SpelledIn all) := by
  refine expression_fares (.any _) (excuses_explained hall) (fun {scope before e rest} hplace hgathered => ?_) scope least
    hscope
  exact ⟨scope, before, rest, hplace, hgathered.spelled⟩

/-- **Whole scripts are told.** -/
theorem script_told (hall : ∀ t ∈ all, t.kind.isLiteral → Lexer.StandsAlone t) (name : String) :
    Told all n 0 (script name) fun _ => True := by
  have hreads {n : ℕ} {scope : Scope} := expression_told (n := n) hall scope .unknown
  have hstart : StoresSpelled all {} := fun s hs => absurd hs not_mem_nil
  refine (script_fares (excuses_explained hall) hreads hstart (fun {stores store} hscope hvalue s hs => ?_) id name).imp
    fun _ _ => trivial
  rcases mem_append.mp hs with hs | hs
  · exact hscope s hs
  · obtain rfl := mem_singleton.mp hs
    exact hvalue

end Parser

theorem standsAlone_of_tokenize (h : tokenize source = .ok tokens) :
    ∀ t ∈ tokens, t.kind.isLiteral → Lexer.StandsAlone t := by
  obtain ⟨words, final, rfl, hlayout, halone⟩ := Lexer.tokensFrom_layout rfl (Nat.zero_le _) h
  intro t ht hkind
  rcases mem_append.mp ht with hword | hfinal
  · exact halone t hword
  · obtain rfl := mem_singleton.mp hfinal
    rw [hlayout.final_kind] at hkind
    cases hkind

/-- A fault that is not reported is due to one of two things in the source: an expression without a type in it,
or a digit in a number that is not decimal. -/
inductive Unreported (source : String) : SourceFault → Prop where
  | untyped {tokens before rest : List Token} {scope : Scope} {e d : Expr} {fault : TypeFault}
      (words : tokenize source = .ok tokens) (place : before <:+ tokens)
      (spelled : Parser.Spelled scope before e rest) (lacks : e.dataType = .error fault) (occurs : d.Occurs e)
      (misfit : d.Misfit fault) : Unreported source (.parse (.typing fault))
  | digit {tokens : List Token} {t : Token} {c : Char} (words : tokenize source = .ok tokens) (word : t ∈ tokens)
      (kind : t.kind = .numberLiteral) (char : c ∈ t.lexeme.toList) (digit : Text.isDigit c)
      (notDecimal : Text.decimalValue? c = none) : Unreported source (.parse (.numberText t.lexeme))

theorem Parser.Explained.unreported {fault : ParseFault}
    (hwords : tokenize source = .ok tokens) (h : Parser.Explained tokens fault) : Unreported source (.parse fault) := by
  cases h with
  | untyped hspelled hlacks =>
    obtain ⟨scope, before, rest, hplace, hspelled⟩ := hspelled
    obtain ⟨d, hoccurs, hmisfit⟩ := exists_misfit hlacks
    exact .untyped hwords hplace hspelled hlacks hoccurs hmisfit
  | digit hword hkind hchar hdigit hdecimal => exact .digit hwords hword hkind hchar hdigit hdecimal

end StreamBot.Script
