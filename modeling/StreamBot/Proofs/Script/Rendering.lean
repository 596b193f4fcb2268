import StreamBot.Proofs.Script.Parsing

/-! # Expressions as tokens

`renderExpr` writes an expression as tokens.  Every expression inside another one stands in parentheses, and lists
are written without their types.  `ReadsBack` says that the rendering of an expression is read as this expression.

Whatever the grammar builds has this property (`rules_readsBack`), and the proof does not look at how a tree came
about: reading the rendering makes the same checks on the same expressions as reading the original tokens did, so
they succeed again.  The one place where the tree is not what was read is an empty list that took its type from
where it stands; but types are not written, so it is rendered as what was read (`render_reify`).
-/

namespace StreamBot.Script

open List Escape

/-! ### Expressions as tokens -/

def UnaryOp.kind : UnaryOp → TokenKind
  | plus => .plus
  | negate => .minus
  | toNumber => .dollar
  | toText => .hash
  | toBool => .questionMark
  | evaluate => .exclamationMark
  | not => .notWord

theorem UnaryOp.unaryOp?_kind (op : UnaryOp) : op.kind.unaryOp? = some op := by
  cases op <;> rfl

def BinaryOp.kind : BinaryOp → TokenKind
  | add => .plus
  | subtract => .minus
  | multiply => .asterisk
  | divide => .slash
  | modulo => .percent
  | equal => .equalsEquals
  | notEqual => .exclamationMarkEquals
  | less => .lessThan
  | lessEqual => .lessThanEquals
  | greater => .greaterThan
  | greaterEqual => .greaterThanEquals
  | and => .andWord
  | or => .orWord
  | rangeInclusive => .dotDotEquals
  | rangeExclusive => .dotDotLessThan

theorem BinaryOp.afterOperand?_kind (op : BinaryOp) : op.kind.afterOperand? = some (.binary op) := by
  cases op <;> rfl

namespace Parser

def parens (tokens : List Token) : List Token :=
  word .leftParenthesis "(" :: (tokens ++ [word .rightParenthesis ")"])

theorem parens_append (tokens rest : List Token) :
    parens tokens ++ rest = word .leftParenthesis "(" :: (tokens ++ word .rightParenthesis ")" :: rest) := by
  simp [parens]

def separated : List (List Token) → List Token
  | [] => []
  | [tokens] => tokens
  | tokens :: next :: rest => tokens ++ word .comma "," :: separated (next :: rest)

def brackets (groups : List (List Token)) : List Token :=
  word .leftSquareBracket "[" :: (separated groups ++ [word .rightSquareBracket "]"])

def quoted (s : String) : String :=
  String.ofList (quote :: (encode s.toList ++ [quote]))

mutual

def renderEmpty : EmptyLists → List Token
  | .nest members => brackets (renderEmpties members)

def renderEmpties : List EmptyLists → List (List Token)
  | [] => []
  | literal :: rest => parens (renderEmpty literal) :: renderEmpties rest

end

def renderVariables : Option String → Option String → List Token
  | some left, some right =>
    [word .semicolon ";", word .identifier left, word .comma ",", word .identifier right]
  | _, _ => []

section Render

variable (numeral : Float → String)

mutual

/-- An expression as tokens, where `numeral` writes the numbers. -/
def renderExpr : Expr → List Token
  | .numberLiteral x => [word .numberLiteral (numeral x)]
  | .stringLiteral s => [word .stringLiteral (quoted s)]
  | .boolLiteral b => [word .boolLiteral (toString b)]
  | .listLiteral _ elements => brackets (renderParts elements)
  | .emptyLists literal => renderEmpty literal
  | .store name _ => [word .identifier name]
  | .parameter name => [word .identifier name]
  | .var name _ => [word .identifier name]
  | .unary op operand => word op.kind op.text :: parens (renderExpr operand)
  | .binary left op right => parens (renderExpr left) ++ word op.kind op.text :: parens (renderExpr right)
  | .ternary condition onTrue onFalse _ =>
    parens (renderExpr condition) ++ word .questionMark "?" ::
      (parens (renderExpr onTrue) ++ word .colon ":" :: parens (renderExpr onFalse))
  | .call callee arguments => parens (renderExpr callee) ++ parens (separated (renderParts arguments))
  | .subscript operand index _ => parens (renderExpr operand) ++ brackets [parens (renderExpr index)]
  | .comprehension iterable element condition body =>
    word .forWord "for" :: (parens (renderExpr iterable) ++ word .asWord "as" :: word .identifier element ::
      (renderOption (word .ifWord "if") condition ++ word .yeetWord "yeet" :: parens (renderExpr body)))
  | .fold iterable start accumulator element body =>
    word .foldWord "fold" :: (parens (renderExpr iterable) ++ word .asWord "as" :: (parens (renderExpr start) ++
      word .comma "," :: word .identifier accumulator :: word .comma "," :: word .identifier element ::
      word .withWord "with" :: parens (renderExpr body)))
  | .split text delimiter =>
    word .splitWord "split" :: parens (parens (renderExpr text) ++ renderOption (word .comma ",") delimiter)
  | .join list delimiter =>
    word .joinWord "join" :: parens (parens (renderExpr list) ++ renderOption (word .comma ",") delimiter)
  | .sort list left right comparison =>
    word .sortWord "sort" :: parens (parens (renderExpr list) ++ (renderVariables left right ++
      renderOption (word .yeetWord "yeet") comparison))

def renderParts : List Expr → List (List Token)
  | [] => []
  | e :: rest => parens (renderExpr e) :: renderParts rest

/-- An expression in parentheses behind a token, if there is one. -/
def renderOption (before : Token) : Option Expr → List Token
  | none => []
  | some e => before :: parens (renderExpr e)

end

end Render

/-! ### Types that are not written -/

section Reify

variable (numeral : Float → String)

theorem render_reify {element : DataType} {literal : EmptyLists} {e : Expr} (h : literal.reify element = .ok e) :
    renderExpr numeral e = renderEmpty literal := by
  refine EmptyLists.Inherited.of_reify (P := fun _ literal e => renderExpr numeral e = renderEmpty literal) ?_ h
  intro element members es hparts
  have hes : renderParts numeral es = renderEmpties members := by
    induction hparts with
    | nil => rfl
    | cons hfirst _ ih =>
      obtain ⟨_, -, hfirst⟩ := hfirst
      rw [renderParts, renderEmpties, hfirst, ih]
  rw [renderExpr, renderEmpty, hes]

theorem Settled.render {type : DataType} {value e : Expr} (h : Settled type value e) :
    renderExpr numeral e = renderExpr numeral value := by
  cases h with
  | has => rfl
  | takes reified => exact render_reify numeral reified

theorem renderEmpties_filterMap {es : List Expr} (h : ∀ e ∈ es, ∃ literal, e = .emptyLists literal) :
    renderEmpties (es.filterMap emptyLists?) = renderParts numeral es := by
  induction es with
  | nil => rfl
  | cons e es ih =>
    obtain ⟨⟨literal, rfl⟩, hrest⟩ := forall_mem_cons.mp h
    have hfirst : emptyLists? (.emptyLists literal) = some literal := rfl
    rw [filterMap_cons_some hfirst, renderEmpties, renderParts, ih hrest, renderExpr]

theorem Listed.render {es : List Expr} {e : Expr} (h : Listed es e) :
    renderExpr numeral e = brackets (renderParts numeral es) := by
  cases h with
  | empty blank => rw [renderExpr, renderEmpty, renderEmpties_filterMap numeral blank]
  | @filled element members hsettled =>
    have hmembers : renderParts numeral members = renderParts numeral es := by
      induction hsettled with
      | nil => rfl
      | cons hfirst _ ih => rw [renderParts, renderParts, hfirst.render, ih]
    rw [renderExpr, hmembers]

end Reify

/-! ### Expressions are read back -/

/-- A number is written by one of its numerals, if it has any. -/
def Spells (numeral : Float → String) (x : Float) : Prop :=
  ∀ lexeme, Decimal.read? lexeme = some x → Decimal.read? (numeral x).toList = some x

/-- The rendering of an expression is read as this expression, up to a token that is no operator. -/
def ReadsBack (numeral : Float → String) (scope : Scope) (e : Expr) : Prop :=
  ∀ rest, (frontKind rest).afterOperand? = none →
    Reads (expression scope .unknown) (renderExpr numeral e ++ rest) e rest

namespace ReadsBack

variable {numeral : Float → String} {scope : Scope} {e : Expr} {rest : List Token}

theorem of_operand (h : ∀ rest, Reads (operand expression scope) (renderExpr numeral e ++ rest) e rest) :
    ReadsBack numeral scope e :=
  fun rest hstop => .expression (h rest) (by simp [hstop])

theorem part (h : ReadsBack numeral scope e) (rest : List Token) :
    Reads (operand expression scope) (parens (renderExpr numeral e) ++ rest) e rest := by
  rw [parens_append]
  exact .group rfl (h _ rfl) rfl

theorem behind (h : ReadsBack numeral scope e) (least : Precedence) (hstop : (frontKind rest).afterOperand? = none) :
    Reads (expression scope least) (parens (renderExpr numeral e) ++ rest) e rest :=
  .expression (h.part rest) (by simp [hstop])

end ReadsBack

theorem length_le_separated (groups : List (List Token)) : groups.length ≤ (separated groups).length + 1 := by
  fun_induction separated groups with
  | case1 => exact Nat.zero_le _
  | case2 tokens => simp
  | case3 tokens next rest ih =>
    simp only [length_cons, length_append] at ih ⊢
    omega

theorem length_renderParts (numeral : Float → String) (es : List Expr) : (renderParts numeral es).length = es.length := by
  induction es with
  | nil => rfl
  | cons e es ih => rw [renderParts, length_cons, length_cons, ih]

section Sequences

variable {numeral : Float → String} {scope : Scope} {es : List Expr} {closing : TokenKind} {lexeme : String}
  {rest : List Token}

theorem sequence_reads (hes : ∀ e ∈ es, ReadsBack numeral scope e)
    (hclosing : closing = .rightParenthesis ∨ closing = .rightSquareBracket) (what : String) {n : Nat} (hn : es.length < n) :
    Reads (sequence expression scope closing what n)
      (separated (renderParts numeral es) ++ word closing lexeme :: rest) es rest := by
  have hend : (closing == .endOfInput) = false := by rcases hclosing with rfl | rfl <;> rfl
  have hopen : TokenKind.leftParenthesis ≠ closing := by rcases hclosing with rfl | rfl <;> decide
  have hcomma : closing ≠ .comma := by rcases hclosing with rfl | rfl <;> decide
  have hstop : closing.afterOperand? = none := by rcases hclosing with rfl | rfl <;> rfl
  induction es generalizing n with
  | nil =>
    obtain ⟨n, rfl⟩ : ∃ m, n = m + 1 := ⟨n - 1, by omega⟩
    exact .bind (.accept rfl hend) (.pure [] rest)
  | cons e es ih =>
    obtain ⟨n, rfl⟩ : ∃ m, n = m + 1 := ⟨n - 1, by omega⟩
    obtain ⟨he, hrest⟩ := forall_mem_cons.mp hes
    cases es with
    | nil =>
      refine .bind (.refuse fun h => absurd h hopen) ?_
      refine .bind (he.behind .unknown hstop) ?_
      refine .bind (.refuse fun h => absurd h hcomma) ?_
      exact .past rfl hend (.pure [e] rest)
    | cons next es =>
      simp only [renderParts, separated, append_assoc, cons_append]
      refine .bind (.refuse fun h => absurd h hopen) ?_
      refine .bind (he.behind .unknown rfl) ?_
      refine .bind (.accept rfl rfl) ?_
      exact .bind (ih hrest (by simpa using hn)) (.pure (e :: next :: es) rest)

theorem expressions_reads (hes : ∀ e ∈ es, ReadsBack numeral scope e)
    (hclosing : closing = .rightParenthesis ∨ closing = .rightSquareBracket) (what : String) :
    Reads (expressions expression scope closing what)
      (separated (renderParts numeral es) ++ word closing lexeme :: rest) es rest := by
  refine .bind (.get _) (sequence_reads hes hclosing what ?_)
  have h := length_le_separated (renderParts numeral es)
  rw [length_renderParts] at h
  simp only [length_append, length_cons]
  omega

end Sequences

/-! ### Each kind of expression -/

theorem decode_encodeChar (c : Char) (cs : List Char) : decode (encodeChar c ++ cs) = (decode cs).map (c :: ·) := by
  have hescape : ∀ written meant, decodeChar? written = some meant →
      decode (backslash :: written :: cs) = (decode cs).map (meant :: ·) := by
    intro written meant hmeant
    rw [decode.eq_def]
    simp only [if_true, hmeant]
    cases decode cs <;> rfl
  unfold encodeChar
  split
  · next hnewline =>
    subst hnewline
    exact hescape 'n' '\n' rfl
  · split
    · next hspecial =>
      rcases hspecial with rfl | rfl <;> exact hescape _ _ rfl
    · next hspecial =>
      have hplain : c ≠ backslash := fun h => hspecial (.inr h)
      rw [singleton_append, decode.eq_def]
      simp only [if_neg hplain]
      cases decode cs <;> rfl

theorem decode_encode (cs : List Char) : decode (encode cs) = some cs := by
  induction cs with
  | nil => rfl
  | cons c cs ih =>
    have hcons : encode (c :: cs) = encodeChar c ++ encode cs := rfl
    rw [hcons, decode_encodeChar, ih]
    rfl

theorem stringOfLexeme?_quoted (s : String) : stringOfLexeme? (quoted s).toList = some s.toList := by
  have hlist : (quoted s).toList = quote :: (encode s.toList ++ [quote]) :=
    String.toList_ofList
  rw [hlist]
  simp [stringOfLexeme?, decode_encode]

theorem render_resolve (numeral : Float → String) {scope : Scope} {name : String} {target : Target}
    (h : scope.resolve name = .ok target) : renderExpr numeral target.read = [word .identifier name] := by
  unfold Scope.resolve at h
  split at h
  · split at h <;> cases h
    rfl
  · split at h
    · cases h
      rfl
    · split at h <;> cases h
      rfl

section Kinds

variable {numeral : Float → String} {scope : Scope} {e : Expr} {d : Option Expr} {rest : List Token}

theorem readsBack_stringLiteral (s : String) : ReadsBack numeral scope (.stringLiteral s) := by
  refine .of_operand fun rest => ?_
  have h : Reads (operand expression scope) (word .stringLiteral (quoted s) :: rest)
      (.stringLiteral (String.ofList s.toList)) rest := .string rfl (stringOfLexeme?_quoted s)
  rw [String.ofList_toList] at h
  exact h

theorem ReadsBack.operation {left : Expr} {t : Token} {tokens : List Token} {op : Infix}
    (hleft : ReadsBack numeral scope left) (hop : t.kind.afterOperand? = some op)
    (hoperation : Reads (infixOperation expression scope left op) (t :: tokens) e rest)
    (hstop : (frontKind rest).afterOperand? = none) :
    Reads (expression scope .unknown) (parens (renderExpr numeral left) ++ t :: tokens) e rest := by
  have habove : op.precedence.isAbove .unknown := by
    cases op with
    | binary op => cases op <;> rfl
    | _ => rfl
  rw [expression_eq]
  exact .bind (hleft.part _) (.operators_step hop habove hoperation (.operators_stop (by simp [hstop]) e))

theorem delimiter_reads (hd : ∀ e ∈ d, ReadsBack numeral scope e) (htype : ∀ e ∈ d, e.dataType = .ok .string)
    (fault : DataType → ParseFault) (closing : String) :
    Reads (delimiter expression scope fault closing)
      (renderOption numeral (word .comma ",") d ++ word .rightParenthesis ")" :: rest) d rest := by
  cases d with
  | none =>
    refine .bind (.refuse (by decide)) (.bind (.pure none _) ?_)
    exact .past rfl rfl (.pure none rest)
  | some e =>
    refine .bind (.accept rfl rfl) (.bind (.currentKind _ _) ?_)
    refine .bind ((hd e rfl).behind .unknown rfl) (.bind (.typeOf (htype e rfl) _) (.guard (by simp) ?_))
    refine .discard (.refuse (by decide)) (.bind (.pure (some e) _) ?_)
    exact .past rfl rfl (.pure (some e) rest)

theorem afterOperand?_delimiter (d : Option Expr) (rest : List Token) :
    (frontKind (renderOption numeral (word .comma ",") d ++
      word .rightParenthesis ")" :: rest)).afterOperand? = none := by
  cases d <;> rfl

end Kinds

/-- **The grammar reads back what it builds.** -/
theorem rules_readsBack {numeral : Float → String} (h : ∀ x, Spells numeral x) :
    Rules (ReadsBack numeral) (ReadsBack numeral) where
  numberLiteral hread := .of_operand fun _ => .number rfl (h _ _ hread)
  stringLiteral := readsBack_stringLiteral
  boolLiteral b := .of_operand fun _ => .bool rfl rfl
  name hresolved := .of_operand fun _ => by
    rw [render_resolve numeral hresolved]
    exact .name rfl hresolved
  group := id
  listOf hes hlisted hmade := by
    refine .of_operand fun rest => ?_
    rw [hlisted.render]
    simp only [brackets, cons_append, append_assoc, nil_append]
    refine .list rfl (.past rfl rfl ?_)
    exact .bind (expressions_reads hes (.inr rfl) _) (hmade ▸ .pure _ rest)
  unary op hoperand := by
    intro rest hstop
    exact .expression (.unary op.unaryOp?_kind (hoperand.behind .unary hstop)) (by simp [hstop])
  binary op hleft hright := by
    intro rest hstop
    simp only [renderExpr, append_assoc, cons_append]
    have hend : op.kind ≠ .endOfInput := by cases op <;> decide
    refine hleft.operation op.afterOperand?_kind (.bind (.advance hend) ?_) hstop
    exact .bind (hright.behind op.precedence hstop) (.pure _ rest)
  ternary hcondition hTrue hFalse hbool hTrueType hFalseType := by
    intro rest hstop
    simp only [renderExpr, append_assoc, cons_append]
    refine hcondition.operation rfl (.bind (.typeOf hbool _) (.guard (by simp) ?_)) hstop
    refine .past rfl rfl (.bind (hTrue.behind .ternary rfl) ?_)
    refine .past rfl rfl (.bind (hFalse.behind .ternary hstop) ?_)
    exact .bind (.typeOf hTrueType _) (.bind (.typeOf hFalseType _) (.guard (by simp) (.pure _ rest)))
  call {_ _ arguments} hcallee harguments htype := by
    intro rest hstop
    rw [renderExpr, append_assoc, parens_append (separated (renderParts numeral arguments))]
    refine hcallee.operation rfl (.past rfl rfl ?_) hstop
    refine .bind (expressions_reads harguments (.inl rfl) _) ?_
    exact .bind (.typeOf htype _) (.guard (by simp) (.pure _ rest))
  subscript hoperand hindex hcontainer helement hindexType := by
    intro rest hstop
    simp only [renderExpr, brackets, separated, cons_append, append_assoc, nil_append]
    refine hoperand.operation rfl (.past rfl rfl ?_) hstop
    refine .bind (hindex.behind .unknown rfl) (.past rfl rfl ?_)
    refine .bind (.typeOf hcontainer _) (.bind (.typeOf hindexType _) ?_)
    rw [helement]
    exact .pure _ rest
  comprehension {scope iterable _ element name condition body} hiterable hcontainer helement hfresh hcondition
      hconditionType hbody := by
    intro rest hstop
    simp only [renderExpr, append_assoc, cons_append]
    refine .expression (.bind (.currentKind _ _) ?_) (by simp [hstop])
    refine .past rfl rfl (.bind (hiterable.behind .unknown rfl) ?_)
    refine .bind (.iterableType hcontainer helement _) (.past rfl rfl ?_)
    refine .bind (.freshName rfl hfresh _) ?_
    -- the part behind the condition
    have hbehind : Reads (α := Expr) (do
          discard <| expect .yeetWord "'yeet' in list comprehension"
          if (← currentKind) = .forWord then throw .nestedComprehension
          let body ← expression (scope.bind name element) .unknown
          return .comprehension iterable name condition body)
        (word .yeetWord "yeet" :: (parens (renderExpr numeral body) ++ rest))
        (.comprehension iterable name condition body) rest := by
      refine .past rfl rfl (.bind (.currentKind _ _) (.guard (by decide) ?_))
      exact .bind (hbody.behind .unknown hstop) (.pure _ rest)
    cases condition with
    | none => exact .bind (.refuse (by decide)) (.bind (.pure none _) hbehind)
    | some c =>
      refine .bind (.accept rfl rfl) (.bind ((hcondition c rfl).behind .unknown rfl) ?_)
      refine .bind (.typeOf (hconditionType c rfl) _) (.guard (by simp) ?_)
      exact .bind (.pure (some c) _) hbehind
  fold hiterable hcontainer helement hstart hstartType haccumulator hfresh hbody hbodyType := by
    intro rest hstop
    simp only [renderExpr, append_assoc, cons_append]
    refine .expression (.bind (.currentKind _ _) ?_) (by simp [hstop])
    refine .past rfl rfl (.bind (hiterable.behind .unknown rfl) ?_)
    refine .bind (.iterableType hcontainer helement _) (.past rfl rfl ?_)
    refine .bind (hstart.behind .unknown rfl) (.bind (.typeOf hstartType _) ?_)
    refine .past rfl rfl (.bind (.freshName rfl haccumulator _) ?_)
    refine .past rfl rfl (.bind (.freshName rfl hfresh _) ?_)
    refine .past rfl rfl (.bind (hbody.behind .unknown hstop) ?_)
    exact .bind (.typeOf hbodyType _) (.guard (by simp) (.pure _ rest))
  split {_ _ d} htext htype hd hdType := by
    refine .of_operand fun rest => ?_
    rw [renderExpr, cons_append, parens_append, append_assoc]
    refine .bind (.currentKind _ _) (.past rfl rfl (.past rfl rfl ?_))
    refine .bind (htext.behind .unknown (afterOperand?_delimiter d rest)) (.bind (.typeOf htype _) (.guard (by simp) ?_))
    exact .bind (delimiter_reads hd hdType _ _) (.pure _ rest)
  join {_ _ d} hlist htype hd hdType := by
    refine .of_operand fun rest => ?_
    rw [renderExpr, cons_append, parens_append, append_assoc]
    refine .bind (.currentKind _ _) (.past rfl rfl (.past rfl rfl ?_))
    refine .bind (hlist.behind .unknown (afterOperand?_delimiter d rest)) (.bind (.typeOf htype _) ?_)
    exact .bind (delimiter_reads hd hdType _ _) (.pure _ rest)
  sortNumbers hlist htype := by
    refine .of_operand fun rest => ?_
    rw [renderExpr, cons_append, parens_append, append_assoc]
    refine .bind (.currentKind _ _) (.past rfl rfl (.past rfl rfl ?_))
    refine .bind (hlist.behind .unknown rfl) (.bind (.typeOf htype _) (.bind (.pure _ _) ?_))
    refine .bind (.refuse (by decide)) ?_
    rw [if_pos Option.isNone_none]
    exact .guard (by simp) (.past rfl rfl (.pure _ rest))
  sort hlist htype hleft hright hcomparison hbool := by
    refine .of_operand fun rest => ?_
    rw [renderExpr, cons_append, parens_append, append_assoc]
    refine .bind (.currentKind _ _) (.past rfl rfl (.past rfl rfl ?_))
    refine .bind (hlist.behind .unknown rfl) (.bind (.typeOf htype _) (.bind (.pure _ _) ?_))
    refine .bind (.accept rfl rfl) (.bind (.freshName rfl hleft _) ?_)
    refine .past rfl rfl (.bind (.freshName rfl hright _) ?_)
    refine .past rfl rfl (.bind (hcomparison.behind .unknown rfl) ?_)
    refine .bind (.typeOf hbool _) (.guard (by simp) ?_)
    exact .past rfl rfl (.pure _ rest)

end Parser

end StreamBot.Script
