import StreamBot.Proofs.Script.EmptyLists

/-! # The grammar of expressions

One lemma for each part of the grammar: if readers of expressions fare alike on `n` tokens (`Fares`), then so does what is made
with them on `n + 1` tokens.  What is shown of expressions is a parameter of the walk (`Rules`), and so is what excuses a fault
that is not reported (`Excuses`).

Expressions are read with a bound on how deeply they are nested, and the bound is the number of tokens.  It is never reached,
because every part of the grammar consumes a token before it reads a nested expression.  Hence `expression` satisfies the
equation of a recursion without any bound (`expression_eq`), and the walk applies to it (`expression_fares`).
-/

namespace StreamBot.Script.Parser

open List

variable {α : Type} {n k d : Nat} {F : ParseFault → Prop} {all tokens : List Token} {es : List Expr}

/-! ### Lists -/

/-- A value of which a type is known: an empty list takes it, and any other value has it. -/
inductive Settled : DataType → Expr → Expr → Prop where
  | has {type : DataType} {value : Expr} (typed : value.dataType = .ok type)
      (filled : ∀ literal, value ≠ .emptyLists literal) : Settled type value value
  | takes {element : DataType} {literal : EmptyLists} {e : Expr} (reified : literal.reify element = .ok e) :
      Settled (.list element) (.emptyLists literal) e

/-- A list is made of elements: of empty lists only, or with a type that all of them have or take. -/
inductive Listed (es : List Expr) : Expr → Prop where
  | empty (blank : ∀ e ∈ es, ∃ literal, e = .emptyLists literal) : Listed es (.emptyLists (.nest (es.filterMap emptyLists?)))
  | filled {element : DataType} {members : List Expr} (settled : Forall₂ (Settled element) es members) :
      Listed es (.listLiteral element members)

theorem Settles.reify (literal : EmptyLists) (element : DataType) :
    Settles F (liftM (literal.reify element)) fun e => literal.reify element = .ok e :=
  .lift (fun _ h => h) fun _ h => .inl <| by
    obtain ⟨n, rfl⟩ := EmptyLists.fault_of_reify h
    rfl

theorem elementType_settles (h : ∀ e ∈ es, ∀ fault, e.dataType = .error fault → F (.typing fault))
    (known : Option DataType) : Settles F (elementType known es) fun common => (∀ type ∈ known, type ∈ common) ∧
      ∀ e ∈ es, (∃ literal, e = .emptyLists literal) ∨ ∃ type ∈ common, e.dataType = .ok type := by
  fun_induction elementType known es with
  | case1 known => exact .pure ⟨fun _ h => h, fun e he => absurd he not_mem_nil⟩
  | case2 known literal rest ih =>
    exact (ih (forall_mem_cons.mp h).2).imp fun common hc => ⟨hc.1, forall_mem_cons.mpr ⟨.inl ⟨literal, rfl⟩, hc.2⟩⟩
  | case3 known e rest _ ihNone ihSome =>
    obtain ⟨he, hrest⟩ := forall_mem_cons.mp h
    refine .bind (.typeOf he) fun type htype => ?_
    cases known with
    | none =>
      refine (ihNone type hrest).imp fun common hc => ⟨fun _ hn => absurd hn (Option.not_mem_none _), ?_⟩
      exact forall_mem_cons.mpr ⟨.inr ⟨type, hc.1 type rfl, htype⟩, hc.2⟩
    | some expected =>
      dsimp only
      split
      · next heq =>
        subst heq
        refine (ihSome hrest).imp fun common hc => ⟨hc.1, ?_⟩
        exact forall_mem_cons.mpr ⟨.inr ⟨expected, hc.1 expected rfl, htype⟩, hc.2⟩
      · exact .refuse rfl _

theorem reifyElements_settles {element : DataType}
    (h : ∀ e ∈ es, (∃ literal, e = .emptyLists literal) ∨ e.dataType = .ok element) :
    Settles F (reifyElements element es) (Forall₂ (Settled element) es) := by
  fun_induction reifyElements element es with
  | case1 => exact .pure .nil
  | case2 literal rest inner heq ih =>
    subst heq
    refine .bind (.reify literal inner) fun first hfirst => ?_
    exact .bind (ih (forall_mem_cons.mp h).2) fun others hothers => .pure (.cons (.takes hfirst) hothers)
  | case3 => exact .refuse rfl _
  | case4 e rest hne ih =>
    obtain ⟨he, hrest⟩ := forall_mem_cons.mp h
    have htype : e.dataType = .ok element := he.resolve_left fun h => h.elim hne
    exact .bind (ih hrest) fun others hothers => .pure (.cons (.has htype hne) hothers)

theorem listOf_settles (h : ∀ e ∈ es, ∀ fault, e.dataType = .error fault → F (.typing fault)) :
    Settles F (listOf es) (Listed es) := by
  refine .bind (elementType_settles h none) fun common ⟨_, hes⟩ => ?_
  cases common with
  | none => exact .pure (.empty fun e he => by simpa using hes e he)
  | some element =>
    exact .bind (reifyElements_settles fun e he => by simpa using hes e he) fun members hmembers => .pure (.filled hmembers)

/-! ### What is shown of expressions -/

/-- If the expressions that a part of the grammar reads have the property `S` in their scopes, then the one that it makes of
them has the property `Q`. -/
structure Rules (S Q : Scope → Expr → Prop) : Prop where
  numberLiteral {scope lexeme x} (read : Decimal.read? lexeme = some x) : Q scope (.numberLiteral x)
  stringLiteral {scope} (s : String) : Q scope (.stringLiteral s)
  boolLiteral {scope} (b : Bool) : Q scope (.boolLiteral b)
  name {scope name target} (resolved : scope.resolve name = .ok target) : Q scope target.read
  group {scope e} (part : S scope e) : Q scope e
  listOf {scope elements e} (parts : ∀ e ∈ elements, S scope e) (listed : Listed elements e)
      (made : listOf elements = pure e) : Q scope e
  unary {scope operand} (op : UnaryOp) (part : S scope operand) : Q scope (.unary op operand)
  binary {scope left right} (op : BinaryOp) (onLeft : S scope left) (onRight : S scope right) :
      Q scope (.binary left op right)
  ternary {scope condition onTrue onFalse type} (chooses : S scope condition) (whenTrue : S scope onTrue)
      (whenFalse : S scope onFalse) (conditionType : condition.dataType = .ok .bool)
      (trueType : onTrue.dataType = .ok type) (falseType : onFalse.dataType = .ok type) :
      Q scope (.ternary condition onTrue onFalse type)
  call {scope callee arguments} (called : S scope callee) (parts : ∀ e ∈ arguments, S scope e)
      (calleeType : callee.dataType = .ok .string) : Q scope (.call callee arguments)
  subscript {scope operand index container type} (part : S scope operand) (place : S scope index)
      (operandType : operand.dataType = .ok container) (element : container.element? = some type)
      (indexType : index.dataType = .ok .number) : Q scope (.subscript operand index type)
  comprehension {scope iterable container element name condition body} (source : S scope iterable)
      (iterableType : iterable.dataType = .ok container) (items : container.element? = some element)
      (fresh : scope.checkFresh name = .ok ()) (filter : ∀ c ∈ condition, S (scope.bind name element) c)
      (conditionType : ∀ c ∈ condition, c.dataType = .ok .bool) (each : S (scope.bind name element) body) :
      Q scope (.comprehension iterable name condition body)
  fold {scope iterable container element start type accumulator name body} (source : S scope iterable)
      (iterableType : iterable.dataType = .ok container) (items : container.element? = some element)
      (first : S scope start) (startType : start.dataType = .ok type)
      (freshAccumulator : scope.checkFresh accumulator = .ok ()) (fresh : scope.checkFresh name = .ok ())
      (each : S ((scope.bind accumulator type).bind name element) body) (bodyType : body.dataType = .ok type) :
      Q scope (.fold iterable start accumulator name body)
  split {scope text delimiter} (whole : S scope text) (textType : text.dataType = .ok .string)
      (between : ∀ d ∈ delimiter, S scope d) (delimiterType : ∀ d ∈ delimiter, d.dataType = .ok .string) :
      Q scope (.split text delimiter)
  join {scope list delimiter} (parts : S scope list) (listType : list.dataType = .ok (.list .string))
      (between : ∀ d ∈ delimiter, S scope d) (delimiterType : ∀ d ∈ delimiter, d.dataType = .ok .string) :
      Q scope (.join list delimiter)
  sortNumbers {scope list} (part : S scope list) (listType : list.dataType = .ok (.list .number)) :
      Q scope (.sort list none none none)
  sort {scope list element left right comparison} (part : S scope list)
      (listType : list.dataType = .ok (.list element)) (freshLeft : scope.checkFresh left = .ok ())
      (freshRight : scope.checkFresh right = .ok ())
      (order : S ((scope.bind left element).bind right element) comparison)
      (comparisonType : comparison.dataType = .ok .bool) :
      Q scope (.sort list (some left) (some right) (some comparison))

theorem Rules.any (S : Scope → Expr → Prop) : Rules S fun _ _ => True := by
  constructor <;> intros <;> trivial

/-- What excuses a fault that is not reported, where `G` is known of the scope and `S` of the expressions that are read. -/
structure Excuses (F : ParseFault → Prop) (all : List Token) (G : Scope → Prop) (S : Scope → Expr → Prop) : Prop where
  bind {scope name type} (known : G scope) : G (scope.bind name type)
  untyped {scope e fault} (read : S scope e) (lacks : e.dataType = .error fault) : F (.typing fault)
  store {scope store fault} (known : G scope) (declared : store ∈ scope.stores)
      (lacks : store.value.dataType = .error fault) : F (.typing fault)
  number {t} (word : t ∈ all) (kind : t.kind = .numberLiteral) (lacks : Decimal.read? t.lexeme.toList = none) :
      F (.numberText t.lexeme)
  string {t} (word : t ∈ all) (kind : t.kind = .stringLiteral) (lacks : stringOfLexeme? t.lexeme.toList = none) :
      F (.stringText t.lexeme)
  bool {t} (word : t ∈ all) (kind : t.kind = .boolLiteral) (notTrue : t.lexeme ≠ "true") (notFalse : t.lexeme ≠ "false") :
      F (.boolText t.lexeme)

theorem Excuses.any (all : List Token) (S : Scope → Expr → Prop) : Excuses (fun _ => True) all (fun _ => True) S := by
  constructor <;> intros <;> trivial

/-- The tokens `before` begin with an expression, perhaps with more operators behind it, and go on with others; each part of
the grammar that was read on the way has made an expression with the property `Q`. -/
inductive Gathered (expr : ExprParser) (scope : Scope) (Q : Scope → Expr → Prop) (before : List Token) :
    Expr → List Token → Prop where
  | operand {e : Expr} {rest : List Token} (reads : Reads (operand expr scope) before e rest) (made : Q scope e) :
      Gathered expr scope Q before e rest
  | operation {left e : Expr} {t : Token} {tokens rest : List Token} {op : Infix}
      (gathered : Gathered expr scope Q before left (t :: tokens)) (sign : t.kind.afterOperand? = some op)
      (reads : Reads (infixOperation expr scope left op) (t :: tokens) e rest) (made : Q scope e) :
      Gathered expr scope Q before e rest

theorem Gathered.made {expr : ExprParser} {scope : Scope} {Q : Scope → Expr → Prop} {before rest : List Token} {e : Expr}
    (h : Gathered expr scope Q before e rest) : Q scope e := by
  cases h with
  | operand _ hmade | operation _ _ _ hmade => exact hmade

/-- Two readers of expressions that fare alike on `n` tokens, with what is known of scopes, of the expressions that they read
and of those that are made of them. -/
structure Walk (F : ParseFault → Prop) (all : List Token) (n : Nat) (G : Scope → Prop) (S Q : Scope → Expr → Prop)
    (expr other : ExprParser) : Prop where
  rules : Rules S Q
  excuses : Excuses F all G S
  gathers {scope before e rest} (place : before <:+ all) (gathered : Gathered expr scope Q before e rest) : S scope e
  reads (scope : Scope) (least : Precedence) (known : G scope) :
      Fares F all n 1 (expr scope least) (other scope least) (S scope)

theorem Walk.any (all : List Token) {expr other : ExprParser}
    (h : ∀ scope least, Fares (fun _ => True) all n 1 (expr scope least) (other scope least) fun _ => True) :
    Walk (fun _ => True) all n (fun _ => True) (fun _ _ => True) (fun _ _ => True) expr other :=
  ⟨.any _, .any _ _, fun _ _ => trivial, fun scope least _ => h scope least⟩

/-! ### The parts of the grammar -/

theorem resolve_fares {G : Scope → Prop} {S : Scope → Expr → Prop} (excuses : Excuses F all G S) {scope : Scope}
    (hscope : G scope) (name : String) :
    Fares F all n 0 (liftM (scope.resolve name) : Parse Target) (liftM (scope.resolve name)) fun target =>
      scope.resolve name = .ok target := by
  refine .of_settles (.lift (fun _ h => h) fun fault h => ?_)
  unfold Scope.resolve at h
  split at h
  · next store hfound =>
    split at h
    · cases h
    · next lacking hlacks =>
      cases h
      exact .inr (excuses.store hscope (mem_of_find?_eq_some hfound) hlacks)
  · split at h
    · cases h
    · split at h
      · cases h
      · cases h
        exact .inl rfl

section Grammar

variable {G : Scope → Prop} {S Q : Scope → Expr → Prop} {expr other : ExprParser} {scope : Scope}
  (w : Walk F all n G S Q expr other)
include w

theorem typeOf_fares {i : Nat} {e : Expr} (h : S scope e) :
    Fares F all i 0 (typeOf e) (typeOf e) fun type => e.dataType = .ok type :=
  .typeOf fun _ => w.excuses.untyped h

variable (hscope : G scope) {left : Expr} {t : Token}
include hscope

theorem identifier_fares : Fares F all (n + 1) 1 (identifier scope) (identifier scope) (Q scope) :=
  .step (.expect _ _) fun _ _ => .next (resolve_fares w.excuses hscope _) fun _ h => .pure (w.rules.name h)

omit hscope in
theorem numberLiteral_fares : Fares F all (n + 1) 1 numberLiteral numberLiteral (Q scope) := by
  refine .step (.expect _ _) fun t ⟨hmem, hkind⟩ => ?_
  cases hread : Decimal.read? t.lexeme.toList with
  | some x => exact .pure (w.rules.numberLiteral hread)
  | none => exact .throw (.inr (w.excuses.number hmem hkind hread)) _

omit hscope in
theorem stringLiteral_fares : Fares F all (n + 1) 1 stringLiteral stringLiteral (Q scope) := by
  refine .step (.expect _ _) fun t ⟨hmem, hkind⟩ => ?_
  cases hread : stringOfLexeme? t.lexeme.toList with
  | some cs => exact .pure (w.rules.stringLiteral _)
  | none => exact .throw (.inr (w.excuses.string hmem hkind hread)) _

omit hscope in
theorem boolLiteral_fares : Fares F all (n + 1) 1 boolLiteral boolLiteral (Q scope) := by
  refine .step (.expect _ _) fun t ⟨hmem, hkind⟩ => ?_
  split
  · exact .pure (w.rules.boolLiteral true)
  · next htrue =>
    split
    · exact .pure (w.rules.boolLiteral false)
    · next hfalse => exact .throw (.inr (w.excuses.bool hmem hkind htrue hfalse)) _

theorem nested_fares (least : Precedence) : Fares F all n 0 (expr scope least) (other scope least) (S scope) :=
  (w.reads scope least hscope).mono (Nat.le_refl n) (Nat.zero_le 1) fun _ he => he

theorem grouped_fares : Fares F all (n + 1) 1 (grouped expr scope) (grouped other scope) (Q scope) := by
  refine .first <| .next (nested_fares w hscope .unknown) fun e he => ?_
  exact .past <| .pure (w.rules.group he)

/-- Each round consumes a token, so that a bound above the number of tokens is not reached. -/
theorem sequence_fares (closing : TokenKind) (what : String) {i m : Nat} (hi : i ≤ n) (hm : i < m) :
    Fares F all i 0 (sequence expr scope closing what m) (sequence other scope closing what m) fun es =>
      ∀ e ∈ es, S scope e := by
  induction m generalizing i with
  | zero => omega
  | succ m ih =>
    refine .next (.accept closing) fun closed _ => .ite (.pure fun e he => absurd he not_mem_nil) ?_
    refine .consume ((w.reads scope .unknown hscope).mono hi (Nat.le_refl 1) fun _ he => he) fun i' hi' e he => ?_
    refine .next (.accept .comma) fun comma _ => .ite ?_ ?_
    · refine .next (ih (by omega) (by omega)) fun others hothers => .pure ?_
      exact forall_mem_cons.mpr ⟨he, hothers⟩
    · exact .past <| .pure (forall_mem_singleton.mpr he)

theorem expressions_fares (closing : TokenKind) (what : String) :
    Fares F all n 0 (expressions expr scope closing what) (expressions other scope closing what) fun es =>
      ∀ e ∈ es, S scope e :=
  .onTokens fun tokens hsuffix hlength =>
    sequence_fares w hscope closing what hlength (Nat.lt_succ_self tokens.length) tokens hsuffix (Nat.le_refl _)

theorem listLiteral_fares : Fares F all (n + 1) 1 (listLiteral expr scope) (listLiteral other scope) (Q scope) := by
  refine .first <| .next (expressions_fares w hscope _ _) fun es hes => ?_
  have hlist := listOf_settles fun e he _ => w.excuses.untyped (hes e he)
  exact (Fares.of_settles hlist.known).imp fun e ⟨hmade, hlisted⟩ => w.rules.listOf hes hlisted hmade

theorem comprehension_fares : Fares F all (n + 1) 1 (comprehension expr scope) (comprehension other scope) (Q scope) := by
  refine .first <| .next (nested_fares w hscope .unknown) fun iterable hiterable => ?_
  refine .next (.iterableType fun _ => w.excuses.untyped hiterable) fun element ⟨container, htype, hitems⟩ => ?_
  refine .past <| .next (.newName scope _) fun name hname => .next (.accept .ifWord) fun word _ => ?_
  have hinner : G (scope.bind name element) := w.excuses.bind hscope
  -- the part behind the condition, for every condition that may have been read
  have rest : ∀ condition : Option Expr,
      (∀ c ∈ condition, S (scope.bind name element) c ∧ c.dataType = .ok .bool) → Fares F all n 0
      (do
        discard <| expect .yeetWord "'yeet' in list comprehension"
        if (← currentKind) = .forWord then throw .nestedComprehension
        let body ← expr (scope.bind name element) .unknown
        return .comprehension iterable name condition body)
      (do
        discard <| expect .yeetWord "'yeet' in list comprehension"
        if (← currentKind) = .forWord then throw .nestedComprehension
        let body ← other (scope.bind name element) .unknown
        return .comprehension iterable name condition body) (Q scope) := by
    intro condition hcondition
    refine .past <| .next .currentKind fun kind _ => .guard rfl fun _ => ?_
    refine .next (nested_fares w hinner .unknown) fun body hbody => .pure ?_
    exact w.rules.comprehension hiterable htype hitems hname (fun c hc => (hcondition c hc).1)
      (fun c hc => (hcondition c hc).2) hbody
  refine .ite (.next (nested_fares w hinner .unknown) fun c hc => .next (typeOf_fares w hc) fun type hctype => ?_) ?_
  · refine .same rfl fun hbool => .next (.pure rfl) fun _ h => h ▸ rest (some c) fun d hd => ?_
    cases hd
    exact ⟨hc, hbool ▸ hctype⟩
  · exact .next (.pure rfl) fun _ h => h ▸ rest none fun c hc => absurd hc (Option.not_mem_none c)

theorem fold_fares : Fares F all (n + 1) 1 (fold expr scope) (fold other scope) (Q scope) := by
  refine .first <| .next (nested_fares w hscope .unknown) fun iterable hiterable => ?_
  refine .next (.iterableType fun _ => w.excuses.untyped hiterable) fun element ⟨container, htype, hitems⟩ => ?_
  refine .past <| .next (nested_fares w hscope .unknown) fun start hstart => ?_
  refine .next (typeOf_fares w hstart) fun type hstartType => .past ?_
  refine .next (.newName scope _) fun accumulator haccumulator => .past ?_
  refine .next (.newName scope _) fun name hname => .past ?_
  have hinner : G ((scope.bind accumulator type).bind name element) := w.excuses.bind (w.excuses.bind hscope)
  refine .next (nested_fares w hinner .unknown) fun body hbody => .next (typeOf_fares w hbody) fun bodyType hbodyType => ?_
  refine .same rfl fun heq => .pure ?_
  exact w.rules.fold hiterable htype hitems hstart hstartType haccumulator hname hbody (heq ▸ hbodyType)

theorem delimiter_fares {fault : DataType → ParseFault} (hfault : ∀ type, (fault type).isReported) (closing : String) :
    Fares F all n 0 (delimiter expr scope fault closing) (delimiter other scope fault closing) fun d =>
      ∀ e ∈ d, S scope e ∧ e.dataType = .ok .string := by
  have rest : ∀ d : Option Expr, (∀ e ∈ d, S scope e ∧ e.dataType = .ok .string) → Fares F all n 0
      (do discard <| expect .rightParenthesis closing; return d)
      (do discard <| expect .rightParenthesis closing; return d) fun d => ∀ e ∈ d, S scope e ∧ e.dataType = .ok .string :=
    fun d hd => .past <| .pure hd
  have absent := rest none fun e he => absurd he (Option.not_mem_none e)
  refine .next (.accept .comma) fun comma _ => .ite (.next .currentKind fun kind _ => .ite ?_ ?_) ?_
  · exact .next (.pure rfl) fun _ h => h ▸ absent
  · refine .next (nested_fares w hscope .unknown) fun e he => .next (typeOf_fares w he) fun type htype => ?_
    refine .same (hfault type) fun heq => .next (.discard (.accept .comma)) fun _ _ => ?_
    refine .next (.pure rfl) fun _ h => h ▸ rest (some e) fun d hd => ?_
    cases hd
    exact ⟨he, heq ▸ htype⟩
  · exact .next (.pure rfl) fun _ h => h ▸ absent

theorem split_fares : Fares F all (n + 1) 1 (Parser.split expr scope) (Parser.split other scope) (Q scope) := by
  refine .first <| .past ?_
  refine .next (nested_fares w hscope .unknown) fun text htext => .next (typeOf_fares w htext) fun type htype => ?_
  refine .same rfl fun heq => .next (delimiter_fares w hscope (fun _ => rfl) _) fun d hd => .pure ?_
  exact w.rules.split htext (heq ▸ htype) (fun e he => (hd e he).1) fun e he => (hd e he).2

theorem join_fares : Fares F all (n + 1) 1 (join expr scope) (join other scope) (Q scope) := by
  refine .first <| .past ?_
  refine .next (nested_fares w hscope .unknown) fun list hlist => .next (typeOf_fares w hlist) fun type htype => ?_
  split
  · refine .next (delimiter_fares w hscope (fun _ => rfl) _) fun d hd => .pure ?_
    exact w.rules.join hlist htype (fun e he => (hd e he).1) fun e he => (hd e he).2
  · exact .fail rfl _ _ _
  · exact .fail rfl _ _ _

theorem sort_fares : Fares F all (n + 1) 1 (sort expr scope) (sort other scope) (Q scope) := by
  refine .first <| .past ?_
  refine .next (nested_fares w hscope .unknown) fun list hlist => .next (typeOf_fares w hlist) fun type htype => ?_
  split
  · next element =>
    refine .next (.pure rfl) fun _ h => .next (.accept .semicolon) fun semicolon _ => ?_
    subst h
    refine .ite (.same rfl fun heq => .past <| .pure (w.rules.sortNumbers hlist (heq ▸ htype))) ?_
    refine .next (.newName scope _) fun left hleft => .past ?_
    refine .next (.newName scope _) fun right hright => .past ?_
    refine .next (nested_fares w (w.excuses.bind (w.excuses.bind hscope)) .unknown) fun comparison hcomparison => ?_
    refine .next (typeOf_fares w hcomparison) fun type hbool => .same rfl fun heq => .past <| .pure ?_
    exact w.rules.sort hlist htype hleft hright hcomparison (heq ▸ hbool)
  · exact .fail rfl _ _ _

theorem advance_fares {f g : Expr → Parse Expr} (hf : ∀ e, S scope e → Fares F all n 0 (f e) (g e) (Q scope))
    (least : Precedence) (ht : t.kind ≠ .endOfInput) (hsuffix : t :: tokens <:+ all)
    (hlength : (t :: tokens).length ≤ n + 1) :
    FaresAt F (t :: tokens) 1 (advance >>= fun _ => expr scope least >>= f)
      (advance >>= fun _ => other scope least >>= g) (Q scope) := by
  have hadvance : Reads advance (t :: tokens) () tokens := .advance ht
  have htail := (suffix_cons t tokens).trans hsuffix
  have hrest := Fares.next (nested_fares w hscope least) hf tokens htail (Nat.le_of_succ_le_succ hlength)
  exact .after (j := 0) (hadvance.bind_run _) (hadvance.bind_run _) (.cons ht tokens) (Nat.le_refl _) hrest

theorem operand_fares : Fares F all (n + 1) 1 (operand expr scope) (operand other scope) (Q scope) := by
  intro tokens hsuffix hlength
  cases tokens with
  | nil => exact .of_error rfl rfl (.inl rfl)
  | cons t tokens =>
    refine .onKind ?_
    rw [frontKind_cons]
    cases ht : t.kind with
    | identifier => exact identifier_fares w hscope _ hsuffix hlength
    | numberLiteral => exact numberLiteral_fares w _ hsuffix hlength
    | stringLiteral => exact stringLiteral_fares w _ hsuffix hlength
    | boolLiteral => exact boolLiteral_fares w _ hsuffix hlength
    | leftParenthesis => exact grouped_fares w hscope _ hsuffix hlength
    | leftSquareBracket => exact listLiteral_fares w hscope _ hsuffix hlength
    | forWord => exact comprehension_fares w hscope _ hsuffix hlength
    | foldWord => exact fold_fares w hscope _ hsuffix hlength
    | splitWord => exact split_fares w hscope _ hsuffix hlength
    | joinWord => exact join_fares w hscope _ hsuffix hlength
    | sortWord => exact sort_fares w hscope _ hsuffix hlength
    | plus | minus | notWord | dollar | exclamationMark | questionMark | hash =>
      exact advance_fares w hscope (fun e he => .pure (w.rules.unary _ he)) .unary (by simp [ht]) hsuffix hlength
    | _ => exact Fares.failExpected _ _ _ hsuffix hlength

theorem ternary_fares {condition : Expr} (hcondition : S scope condition) :
    Fares F all (n + 1) 1 (ternary expr scope condition) (ternary other scope condition) (Q scope) := by
  refine .next (typeOf_fares w hcondition) fun type htype => .same rfl fun hbool => ?_
  refine .first <| .next (nested_fares w hscope .ternary) fun onTrue hTrue => ?_
  refine .past <| .next (nested_fares w hscope .ternary) fun onFalse hFalse => ?_
  refine .next (typeOf_fares w hTrue) fun trueType hTrueType => ?_
  refine .next (typeOf_fares w hFalse) fun falseType hFalseType => .same rfl fun heq => .pure ?_
  exact w.rules.ternary hcondition hTrue hFalse (hbool ▸ htype) hTrueType (heq ▸ hFalseType)

theorem call_fares {callee : Expr} (hcallee : S scope callee) :
    Fares F all (n + 1) 1 (call expr scope callee) (call other scope callee) (Q scope) := by
  refine .first <| .next (expressions_fares w hscope _ _) fun arguments harguments => ?_
  refine .next (typeOf_fares w hcallee) fun type htype => .same rfl fun heq => .pure ?_
  exact w.rules.call hcallee harguments (heq ▸ htype)

theorem subscript_fares {operand : Expr} (hoperand : S scope operand) :
    Fares F all (n + 1) 1 (subscript expr scope operand) (subscript other scope operand) (Q scope) := by
  refine .first <| .next (nested_fares w hscope .unknown) fun index hindex => ?_
  refine .past <| .next (typeOf_fares w hoperand) fun container hcontainer => ?_
  refine .next (typeOf_fares w hindex) fun indexType hindexType => ?_
  split
  · next element helement => exact .pure (w.rules.subscript hoperand hindex hcontainer helement hindexType)
  · exact .refuse rfl _

theorem infixOperation_fares (hleft : S scope left) {op : Infix}
    (hop : t.kind.afterOperand? = some op) (hsuffix : t :: tokens <:+ all) (hlength : (t :: tokens).length ≤ n + 1) :
    FaresAt F (t :: tokens) 1 (infixOperation expr scope left op) (infixOperation other scope left op) (Q scope) := by
  have ht : t.kind ≠ .endOfInput := by
    intro hend
    rw [hend] at hop
    cases hop
  cases op with
  | binary op =>
    exact advance_fares w hscope (fun e he => .pure (w.rules.binary op hleft he)) op.precedence ht hsuffix hlength
  | ternary => exact ternary_fares w hscope hleft _ hsuffix hlength
  | call => exact call_fares w hscope hleft _ hsuffix hlength
  | subscript => exact subscript_fares w hscope hleft _ hsuffix hlength

/-- Each round of the loop consumes a token, so a bound on the rounds that is above the number of tokens might as well be any
other one.  `I` is what is known of an expression and the tokens behind it. -/
theorem operatorsLoop_fares (least : Precedence) {I : Expr → List Token → Prop} (hdone : ∀ e rest, I e rest → S scope e)
    (hstep : ∀ left t tokens op e rest, I left (t :: tokens) → t.kind.afterOperand? = some op →
      Reads (infixOperation expr scope left op) (t :: tokens) e rest → Q scope e → I e rest)
    {m m' : Nat} (hleft : I left tokens) (hsuffix : tokens <:+ all) (hlength : tokens.length ≤ n + 1)
    (hm : tokens.length < m) (hm' : tokens.length < m') :
    FaresAt F tokens 0 (operatorsLoop expr scope least m left) (operatorsLoop other scope least m' left) (S scope) := by
  induction m generalizing m' left tokens with
  | zero => omega
  | succ m ih =>
    obtain ⟨m', rfl⟩ : ∃ i, m' = i + 1 := ⟨m' - 1, by omega⟩
    have hstop := Fares.pure (F := F) (hdone left tokens hleft) tokens hsuffix (Nat.le_refl _)
    refine .onKind ?_
    cases hop : (frontKind tokens).afterOperand? with
    | none => exact hstop
    | some op =>
      dsimp only
      by_cases habove : op.precedence.isAbove least
      · rw [if_pos habove, if_pos habove]
        cases tokens with
        | nil => cases hop
        | cons t tokens =>
          have hoperation := infixOperation_fares w hscope (hdone left _ hleft) hop hsuffix hlength
          refine .mono (hoperation.bind (j := 0) fun e rest hreads he hrest hconsumed => ?_) (Nat.zero_le 1) fun _ h => h
          simp only [length_cons] at hconsumed hlength hm hm'
          exact ih (hstep left t tokens op e rest hleft hop hreads he) (hrest.suffix.trans hsuffix) (by omega) (by omega) (by omega)
      · rw [if_neg habove, if_neg habove]
        exact hstop

theorem climb_fares (least : Precedence) : Fares F all (n + 1) 1 (operand expr scope >>= operators expr scope least)
      (operand other scope >>= operators other scope least) (S scope) := by
  intro tokens hsuffix hlength
  refine (operand_fares w hscope tokens hsuffix hlength).bind (j := 0) fun left rest hreads hleft hrest hconsumed => ?_
  have hloop := operatorsLoop_fares w hscope least (I := Gathered expr scope Q tokens) (fun _ _ h => w.gathers hsuffix h)
    (fun _ _ _ _ _ _ h hop hreads hmade => .operation h hop hreads hmade) (.operand hreads hleft) (hrest.suffix.trans hsuffix)
    (by omega) (Nat.lt_succ_self rest.length) (Nat.lt_succ_self rest.length)
  exact ⟨hloop.same, hloop.fault, hloop.result⟩

end Grammar

/-! ### Expressions -/

theorem expressionWithin_succ (depth : Nat) (scope : Scope) (least : Precedence) :
    expressionWithin (depth + 1) scope least
      = operand (expressionWithin depth) scope >>= operators (expressionWithin depth) scope least := rfl

theorem expression_run (scope : Scope) (least : Precedence) (tokens : List Token) :
    expression scope least tokens = expressionWithin (tokens.length + 1) scope least tokens := rfl

theorem climb_nil (expr : ExprParser) (scope : Scope) (f : Expr → Parse Expr) :
    (operand expr scope >>= f) [] = .error (.expectedToken "expression" .endOfInput noToken.range.start) := rfl

theorem Fares.of_nil {p q : Parse α} {P : α → Prop} (h : FaresAt F [] k p q P) : Fares F all 0 k p q P := by
  intro tokens _ hlength
  obtain rfl : tokens = [] := length_eq_zero_iff.mp (by omega)
  exact h

/-- A bound on the depth that is above the number of tokens might as well be any other one. -/
theorem expressionWithin_fares {d' : Nat} (hd : n < d) (hd' : n < d') (scope : Scope) (least : Precedence) :
    Fares (fun _ => True) all n 1 (expressionWithin d scope least) (expressionWithin d' scope least) fun _ => True := by
  induction d generalizing n d' scope least with
  | zero => omega
  | succ d ih =>
    obtain ⟨d', rfl⟩ : ∃ m, d' = m + 1 := ⟨d' - 1, by omega⟩
    cases n with
    | zero => exact .of_nil (.of_error (climb_nil _ scope _) (climb_nil _ scope _) (.inl rfl))
    | succ n =>
      have w := Walk.any all (ih (show n < d by omega) (show n < d' by omega))
      exact climb_fares w trivial least

/-- On few tokens, a bounded depth is no bound. -/
theorem expressionWithin_fares_expression (hd : n < d) (scope : Scope) (least : Precedence) :
    Fares (fun _ => True) all n 1 (expressionWithin d scope least) (expression scope least) fun _ => True := by
  intro tokens hsuffix hlength
  have hd' : tokens.length < d := Nat.lt_of_le_of_lt hlength hd
  have h := expressionWithin_fares hd' (Nat.lt_succ_self _) scope least tokens hsuffix (Nat.le_refl _)
  exact ⟨h.same.trans (expression_run scope least tokens).symm, h.fault, h.result⟩

theorem expression_eq (scope : Scope) (least : Precedence) :
    expression scope least = operand expression scope >>= operators expression scope least := by
  funext tokens
  rw [expression_run, expressionWithin_succ]
  cases tokens with
  | nil => rw [climb_nil, climb_nil]
  | cons t tokens =>
    have w := Walk.any (t :: tokens) (expressionWithin_fares_expression (Nat.lt_succ_self tokens.length))
    exact (climb_fares w trivial least _ suffix_rfl (Nat.le_refl _)).same

section Expressions

variable {G : Scope → Prop} {S Q : Scope → Expr → Prop}

/-- **How expressions are read**, with any property that the grammar hands on and any excuse for the faults that are not
reported. -/
theorem expression_fares (rules : Rules S Q) (excuses : Excuses F all G S)
    (gathers : ∀ {scope before e rest}, before <:+ all → Gathered expression scope Q before e rest → S scope e)
    (scope : Scope) (least : Precedence) (hscope : G scope) :
    Fares F all n 1 (expression scope least) (expression scope least) (S scope) := by
  induction n generalizing scope least with
  | zero => exact .of_nil (.of_error rfl rfl (.inl rfl))
  | succ n ih =>
    rw [expression_eq]
    exact climb_fares ⟨rules, excuses, gathers, ih⟩ hscope least

theorem expression_walk (all : List Token) (n : Nat) :
    Walk (fun _ => True) all n (fun _ => True) (fun _ _ => True) (fun _ _ => True) expression expression :=
  .any all fun scope least => expression_fares (.any _) (.any all _) (fun _ _ => trivial) scope least trivial

end Expressions

namespace Reads

variable {scope : Scope} {least : Precedence} {tokens middle rest : List Token} {t : Token} {left e : Expr}

theorem operators_stop (h : ∀ op ∈ (Parser.frontKind tokens).afterOperand?, op.precedence.isAbove least = false)
    (left : Expr) : Reads (operators expression scope least left) tokens left tokens := by
  refine bind (get tokens) ?_
  refine bind (frontKind tokens) ?_
  split
  · rename_i op hop
    rw [h op hop]
    exact pure left tokens
  · exact pure left tokens

theorem operators_step {op : Infix} (hop : t.kind.afterOperand? = some op) (habove : op.precedence.isAbove least)
    (hoperation : Reads (infixOperation expression scope left op) (t :: tokens) e middle) {final : Expr}
    (hmore : Reads (operators expression scope least e) middle final rest) :
    Reads (operators expression scope least left) (t :: tokens) final rest := by
  have w := expression_walk (t :: tokens) (t :: tokens).length
  obtain ⟨-, hremains, hlength⟩ :=
    (infixOperation_fares w trivial trivial hop suffix_rfl (Nat.le_succ _)).result e middle hoperation
  have hloop : FaresAt (fun _ => True) middle 0 (operatorsLoop Parser.expression scope least (t :: tokens).length e)
      (operatorsLoop Parser.expression scope least (middle.length + 1) e) fun _ => True :=
    operatorsLoop_fares w trivial least (fun _ _ _ => trivial)
      (fun _ _ _ _ _ _ _ _ _ _ => trivial) trivial hremains.suffix (by omega) (by omega) (Nat.lt_succ_self _)
  refine bind (get (t :: tokens)) ?_
  refine bind (currentKind t tokens) ?_
  simp only [hop, habove, if_true]
  exact bind hoperation (hloop.same.trans hmore)

theorem expression (hoperand : Reads (operand Parser.expression scope) tokens e rest)
    (h : ∀ op ∈ (Parser.frontKind rest).afterOperand?, op.precedence.isAbove least = false) :
    Reads (Parser.expression scope least) tokens e rest := by
  rw [expression_eq]
  exact bind hoperand (operators_stop h e)

end Reads

end StreamBot.Script.Parser
