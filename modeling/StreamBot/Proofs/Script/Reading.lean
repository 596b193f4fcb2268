import StreamBot.Script.Source

/-! # Readers

`Settles F p P` says that the reader `p` has the same result for all tokens, with the property `P`, or the same fault.
`Reads p tokens a rest` says that it takes `a` from the front of the given tokens and leaves the rest.  `Fares F all n k p q P` says of two readers, on at most
`n` tokens at the end of `all`, that they do the same, that each of their faults is reported or excused by `F`, that their
results have the property `P` and that they consume at least `k` tokens.  For each of the three there is one rule for each way
in which readers are put together, and one for each of the small readers.
-/

namespace StreamBot.Script

open List Parser MonadExcept

variable {c : Prop} {kind : TokenKind} {e : Expr}
variable {ε α β : Type}
variable {Q P' : α → Prop} {r : Except ParseFault α} {k : Unit → Parse β} {fault : ParseFault} {a : α}

def ParseFault.isReported : ParseFault → Bool
  | typing _ | numberText _ | boolText _ | stringText _ | nesting => false
  | _ => true

theorem exists_of_bind_eq_ok {x : Except ε α} {k : α → Except ε β} {b : β} (h : (x >>= k) = .ok b) :
    ∃ a, x = .ok a ∧ k a = .ok b := by
  cases x with
  | error fault => cases h
  | ok a => exact ⟨a, rfl, h⟩

namespace Parser

/-! ### Readers that look at no token -/

/-- Whatever the tokens are, a reader has one result, which has a property, or one fault, which is reported or excused. -/
def Settles (F : ParseFault → Prop) (p : Parse α) (P : α → Prop) : Prop :=
  (∃ a, p = Pure.pure a ∧ P a) ∨ ∃ fault, p = throw fault ∧ (fault.isReported ∨ F fault)

namespace Settles

variable {F : ParseFault → Prop} {p : Parse α} {P : α → Prop}

theorem pure (h : Q a) : Settles F (Pure.pure a) Q := .inl ⟨a, rfl, h⟩

theorem refuse (h : fault.isReported) (Q : α → Prop) : Settles F (throw fault) Q := .inr ⟨fault, rfl, .inl h⟩

theorem bind {k : α → Parse β} {Q : β → Prop} (hp : Settles F p P) (hk : ∀ a, P a → Settles F (k a) Q) :
    Settles F (p >>= k) Q := by
  rcases hp with ⟨a, rfl, ha⟩ | ⟨fault, rfl, hfault⟩
  · exact hk a ha
  · exact .inr ⟨fault, rfl, hfault⟩

theorem imp (h : Settles F p P) (hP : ∀ a, P a → Q a) : Settles F p Q := h.imp_left fun ⟨a, hp, ha⟩ => ⟨a, hp, hP a ha⟩

theorem known (h : Settles F p P) : Settles F p fun a => p = Pure.pure a ∧ P a :=
  h.imp_left fun ⟨a, hp, ha⟩ => ⟨a, hp, hp, ha⟩

theorem lift (hok : ∀ a, r = .ok a → Q a) (herror : ∀ fault, r = .error fault → fault.isReported ∨ F fault) :
    Settles F (liftM r) Q := by
  cases r with
  | ok a => exact pure (hok a rfl)
  | error fault => exact .inr ⟨fault, rfl, herror fault rfl⟩

theorem typeOf (h : ∀ fault, e.dataType = .error fault → F (.typing fault)) :
    Settles F (typeOf e) fun type => e.dataType = .ok type := by
  unfold Parser.typeOf
  cases htype : e.dataType with
  | ok type => exact pure rfl
  | error fault => exact .inr ⟨_, rfl, .inr (h fault htype)⟩

end Settles

/-! ### Reading given tokens -/

/-- A reader takes a result from the front of tokens and leaves the rest. -/
def Reads (p : Parse α) (tokens : List Token) (a : α) (rest : List Token) : Prop :=
  p tokens = .ok (a, rest)

def word (kind : TokenKind) (lexeme : String) : Token := ⟨kind, lexeme, ⟨0, 1⟩, {}⟩

def frontKind (tokens : List Token) : TokenKind := (tokens.head?.getD noToken).kind

@[simp] theorem frontKind_cons (t : Token) (tokens : List Token) : frontKind (t :: tokens) = t.kind := rfl

namespace Reads

variable {t : Token} {tokens middle rest : List Token} {p : Parse α} {a : α} {b : β}

theorem pure (a : α) (tokens : List Token) : Reads (Pure.pure a) tokens a tokens := rfl

theorem bind_run (k : α → Parse β) (hp : Reads p tokens a middle) : (p >>= k) tokens = k a middle := by
  calc (p >>= k) tokens = (p tokens >>= fun r => k r.1 r.2) := rfl
    _ = k a middle := by rw [hp]; rfl

theorem bind_error (k : α → Parse β) (hp : p tokens = .error fault) : (p >>= k) tokens = .error fault := by
  calc (p >>= k) tokens = (p tokens >>= fun r => k r.1 r.2) := rfl
    _ = .error fault := by rw [hp]; rfl

theorem bind {k : α → Parse β} (hp : Reads p tokens a middle)
    (hk : Reads (k a) middle b rest) : Reads (p >>= k) tokens b rest :=
  (bind_run k hp).trans hk

theorem discard (hp : Reads p tokens a middle)
    (hk : Reads (k ()) middle b rest) : Reads (Functor.discard p >>= k) tokens b rest := by
  have hdiscard : Reads (Functor.discard p) tokens () middle := by
    calc Functor.discard p tokens = (p tokens >>= fun r => Pure.pure ((), r.2)) := rfl
      _ = .ok ((), middle) := by rw [hp]; rfl
  exact bind hdiscard hk

theorem get (tokens : List Token) : Reads MonadState.get tokens tokens tokens := rfl

theorem lift (h : r = .ok a) (tokens : List Token) : Reads (liftM r) tokens a tokens := by
  subst h
  rfl

theorem guard [Decidable c] {b : β} (hc : ¬ c) (hk : Reads (k ()) tokens b rest) :
    Reads (if c then throw fault >>= k else k ()) tokens b rest := by
  rw [if_neg hc]
  exact hk

theorem frontKind (tokens : List Token) : Reads currentKind tokens (Parser.frontKind tokens) tokens := rfl

theorem currentKind (t : Token) (tokens : List Token) : Reads currentKind (t :: tokens) t.kind (t :: tokens) := rfl

theorem stay (h : t.kind = .endOfInput) : Reads Parser.advance (t :: tokens) () (t :: tokens) := by
  change Except.ok ((), if t.kind = .endOfInput then t :: tokens else tokens) = .ok ((), t :: tokens)
  rw [if_pos h]

theorem advance (h : t.kind ≠ .endOfInput) : Reads Parser.advance (t :: tokens) () tokens := by
  change Except.ok ((), if t.kind = .endOfInput then t :: tokens else tokens) = .ok ((), tokens)
  rw [if_neg h]

theorem accept (h : t.kind = kind) (hkind : (kind == .endOfInput) = false) :
    Reads (Parser.accept kind) (t :: tokens) (some t) tokens := by
  have hend : kind ≠ .endOfInput := by simpa using hkind
  refine bind rfl ?_
  rw [if_pos ⟨h, hend⟩]
  exact bind (advance (h ▸ hend)) (pure (some t) tokens)

theorem refuse (h : t.kind = kind → kind = .endOfInput) :
    Reads (Parser.accept kind) (t :: tokens) none (t :: tokens) := by
  refine bind rfl ?_
  rw [if_neg fun hk => hk.2 (h hk.1)]
  exact pure none _

theorem refuse_nil (kind : TokenKind) : Reads (Parser.accept kind) [] none [] := by
  refine bind rfl ?_
  rw [if_neg fun hk => hk.2 hk.1.symm]
  exact pure none []

theorem refuse_front (h : Parser.frontKind tokens ≠ kind) : Reads (Parser.accept kind) tokens none tokens := by
  cases tokens with
  | nil => exact refuse_nil kind
  | cons t tokens => exact refuse fun hkind => absurd hkind h

theorem refuse_or_accept (kind : TokenKind) (tokens : List Token) : Reads (Parser.accept kind) tokens none tokens ∨
      ∃ t rest, tokens = t :: rest ∧ t.kind = kind ∧ t.kind ≠ .endOfInput ∧ Reads (Parser.accept kind) tokens (some t) rest := by
  cases tokens with
  | nil => exact .inl (refuse_nil kind)
  | cons t rest =>
    by_cases ht : t.kind = kind ∧ kind ≠ .endOfInput
    · exact .inr ⟨t, rest, rfl, ht.1, ht.1 ▸ ht.2, accept ht.1 (by simpa using ht.2)⟩
    · exact .inl (refuse fun h => Decidable.not_not.mp fun hkind => ht ⟨h, hkind⟩)

theorem expect (h : t.kind = kind) (hkind : (kind == .endOfInput) = false) (what : String) :
    Reads (Parser.expect kind what) (t :: tokens) t tokens :=
  bind (accept h hkind) (pure t tokens)

theorem past {what : String} (h : t.kind = kind) (hkind : (kind == .endOfInput) = false) (hk : Reads (k ()) tokens b rest) :
    Reads (Functor.discard (Parser.expect kind what) >>= k) (t :: tokens) b rest :=
  discard (expect h hkind what) hk

theorem typeOf {type : DataType} (h : e.dataType = .ok type) (tokens : List Token) :
    Reads (Parser.typeOf e) tokens type tokens := by
  unfold Parser.typeOf
  rw [h]
  exact pure type tokens

theorem iterableType {container element : DataType} (h : e.dataType = .ok container)
    (helement : container.element? = some element) (tokens : List Token) :
    Reads (iterableType e) tokens element tokens := by
  refine bind (typeOf h tokens) ?_
  rw [helement]
  exact pure element tokens

theorem freshName {scope : Scope} (h : t.kind = .identifier) (hfresh : scope.checkFresh t.lexeme = .ok ())
    (what : String) : Reads (Parser.freshName scope what) (t :: tokens) t.lexeme tokens :=
  bind (expect h rfl what) (bind (lift hfresh tokens) (pure t.lexeme tokens))

/-! ### Operands -/

section Operands

variable {expr : ExprParser} {scope : Scope}

theorem name {target : Target} (h : t.kind = .identifier) (hresolve : scope.resolve t.lexeme = .ok target) :
    Reads (operand expr scope) (t :: tokens) target.read tokens := by
  refine bind (currentKind t tokens) ?_
  rw [h]
  exact bind (expect h (by decide) _) (bind (lift hresolve tokens) (pure _ tokens))

theorem number {x : Float} (h : t.kind = .numberLiteral) (hread : Decimal.read? t.lexeme.toList = some x) :
    Reads (operand expr scope) (t :: tokens) (.numberLiteral x) tokens := by
  refine bind (currentKind t tokens) ?_
  rw [h]
  refine bind (expect h (by decide) _) ?_
  rw [hread]
  exact pure _ tokens

theorem string {cs : List Char} (h : t.kind = .stringLiteral) (hread : stringOfLexeme? t.lexeme.toList = some cs) :
    Reads (operand expr scope) (t :: tokens) (.stringLiteral (String.ofList cs)) tokens := by
  refine bind (currentKind t tokens) ?_
  rw [h]
  refine bind (expect h (by decide) _) ?_
  rw [hread]
  exact pure _ tokens

theorem bool {b : Bool} (h : t.kind = .boolLiteral) (hread : t.lexeme = toString b) :
    Reads (operand expr scope) (t :: tokens) (.boolLiteral b) tokens := by
  refine bind (currentKind t tokens) ?_
  rw [h]
  refine bind (expect h (by decide) _) ?_
  rw [hread]
  cases b <;> exact pure _ tokens

theorem list (h : t.kind = .leftSquareBracket) (he : Reads (listLiteral expr scope) (t :: tokens) e rest) :
    Reads (operand expr scope) (t :: tokens) e rest := by
  refine bind (currentKind t tokens) ?_
  rw [h]
  exact he

theorem group {close : Token} (h : t.kind = .leftParenthesis) (he : Reads (expr scope .unknown) tokens e (close :: rest))
    (hclose : close.kind = .rightParenthesis) : Reads (operand expr scope) (t :: tokens) e rest := by
  refine bind (currentKind t tokens) ?_
  rw [h]
  exact past h rfl (bind he (past hclose rfl (pure e rest)))

theorem unary {op : UnaryOp} (h : t.kind.unaryOp? = some op) (he : Reads (expr scope .unary) tokens e rest) :
    Reads (operand expr scope) (t :: tokens) (.unary op e) rest := by
  have hoperation : t.kind ≠ .endOfInput → Reads (unaryOperation expr scope op) (t :: tokens) (.unary op e) rest :=
    fun hend => bind (advance hend) (bind he (pure _ rest))
  refine bind (currentKind t tokens) ?_
  cases hkind : t.kind with
  | plus | minus | notWord | dollar | exclamationMark | questionMark | hash =>
    cases hkind ▸ h
    exact hoperation (by simp [hkind])
  | _ => cases hkind ▸ h

end Operands

end Reads

/-! ### How readers fare -/

section Faring

variable {n k j : Nat} {F : ParseFault → Prop} {all tokens : List Token}

/-- What remains of tokens behind some of them, of which none is the end of the input. -/
def Remains (rest tokens : List Token) : Prop :=
  ∃ read, (∀ t ∈ read, t.kind ≠ .endOfInput) ∧ read ++ rest = tokens

namespace Remains

variable {rest middle : List Token} {t : Token}

theorem refl (tokens : List Token) : Remains tokens tokens := ⟨[], by simp, rfl⟩

theorem cons (h : t.kind ≠ .endOfInput) (rest : List Token) : Remains rest (t :: rest) := ⟨[t], by simpa, rfl⟩

theorem trans (h : Remains rest middle) (h' : Remains middle tokens) : Remains rest tokens := by
  obtain ⟨read, hread, rfl⟩ := h
  obtain ⟨before, hbefore, rfl⟩ := h'
  exact ⟨before ++ read, forall_mem_append.2 ⟨hbefore, hread⟩, append_assoc _ _ _⟩

theorem suffix (h : Remains rest tokens) : rest <:+ tokens := h.imp fun _ h => h.2

end Remains

/-- On given tokens two readers do the same.  Their faults are reported or excused, their results have a property, and they
consume at least `k` tokens if they succeed. -/
structure FaresAt (F : ParseFault → Prop) (tokens : List Token) (k : Nat) (p q : Parse α) (P : α → Prop) : Prop where
  same : p tokens = q tokens
  fault : ∀ fault, p tokens = .error fault → fault.isReported ∨ F fault
  result : ∀ a rest, Reads p tokens a rest → P a ∧ Remains rest tokens ∧ rest.length + k ≤ tokens.length

/-- The same on all tokens at the end of `all` that are at most `n`. -/
def Fares (F : ParseFault → Prop) (all : List Token) (n k : Nat) (p q : Parse α) (P : α → Prop) : Prop :=
  ∀ tokens, tokens <:+ all → tokens.length ≤ n → FaresAt F tokens k p q P

namespace FaresAt

variable {p q : Parse α} {P : α → Prop}

theorem of_error (hp : p tokens = .error fault) (hq : q tokens = .error fault)
    (h : fault.isReported ∨ F fault) : FaresAt F tokens k p q P := by
  refine ⟨hp.trans hq.symm, fun fault' hfault => ?_, fun a rest hr => ?_⟩
  · cases hp.symm.trans hfault
    exact h
  · cases hr.symm.trans hp

theorem of_reads {rest : List Token} (hp : Reads p tokens a rest) (hq : Reads q tokens a rest) (ha : P a)
    (hremains : Remains rest tokens) (hlength : rest.length + k ≤ tokens.length) : FaresAt F tokens k p q P := by
  refine ⟨hp.trans hq.symm, fun fault hfault => ?_, fun b rest' hr => ?_⟩
  · cases hp.symm.trans hfault
  · cases hr.symm.trans hp
    exact ⟨ha, hremains, hlength⟩

theorem after {p' q' : Parse α} {middle : List Token} (hp : p tokens = p' middle) (hq : q tokens = q' middle)
    (hremains : Remains middle tokens) (hlength : middle.length + k ≤ tokens.length) (h : FaresAt F middle j p' q' P) :
    FaresAt F tokens (k + j) p q P := by
  refine ⟨?_, fun fault hfault => h.fault fault (hp.symm.trans hfault), fun a rest hr => ?_⟩
  · rw [hp, hq]
    exact h.same
  · obtain ⟨ha, hrest, hshort⟩ := h.result a rest (hp.symm.trans hr)
    exact ⟨ha, hrest.trans hremains, by omega⟩

theorem bind {f g : α → Parse β} {Q : β → Prop} (h : FaresAt F tokens k p q P)
    (hf : ∀ a rest, Reads p tokens a rest → P a → Remains rest tokens → rest.length + k ≤ tokens.length →
      FaresAt F rest j (f a) (g a) Q) : FaresAt F tokens (k + j) (p >>= f) (q >>= g) Q := by
  cases hrun : p tokens with
  | error fault =>
    exact of_error (Reads.bind_error f hrun) (Reads.bind_error g (h.same.symm.trans hrun)) (h.fault fault hrun)
  | ok r =>
    have hp : Reads p tokens r.1 r.2 := hrun
    have hq : Reads q tokens r.1 r.2 := h.same.symm.trans hrun
    obtain ⟨hP, hremains, hlength⟩ := h.result r.1 r.2 hp
    exact after (hp.bind_run f) (hq.bind_run g) hremains hlength (hf r.1 r.2 hp hP hremains hlength)

theorem mono (h : FaresAt F tokens k p q P) (hk : j ≤ k) (hP : ∀ a, P a → Q a) : FaresAt F tokens j p q Q := by
  refine ⟨h.same, h.fault, fun a rest hr => ?_⟩
  obtain ⟨ha, hremains, hlength⟩ := h.result a rest hr
  exact ⟨hP a ha, hremains, by omega⟩

theorem onKind {f g : TokenKind → Parse α} (h : FaresAt F tokens k (f (frontKind tokens)) (g (frontKind tokens)) P) :
    FaresAt F tokens k (currentKind >>= f) (currentKind >>= g) P :=
  ⟨h.same, h.fault, h.result⟩

end FaresAt

namespace Fares

section Rules

variable {p q : Parse α} {f g : α → Parse β} {P : α → Prop} {Q : β → Prop} {fault : ParseFault}

theorem mono {m i : Nat} (h : Fares F all n k p q P) (hn : m ≤ n) (hk : i ≤ k) (hP : ∀ a, P a → P' a) :
    Fares F all m i p q P' :=
  fun tokens hsuffix hlength => (h tokens hsuffix (Nat.le_trans hlength hn)).mono hk hP

theorem imp (h : Fares F all n k p q P) (hP : ∀ a, P a → P' a) : Fares F all n k p q P' :=
  h.mono (Nat.le_refl n) (Nat.le_refl k) hP

theorem pure (h : P a) : Fares F all n 0 (Pure.pure a) (Pure.pure a) P :=
  fun tokens _ _ => .of_reads (.pure a tokens) (.pure a tokens) h (.refl tokens) (Nat.le_refl _)

theorem done (a : α) : Fares F all n 0 (Pure.pure a) (Pure.pure a) fun _ => True := pure trivial

theorem throw (h : fault.isReported ∨ F fault) (P : α → Prop) :
    Fares F all n k (throw fault) (throw fault) P :=
  fun _ _ _ => .of_error rfl rfl h

theorem refuse (h : fault.isReported) (P : α → Prop) :
    Fares F all n k (MonadExcept.throw fault) (MonadExcept.throw fault) P :=
  throw (.inl h) P

theorem bind (hp : Fares F all n k p q P) (hf : ∀ a, P a → Fares F all (n - k) j (f a) (g a) Q) :
    Fares F all n (k + j) (p >>= f) (q >>= g) Q := by
  intro tokens hsuffix hlength
  refine (hp tokens hsuffix hlength).bind fun a rest _ hP hrest hconsumed => ?_
  exact hf a hP rest (hrest.suffix.trans hsuffix) (by omega)

theorem next (hp : Fares F all n 0 p q P) (hf : ∀ a, P a → Fares F all n j (f a) (g a) Q) :
    Fares F all n j (p >>= f) (q >>= g) Q :=
  Nat.zero_add j ▸ bind hp hf

theorem step (hp : Fares F all (n + 1) 1 p q P) (hf : ∀ a, P a → Fares F all n 0 (f a) (g a) Q) :
    Fares F all (n + 1) 1 (p >>= f) (q >>= g) Q :=
  bind hp hf

theorem consume (hp : Fares F all n 1 p q P) (hf : ∀ m, n = m + 1 → ∀ a, P a → Fares F all m 0 (f a) (g a) Q) :
    Fares F all n 0 (p >>= f) (q >>= g) Q := by
  intro tokens hsuffix hlength
  refine .mono ((hp tokens hsuffix hlength).bind (j := 0) fun a rest _ ha hrest hconsumed => ?_)
    (Nat.zero_le 1) fun _ hb => hb
  obtain ⟨m, rfl⟩ : ∃ m, n = m + 1 := ⟨n - 1, by omega⟩
  exact hf m rfl a ha rest (hrest.suffix.trans hsuffix) (by omega)

theorem ite [Decidable c] {p' q' : Parse α} (hp : Fares F all n k p q P) (hq : Fares F all n k p' q' P) :
    Fares F all n k (if c then p else p') (if c then q else q') P := by
  by_cases hc : c
  · simpa [hc] using hp
  · simpa [hc] using hq

theorem fail (h : fault.isReported) (f g : α → Parse β) (Q : β → Prop) :
    Fares F all n k (MonadExcept.throw fault >>= f) (MonadExcept.throw fault >>= g) Q :=
  fun _ _ _ => .of_error rfl rfl (.inl h)

theorem guard [Decidable c] {f g : Unit → Parse β} (h : fault.isReported)
    (hf : ¬ c → Fares F all n k (f ()) (g ()) Q) :
    Fares F all n k (if c then MonadExcept.throw fault >>= f else f ())
      (if c then MonadExcept.throw fault >>= g else g ()) Q := by
  by_cases hc : c
  · simpa [hc] using fail h f g Q
  · simpa [hc] using hf hc

theorem same {b : α} [DecidableEq α] {f g : Unit → Parse β} (h : fault.isReported)
    (hf : a = b → Fares F all n k (f ()) (g ()) Q) :
    Fares F all n k (if a ≠ b then MonadExcept.throw fault >>= f else f ())
      (if a ≠ b then MonadExcept.throw fault >>= g else g ()) Q :=
  guard h fun hne => hf (Decidable.not_not.mp hne)

theorem of_settles (h : Settles F p P) : Fares F all n 0 p p P := by
  rcases h with ⟨a, rfl, ha⟩ | ⟨fault, rfl, hfault⟩
  · exact pure ha
  · exact throw hfault P

theorem onTokens {f g : List Token → Parse α}
    (h : ∀ tokens, tokens <:+ all → tokens.length ≤ n → FaresAt F tokens k (f tokens) (g tokens) P) :
    Fares F all n k (MonadState.get >>= f) (MonadState.get >>= g) P := by
  intro tokens hsuffix hlength
  obtain ⟨hsame, hfault, hresult⟩ := h tokens hsuffix hlength
  exact ⟨hsame, hfault, hresult⟩

theorem discard (h : Fares F all n k p q P) : Fares F all n k (Functor.discard p) (Functor.discard q) fun _ => True :=
  bind h fun _ _ => done ()

end Rules

theorem currentKind : Fares F all n 0 currentKind currentKind fun _ => True :=
  fun tokens _ _ => .of_reads (.frontKind tokens) (.frontKind tokens) trivial (.refl tokens) (Nat.le_refl _)

theorem failExpected (what : String) (P : α → Prop) :
    Fares F all n k (Parser.failExpected what) (Parser.failExpected what) P :=
  fun _ _ _ => .of_error rfl rfl (.inl rfl)

theorem advance : Fares F all n 0 Parser.advance Parser.advance fun _ => True := by
  intro tokens _ _
  cases tokens with
  | nil =>
    have hnil : Reads Parser.advance [] () [] := rfl
    exact .of_reads hnil hnil trivial (.refl _) (Nat.le_refl _)
  | cons t tokens =>
    by_cases ht : t.kind = .endOfInput
    · have hstay : Reads Parser.advance (t :: tokens) () (t :: tokens) := .stay ht
      exact .of_reads hstay hstay trivial (.refl _) (Nat.le_refl _)
    · exact .of_reads (.advance ht) (.advance ht) trivial (.cons ht tokens) (Nat.le_succ _)

theorem accept (kind : TokenKind) :
    Fares F all n 0 (Parser.accept kind) (Parser.accept kind) fun accepted => ∀ t ∈ accepted, t ∈ all ∧ t.kind = kind := by
  intro tokens hsuffix _
  rcases Reads.refuse_or_accept kind tokens with hrefuse | ⟨t, rest, rfl, hkind, hend, haccept⟩
  · exact .of_reads hrefuse hrefuse (fun t ht => absurd ht (Option.not_mem_none t)) (.refl _) (Nat.le_refl _)
  · refine .of_reads haccept haccept (fun t' ht' => ?_) (.cons hend rest) (Nat.le_succ _)
    obtain rfl := Option.some.inj ht'
    exact ⟨hsuffix.subset mem_cons_self, hkind⟩

theorem expect (kind : TokenKind) (what : String) :
    Fares F all n 1 (Parser.expect kind what) (Parser.expect kind what) fun t => t ∈ all ∧ t.kind = kind := by
  intro tokens hsuffix _
  rcases Reads.refuse_or_accept kind tokens with hrefuse | ⟨t, rest, rfl, hkind, hend, haccept⟩
  · have hfail : Parser.expect kind what tokens = Parser.failExpected what tokens := hrefuse.bind_run _
    exact .of_error hfail hfail (.inl rfl)
  · have hexpect : Reads (Parser.expect kind what) (t :: rest) t rest := .bind haccept (.pure t rest)
    exact .of_reads hexpect hexpect ⟨hsuffix.subset mem_cons_self, hkind⟩ (.cons hend rest) (Nat.le_refl _)

section Words

variable {kind : TokenKind} {what : String} {x y : Parse β} {Q : β → Prop}

theorem first (h : Fares F all n 0 x y Q) : Fares F all (n + 1) 1 (Functor.discard (Parser.expect kind what) >>= fun _ => x)
    (Functor.discard (Parser.expect kind what) >>= fun _ => y) Q :=
  step (discard (expect kind what)) fun _ _ => h

theorem past (h : Fares F all n j x y Q) : Fares F all n j (Functor.discard (Parser.expect kind what) >>= fun _ => x)
    (Functor.discard (Parser.expect kind what) >>= fun _ => y) Q :=
  next ((discard (expect kind what)).mono (Nat.le_refl n) (Nat.zero_le 1) fun _ h => h) fun _ _ => h

end Words

theorem typeOf (h : ∀ fault, e.dataType = .error fault → F (.typing fault)) :
    Fares F all n 0 (Parser.typeOf e) (Parser.typeOf e) fun type => e.dataType = .ok type :=
  of_settles (.typeOf h)

theorem iterableType (h : ∀ fault, e.dataType = .error fault → F (.typing fault)) :
    Fares F all n 0 (iterableType e) (iterableType e) fun element =>
      ∃ container, e.dataType = .ok container ∧ container.element? = some element := by
  refine next (typeOf h) fun type htype => ?_
  cases helement : type.element? with
  | some element => exact pure ⟨type, htype, helement⟩
  | none => exact refuse rfl _

theorem freshName (scope : Scope) (what : String) :
    Fares F all n 1 (Parser.freshName scope what) (Parser.freshName scope what) fun name =>
      scope.checkFresh name = .ok () := by
  refine bind (j := 0) (expect _ what) fun t _ => ?_
  refine next (of_settles (.lift (fun _ h => h) fun fault h => ?_)) fun _ h => pure h
  unfold Scope.checkFresh at h
  (repeat' split at h) <;> cases h <;> exact .inl rfl

theorem newName (scope : Scope) (what : String) :
    Fares F all n 0 (Parser.freshName scope what) (Parser.freshName scope what) fun name =>
      scope.checkFresh name = .ok () :=
  (freshName scope what).mono (Nat.le_refl n) (Nat.zero_le 1) fun _ h => h

end Fares

end Faring

end Parser
end StreamBot.Script
