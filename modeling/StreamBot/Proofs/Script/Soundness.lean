import StreamBot.Proofs.Script.Congruence
import StreamBot.Proofs.Script.Scoping
import StreamBot.Script.Execution

/-! # Type soundness of the script language

An expression of type `T` that has a value has a well-formed value of type `T`, and leaves well-formed
values in the frame.  The frame may hold anything that is well-formed: names are checked when they are read,
so what a variable holds need not be what the parser saw.  If all variables in scope have values of their types, then
reading a variable does not fail, as long as no loop uses one name for variables of two types (`Accepted.gives`).

A list of empty lists has no type until something says what its elements are, and it cannot be evaluated before that.  The
parser asks for the type of almost everything that it reads, so that such a list is replaced or refused.  It does not ask at
two places, for the first value of a store and for the arguments of a call: there, and nowhere else, a script may hold a list
of empty lists (`emptyLists_confined`), and then it fails when it gets there (`exists_emptyLists_left`).
-/

namespace StreamBot.Script

open List Value Script.Expr

variable {v : Value} {σ : Type} {name : String}

/-! ### Names -/

variable {terms : Terms} {scope : Scope} {type : DataType} {e : Expr}

theorem checkedRead_gives {kind : NameKind} (hv : v.WellFormed)
    (h : terms.avoided.Nonempty → kind = .var → v.dataType = type) :
    (checkedRead kind name type v : Eval σ Value).Gives terms (Fits (.ok type)) := by
  unfold checkedRead
  split
  · next htype => exact .pure (.of_dataType hv (congrArg _ htype.symm))
  · next htype =>
    refine fun f s hf hmem => htype (h ⟨_, hmem⟩ ?_)
    have hvariable := terms.ofVariable _ hmem
    cases kind <;> first | rfl | cases hvariable

theorem readStore_gives (name : String) (type : DataType) :
    (readStore name type : Eval σ Value).Gives terms (Fits (.ok type)) := by
  refine .withFrame fun f hf => ?_
  split
  · next v hv => exact checkedRead_gives (hf.stores _ (Dict.mem_of_get? hv)) nofun
  · exact .throw rfl

theorem readParameter_gives (name : String) : (readParameter name : Eval σ Value).Gives terms (Fits (.ok .string)) := by
  refine .withFrame fun f hf => ?_
  split
  · next v hv => exact checkedRead_gives (hf.parameters _ (Dict.mem_of_get? hv)) nofun
  · exact .throw rfl

theorem readVariable_gives (h : terms.avoided.Nonempty → (name, type) ∈ terms.known) :
    (readVariable name type : Eval σ Value).Gives terms (Fits (.ok type)) := by
  refine .withFrame fun f hf => ?_
  split
  · next v hv =>
    refine checkedRead_gives (hf.bindings _ (Dict.mem_of_get? hv)) fun hstrict _ => ?_
    obtain ⟨w, hw, htype⟩ := hf.holds hstrict _ (h hstrict)
    obtain rfl := Option.some.inj (hv.symm.trans hw)
    exact htype
  · next hnone =>
    refine fun _ _ _ hmem => ?_
    obtain ⟨w, hw, -⟩ := hf.holds ⟨_, hmem⟩ _ (h ⟨_, hmem⟩)
    rw [hnone] at hw
    cases hw

/-! ### What expressions rely on -/

theorem Scope.mem_of_resolve {word : String}
    (h : scope.resolve word = .ok (.var name type)) : (name, type) ∈ scope.bindings := by
  obtain ⟨x, hx, heq⟩ := mem_map.mp (Dict.mem_of_get? (Scope.admits_of_resolve h))
  cases heq
  exact hx

def Expr.Consistent (e : Expr) : Prop := ∀ x ∈ e.binders, ∀ y ∈ e.binders, x.1 = y.1 → x = y

/-- The terms on which an expression of a scope can be evaluated: the variables in scope are known, and if reading variables
must not fail, then the host does not fail so and no loop has two variables of the same name and of different types. -/
structure Terms.Suit (terms : Terms) (h : Host σ) (scope : Scope) (e : Expr) : Prop where
  known : terms.known = {x | x ∈ scope.bindings}
  avoids : ∀ fault ∈ terms.avoided, h.Avoids fault
  consistent : terms.avoided.Nonempty → ∀ d : Expr, d.Occurs e → d.Consistent

namespace Terms.Suit

variable {h : Host σ} {scope : Scope} {d e : Expr} {name : String} {type : DataType}

theorem part (hs : terms.Suit h scope e) (hp : d ∈ e.children) : terms.Suit h scope d :=
  ⟨hs.known, hs.avoids, fun hstrict d hd => hs.consistent hstrict d (.inside hp hd)⟩

theorem bind (hs : terms.Suit h scope e) (name : String) (type : DataType) :
    (terms.bind name type).Suit h (scope.bind name type) e := by
  refine ⟨?_, hs.avoids, hs.consistent⟩
  ext x
  simp [Terms.bind, Scope.bind, hs.known, or_comm]

theorem admits (hs : terms.Suit h scope e) (hfresh : scope.checkFresh name = .ok ()) : terms.Admits name type := by
  intro _ t hmem
  rw [hs.known] at hmem
  refine absurd ?_ (Scope.not_mem_names hfresh)
  exact mem_append_right _ (mem_map_of_mem (mem_map_of_mem hmem))

end Terms.Suit

/-- What may be done on the terms of a scope. -/
def Discipline.ofTerms : Discipline Terms where
  typed := True
  stores := Set.univ
  reads terms name type := terms.avoided.Nonempty → (name, type) ∈ terms.known
  sets terms name type inner := terms.Admits name type ∧ inner = terms.bind name type

theorem gives_congruence (h : Host σ) : Congruence .ofTerms h h fun terms {α} Q (x : Eval σ α) _ =>
    (∀ fault ∈ terms.avoided, h.Avoids fault) → x.Gives terms Q where
  world := rfl
  pure holds _ := .pure (holds trivial)
  throw hfault _ := .throw (Bool.or_eq_false_iff.mp hfault).2
  bind first second hh := .bind (first hh) fun a ha => second a (fun _ => ha) hh
  readStore _ _ := readStore_gives _ _
  readParameter name _ := readParameter_gives name
  readVariable isKnown _ := readVariable_gives isKnown
  setVariable allowed fits rest hh := .setVariable (fits trivial) allowed.1 (allowed.2 ▸ rest (allowed.2 ▸ hh))
  onBehalf script inside hh := .onBehalf script (inside hh)
  call name arguments hh := .lift _ fun fault hfault => (hh fault hfault).call name arguments
  evaluate code hh := .lift _ fun fault hfault => (hh fault hfault).evaluate code

/-- The value of an accepted expression is what its type promises, by every congruence on the terms of its scope. -/
theorem Congruence.accepted {h : Host σ} {rel : Terms → {α : Type} → (α → Prop) → Eval σ α → Eval σ α → Prop}
    (hc : Congruence .ofTerms h h rel) (ha : Accepted scope e) (hs : terms.Suit h scope e) :
    hc.Related terms e := by
  induction ha generalizing terms with
  | numberLiteral | stringLiteral | boolLiteral => exact hc.pure fun _ => .of_dataType trivial rfl
  | @name scope name target resolved =>
    cases target with
    | store name type => exact hc.readStore trivial
    | parameter name => exact hc.readParameter name
    | var name type => exact hc.readVariable fun _ => hs.known ▸ Scope.mem_of_resolve resolved
  | @listLiteral _ element elements parts types ih =>
    refine hc.bind (hc.evalAll (P := fun v => v.WellFormed ∧ v.dataType = element) (fun e he => ih e he (hs.part he))
      fun _ e he v hv => ⟨hv.1, hv.2 element (types e he)⟩) fun vs hvs => hc.pure fun htyped => ?_
    exact .of_dataType (allWellFormed_iff.mpr (hvs htyped)) rfl
  | emptyLists literal => exact hc.throw rfl
  | unary op _ ih => exact hc.unary (ih (hs.part (.head _)))
  | binary op _ _ ihLeft ihRight => exact hc.binary (ihLeft (hs.part (.head _))) (ihRight (hs.part (.tail _ (.head _))))
  | ternary _ _ _ _ trueType falseType ih ihTrue ihFalse =>
    exact hc.ternary (fun _ => ⟨trueType, falseType⟩) (ih (hs.part (.head _))) (ihTrue (hs.part (.tail _ (.head _))))
      (ihFalse (hs.part (.tail _ (.tail _ (.head _)))))
  | call _ _ _ ih ihArguments =>
    exact hc.callOperation (ih (hs.part (.head _))) fun e he => ihArguments e he (hs.part (.tail _ he))
  | subscript _ _ operandType element _ ihOperand ihIndex =>
    exact hc.subscript (fun _ => ⟨_, operandType, element⟩) (ihOperand (hs.part (.head _)))
      (ihIndex (hs.part (.tail _ (.head _))))
  | comprehension _ iterableType items fresh _ _ _ ih ihCondition ihBody =>
    refine hc.comprehension _ (fun _ => ⟨_, iterableType, items⟩) (ih (hs.part (.head _)))
      (ihBody ((hs.part (by simp [children])).bind _ _)) ⟨hs.admits fresh, rfl⟩
      ⟨(hs.admits fresh).bind fun _ _ => rfl, Terms.bind_self.symm⟩ fun c hc => ?_
    exact ihCondition c hc ((hs.part (by simp [children, Option.mem_def.mp hc])).bind _ _)
  | @fold _ _ _ item _ type accumulator element _ _ iterableType items _ startType freshAccumulator fresh _ bodyType ih ihStart
      ihBody =>
    have hsame (hstrict : terms.avoided.Nonempty) (hnames : accumulator = element) : type = item := by
      have hpair := hs.consistent hstrict _ .here _ (.head _) _ (.tail _ (.head _)) hnames
      simpa [startType, itemType_eq iterableType items, Except.toOption] using congrArg Prod.snd hpair
    have helement : (terms.bind accumulator type).Admits element item :=
      (hs.admits fresh).bind fun hstrict hnames => (hsame hstrict hnames.symm).symm
    exact hc.fold _ _ (fun _ => ⟨_, iterableType, items⟩) (ih (hs.part (.head _)))
      (ihBody (((hs.part (.tail _ (.tail _ (.head _)))).bind _ _).bind _ _)) ⟨hs.admits freshAccumulator, rfl⟩
      ⟨helement, rfl⟩ ⟨((hs.admits freshAccumulator).bind fun _ _ => rfl).bind hsame, by simp [Terms.bind, Set.insert_comm]⟩
      ⟨helement.bind fun _ _ => rfl, Terms.bind_self.symm⟩ (fun _ => ⟨startType, bodyType⟩)
      (ihStart (hs.part (.tail _ (.head _))))
  | split _ _ _ _ ih ihDelimiter =>
    exact hc.split (ih (hs.part (.head _))) fun d hd => ihDelimiter d hd (hs.part (.tail _ (Option.mem_toList.mpr hd)))
  | join _ _ _ _ ih ihDelimiter =>
    exact hc.join (ih (hs.part (.head _))) fun d hd => ihDelimiter d hd (hs.part (.tail _ (Option.mem_toList.mpr hd)))
  | sortNumbers _ listType ih =>
    exact hc.sort _ (fun _ => listType) (ih (hs.part (.head _))) fun c hc => absurd hc (Option.not_mem_none c)
  | sort _ listType freshLeft freshRight _ _ ih ihComparison =>
    refine hc.sort _ (fun _ => listType) (ih (hs.part (.head _))) fun c hc l hl r hr => ?_
    cases hc
    cases hl
    cases hr
    exact ⟨_, _, ⟨hs.admits freshLeft, rfl⟩, ⟨(hs.admits freshRight).bind fun _ _ => rfl, rfl⟩,
      ihComparison (((hs.part (.tail _ (.head _))).bind _ _).bind _ _)⟩

/-- **Evaluating an accepted expression gives what its type promises**, and on terms that suit it reading a variable does not
fail. -/
theorem Accepted.gives (h : Host σ) (ha : Accepted scope e) (hs : terms.Suit h scope e) :
    (e.eval h).Gives terms (Fits e.dataType) :=
  (gives_congruence h).accepted ha hs hs.avoids

/-- In any well-formed frame and for any host, an accepted expression has only values that fit its type, and it changes
variables only. -/
theorem Accepted.eval_gives (ha : Accepted scope e) (h : Host σ) (f : Frame) (s : σ) (v : Value)
    (g : Frame) (t : σ) (hf : f.WellFormed) (hr : e.eval h f s = (.ok (v, g), t)) :
    Fits e.dataType v ∧ g.WellFormed ∧ g.Extends f := by
  -- terms on which everything may fail
  let terms : Terms := ⟨{x | x ∈ scope.bindings}, ∅, nofun⟩
  have hsuit : terms.Suit h scope e := ⟨rfl, nofun, fun hstrict => nomatch hstrict⟩
  have hrun := ha.gives h hsuit f s ⟨hf, fun hstrict => nomatch hstrict⟩
  rw [hr] at hrun
  exact ⟨hrun.1, hrun.2.1.toWellFormed, hrun.2.2⟩

/-- **Type soundness.**  Whatever occurs in the script of a source text, at any depth, and has a type: if it
has a value, in any well-formed frame and for any host, the value is well-formed and of that type. -/
theorem dataType_of_eval {name source : String} {script : Script}
    (accepted : ofSource name source = .ok script) {e : Expr} (occurs : script.Contains e)
    {type : DataType} (typed : e.dataType = .ok type) (h : Host σ) {f g : Frame} {s t : σ} {v : Value}
    (wellFormed : f.WellFormed) (returns : e.eval h f s = (.ok (v, g), t)) :
    v.WellFormed ∧ v.dataType = type := by
  obtain ⟨scope, haccepted⟩ := (acceptedScript_of_ofSource accepted).2.of_contains occurs
  obtain ⟨hfits, -, -⟩ := haccepted.eval_gives h f s v g t wellFormed returns
  exact ⟨hfits.1, hfits.2 type typed⟩

def World.still : World := ⟨⟨0⟩, 0.5, ⟨[], []⟩⟩

/-- A host whose scripts answer with their own names. -/
def Host.echo : Host Unit := ⟨.still, fun name _ => pure name, fun code => pure code, pure ()⟩

theorem Host.echo_avoids (fault : Fault) : Host.echo.Avoids fault := ⟨nofun, nofun, nofun⟩

/-- A comprehension over the characters of a parameter that calls a script for each of them. -/
theorem dataType_of_eval_comprehension : let body : Expr := .call (.stringLiteral "x") [.var "c" .string]
    let e : Expr := .comprehension (.parameter "p") "c" none body
    let f : Frame := { callStack := ["!a"], parameters := [("p", .string "ab")] }
    let v : Value := .list .string [.string "x", .string "x"]
    (∃ g, e.eval .echo f () = (.ok (v, g), ())) ∧ v.WellFormed ∧ v.dataType = .list .string := by
  intro body e f v
  have accepted : ofSource "!a" "PARAMS p; PRINT for p as c yeet 'x'(c);" = .ok ⟨"!a", [], ["p"], [.print e]⟩ := by cbv
  have occurs : Script.Contains ⟨"!a", [], ["p"], [.print e]⟩ e :=
    .inr ⟨_, mem_singleton_self _, e, mem_singleton_self _, .here⟩
  have returns : e.eval .echo f () = (.ok (v, { f with bindings := [("c", .string "b")] }), ()) := rfl
  have wellFormed : f.WellFormed := ⟨by simp [f], by simp [f, Value.WellFormed], by simp [f]⟩
  exact ⟨⟨_, returns⟩, dataType_of_eval accepted occurs rfl .echo wellFormed returns⟩

/-! ### Expressions without a type -/

open List

variable {scope : Scope} {script : Script} {d e part : Expr} {t : DataType}

def Expr.HasType (e : Expr) : Prop := ∃ t, e.dataType = .ok t

theorem Expr.not_hasType_emptyLists (literal : EmptyLists) : ¬ (Expr.emptyLists literal).HasType := nofun

theorem Accepted.part_hasType (h : Accepted scope e) (htype : e.HasType) (hp : part ∈ e.children) :
    part.HasType ∨ ∃ callee arguments, e = .call callee arguments ∧ part ∈ arguments := by
  obtain ⟨t, htype⟩ := htype
  cases h with
  | numberLiteral | stringLiteral | boolLiteral => cases hp
  | @name _ _ target => cases target <;> cases hp
  | listLiteral _ types => exact .inl ⟨_, types part hp⟩
  | emptyLists => cases htype
  | unary =>
    obtain rfl := mem_singleton.mp hp
    obtain ⟨u, hu, -⟩ := unary_dataType htype
    exact .inl ⟨u, hu⟩
  | binary =>
    obtain ⟨l, r, hl, hr, -⟩ := binary_dataType htype
    simp only [Expr.children, mem_cons, not_mem_nil, or_false] at hp
    obtain rfl | rfl := hp
    · exact .inl ⟨l, hl⟩
    · exact .inl ⟨r, hr⟩
  | ternary _ _ _ conditionType trueType falseType =>
    simp only [Expr.children, mem_cons, not_mem_nil, or_false] at hp
    obtain rfl | rfl | rfl := hp
    · exact .inl ⟨_, conditionType⟩
    · exact .inl ⟨_, trueType⟩
    · exact .inl ⟨_, falseType⟩
  | call _ _ calleeType =>
    obtain rfl | hp := mem_cons.mp hp
    · exact .inl ⟨_, calleeType⟩
    · exact .inr ⟨_, _, rfl, hp⟩
  | subscript _ _ operandType _ indexType =>
    simp only [Expr.children, mem_cons, not_mem_nil, or_false] at hp
    obtain rfl | rfl := hp
    · exact .inl ⟨_, operandType⟩
    · exact .inl ⟨_, indexType⟩
  | comprehension _ iterableType _ _ _ conditionType =>
    obtain ⟨u, hu, -⟩ := comprehension_dataType htype
    simp only [Expr.children, mem_cons, mem_append, Option.mem_toList, not_mem_nil, or_false] at hp
    obtain rfl | hp | rfl := hp
    · exact .inl ⟨_, iterableType⟩
    · exact .inl ⟨_, conditionType part hp⟩
    · exact .inl ⟨u, hu⟩
  | fold _ iterableType _ _ startType _ _ _ bodyType =>
    simp only [Expr.children, mem_cons, not_mem_nil, or_false] at hp
    obtain rfl | rfl | rfl := hp
    · exact .inl ⟨_, iterableType⟩
    · exact .inl ⟨_, startType⟩
    · exact .inl ⟨_, bodyType⟩
  | split _ wholeType _ delimiterType | join _ wholeType _ delimiterType =>
    simp only [Expr.children, mem_cons, Option.mem_toList] at hp
    obtain rfl | hp := hp
    · exact .inl ⟨_, wholeType⟩
    · exact .inl ⟨_, delimiterType part hp⟩
  | sortNumbers _ listType =>
    obtain rfl := mem_singleton.mp hp
    exact .inl ⟨_, listType⟩
  | sort _ listType _ _ _ comparisonType =>
    simp only [Expr.children, Option.toList, mem_cons, not_mem_nil, or_false] at hp
    obtain rfl | rfl := hp
    · exact .inl ⟨_, listType⟩
    · exact .inl ⟨_, comparisonType⟩

/-- The expression stands in an argument without a type of a call that stands in `e`. -/
def Expr.PassedIn (d e : Expr) : Prop :=
  ∃ callee arguments, (Expr.call callee arguments).Occurs e ∧ ∃ a ∈ arguments, d.Occurs a ∧ ¬ a.HasType

theorem Accepted.passedIn (h : Accepted scope e) (ho : d.Occurs e) (hd : ¬ d.HasType) : ¬ e.HasType ∨ d.PassedIn e := by
  induction ho generalizing scope with
  | here => exact .inl hd
  | inside member occurs ih =>
    obtain ⟨inner, hpart⟩ := h.of_occurs (.inside member .here)
    rcases ih hpart with huntyped | ⟨callee, arguments, hcall, hpassed⟩
    · refine or_iff_not_imp_left.mpr fun htype => ?_
      rcases h.part_hasType (not_not.mp htype) member with hpart | ⟨callee, arguments, rfl, hargument⟩
      · exact absurd hpart huntyped
      · exact ⟨callee, arguments, .here, _, hargument, occurs, huntyped⟩
    · exact .inr ⟨callee, arguments, .inside member hcall, hpassed⟩

theorem AcceptedStatement.hasType {behind : Scope} {s : Statement} (h : AcceptedStatement scope s behind) :
    ∀ e ∈ s.expressions, e.HasType := by
  cases h with
  | print _ type | define _ _ type => exact forall_mem_singleton.mpr ⟨_, type⟩
  | @assign _ target _ _ _ valueType =>
    refine forall_mem_cons.mpr ⟨⟨target.dataType, ?_⟩, forall_mem_singleton.mpr ⟨_, valueType⟩⟩
    cases target <;> rfl

/-- **Lists of empty lists are left in two places only.**  Wherever a list of empty lists occurs in the script of a source
text, it stands in the first value of a store and that has no type, or it stands in an argument of a call and that has no
type. -/
theorem emptyLists_confined {name source : String} {script : Script} (accepted : ofSource name source = .ok script)
    {literal : EmptyLists} (occurs : script.Contains (.emptyLists literal)) :
    (∃ s ∈ script.stores, (Expr.emptyLists literal).Occurs s.value ∧ ∀ t, s.value.dataType ≠ .ok t) ∨
      ∃ callee arguments, script.Contains (.call callee arguments) ∧
        ∃ a ∈ arguments, (Expr.emptyLists literal).Occurs a ∧ ∀ t, a.dataType ≠ .ok t := by
  obtain ⟨-, ha⟩ := acceptedScript_of_ofSource accepted
  have huntyped := Expr.not_hasType_emptyLists literal
  rcases occurs with ⟨s, hs, ho⟩ | ⟨s, hs, e, he, ho⟩
  · obtain ⟨scope, hvalue⟩ := ha.stores.value s hs
    rcases hvalue.passedIn ho huntyped with hnone | ⟨callee, arguments, hcall, a, hargument, hoccurs, hnone⟩
    · exact .inl ⟨s, hs, ho, not_exists.mp hnone⟩
    · exact .inr ⟨callee, arguments, .inl ⟨s, hs, hcall⟩, a, hargument, hoccurs, not_exists.mp hnone⟩
  · obtain ⟨before, behind, hstatement⟩ := ha.statements.statement s hs
    rcases (hstatement.expression e he).passedIn ho huntyped with hnone | ⟨callee, arguments, hcall, a, hargument, hoccurs, hnone⟩
    · exact absurd (hstatement.hasType e he) hnone
    · exact .inr ⟨callee, arguments, .inr ⟨s, hs, e, he, hcall⟩, a, hargument, hoccurs, not_exists.mp hnone⟩

def passingNothing : Script where
  name := "!a"
  stores := []
  parameters := []
  statements := [.print (.call (.stringLiteral "!b") [.emptyLists (.nest [])])]

theorem ofSource_passingNothing : ofSource "!a" "PRINT '!b'([]);" = .ok passingNothing := by
  cbv

theorem passingNothing_contains : passingNothing.Contains (.emptyLists (.nest [])) :=
  .inr ⟨_, mem_singleton_self _, _, mem_singleton_self _, .inside (.tail _ (.head _)) .here⟩

theorem emptyLists_confined_passingNothing : ∃ callee arguments, passingNothing.Contains (.call callee arguments) ∧
      ∃ a ∈ arguments, (Expr.emptyLists (.nest [])).Occurs a ∧ ∀ t, a.dataType ≠ .ok t := by
  rcases emptyLists_confined ofSource_passingNothing passingNothing_contains with ⟨s, hs, -⟩ | hpassed
  · cases hs
  · exact hpassed

/-- A list of empty lists is left in a script, which fails for it. -/
theorem exists_emptyLists_left :
    ∃ (source : String) (script : Script) (literal : EmptyLists), ofSource "!a" source = .ok script ∧
      script.Contains (.emptyLists literal) ∧
      script.execute Host.echo .nothing [] () = (.error .untypedEmptyLists, ()) :=
  ⟨_, passingNothing, .nest [], ofSource_passingNothing, passingNothing_contains, rfl⟩

end StreamBot.Script
