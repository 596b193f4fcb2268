import StreamBot.Proofs.Script.Accepted
import StreamBot.Proofs.Script.Grammar

/-! # Scripts that the parser builds

One walk over the declarations and statements of a script, on top of that over expressions.  What it shows is what a script was
made of (`Composed`): each part of it was read in a scope, from expressions that have a property there.  The bounds of loops are
not reached on the way, since each round consumes a token (`script_fares`, `composed_of_script`).

Being accepted is a property that the grammar hands on from parts to wholes (`rules_accepted`), so that the reader of
expressions yields accepted ones, and `acceptedScript_of_ofSource` says it of whole scripts.
-/

namespace StreamBot.Script.Parser

variable {α : Type} {n m k : Nat} {F : ParseFault → Prop} {all : List Token} {scope : Scope}

/-! ### What scripts are made of -/

/-- A statement was read in a scope, and another scope is behind it. -/
inductive Stated (S : Scope → Expr → Prop) (scope : Scope) : Statement → Scope → Prop where
  | print {e : Expr} {type : DataType} (part : S scope e) (typed : e.dataType = .ok type) : Stated S scope (.print e) scope
  | assign {name : String} {target : Target} {value e : Expr} (resolved : scope.resolve name = .ok target)
      (part : S scope value) (settled : Settled target.dataType value e) : Stated S scope (.assign target e) scope
  | define {name : String} {type : DataType} {value e : Expr} (fresh : scope.checkFresh name = .ok ()) (part : S scope value)
      (settled : Settled type value e) : Stated S scope (.define name type e) (scope.bind name type)

inductive StatedAll (S : Scope → Expr → Prop) : Scope → List Statement → Prop where
  | none {scope : Scope} : StatedAll S scope []
  | next {scope behind : Scope} {s : Statement} {rest : List Statement} (first : Stated S scope s behind)
      (others : StatedAll S behind rest) : StatedAll S scope (s :: rest)

inductive Declared (S : Scope → Expr → Prop) : List Store → List Store → Prop where
  | none {stores : List Store} : Declared S stores stores
  | next {stores all : List Store} {store : Store} (fresh : ¬ stores.any (·.name == store.name))
      (part : S { stores } store.value) (others : Declared S (stores ++ [store]) all) : Declared S stores all

/-- A name can be that of a parameter behind others. -/
def Unused (stores : List Store) (parameters : List String) (name : String) : Prop :=
  ¬ stores.any (·.name == name) ∧ ¬ parameters.contains name

inductive Named (stores : List Store) : List String → List String → Prop where
  | last {parameters : List String} {name : String} (unused : Unused stores parameters name) :
      Named stores parameters (parameters ++ [name])
  | next {parameters all : List String} {name : String} (unused : Unused stores parameters name)
      (others : Named stores (parameters ++ [name]) all) : Named stores parameters all

structure Composed (S : Scope → Expr → Prop) (script : Script) : Prop where
  stores : Declared S [] script.stores
  parameters : script.parameters = [] ∨ Named script.stores [] script.parameters
  statements : StatedAll S { stores := script.stores, parameters := script.parameters } script.statements
  notEmpty : script.statements ≠ []

/-! ### The walk -/

theorem dataType_fares (hm : n < m) : Fares F all n 0 (dataType m) (dataType m) fun _ => True := by
  induction m generalizing n with
  | zero => omega
  | succ m ih =>
    refine .next .currentKind fun kind _ => ?_
    split
    · exact .next .advance fun _ _ => .done _
    · exact .next .advance fun _ _ => .done _
    · exact .next .advance fun _ _ => .done _
    · refine .next .advance fun _ _ => .consume (.discard (.expect _ _)) fun i hi _ _ => ?_
      refine .next (ih (by omega)) fun element _ => ?_
      exact .past <| .done _
    · exact .failExpected _ _

theorem annotation_fares : Fares F all n 0 annotation annotation fun _ => True := by
  refine .next (.accept _) fun colon _ => .ite (.onTokens fun tokens hsuffix _ => ?_) (.done _)
  exact (Fares.next (dataType_fares (Nat.lt_succ_self _)) fun _ _ => .done _) tokens hsuffix (Nat.le_refl _)

theorem parameterNames_fares (stores : List Store) (parameters : List String) (hm : n < m) :
    Fares F all n 0 (parameterNames stores parameters m) (parameterNames stores parameters m) (Named stores parameters) := by
  induction m generalizing n parameters with
  | zero => omega
  | succ m ih =>
    refine .consume (.expect _ _) fun i hi t _ => .guard rfl fun hstore => .guard rfl fun hold => ?_
    refine .next (.accept _) fun comma _ => .ite ?_ (.pure (.last ⟨hstore, hold⟩))
    refine .next .currentKind fun kind _ => .ite (.pure (.last ⟨hstore, hold⟩)) ?_
    exact (ih _ (by omega)).imp fun _ => .next ⟨hstore, hold⟩

theorem parameterDeclaration_fares (stores : List Store) :
    Fares F all n 0 (parameterDeclaration stores) (parameterDeclaration stores) fun parameters =>
      parameters = [] ∨ Named stores [] parameters := by
  refine .next (.accept _) fun word _ => .ite (.onTokens fun tokens hsuffix _ => ?_) (.pure (.inl rfl))
  have hnames : Fares F all tokens.length 0 _ _ _ := parameterNames_fares stores [] (Nat.lt_succ_self _)
  exact (Fares.next hnames fun _ h => .past <| .pure (.inr h)) tokens hsuffix (Nat.le_refl _)

section Statements

variable {G : Scope → Prop} {S : Scope → Expr → Prop} (excuses : Excuses F all G S) {stores : List Store}
  (reads : ∀ {n scope}, G scope → Fares F all n 1 (expression scope .unknown) (expression scope .unknown) (S scope))

include reads in
theorem value_fares (hscope : G scope) :
    Fares F all n 0 (expression scope .unknown) (expression scope .unknown) (S scope) :=
  (reads hscope).mono (Nat.le_refl n) (Nat.zero_le 1) fun _ he => he

include reads in
theorem storeDeclaration_fares (hscope : G { stores }) :
    Fares F all n 1 (storeDeclaration stores) (storeDeclaration stores) fun store =>
      ¬ stores.any (·.name == store.name) ∧ S { stores } store.value := by
  unfold storeDeclaration
  refine .bind (j := 0) (.expect _ _) fun t _ => .guard rfl fun hfresh => .past ?_
  refine .next (value_fares reads hscope) fun value hvalue => ?_
  exact .past <| .pure ⟨hfresh, hvalue⟩

include reads in
theorem storeDeclarations_fares
    (declare : ∀ {stores store}, G { stores } → S { stores } store.value → G { stores := stores ++ [store] })
    (hscope : G { stores }) (hm : n < m) :
    Fares F all n 0 (storeDeclarations stores m) (storeDeclarations stores m) fun declared =>
      Declared S stores declared ∧ G { stores := declared } := by
  induction m generalizing n stores with
  | zero => omega
  | succ m ih =>
    unfold storeDeclarations
    refine .next (.accept _) fun word _ => .ite ?_ (.pure ⟨.none, hscope⟩)
    refine .consume (storeDeclaration_fares reads hscope) fun i hi store hstore => ?_
    refine (ih (declare hscope hstore.2) (by omega)).imp fun _ h => ⟨?_, h.2⟩
    exact .next hstore.1 hstore.2 h.1

include excuses reads

theorem printStatement_fares (hscope : G scope) :
    Fares F all n 1 (printStatement scope) (printStatement scope) fun s => Stated S scope s scope := by
  refine .bind (j := 0) (.discard (.expect _ _)) fun _ _ => .next (value_fares reads hscope) fun e he => ?_
  split
  · next htype => exact .pure (.print he htype)
  · next hlacks => exact .throw (.inr (excuses.untyped he hlacks)) _
  · exact .refuse rfl _

theorem assignment_fares (hscope : G scope) :
    Fares F all n 1 (assignment scope) (assignment scope) fun s => Stated S scope s scope := by
  refine .bind (j := 0) (.expect _ _) fun t _ => ?_
  refine .next (resolve_fares excuses hscope _) fun target htarget => .past ?_
  refine .next (value_fares reads hscope) fun value hvalue => ?_
  split
  · next literal =>
    split
    · next element helement =>
      exact .next (.of_settles (.reify literal element)) fun _ he => .pure (.assign htarget hvalue (helement ▸ .takes he))
    · exact .refuse rfl _
  · next hfilled =>
    refine .next (.typeOf fun _ => excuses.untyped hvalue) fun type htype => .same rfl fun heq => .pure ?_
    exact .assign htarget hvalue (.has (heq ▸ htype) hfilled)

theorem definition_fares (hscope : G scope) : Fares F all n 1 (definition scope) (definition scope) fun d =>
      Stated S scope (.define d.1 d.2.1 d.2.2) (scope.bind d.1 d.2.1) := by
  refine .bind (j := 0) (.discard (.expect _ _)) fun _ _ => .next (.newName scope _) fun name hname => ?_
  refine .next annotation_fares fun annotated _ => .past ?_
  refine .next (value_fares reads hscope) fun value hvalue => ?_
  split
  · next literal =>
    split
    · exact .refuse rfl _
    · next element => exact .next (.of_settles (.reify literal element)) fun _ he => .pure (.define hname hvalue (.takes he))
    · exact .refuse rfl _
  · next hfilled =>
    refine .next (.typeOf fun _ => excuses.untyped hvalue) fun type htype => ?_
    have hdefine : Stated S scope (.define name type value) (scope.bind name type) := .define hname hvalue (.has htype hfilled)
    split
    · exact .guard rfl fun _ => .pure hdefine
    · exact .pure hdefine

theorem statement_fares (hscope : G scope) :
    Fares F all n 1 (statement scope) (statement scope) fun r => Stated S scope r.1 r.2 := by
  unfold statement
  -- whatever the statement is, a semicolon follows
  have rest (i : Nat) (r : Statement × Scope) (hr : Stated S scope r.1 r.2) :
      Fares F all i 0 (do discard <| expect .semicolon "';' after statement"; return r)
        (do discard <| expect .semicolon "';' after statement"; return r) fun r => Stated S scope r.1 r.2 :=
    .past <| .pure hr
  refine .next .currentKind fun kind _ => ?_
  dsimp only
  split
  · exact .bind (printStatement_fares excuses reads hscope) fun s hs => rest _ (s, scope) hs
  · exact .bind (assignment_fares excuses reads hscope) fun s hs => rest _ (s, scope) hs
  · exact .bind (definition_fares excuses reads hscope) fun d hd =>
      rest _ (.define d.1 d.2.1 d.2.2, scope.bind d.1 d.2.1) hd
  · exact .failExpected _ _

theorem statements_fares (hscope : G scope) (hm : n < m) :
    Fares F all n 0 (statements scope m) (statements scope m) (StatedAll S scope) := by
  induction m generalizing n scope with
  | zero => omega
  | succ m ih =>
    refine .next .currentKind fun kind _ => .ite (.pure .none) ?_
    refine .consume (statement_fares excuses reads hscope) fun i hi r hr => ?_
    have hbehind : G r.2 := by
      obtain ⟨s, behind⟩ := r
      cases hr with
      | print | assign => exact hscope
      | define => exact excuses.bind hscope
    exact .next (ih hbehind (by omega)) fun others hothers => .pure (.next hr hothers)

/-- **How scripts are read.** -/
theorem script_fares (start : G {})
    (declare : ∀ {stores store}, G { stores } → S { stores } store.value → G { stores := stores ++ [store] })
    (known : ∀ {stores parameters}, G { stores } → G { stores, parameters }) (name : String) :
    Fares F all n 0 (script name) (script name) fun s => s.name = name ∧ Composed S s := by
  refine .onTokens fun tokens hsuffix _ => ?_
  have hstores := storeDeclarations_fares reads declare start (Nat.lt_succ_self tokens.length)
  refine (Fares.next hstores fun stores hstores => ?_) tokens hsuffix (Nat.le_refl _)
  refine .next (parameterDeclaration_fares stores) fun parameters hparameters => .onTokens fun tokens hsuffix _ => ?_
  have hscope : G { stores, parameters } := known hstores.2
  have hbody := statements_fares excuses reads hscope (Nat.lt_succ_self tokens.length)
  refine (Fares.next hbody fun body hbody => ?_) tokens hsuffix (Nat.le_refl _)
  split
  · exact .next (.failExpected _ fun _ => False) fun _ h => h.elim
  · next hempty => exact .pure ⟨rfl, hstores.1, hparameters, hbody, fun h => hempty (List.isEmpty_iff.2 h)⟩

end Statements

/-- **The scripts that are read are made of expressions with the property.** -/
theorem composed_of_script {Q : Scope → Expr → Prop} (rules : Rules Q Q) {name : String} {tokens rest : List Token} {s : Script}
    (h : Reads (script name) tokens s rest) : s.name = name ∧ Composed Q s := by
  have hreads {n : Nat} {scope : Scope} (_ : True) := expression_fares (n := n) rules (.any tokens Q)
    (fun _ hgathered => hgathered.made) scope .unknown trivial
  have hfares := script_fares (n := tokens.length) (.any tokens Q) hreads trivial (fun _ _ => trivial) (fun _ => trivial) name
  exact ((hfares tokens List.suffix_rfl (Nat.le_refl _)).result s rest h).1

end StreamBot.Script.Parser

namespace StreamBot.Script

open List
namespace Parser

/-! ### Lists -/

theorem reify_accepted (scope : Scope) {element : DataType} {literal : EmptyLists} {e : Expr}
    (h : literal.reify element = .ok e) : Accepted scope e ∧ e.dataType = .ok (.list element) := by
  refine EmptyLists.Inherited.of_reify (P := fun element _ e => Accepted scope e ∧ e.dataType = .ok (.list element)) ?_ h
  intro element members es hparts
  have hes : ∀ d ∈ es, Accepted scope d ∧ d.dataType = .ok element := by
    induction hparts with
    | nil => simp
    | cons hfirst _ ih =>
      obtain ⟨inner, rfl, hfirst⟩ := hfirst
      exact forall_mem_cons.mpr ⟨hfirst, ih⟩
  exact ⟨.listLiteral (fun d hd => (hes d hd).1) fun d hd => (hes d hd).2, rfl⟩

theorem Settled.accepted {scope : Scope} {type : DataType} {value e : Expr} (h : Settled type value e) (hvalue : Accepted scope value) :
    Accepted scope e ∧ e.dataType = .ok type := by
  cases h with
  | has typed => exact ⟨hvalue, typed⟩
  | takes reified => exact reify_accepted scope reified

theorem Listed.accepted {scope : Scope} {es : List Expr} {e : Expr} (hes : ∀ e ∈ es, Accepted scope e) (h : Listed es e) :
    Accepted scope e := by
  cases h with
  | empty => exact .emptyLists _
  | @filled element members hsettled =>
    have hmembers : ∀ d ∈ members, Accepted scope d ∧ d.dataType = .ok element := by
      induction hsettled with
      | nil => simp
      | cons hfirst _ ih =>
        obtain ⟨he, hrest⟩ := forall_mem_cons.mp hes
        exact forall_mem_cons.mpr ⟨hfirst.accepted he, ih hrest⟩
    exact .listLiteral (fun d hd => (hmembers d hd).1) fun d hd => (hmembers d hd).2

theorem rules_accepted : Rules Accepted Accepted where
  numberLiteral _ := .numberLiteral _
  stringLiteral := .stringLiteral
  boolLiteral := .boolLiteral
  name := .name
  group := id
  listOf hes hlisted _ := hlisted.accepted hes
  unary := .unary
  binary := .binary
  ternary := .ternary
  call := .call
  subscript := .subscript
  comprehension := .comprehension
  fold := .fold
  split := .split
  join := .join
  sortNumbers := .sortNumbers
  sort := .sort

/-! ### Declarations and statements -/

variable {scope behind : Scope} {stores all : List Store} {parameters names : List String}

theorem Stated.accepted {s : Statement} (h : Stated Accepted scope s behind) : AcceptedStatement scope s behind := by
  cases h with
  | print part typed => exact .print part typed
  | assign resolved part settled => exact .assign resolved (settled.accepted part).1 (settled.accepted part).2
  | define fresh part settled => exact .define fresh (settled.accepted part).1 (settled.accepted part).2

theorem StatedAll.accepted {body : List Statement} (h : StatedAll Accepted scope body) : AcceptedStatements scope body := by
  induction h with
  | none => exact .none
  | next first _ ih => exact .next first.accepted ih

theorem Declared.accepted (h : Declared Accepted stores all) (hstores : AcceptedStores stores) : AcceptedStores all := by
  induction h with
  | none => exact hstores
  | next fresh part _ ih =>
    refine ih (.declare hstores (fun s hs heq => fresh ?_) part)
    exact any_eq_true.mpr ⟨s, hs, beq_iff_eq.mpr heq⟩

/-- Parameters are distinct, and none has the name of a store. -/
def GoodParameters (stores : List Store) (parameters : List String) : Prop :=
  parameters.Nodup ∧ ∀ name ∈ parameters, ∀ s ∈ stores, s.name ≠ name

theorem Unused.good {name : String} (h : Unused stores parameters name) (hgood : GoodParameters stores parameters) :
    GoodParameters stores (parameters ++ [name]) := by
  refine ⟨nodup_append.mpr ⟨hgood.1, by simp, ?_⟩, ?_⟩
  · intro a ha b hb hab
    rw [mem_singleton.mp hb] at hab
    exact h.2 (contains_iff_mem.mpr (hab ▸ ha))
  · intro other hother s hs heq
    rcases mem_append.mp hother with hother | hother
    · exact hgood.2 other hother s hs heq
    · rw [mem_singleton.mp hother] at heq
      exact h.1 (any_eq_true.mpr ⟨s, hs, beq_iff_eq.mpr heq⟩)

theorem Named.good (h : Named stores parameters names) (hgood : GoodParameters stores parameters) :
    GoodParameters stores names := by
  induction h with
  | last unused => exact unused.good hgood
  | next unused _ ih => exact ih (unused.good hgood)

theorem Composed.accepted {script : Script} (h : Composed Accepted script) : AcceptedScript script := by
  have hnone : GoodParameters script.stores [] := ⟨nodup_nil, fun name hname => absurd hname not_mem_nil⟩
  have hgood : GoodParameters script.stores script.parameters := by
    rcases h.parameters with hparameters | hnamed
    · rwa [hparameters]
    · exact hnamed.good hnone
  exact ⟨h.stores.accepted .none, hgood.1, hgood.2, h.statements.accepted, h.notEmpty⟩

end Parser

/-- **The script of a source text is accepted.** -/
theorem acceptedScript_of_ofSource {name source : String} {script : Script}
    (h : ofSource name source = .ok script) : script.name = name ∧ AcceptedScript script := by
  unfold ofSource at h
  split at h
  · cases h
  · next tokens _ =>
    cases hr : Parser.script name tokens with
    | error fault => rw [parse, hr] at h; cases h
    | ok r =>
      rw [parse, hr] at h
      cases h
      obtain ⟨hname, hcomposed⟩ := Parser.composed_of_script Parser.rules_accepted hr
      exact ⟨hname, hcomposed.accepted⟩

end StreamBot.Script
