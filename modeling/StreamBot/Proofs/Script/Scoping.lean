import Mathlib
import StreamBot.Proofs.Script.Parsing

/-! # Static scoping

Where an expression stands in a script decides which names it may use: the stores declared so far, the
parameters, the variables of the definitions before its statement and those of the loops around it.
`Script.Places` goes through all the places of a script and says which names are known there (`Known`);
`Known.Admits` says what an expression may do with them.  It refers to known names only, with the types that
they have, and the variables that it introduces itself have new names.

The reader of scripts keeps one list of variables, to which loops add theirs while their bodies are read.
That this list is always the right one is what `Accepted.of_occursUnder` and `AcceptedStatements.scope` say.
-/

namespace StreamBot.Script

open List

/-! ### Known names -/

/-- The names that are known in a place.  A variable has the type of what it is set to, if that has one. -/
structure Known where
  stores : List Store
  parameters : List String
  bindings : List (String × Option DataType)

def Known.names (known : Known) : List String :=
  known.stores.map (·.name) ++ known.parameters ++ known.bindings.map Prod.fst

/-- An expression refers to known names, with their types, and the variables that it introduces have new
names.  Its parts stand in places of their own. -/
def Known.Admits (known : Known) : Expr → Prop
  | .store name type => ∃ s ∈ known.stores, s.name = name ∧ s.value.dataType = .ok type
  | .parameter name => name ∈ known.parameters
  | .var name type => known.bindings.lookup name = some (some type)
  | e => ∀ v ∈ e.binders, v.1 ∉ known.names

def Statement.defined? : Statement → Option (String × DataType)
  | .define name type _ => some (name, type)
  | _ => none

def definitions (statements : List Statement) : List (String × DataType) :=
  statements.filterMap Statement.defined?

end StreamBot.Script

namespace StreamBot

open List
open Script in
/-- An expression stands in a place of a script where some names are known.

* The initialiser of a store knows the stores before it.
* A statement knows all stores and parameters, and the variables of the definitions before it.
* A body of a loop also knows the variables of the loop. -/
inductive Script.Places (script : Script) : Known → Expr → Prop where
  | initialiser {before after : List Store} {store : Store} {bindings : List (String × Option DataType)}
      {e : Expr} (declared : script.stores = before ++ store :: after)
      (occurs : e.OccursUnder bindings store.value) : Places script ⟨before, [], bindings⟩ e
  | statement {before after : List Statement} {s : Statement} {whole : Expr}
      {bindings : List (String × Option DataType)} {e : Expr}
      (executed : script.statements = before ++ s :: after) (part : whole ∈ s.expressions)
      (occurs : e.OccursUnder bindings whole) :
      Places script ⟨script.stores, script.parameters, (definitions before).map typed ++ bindings⟩ e

end StreamBot

namespace StreamBot.Script

open List Scope

variable {script : Script} {e : Expr} {name : String} {s : Statement}

theorem contains_iff_places : script.Contains e ↔ ∃ known, script.Places known e := by
  constructor
  · rintro (⟨store, hstore, ho⟩ | ⟨s, hs, whole, hwhole, ho⟩)
    · obtain ⟨before, after, hsplit⟩ := append_of_mem hstore
      obtain ⟨bindings, hunder⟩ := Expr.occurs_iff.mp ho
      exact ⟨_, .initialiser hsplit hunder⟩
    · obtain ⟨before, after, hsplit⟩ := append_of_mem hs
      obtain ⟨bindings, hunder⟩ := Expr.occurs_iff.mp ho
      exact ⟨_, .statement hsplit hwhole hunder⟩
  · rintro ⟨known, hplace⟩
    cases hplace with
    | initialiser declared occurs =>
      exact .inl ⟨_, by simp [declared], Expr.occurs_iff.mpr ⟨_, occurs⟩⟩
    | statement executed part occurs =>
      exact .inr ⟨_, by simp [executed], _, part, Expr.occurs_iff.mpr ⟨_, occurs⟩⟩

/-! ### What a scope says -/

/-- The names of a scope, all of whose variables have types. -/
def Scope.known (scope : Scope) : Known :=
  ⟨scope.stores, scope.parameters, scope.bindings.map typed⟩

theorem Scope.not_mem_names {scope : Scope} (h : scope.checkFresh name = .ok ()) : name ∉ scope.known.names := by
  unfold checkFresh at h
  split at h
  · cases h
  · next hstore =>
    split at h
    · cases h
    · next hparameter =>
      split at h
      · cases h
      · next hvariable => simp_all [known, Known.names, typed]

theorem Scope.admits_of_resolve {scope : Scope} {target : Target}
    (h : scope.resolve name = .ok target) : scope.known.Admits target.read := by
  unfold resolve at h
  split at h
  · next store hfound =>
    split at h
    · next type htype =>
      cases h
      exact ⟨store, mem_of_find?_eq_some hfound, by simpa using find?_some hfound, htype⟩
    · cases h
  · split at h
    · next hparameter =>
      cases h
      exact contains_iff_mem.mp hparameter
    · split at h
      · next type htype =>
        cases h
        exact (Dict.get?_map some scope.bindings name).trans (congrArg (Option.map some) htype)
      · cases h

theorem Accepted.admits {scope : Scope} (h : Accepted scope e) : scope.known.Admits e := by
  cases h with
  | name resolved => exact admits_of_resolve resolved
  | comprehension _ _ _ fresh =>
    exact forall_mem_singleton.mpr (not_mem_names fresh)
  | fold _ _ _ _ _ freshAccumulator fresh =>
    refine forall_mem_cons.mpr ⟨not_mem_names freshAccumulator, ?_⟩
    exact forall_mem_singleton.mpr (not_mem_names fresh)
  | sort _ _ freshLeft freshRight =>
    refine forall_mem_cons.mpr ⟨not_mem_names freshLeft, ?_⟩
    exact forall_mem_singleton.mpr (not_mem_names freshRight)
  | _ => exact fun v hv => nomatch hv

/-! ### Scopes along a script -/

theorem AcceptedStatement.behind {scope behind : Scope}
    (h : AcceptedStatement scope s behind) : behind = scope.extend s.defined?.toList := by
  cases h with
  | print | assign => simp [Statement.defined?, extend]
  | define => rfl

theorem AcceptedStatements.scope {scope : Scope} {before after : List Statement}
    (h : AcceptedStatements scope (before ++ s :: after)) :
    ∃ behind, AcceptedStatement (scope.extend (definitions before)) s behind := by
  induction before generalizing scope with
  | nil =>
    cases h with
    | next first _ => exact ⟨_, by simpa [definitions, extend] using first⟩
  | cons earlier before ih =>
    cases h with
    | next first others =>
      obtain ⟨behind, hs⟩ := ih others
      have hscope : (scope.extend earlier.defined?.toList).extend (definitions before) =
          scope.extend (definitions (earlier :: before)) := by
        unfold definitions extend
        cases hdefined : earlier.defined? <;> simp [hdefined]
      exact ⟨behind, by rwa [first.behind, hscope] at hs⟩

theorem AcceptedStatements.nodup {scope : Scope} {statements : List Statement}
    (h : AcceptedStatements scope statements) (hscope : scope.known.names.Nodup) :
    (scope.known.names ++ (definitions statements).map Prod.fst).Nodup := by
  induction h with
  | none => simpa [definitions] using hscope
  | @next scope behind statement rest first _ ih =>
    have hnames : behind.known.names = scope.known.names ++ (statement.defined?.toList).map Prod.fst := by
      rw [first.behind]
      simp [extend, known, Known.names, typed]
    have hfresh : behind.known.names.Nodup := by
      cases first with
      | print | assign => exact hscope
      | define fresh =>
        rw [hnames]
        exact hscope.append (nodup_singleton _) (disjoint_singleton.mpr (not_mem_names fresh))
    have hrest := ih hfresh
    rw [hnames] at hrest
    cases hdefined : statement.defined? <;> simpa [definitions, hdefined] using hrest

theorem AcceptedStores.initialiser {before after : List Store} {store : Store}
    (h : AcceptedStores (before ++ store :: after)) : Accepted { stores := before } store.value := by
  generalize hstores : before ++ store :: after = stores at h
  induction h generalizing after with
  | none => simp at hstores
  | @declare earlier last _ _ value ih =>
    -- the store is the last one, or it is one of those before
    rcases eq_nil_or_concat after with rfl | ⟨others, other, rfl⟩
    · obtain ⟨rfl, hlast⟩ := append_inj' hstores rfl
      cases hlast
      exact value
    · rw [concat_eq_append, ← cons_append, ← append_assoc] at hstores
      exact ih (append_inj' hstores rfl).1

theorem AcceptedScript.admits (h : AcceptedScript script) {known : Known}
    (hplace : script.Places known e) : known.Admits e := by
  cases hplace with
  | @initialiser before after store bindings _ declared occurs =>
    obtain ⟨inner, rfl, he⟩ := (declared ▸ h.stores).initialiser.of_occursUnder occurs
    exact he.admits
  | @statement before after s whole bindings _ executed part occurs =>
    obtain ⟨behind, hs⟩ := (executed ▸ h.statements).scope
    obtain ⟨inner, rfl, he⟩ := (hs.expression whole part).of_occursUnder occurs
    have hadmits := he.admits
    simpa [known, extend] using hadmits

theorem AcceptedScript.nodup (h : AcceptedScript script) : (script.stores.map (·.name) ++ script.parameters ++
      (definitions script.statements).map Prod.fst).Nodup := by
  have hdeclared : (script.stores.map (·.name) ++ script.parameters).Nodup := by
    refine h.stores.nodup.append h.distinctParameters fun name hstore hparameter => ?_
    obtain ⟨s, hs, rfl⟩ := mem_map.mp hstore
    exact h.parametersShadowNothing _ hparameter s hs rfl
  have hnames := h.statements.nodup (by simpa [known, Known.names] using hdeclared)
  simpa [known, Known.names] using hnames

/-- **Static scoping.**  In the script of a source text

* the names of stores, of parameters and of defined variables are all distinct,
* whatever occurs, at any depth, stands in a place of the script,
* and in every place what stands there refers to names that are known there, with the types that they have,
  and introduces variables with new names only. -/
theorem scoped_of_ofSource {name source : String} {script : Script} (accepted : ofSource name source = .ok script) :
    (script.stores.map (·.name) ++ script.parameters ++ (definitions script.statements).map Prod.fst).Nodup ∧
    (∀ e, script.Contains e → ∃ known, script.Places known e) ∧
    ∀ known e, script.Places known e → known.Admits e := by
  obtain ⟨-, h⟩ := acceptedScript_of_ofSource accepted
  exact ⟨h.nodup, fun e => contains_iff_places.mp, fun known e => h.admits⟩

def nestedLoops : Script where
  name := "!a"
  stores := []
  parameters := ["p"]
  statements := [.define "n" .string (.parameter "p"), .print (.comprehension (.var "n" .string) "x" none
      (.fold (.var "x" .string) (.parameter "p") "a" "c" (.var "c" .string)))]

set_option maxRecDepth 1024 in
theorem ofSource_nestedLoops : ofSource "!a" "PARAMS p; LET n = p; PRINT for n as x yeet fold x as p, a, c with c;" =
      .ok nestedLoops := by
  cbv

/-- In the innermost body the variables of the definition and of both loops are known. -/
theorem scoped_of_ofSource_nestedLoops : let known : Known :=
      ⟨[], ["p"], [("n", some .string), ("x", some .string), ("a", some .string), ("c", some .string)]⟩
    nestedLoops.Places known (.var "c" .string) ∧ known.Admits (.var "c" .string) := by
  intro known
  let inner : Expr := .fold (.var "x" .string) (.parameter "p") "a" "c" (.var "c" .string)
  let outer : Expr := .comprehension (.var "n" .string) "x" none inner
  have hexecuted : nestedLoops.statements = [.define "n" .string (.parameter "p")] ++ .print outer :: [] := rfl
  have hinner : (Expr.var "c" .string).OccursUnder (inner.binders ++ []) inner :=
    .within (mem_singleton_self _) .here
  have houter : (Expr.var "c" .string).OccursUnder (outer.binders ++ (inner.binders ++ [])) outer :=
    .within (mem_singleton_self _) hinner
  have hplace : nestedLoops.Places known (.var "c" .string) :=
    .statement hexecuted mem_cons_self houter
  exact ⟨hplace, (scoped_of_ofSource ofSource_nestedLoops).2.2 known _ hplace⟩

end StreamBot.Script
