import StreamBot.Proofs.Script.Locality
import StreamBot.Proofs.Script.StoreTyping

/-! # Reading and defining variables

When a script is read, each variable gets the type of what it is set to; when it is executed, reading the variable fails
unless it has a value of that type.  All loops write into the one dictionary of variables, and so do the definitions of the
script.  The parser's picture is right nevertheless (`variables_readable`), because no loop sets a variable in scope.  There is
one exception.  The two variables of a fold may have the same name.  In the body the name then stands for the accumulator when
the script is read, and for the element when it is executed (`exists_variable_unreadable`).

When a script is read, a definition is refused if its variable is in scope; when it is executed, if its
variable has a value.  The two are not the same, because loops leave their variables behind.  A definition
that is reached finds its variable defined only if a loop of an earlier statement has a variable of the same
name (`executeAll_undefined`), and nothing else in an execution fails in this way (`executeAll_redefines`).
-/

namespace StreamBot.Script

open List Statement

variable {σ α β : Type} {fault : Fault}

/-! ### Faults that do not occur -/

/-- A computation does not fail in this way, wherever it starts. -/
def Eval.Avoids (fault : Fault) (x : Eval σ α) : Prop := ∀ f s t, x f s ≠ (.error fault, t)

namespace Eval.Avoids

theorem pure (a : α) : (Pure.pure a : Eval σ α).Avoids fault := nofun

theorem throw {other : Fault} (h : other ≠ fault) : (MonadExcept.throw other : Eval σ α).Avoids fault := by
  rintro f s t ⟨⟩
  exact h rfl

theorem bind {x : Eval σ α} {k : α → Eval σ β} (hx : x.Avoids fault) (hk : ∀ a, (k a).Avoids fault) :
    (x >>= k).Avoids fault := by
  intro f s t hr
  rcases Eval.error_of_bind hr with hfirst | ⟨a, f', s', -, hsecond⟩
  · exact hx f s t hfirst
  · exact hk a f' s' t hsecond

theorem lift {x : Act σ α} (h : ∀ s t, x s ≠ (.error fault, t)) : (liftM x : Eval σ α).Avoids fault := by
  intro f s t hr
  rw [Eval.lift_run] at hr
  rcases hx : x s with ⟨other | a, s'⟩
  · rw [hx] at hr
    cases hr
    exact h s t hx
  · rw [hx] at hr
    cases hr

theorem update (g : Frame → Frame) : (modify g : Eval σ PUnit).Avoids fault := nofun

theorem look {k : Frame → Eval σ α} (h : ∀ f, (k f).Avoids fault) : (get >>= k).Avoids fault :=
  fun f => h f f

theorem guard {c : Prop} [Decidable c] {other : Fault} {x : Eval σ α} (hother : c → other ≠ fault) (hx : x.Avoids fault) :
    Eval.Avoids fault (if c then MonadExcept.throw other >>= fun _ : β => x else x) := by
  split
  · next hc => exact .bind (.throw (hother hc)) fun _ => hx
  · exact hx

theorem typeOf (type : Except TypeFault DataType) (hfault : fault.ofStatement) :
    (Eval.typeOf type : Eval σ DataType).Avoids fault := by
  cases type with
  | ok t => exact .pure t
  | error other => exact .throw (by rintro rfl; cases hfault)

theorem congruence (hfault : fault.ofStatement) {h : Host σ} (hh : h.Avoids fault) :
    Congruence (.untyped Set.univ Set.univ) h h fun _ {α} _ (x : Eval σ α) _ => x.Avoids fault := by
  have hthrow {α : Type} {other : Fault} (hother : other.ofStatement = false) :
      (MonadExcept.throw other : Eval σ α).Avoids fault := .throw (by rintro rfl; simp [hfault] at hother)
  have hread := @related_read σ σ (fun x _ => x.Avoids fault) .pure hthrow
  exact {
    world := rfl
    pure := fun _ => .pure _
    throw := fun hother => hthrow (Bool.or_eq_false_iff.mp hother).1
    bind := fun first second => .bind first fun a => second a nofun
    readStore := fun _ => .look fun f => hread rfl _
    readParameter := fun _ => .look fun f => hread rfl _
    readVariable := fun _ => .look fun f => hread rfl _
    setVariable := fun _ _ rest => .bind (.update _) fun _ => rest
    onBehalf := fun _ inside => .bind (.update _) fun _ => .bind inside fun a => .bind (.update _) fun _ => .pure a
    call := fun name arguments => .lift (hh.call name arguments)
    evaluate := fun code => .lift (hh.evaluate code) }

theorem eval (hfault : fault.ofStatement) {h : Host σ} (hh : h.Avoids fault) (e : Expr) :
    (e.eval h).Avoids fault :=
  (congruence hfault hh).eval e ⟨Set.subset_univ _, Set.subset_univ _, Set.subset_univ _⟩

end Eval.Avoids

/-! ### Where a variable is defined already -/

variable {h : Host σ} {x : String} {statements : List Statement} {statement : Statement}

theorem assignedValue_avoids (hh : h.Avoids (.alreadyDefined x)) (kind : NameKind) (name : String)
    (old : Value) (e : Expr) : (assignedValue h kind name old e).Avoids (.alreadyDefined x) :=
  .bind (.typeOf _ rfl) fun _ => .guard (fun _ => nofun) (.eval rfl hh e)

theorem Statement.execute_avoids (hh : h.Avoids (.alreadyDefined x)) (hother : ∀ type e, statement ≠ .define x type e) :
    (statement.execute h).Avoids (.alreadyDefined x) := by
  cases statement with
  | print e => exact .bind (.eval rfl hh e) fun v => .pure _
  | assign target e =>
    intro f s t hr
    obtain ⟨kind, name, fault, -, hfault, hrun⟩ := assign_run h target e f s
    rw [hrun] at hr
    cases hold : f.value? (target.slot f.owner) with
    | none =>
      rw [hold] at hr
      cases hr
      exact hfault x rfl
    | some old =>
      rw [hold] at hr
      refine Eval.Avoids.bind (assignedValue_avoids hh kind name old e) (fun new => ?_) f s t hr
      exact .bind (.update _) fun _ => .pure _
  | define name type e =>
    refine .look fun f => .guard (fun _ hsame => ?_) ?_
    · cases hsame
      exact hother type e rfl
    · refine .bind (.typeOf _ rfl) fun actual => .guard (fun _ => nofun) ?_
      exact .bind (.eval rfl hh e) fun v => .bind (.update _) fun _ => .pure _

/-- Statements that fail because a variable is defined already reach a definition of it that fails so. -/
theorem executeAll_redefines (hh : h.Avoids (.alreadyDefined x)) {f : Frame} {s t : σ}
    (hr : executeAll h output statements f s = (.error (.alreadyDefined x), t)) :
    ∃ before type e after output' g u u', statements = before ++ .define x type e :: after ∧
      executeAll h output before f s = (.ok (output', g), u) ∧
      (define x type e).execute h g u' = (.error (.alreadyDefined x), t) := by
  induction statements generalizing output f s with
  | nil => cases hr
  | cons statement rest ih =>
    rcases Eval.error_of_bind hr with hpause | ⟨_, f₁, s₁, hpause, hrun⟩
    · exact (Eval.Avoids.lift hh.pause f s t hpause).elim
    obtain ⟨rfl, -⟩ := Eval.ok_of_lift hpause
    rcases Eval.error_of_bind hrun with hstatement | ⟨more, f₂, s₂, hstatement, hrest⟩
    · by_cases hdefine : ∃ type e, statement = .define x type e
      · obtain ⟨type, e, rfl⟩ := hdefine
        exact ⟨[], type, e, rest, output, f₁, s, s₁, rfl, rfl, hstatement⟩
      · refine (execute_avoids hh (fun type e heq => ?_) f₁ s₁ t hstatement).elim
        exact hdefine ⟨type, e, heq⟩
    · obtain ⟨before, type, e, after, output', g, u, u', rfl, hbefore, hfails⟩ := ih hrest
      refine ⟨statement :: before, type, e, after, output', g, u, u', rfl, ?_, hfails⟩
      rw [executeAll, Eval.bind_of_ok hpause, Eval.bind_of_ok hstatement]
      exact hbefore

theorem Statement.execute_undefined {f g : Frame} {s t : σ} (hr : statement.execute h f s = (.ok (output, g), t))
    (hdefined : x ∉ statement.defined?.toList.map Prod.fst) (hloops : ∀ e ∈ statement.expressions, x ∉ e.loopVariables)
    (hf : Dict.get? f.bindings x = none) : Dict.get? g.bindings x = none := by
  have value {e : Expr} {v : Value} {f' : Frame} {t : σ} (hv : e.eval h f s = (.ok (v, f'), t))
      (he : e ∈ statement.expressions) : Dict.get? f'.bindings x = none := by
    rw [(eval_keeps hv).bindings x (hloops e he), hf]
  cases statement.ends_of_execute hr with
  | print hv => exact value hv (by simp [expressions])
  | @assign target _ old v f' _ hold _ hv =>
    have hother : Slot.var x ≠ target.slot f.owner := by
      intro heq
      rw [← heq, Frame.value?, hf] at hold
      cases hold
    exact (f'.value?_put_of_ne v hother).trans (value hv (by simp [expressions]))
  | define _ _ hv =>
    rw [Frame.put, Dict.get?_set_of_ne _ _ (by simpa [defined?] using hdefined)]
    exact value hv (by simp [expressions])

theorem executeAll_undefined {output' : Option String} {f g : Frame}
    {s t : σ} (hr : executeAll h output statements f s = (.ok (output', g), t))
    (hdefined : x ∉ (definitions statements).map Prod.fst)
    (hloops : ∀ statement ∈ statements, ∀ e ∈ statement.expressions, x ∉ e.loopVariables)
    (hf : Dict.get? f.bindings x = none) : Dict.get? g.bindings x = none := by
  induction statements generalizing output f s with
  | nil =>
    cases hr
    exact hf
  | cons statement rest ih =>
    obtain ⟨hfirst, hothers⟩ := forall_mem_cons.mp hloops
    obtain ⟨_, f₁, s₁, hpause, hrun⟩ := Eval.ok_of_bind hr
    obtain ⟨rfl, -⟩ := Eval.ok_of_lift hpause
    obtain ⟨more, f₂, s₂, hstatement, hrest⟩ := Eval.ok_of_bind hrun
    have hsplit : definitions (statement :: rest) = statement.defined?.toList ++ definitions rest := by
      cases hdefined : statement.defined? <;> simp [definitions, hdefined]
    rw [hsplit, map_append, mem_append, not_or] at hdefined
    exact ih hrest hdefined.2 hothers (execute_undefined hstatement hdefined.1 hfirst hf)

theorem AcceptedScript.defined {script : Script} (ha : AcceptedScript script) {before after : List Statement}
    {type : DataType} {e : Expr} (hsplit : script.statements = before ++ .define x type e :: after) :
    e.dataType = .ok type ∧ x ∉ (definitions before).map Prod.fst := by
  constructor
  · obtain ⟨behind, hs⟩ := (hsplit ▸ ha.statements).scope
    cases hs with
    | define _ _ valueType => exact valueType
  · have hnames : (definitions script.statements).map Prod.fst =
        (definitions before).map Prod.fst ++ x :: (definitions after).map Prod.fst := by
      simp [hsplit, definitions, defined?]
    have hnodup := ha.nodup.of_append_right
    rw [hnames] at hnodup
    exact fun hbefore => disjoint_of_nodup_append hnodup hbefore mem_cons_self

/-- **When a definition fails.**  In an execution of the script of a source text, with any values of stores
and any arguments,

* a definition that is reached says that its variable is defined already if the frame has a value for it, and
  otherwise does nothing but give it its value;
* the frame has a value for it only if a loop of a statement before it has a variable of the same name;
* the execution ends with this fault only at such a definition, unless the fault comes from another script or
  from code that is executed. -/
theorem define_of_ofSource {name source : String} {script : Script}
    (accepted : ofSource name source = .ok script) (h : Host σ) (stores : Dict StoreKey Value)
    (arguments : List String) (s : σ) (x : String) :
    (∀ before type e after output g t, script.statements = before ++ .define x type e :: after →
      executeAll h none before (startFrame script stores arguments) s = (.ok (output, g), t) →
      (∀ u, (Statement.define x type e).execute h g u =
        if (Dict.get? g.bindings x).isSome then (.error (.alreadyDefined x), u)
        else (do Eval.setVariable x (← e.eval h); return none) g u) ∧
      ((Dict.get? g.bindings x).isSome →
        ∃ statement ∈ before, ∃ whole ∈ statement.expressions, x ∈ whole.loopVariables)) ∧
    (h.Avoids (.alreadyDefined x) → ∀ t, executeAll h none script.statements (startFrame script stores arguments) s =
        (.error (.alreadyDefined x), t) →
      ∃ before type e after output g t, script.statements = before ++ .define x type e :: after ∧
        executeAll h none before (startFrame script stores arguments) s = (.ok (output, g), t) ∧
        (Dict.get? g.bindings x).isSome) := by
  obtain ⟨-, ha⟩ := acceptedScript_of_ofSource accepted
  refine ⟨fun before type e after output g t hsplit hreached => ⟨fun u => ?_, fun hsome => ?_⟩, ?_⟩
  · exact define_run h (ha.defined hsplit).1 g u
  · by_contra hloops
    push Not at hloops
    rw [executeAll_undefined hreached (ha.defined hsplit).2 hloops rfl] at hsome
    cases hsome
  · intro hh t hr
    obtain ⟨before, type, e, after, output, g, u, u', hsplit, hreached, hfails⟩ :=
      executeAll_redefines hh hr
    refine ⟨before, type, e, after, output, g, u, hsplit, hreached, ?_⟩
    by_contra hnone
    rw [define_run h (ha.defined hsplit).1, if_neg hnone] at hfails
    have hset : Eval.Avoids (.alreadyDefined x) (do Eval.setVariable x (← e.eval h); return (none : Option String)) :=
      .bind (.eval rfl hh e) fun v => .bind (.update _) fun _ => .pure _
    exact hset g u' t hfails

/-- A script whose first statement leaves a variable behind that the second one defines. -/
def leavingBehind : Script where
  name := "!a"
  stores := []
  parameters := []
  statements := [.print (.comprehension (.stringLiteral "v") "c" none (.var "c" .string)),
    .define "c" .string (.stringLiteral "w"), .print (.var "c" .string)]

def leavingBehindSource : String := "PRINT for 'v' as c yeet c; LET c = 'w'; PRINT c;"

theorem ofSource_leavingBehind : ofSource "!a" leavingBehindSource = .ok leavingBehind := by
  cbv

/-- The definition is reached in a frame that has a value for its variable. -/
theorem define_of_ofSource_leavingBehind : let before := leavingBehind.statements.take 1
    let g : Frame := { startFrame leavingBehind [] [] with bindings := [("c", .string "v")] }
    executeAll .echo none before (startFrame leavingBehind [] []) () = (.ok (some "[v]", g), ()) ∧
    (Statement.define "c" .string (.stringLiteral "w")).execute .echo g () = (.error (.alreadyDefined "c"), ()) ∧
    ∃ statement ∈ before, ∃ whole ∈ statement.expressions, "c" ∈ whole.loopVariables := by
  intro before g
  have hreached : executeAll .echo none before (startFrame leavingBehind [] []) () = (.ok (some "[v]", g), ()) := rfl
  obtain ⟨hexecute, hloop⟩ := (define_of_ofSource ofSource_leavingBehind .echo [] [] () "c").1
    before .string (.stringLiteral "w") _ _ g () rfl hreached
  exact ⟨hreached, hexecute (), hloop rfl⟩

namespace Library

/-- A script that was accepted can fail because a variable of it is defined already. -/
theorem exists_definition_fails : ∃ (steps : List Step) (name : String) (entry : Entry) (x : String),
      Dict.get? (after steps) name = some entry ∧
        (execute .still entry [] (after steps)).1 = .error (.alreadyDefined x) := by
  have hafter : after [.load .still "!a" leavingBehindSource] = [("!a", ⟨leavingBehind, []⟩)] := by
    rw [after, foldl_cons, afterStep, ofSource_leavingBehind]
    rfl
  refine ⟨_, "!a", ⟨leavingBehind, []⟩, "c", congrArg (Dict.get? · "!a") hafter, ?_⟩
  rw [hafter]
  rfl

end Library

/-! ### Reading -/

/-- **Variables can be read.**  Let no loop in the script of a source text have two variables of the same name and of
different types.  Then its execution, with any well-formed values of its stores and any arguments, does not fail because a
variable that is read is missing or has another type than it had for the parser, unless that comes from another script or
from code that is executed. -/
theorem variables_readable {name source : String} {script : Script} (accepted : ofSource name source = .ok script)
    (consistent : ∀ e : Expr, script.Contains e → e.Consistent) {h : Host σ} {stores : Dict StoreKey Value}
    (wellFormed : ∀ p ∈ stores, p.2.WellFormed) (arguments : List String) {fault : Fault}
    (ofVariable : fault.ofVariable = true) (avoids : h.Avoids fault) (s t : σ) :
    executeAll h none script.statements (startFrame script stores arguments) s ≠ (.error fault, t) := by
  intro hr
  have hends := (acceptedScript_of_ofSource accepted).2.executeAll_ends wellFormed arguments {fault}
    (fun _ hmem => hmem ▸ ofVariable) (fun _ hmem => hmem ▸ avoids) (fun _ => consistent) s
  rw [hr] at hends
  exact hends rfl

/-- A script with a fold both of whose variables have the same name. -/
def folding (iterable start : Expr) (type : DataType) : Script where
  name := "!a"
  stores := []
  parameters := []
  statements := [.print (.fold iterable start "x" "x" (.var "x" type))]

/-- The variables of a fold over a text may have the same name if the fold starts with a text. -/
theorem variables_readable_folding : let script := folding (.stringLiteral "uv") (.stringLiteral "w") .string
    ∀ expected actual, executeAll .echo none script.statements (startFrame script [] []) () ≠
      (.error (.readType .var "x" expected actual), ()) := by
  intro script expected actual
  have haccepted : ofSource "!a" "PRINT fold 'uv' as 'w', x, x with x;" = .ok script := by cbv
  have hconsistent (e : Expr) (he : script.Contains e) : e.Consistent := by
    obtain ⟨_, hs, -⟩ | ⟨_, hs, _, hwhole, ho⟩ := he
    · cases hs
    obtain rfl := mem_singleton.mp hs
    obtain rfl := mem_singleton.mp hwhole
    cases ho with
    | here => simp [Expr.Consistent, Expr.binders, Expr.itemType, Expr.dataType, DataType.element?, Except.toOption]
    | inside hpart ho =>
      -- the parts of the fold have no parts and no variables of their own
      simp only [Expr.children, mem_cons, not_mem_nil, or_false] at hpart
      obtain rfl | rfl | rfl := hpart
      all_goals
        cases ho with
        | here => exact fun x hx => absurd hx not_mem_nil
        | inside hpart => cases hpart
  exact fun hr => variables_readable haccepted hconsistent (forall_mem_nil _) [] rfl (Host.echo_avoids _) () () hr

/-- A fold over truth values that starts with a text cannot read the variable that the parser took for the text. -/
theorem exists_variable_unreadable : ∃ (source : String) (script : Script), ofSource "!a" source = .ok script ∧
      executeAll .echo none script.statements (startFrame script [] []) () =
        (.error (.readType .var "x" .string .bool), ()) := by
  have haccepted : ofSource "!a" "PRINT fold [true] as 'w', x, x with x;" =
      .ok (folding (.listLiteral .bool [.boolLiteral true]) (.stringLiteral "w") .string) := by cbv
  exact ⟨_, _, haccepted, rfl⟩

end StreamBot.Script
