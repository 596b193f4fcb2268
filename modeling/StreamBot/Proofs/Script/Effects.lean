import StreamBot.Proofs.Script.Locality
import StreamBot.Proofs.Script.Session

/-! # What expressions do to their frame

An execution has one frame, in which everything happens: loops write their variables where the definitions of the
script have theirs, and calls push names on the stack that says whose stores are read.

Evaluating an expression nevertheless leaves alone what belongs to the script, its stores, its parameters and the
variables that it has defined (`Slot`): these change only where a statement sets them (`own_slots_kept`).

A call evaluates its arguments on behalf of the script that is called.  They have the values that they have outside of
the call if the stores that they read have the same values on behalf of either script (`call_passes_values`), as they do
when a script calls itself or the arguments read no stores.  Otherwise the call may fail (`exists_argument_not_passed`).
-/

namespace StreamBot.Script

open List Dict

variable {slot : Slot} {script : Script} {before after : List Statement}
variable {σ α β : Type} {h : Host σ} {f g : Frame} {s t : σ} {output : Option String} {statement : Statement}
variable {names : Set String}

/-! ### What belongs to a script -/

/-- What a statement sets that is executed on behalf of a script. -/
def Statement.slot? (owner : String) : Statement → Option Slot
  | .print _ => none
  | .assign (.store name _) _ => some (.store ⟨owner, name⟩)
  | .assign (.parameter name) _ => some (.parameter name)
  | .assign (.var name _) _ | .define name _ _ => some (.var name)

/-- What belongs to a script when some of its statements have been executed: its stores, its parameters, and the
variables that the statements define. -/
def Slot.BelongsAfter (statements : List Statement) : Slot → Prop
  | .store _ | .parameter _ => True
  | .var name => name ∈ (definitions statements).map Prod.fst

theorem Frame.Alike.value?_eq (hfg : f.Alike names g) (hslot : ∀ name, slot = .var name → name ∈ names)
    : f.value? slot = g.value? slot := by
  cases slot with
  | store key => exact congrArg (get? · key) hfg.stores
  | parameter name => exact congrArg (get? · name) hfg.parameters
  | var name => exact hfg.bindings name (hslot name rfl)

theorem AcceptedScript.kept_of_occurs (ha : AcceptedScript script)
    (hsplit : script.statements = before ++ statement :: after) {whole d : Expr} (hwhole : whole ∈ statement.expressions)
    (hd : d.Occurs whole) {v : Value} (hr : d.eval h f s = (.ok (v, g), t)) (hslot : slot.BelongsAfter before)
    : g.value? slot = f.value? slot := by
  refine (eval_keeps hr).value?_eq ?_
  rintro name rfl
  obtain ⟨bindings, hunder⟩ := Expr.occurs_iff.mp hd
  refine ha.disjoint_loopVariables (.statement hsplit hwhole hunder) ?_
  obtain ⟨definition, hmem, rfl⟩ := mem_map.mp hslot
  exact mem_map.mpr ⟨typed definition, mem_append_left _ (mem_map_of_mem hmem), rfl⟩

theorem AcceptedScript.kept_of_execute (ha : AcceptedScript script)
    (hsplit : script.statements = before ++ statement :: after)
    (hr : statement.execute h f s = (.ok (output, g), t)) :
    g.owner = f.owner ∧ ∀ slot : Slot, slot.BelongsAfter before → statement.slot? f.owner ≠ some slot →
      g.value? slot = f.value? slot := by
  have value {e : Expr} {v : Value} {f' : Frame} {t : σ} (hv : e.eval h f s = (.ok (v, f'), t))
      (he : e ∈ statement.expressions) : f'.owner = f.owner ∧
        ∀ slot : Slot, slot.BelongsAfter before → f'.value? slot = f.value? slot :=
    ⟨(eval_keeps hv).owner, fun slot => ha.kept_of_occurs hsplit he .here hv⟩
  cases statement.ends_of_execute hr with
  | print hv => exact (value hv (by simp [Statement.expressions])).imp_right fun hkept slot hslot _ => hkept slot hslot
  | @assign target _ _ _ f' _ _ _ hv =>
    obtain ⟨howner, hkept⟩ := value hv (by simp [Statement.expressions])
    refine ⟨(f'.owner_put _ _).trans howner, fun slot hslot hother => ?_⟩
    rw [f'.value?_put_of_ne _ fun heq => hother (by rw [heq]; cases target <;> rfl), hkept slot hslot]
  | @define name _ _ _ f' _ _ _ hv =>
    obtain ⟨howner, hkept⟩ := value hv (by simp [Statement.expressions])
    refine ⟨howner, fun slot hslot hother => ?_⟩
    rw [f'.value?_put_of_ne _ fun heq => hother (by rw [heq]; rfl), hkept slot hslot]

theorem AcceptedScript.kept_of_executeAll (ha : AcceptedScript script) {statements : List Statement}
    (hsplit : script.statements = before ++ statements ++ after) (hslot : slot.BelongsAfter before)
    {output' : Option String} (hr : executeAll h output statements f s = (.ok (output', g), t))
    (hother : ∀ statement ∈ statements, statement.slot? f.owner ≠ some slot) : g.value? slot = f.value? slot := by
  induction statements generalizing before output f s with
  | nil =>
    cases hr
    rfl
  | cons statement rest ih =>
    obtain ⟨_, f₁, s₁, hpause, hrun⟩ := Eval.ok_of_bind hr
    obtain ⟨rfl, -⟩ := Eval.ok_of_lift hpause
    obtain ⟨more, f₂, s₂, hstatement, hrest⟩ := Eval.ok_of_bind hrun
    obtain ⟨hfirst, hothers⟩ := forall_mem_cons.mp hother
    rw [append_assoc] at hsplit
    obtain ⟨howner, hkept⟩ := ha.kept_of_execute hsplit hstatement
    have hnext : slot.BelongsAfter (before ++ [statement]) := by
      cases slot with
      | store | parameter => trivial
      | var name =>
        rw [Slot.BelongsAfter, definitions, filterMap_append, map_append]
        exact mem_append_left _ hslot
    rw [ih (by simpa using hsplit) hnext hrest (howner ▸ hothers), hkept slot hslot hfirst]

/-- **Expressions have no effect on what belongs to a script.**  For every host, so with whatever calls and executed code
do:

* Evaluating any expression in any frame leaves the call stack, the stores and the parameters as they are, and all
  variables but those of the loops in the expression.
* An expression that occurs anywhere in a statement of an accepted script leaves alone all that belongs to the script
  there.
* Over any stretch of statements, what belongs to the script changes only if one of the statements sets it. -/
theorem own_slots_kept {name source : String} {script : Script} (accepted : ofSource name source = .ok script)
    (h : Host σ) :
    (∀ (e : Expr) f s v g t, e.eval h f s = (.ok (v, g), t) →
      g.callStack = f.callStack ∧ g.stores = f.stores ∧ g.parameters = f.parameters ∧
        ∀ x, x ∉ e.loopVariables → Dict.get? g.bindings x = Dict.get? f.bindings x) ∧
    (∀ before statement after, script.statements = before ++ statement :: after →
      ∀ whole ∈ statement.expressions, ∀ d : Expr, d.Occurs whole → ∀ f s v g t, d.eval h f s = (.ok (v, g), t) →
        ∀ slot : Slot, slot.BelongsAfter before → g.value? slot = f.value? slot) ∧
    ∀ before statements after, script.statements = before ++ statements ++ after → ∀ output f s output' g t,
      executeAll h output statements f s = (.ok (output', g), t) → ∀ slot : Slot, slot.BelongsAfter before →
        (∀ statement ∈ statements, statement.slot? f.owner ≠ some slot) → g.value? slot = f.value? slot := by
  obtain ⟨-, ha⟩ := acceptedScript_of_ofSource accepted
  refine ⟨fun e f s v g t hr => ?_, fun before statement after hsplit whole hwhole d hd f s v g t hr slot hslot => ?_,
    fun before statements after hsplit output f s output' g t hr slot hslot hother => ?_⟩
  · have hkept := eval_keeps hr
    exact ⟨hkept.callStack, hkept.stores, hkept.parameters, hkept.bindings⟩
  · exact ha.kept_of_occurs hsplit hwhole hd hr hslot
  · exact ha.kept_of_executeAll hsplit hslot hr hother

/-- Two loops leave their variables behind, and the variable that the script has defined is what it was. -/
theorem own_slots_kept_nestedLoops :
    let f : Frame := { callStack := ["!a"], parameters := [("p", .string "q")], bindings := [("n", .string "uv")] }
    ∃ output g, executeAll .echo none (nestedLoops.statements.drop 1) f () = (.ok (output, g), ()) ∧
      g.bindings.length = 4 ∧ g.value? (.var "n") = f.value? (.var "n") := by
  intro f
  refine ⟨_, _, rfl, rfl, ?_⟩
  refine (own_slots_kept ofSource_nestedLoops .echo).2.2 (nestedLoops.statements.take 1) (nestedLoops.statements.drop 1) []
    rfl none f () _ _ () rfl (.var "n") (mem_singleton_self _) fun statement hstatement => ?_
  rw [mem_singleton.mp hstatement]
  exact nofun

/-! ### On whose behalf stores are read -/

/-- The stores with these names have the same values under two call stacks. -/
def Frame.Shares (names : Set String) (f : Frame) (stack : List String) : Prop :=
  ∀ name ∈ names, get? f.stores ⟨f.owner, name⟩ = get? f.stores ⟨stack.head?.getD "", name⟩

theorem Frame.Shares.extend {stack : List String} (h : f.Shares names stack) (hg : g.Extends f) :
    g.Shares names stack := by
  have howner : g.owner = f.owner := by rw [Frame.owner, hg.callStack, Frame.owner]
  unfold Frame.Shares
  rw [hg.stores, howner]
  exact h

/-- The second frame has another call stack, under which the stores with these names have the same values. -/
def Frame.Moved (names : Set String) (f g : Frame) : Prop :=
  ∃ stack, g = { f with callStack := stack } ∧ f.Shares names stack

theorem moved_congruence (names : Set String) (h : Host σ) :
    Congruence (.untyped names Set.univ) h h fun _ {α} _ (x : Eval σ α) y =>
      Eval.Alike (Frame.Moved names) Frame.Extends x y := by
  have : Chained Frame.Extends := ⟨.refl, .trans⟩
  have hback {script : String} {f f' : Frame} (h : f'.Extends { f with callStack := script :: f.callStack }) :
      Frame.Extends { f' with callStack := f'.callStack.tail } f :=
    ⟨congrArg List.tail h.callStack, h.stores, h.parameters⟩
  exact {
    world := rfl
    pure := fun _ => .pure _
    throw := fun _ => .throw _
    bind := fun first second => .bind first fun a => second a nofun
    readStore := fun hname => .read (fun f => get? f.stores ⟨f.owner, _⟩) rfl fun f g hfg => by
      obtain ⟨stack, rfl, hshares⟩ := hfg
      exact hshares _ hname
    readParameter := fun _ => .read (fun f => get? f.parameters _) rfl fun f g hfg => by
      obtain ⟨stack, rfl, -⟩ := hfg
      rfl
    readVariable := fun _ => .read (fun f => get? f.bindings _) rfl fun f g hfg => by
      obtain ⟨stack, rfl, -⟩ := hfg
      rfl
    setVariable := fun _ _ rest => by
      refine .bind (fun f g s hfg => ?_) fun _ => rest
      obtain ⟨stack, rfl, hshares⟩ := hfg
      exact .returned ⟨stack, rfl, hshares⟩ ⟨rfl, rfl, rfl⟩ ⟨rfl, rfl, rfl⟩
    onBehalf := fun script inside => by
      refine .onBehalf script inside (fun f g hfg => ?_) (fun f g f' g' hfg hfg' hf hg => ?_) fun _ _ => hback
      · -- on behalf of a third script all stores have the same values
        obtain ⟨stack, rfl, -⟩ := hfg
        exact ⟨script :: stack, rfl, fun _ _ => rfl⟩
      · obtain ⟨stack, rfl, hshares⟩ := hfg
        obtain ⟨inner, rfl, -⟩ := hfg'
        obtain rfl : inner = script :: stack := hg.callStack
        exact ⟨stack, rfl, hshares.extend (hback hf)⟩
    call := fun _ _ => .lift _
    evaluate := fun _ => .lift _ }

/-- **A call passes on what its arguments mean outside of it.**  Let the callee of a call be the name of a script, and let
the arguments have values.  If every store that they read has the same value on behalf of the script that is called as it
has here, then the script is called with the texts of these values, once, and what it returns is the value of the call. -/
theorem call_passes_values (h : Host σ) {callee : Expr} {arguments : List Expr} {f f₁ f₂ : Frame} {s s₁ s₂ : σ}
    {name : String} {values : List Value} (hcallee : callee.eval h f s = (.ok (.string name, f₁), s₁))
    (hscript : Builtin.ofName? name = none) (hvalues : Expr.evalAll h arguments f₁ s₁ = (.ok (values, f₂), s₂))
    (hstores : ∀ e ∈ arguments, ∀ store ∈ e.storeNames,
      Dict.get? f₁.stores ⟨name, store⟩ = Dict.get? f₁.stores ⟨f₁.owner, store⟩) :
    (Expr.call callee arguments).eval h f s =
      (do return .string (← h.call name (values.map (·.text))) : Eval σ Value) f₂ s₂ := by
  let names : Set String := {store | ∃ e ∈ arguments, store ∈ e.storeNames}
  have hshares : f₁.Shares names (name :: f₁.callStack) := by
    rintro store ⟨e, he, hstore⟩
    exact (hstores e he store hstore).symm
  have hc := moved_congruence names h
  have heach (e : Expr) (he : e ∈ arguments) : e.Within Set.univ names Set.univ :=
    ⟨Set.subset_univ _, fun store hstore => ⟨e, he, hstore⟩, Set.subset_univ _⟩
  have hmoved : Eval.Alike (Frame.Moved names) Frame.Extends (Expr.evalAll h arguments) (Expr.evalAll h arguments) :=
    hc.evalAll (c := Set.univ) (P := fun _ => True) (fun e he => hc.eval e (heach e he)) nofun
  replace hmoved := hmoved f₁ _ s₁ ⟨_, rfl, hshares⟩
  rw [hvalues] at hmoved
  refine (Eval.bind_of_ok hcallee _).trans ?_
  have henter : (Eval.enter name : Eval σ Unit) f₁ s₁ =
      (.ok ((), { f₁ with callStack := name :: f₁.callStack }), s₁) := rfl
  dsimp only
  rw [hscript]
  dsimp only
  rw [Eval.bind_of_ok henter]
  generalize hinside : Expr.evalAll h arguments { f₁ with callStack := name :: f₁.callStack } s₁ = r at hmoved
  cases hmoved with
  | returned related left right =>
    obtain ⟨stack, rfl, -⟩ := related
    obtain rfl : stack = name :: f₁.callStack := right.callStack
    -- leaving takes the name of the script off the stack again
    have hleave : ({ f₂ with callStack := f₁.callStack } : Frame) = f₂ := by rw [← left.callStack]
    rw [Eval.bind_of_ok hinside, Eval.bind_run, Eval.bind_run, Eval.lift_run, Eval.lift_run]
    rcases hcall : h.call name (values.map (·.text)) s₂ with ⟨fault | output, t⟩
    · rw [hcall]
    · rw [hcall]
      exact congrArg (fun frame => (Except.ok (Value.string output, frame), t)) hleave

/-- A host whose scripts repeat what they are called with. -/
def Host.parrot : Host Unit := { Host.echo with call := fun name arguments => pure (Text.join " " (name :: arguments)) }

def handingOn : Script where
  name := "!a"
  stores := [⟨"x", .stringLiteral "v"⟩]
  parameters := []
  statements := [.print (.call (.stringLiteral "!b") [.store "x" .string])]

theorem ofSource_handingOn : ofSource "!a" "STORE x = 'v'; PRINT '!b'(x);" = .ok handingOn := by
  cbv

/-- A script calls itself with the value of a store. -/
theorem call_passes_values_handingOn : let f := startFrame handingOn [(⟨"!a", "x"⟩, .string "v")] []
    let e : Expr := .store "x" .string
    Expr.evalAll .parrot [e] f () = (.ok ([.string "v"], f), ()) ∧
      (Expr.call (.stringLiteral "!a") [e]).eval .parrot f () = (.ok (.string "!a v", f), ()) := by
  intro f e
  have hcallee : (Expr.stringLiteral "!a").eval .parrot f () = (.ok (.string "!a", f), ()) := rfl
  have hvalues : Expr.evalAll .parrot [e] f () = (.ok ([.string "v"], f), ()) := rfl
  exact ⟨hvalues, call_passes_values .parrot hcallee rfl hvalues fun _ _ _ _ => rfl⟩

/-- A store of the script that calls is not found on behalf of the script that is called. -/
theorem exists_argument_not_passed :
    ∃ (source : String) (script : Script) (stores : Dict StoreKey Value) (callee : Expr) (arguments : List Expr)
      (name : String) (values : List Value), ofSource "!a" source = .ok script ∧
      script.Contains (.call callee arguments) ∧ initialStores Host.parrot "!a" [] script.stores () = (.ok stores, ()) ∧
      let f := startFrame script stores []
      callee.eval .parrot f () = (.ok (.string name, f), ()) ∧ Builtin.ofName? name = none ∧
        Expr.evalAll .parrot arguments f () = (.ok (values, f), ()) ∧
        (Expr.call callee arguments).eval .parrot f () = (.error (.storeMissing "x"), ()) := by
  exact ⟨_, handingOn, [(⟨"!a", "x"⟩, .string "v")], .stringLiteral "!b", [.store "x" .string], "!b", [.string "v"],
    ofSource_handingOn, .inr ⟨_, mem_singleton_self _, _, mem_singleton_self _, .here⟩, rfl, rfl, rfl, rfl, rfl⟩

end StreamBot.Script
