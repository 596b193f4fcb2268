import StreamBot.Proofs.Script.Soundness

/-! # Variables that are not in scope

Loops write their variables into the frame and leave them there, so a frame has variables that are not in
scope where an expression stands.  The expression does not notice: from two frames that have the variables in
scope in common it comes to the same end (`eval_eq_of_inScope`).

`Eval.Alike` relates the two runs.  Variables that are known have the same values in both, and whatever a loop
sets is known in its bodies; what is not set by a loop stays as it is.  That loops set no variable in scope
follows from static scoping.
-/

namespace StreamBot.Script

open List Eval

variable {name : String} {e : Expr} {script : Script}
variable {σ α β : Type}
variable {known : Known}

/-! ### Frames that are alike -/

/-- Two frames differ in variables only, and in none of the given ones. -/
structure Frame.Alike (names : Set String) (f g : Frame) : Prop extends f.Extends g where
  bindings : ∀ name ∈ names, Dict.get? f.bindings name = Dict.get? g.bindings name

namespace Frame.Alike

variable {names : Set String} {f g k : Frame}

theorem refl (names : Set String) (f : Frame) : f.Alike names f := ⟨.refl f, fun _ _ => rfl⟩

theorem trans (hfg : f.Alike names g) (hgk : g.Alike names k) : f.Alike names k where
  toExtends := hfg.toExtends.trans hgk.toExtends
  bindings name hname := (hfg.bindings name hname).trans (hgk.bindings name hname)

theorem mono {others : Set String} (h : f.Alike names g) (hsub : others ⊆ names) : f.Alike others g :=
  ⟨h.toExtends, fun name hname => h.bindings name (hsub hname)⟩

theorem setBoth (h : f.Alike names g) (name : String) (v : Value) :
    Frame.Alike (insert name names) { f with bindings := Dict.set f.bindings name v }
      { g with bindings := Dict.set g.bindings name v } where
  toExtends := ⟨h.callStack, h.stores, h.parameters⟩
  bindings other hother := by
    by_cases heq : other = name
    · rw [heq, Dict.get?_set_self, Dict.get?_set_self]
    · rw [Dict.get?_set_of_ne _ _ heq, Dict.get?_set_of_ne _ _ heq]
      exact h.bindings other (hother.resolve_left heq)

theorem setOther (hname : name ∉ names) (f : Frame) (v : Value) :
    Frame.Alike names { f with bindings := Dict.set f.bindings name v } f where
  toExtends := ⟨rfl, rfl, rfl⟩
  bindings other hother := by
    refine Dict.get?_set_of_ne _ _ ?_
    rintro rfl
    exact hname hother

theorem owner (h : f.Alike names g) : f.owner = g.owner := by
  rw [Frame.owner, h.callStack, Frame.owner]

theorem enter (h : f.Alike names g) (script : String) : Frame.Alike names { f with callStack := script :: f.callStack }
      { g with callStack := script :: g.callStack } :=
  ⟨⟨congrArg (script :: ·) h.callStack, h.stores, h.parameters⟩, h.bindings⟩

theorem leave (h : f.Alike names g) :
    Frame.Alike names { f with callStack := f.callStack.tail } { g with callStack := g.callStack.tail } :=
  ⟨⟨congrArg List.tail h.callStack, h.stores, h.parameters⟩, h.bindings⟩

end Frame.Alike

/-! ### Runs that end alike -/

/-- Two runs end alike that have started in the frames `f` and `g`: both with the same failure, or both with the same
result, in related frames, and either frame has kept what it should. -/
inductive EndAlike (R kept : Frame → Frame → Prop) (f g : Frame) :
    Except Fault (α × Frame) × σ → Except Fault (α × Frame) × σ → Prop where
  | returned {a : α} {f' g' : Frame} {s : σ} (related : R f' g') (left : kept f' f) (right : kept g' g) :
      EndAlike R kept f g (.ok (a, f'), s) (.ok (a, g'), s)
  | failed {fault : Fault} {s : σ} : EndAlike R kept f g (.error fault, s) (.error fault, s)

theorem EndAlike.earlier {R S kept : Frame → Frame → Prop} {f f' g g' : Frame} {r r' : Except Fault (α × Frame) × σ}
    [Chained kept] (h : EndAlike S kept f' g' r r') (hS : ∀ f g, S f g → R f g) (hf : kept f' f) (hg : kept g' g) :
    EndAlike R kept f g r r' := by
  cases h with
  | returned related left right => exact .returned (hS _ _ related) (Chained.trans left hf) (Chained.trans right hg)
  | failed => exact .failed

/-- Two computations that start in related frames end alike. -/
def Eval.Alike (R kept : Frame → Frame → Prop) (x y : Eval σ α) : Prop :=
  ∀ (f g : Frame) (s : σ), R f g → EndAlike R kept f g (x f s) (y g s)

namespace Eval.Alike

variable {R kept : Frame → Frame → Prop}

theorem throw (fault : Fault) : Alike R kept (MonadExcept.throw fault : Eval σ α) (MonadExcept.throw fault) :=
  fun _ _ _ _ => .failed

variable [Chained kept]

theorem pure (a : α) : Alike R kept (Pure.pure a : Eval σ α) (Pure.pure a) :=
  fun f g _ hfg => .returned hfg (Chained.refl f) (Chained.refl g)

theorem bind {x y : Eval σ α} {p q : α → Eval σ β} (hxy : Alike R kept x y)
    (hpq : ∀ a, Alike R kept (p a) (q a)) : Alike R kept (x >>= p) (y >>= q) := by
  intro f g s hfg
  have hfirst := hxy f g s hfg
  rw [bind_run, bind_run]
  generalize x f s = r, y g s = r' at hfirst ⊢
  cases hfirst with
  | returned related left right => exact .earlier (hpq _ _ _ _ related) (fun _ _ => id) left right
  | failed => exact .failed

theorem lift (x : Act σ α) : Alike R kept (liftM x : Eval σ α) (liftM x) := by
  intro f g s hfg
  rw [lift_run, lift_run]
  rcases x s with ⟨_ | a, t⟩
  · exact .failed
  · exact .returned hfg (Chained.refl f) (Chained.refl g)

theorem read {kind : NameKind} {name : String} {type : DataType} {missing : Fault} (found : Frame → Option Value)
    (hmissing : missing.ofStatement = false) (hsame : ∀ f g, R f g → found f = found g) :
    Alike R kept
      (do match found (← get) with | some v => checkedRead kind name type v | none => MonadExcept.throw missing : Eval σ Value)
      (do match found (← get) with | some v => checkedRead kind name type v | none => MonadExcept.throw missing) := by
  intro f g s hfg
  rw [get_run, get_run, ← hsame f g hfg]
  exact related_read (Alike R kept) pure (fun _ => .throw _) hmissing (found f) f g s hfg

omit [Chained kept] in
theorem onBehalf (script : String) {x y : Eval σ α} (hxy : Alike R kept x y) (henter : ∀ f g, R f g →
      R { f with callStack := script :: f.callStack } { g with callStack := script :: g.callStack })
    (hleave : ∀ f g f' g', R f g → R f' g' → kept f' { f with callStack := script :: f.callStack } →
      kept g' { g with callStack := script :: g.callStack } →
      R { f' with callStack := f'.callStack.tail } { g' with callStack := g'.callStack.tail })
    (hback : ∀ f f', kept f' { f with callStack := script :: f.callStack } →
      kept { f' with callStack := f'.callStack.tail } f) :
    Alike R kept (do enter script; let a ← x; leave; return a) (do enter script; let a ← y; leave; return a) := by
  intro f g s hfg
  have hinside := hxy _ _ s (henter f g hfg)
  change EndAlike R kept f g ((x >>= fun a => leave >>= fun _ => Pure.pure a) _ s)
    ((y >>= fun a => leave >>= fun _ => Pure.pure a) _ s)
  rw [bind_run, bind_run]
  generalize x _ s = r, y _ s = r' at hinside ⊢
  cases hinside with
  | returned related left right =>
    exact .returned (hleave f g _ _ hfg related left right) (hback f _ left) (hback g _ right)
  | failed => exact .failed

end Eval.Alike

theorem alike_congruence (writable : Set String) (h : Host σ) :
    Congruence (.untyped Set.univ writable) h h fun known {α} _ (x : Eval σ α) y =>
      Alike (Frame.Alike known) (Frame.Alike writableᶜ) x y := by
  have : Chained (Frame.Alike writableᶜ) := ⟨.refl _, .trans⟩
  exact {
    world := rfl
    pure := fun _ => .pure _
    throw := fun _ => .throw _
    bind := fun first second => .bind first fun a => second a nofun
    readStore := fun _ => .read (fun f => Dict.get? f.stores ⟨f.owner, _⟩) rfl fun f g hfg => by
      rw [hfg.owner, hfg.stores]
    readParameter := fun _ => .read (fun f => Dict.get? f.parameters _) rfl fun f g hfg => by rw [hfg.parameters]
    readVariable := fun hname => .read (fun f => Dict.get? f.bindings _) rfl fun f g hfg => hfg.bindings _ hname
    setVariable := by
      -- the variable is known from then on
      rintro _ _ _ _ _ _ v _ _ ⟨hname, rfl⟩ - hrest f g s hfg
      exact .earlier (hrest _ _ s (hfg.setBoth _ v)) (fun _ _ h => h.mono (Set.subset_insert _ _))
        (.setOther (not_not_intro hname) f v) (.setOther (not_not_intro hname) g v)
    onBehalf := fun script inside => .onBehalf script inside (fun _ _ hfg => hfg.enter script)
      (fun _ _ _ _ _ hfg _ _ => hfg.leave) fun _ _ hkept => hkept.leave
    call := fun _ _ => .lift _
    evaluate := fun _ => .lift _ }

theorem eval_alike (h : Host σ) {known : Set String} (hreads : e.freeVariables ⊆ known) {f g : Frame}
    (hfg : f.Alike known g) (s : σ) :
    EndAlike (Frame.Alike known) (Frame.Alike e.loopVariablesᶜ) f g (e.eval h f s) (e.eval h g s) :=
  (alike_congruence e.loopVariables h).eval e ⟨hreads, Set.subset_univ _, subset_rfl⟩ f g s hfg

theorem eval_keeps {h : Host σ} {f g : Frame} {s t : σ} {v : Value} (hr : e.eval h f s = (.ok (v, g), t))
    : g.Alike e.loopVariablesᶜ f := by
  have hend := eval_alike h (Set.subset_univ e.freeVariables) (.refl Set.univ f) s
  rw [hr] at hend
  cases hend with
  | returned _ kept _ => exact kept

/-! ### The variables in scope -/

def Known.variableNames (known : Known) : Set String := {name | name ∈ known.bindings.map Prod.fst}

theorem Expr.OccursUnder.trans {inner outer : List (String × Option DataType)} {c d : Expr} (hc : c.OccursUnder inner d)
    (hd : d.OccursUnder outer e) : c.OccursUnder (outer ++ inner) e := by
  induction hd with
  | here => exact hc
  | ahead member _ ih => exact .ahead member ih
  | within member _ ih =>
    rw [append_assoc]
    exact .within member ih

/-- A part of an expression stands in a place of its own, where the variables of the loops around it are known
as well. -/
theorem Places.part {d : Expr} {bindings : List (String × Option DataType)} (he : script.Places known e)
    (hd : d.OccursUnder bindings e) : script.Places ⟨known.stores, known.parameters, known.bindings ++ bindings⟩ d := by
  cases he with
  | initialiser declared occurs => exact .initialiser declared (hd.trans occurs)
  | statement executed part occurs =>
    have hplace := Places.statement executed part (hd.trans occurs)
    rwa [← append_assoc] at hplace

theorem Known.Admits.fresh (h : known.Admits e) : ∀ v ∈ e.binders, v.1 ∉ known.names := by
  cases e with
  | store | parameter | var => exact fun v hv => nomatch hv
  | _ => exact h

theorem AcceptedScript.freeVariables_subset (ha : AcceptedScript script) (hplace : script.Places known e)
    : e.freeVariables ⊆ known.variableNames := by
  rintro name ⟨bindings, type, hoccurs, hfree⟩
  have hadmits : (known.bindings ++ bindings).lookup name = some (some type) :=
    ha.admits (hplace.part hoccurs)
  have hmem := mem_map_of_mem (f := Prod.fst) (Dict.mem_of_get? hadmits)
  rw [map_append, mem_append] at hmem
  exact hmem.resolve_right hfree

theorem AcceptedScript.disjoint_loopVariables (ha : AcceptedScript script) (hplace : script.Places known e) :
    known.variableNames ⊆ e.loopVariablesᶜ := by
  rintro name hname ⟨d, hd, hbinder⟩
  obtain ⟨bindings, hoccurs⟩ := Expr.occurs_iff.mp hd
  obtain ⟨v, hv, rfl⟩ := mem_map.mp hbinder
  refine (ha.admits (hplace.part hoccurs)).fresh v hv ?_
  simp only [Known.names, map_append, mem_append]
  exact .inr (.inl hname)

/-- **What loops leave behind has no influence.**  Let an expression stand anywhere in the script of a source
text, and start in two frames that differ only in variables that are not in scope there.  Then it has the same
value or the same failure and does the same to the state of the host; and the variables in scope are
afterwards what they were. -/
theorem eval_eq_of_inScope {name source : String} {script : Script}
    (accepted : ofSource name source = .ok script) {known : Known} {e : Expr}
    (place : script.Places known e) (h : Host σ) {f g : Frame} (alike : f.Alike known.variableNames g)
    (s : σ) :
    (e.eval h f s).1.map Prod.fst = (e.eval h g s).1.map Prod.fst ∧
    (e.eval h f s).2 = (e.eval h g s).2 ∧
    ∀ v f' t, e.eval h f s = (.ok (v, f'), t) → f'.Alike known.variableNames f := by
  obtain ⟨-, ha⟩ := acceptedScript_of_ofSource accepted
  have hend := eval_alike h (ha.freeVariables_subset place) alike s
  have hkept : ∀ v f' t, e.eval h f s = (.ok (v, f'), t) → f'.Alike known.variableNames f :=
    fun v f' t hr => (eval_keeps hr).mono (ha.disjoint_loopVariables place)
  generalize e.eval h f s = r, e.eval h g s = r' at hend hkept ⊢
  cases hend with
  | returned => exact ⟨rfl, rfl, hkept⟩
  | failed => exact ⟨rfl, rfl, hkept⟩

/-- The inner one of two loops, in a frame in which other loops have left variables of the same names. -/
theorem eval_eq_of_inScope_nestedLoops :
    let e : Expr := .fold (.var "x" .string) (.parameter "p") "a" "c" (.var "c" .string)
    let f : Frame := { callStack := ["!a"], parameters := [("p", .string "q")],
                       bindings := [("n", .string "uv"), ("x", .string "v")] }
    let g : Frame := { f with bindings := f.bindings ++ [("c", .bool true), ("a", .number 1)] }
    (e.eval .echo f ()).1.map Prod.fst = .ok (.string "v") ∧
      (e.eval .echo f ()).1.map Prod.fst = (e.eval .echo g ()).1.map Prod.fst := by
  intro e f g
  let known : Known := ⟨[], ["p"], [("n", some .string), ("x", some .string)]⟩
  let outer : Expr := .comprehension (.var "n" .string) "x" none e
  have hexecuted : nestedLoops.statements = [.define "n" .string (.parameter "p")] ++ .print outer :: [] := rfl
  have hunder : e.OccursUnder (outer.binders ++ []) outer := .within (mem_singleton_self _) .here
  have hplace : nestedLoops.Places known e := .statement hexecuted mem_cons_self hunder
  have halike : f.Alike known.variableNames g := by
    refine ⟨⟨rfl, rfl, rfl⟩, fun name hname => ?_⟩
    obtain rfl | rfl : name = "n" ∨ name = "x" := by simpa [known, Known.variableNames] using hname
    · rfl
    · rfl
  exact ⟨rfl, (eval_eq_of_inScope ofSource_nestedLoops hplace .echo halike ()).1⟩

end StreamBot.Script
