import Mathlib.Data.List.Forall2
import StreamBot.Proofs.Script.Computation

/-! # Empty lists and their types

A list of empty lists takes a list type if it is nested no more deeply than the type, and otherwise the parser refuses it
(`reify_cases`).  What it becomes is a list literal for each of the lists, so that every property that such literals hand on
from their elements holds of it.

Main statement: `reify_empty_lists`.
-/

namespace StreamBot.Script

open List

/-- How many times a type says `list`. -/
def DataType.depth : DataType → Nat
  | list element => element.depth + 1
  | _ => 0

namespace EmptyLists

mutual

/-- How deeply lists are nested. -/
def depth : EmptyLists → Nat
  | nest members => depthOfAll members + 1

def depthOfAll : List EmptyLists → Nat
  | [] => 0
  | literal :: rest => max literal.depth (depthOfAll rest)

end

/-- A property of list literals that are made of empty lists, which they have if their elements have it. -/
def Inherited (P : DataType → EmptyLists → Expr → Prop) : Prop := ∀ {element members es},
  Forall₂ (fun literal e => ∃ inner, element = .list inner ∧ P inner literal e) members es →
    P element (.nest members) (.listLiteral element es)

mutual

theorem reify_cases {P : DataType → EmptyLists → Expr → Prop} (hP : Inherited P) (element : DataType) :
    ∀ literal : EmptyLists, (element.depth + 1 < literal.depth ∧ ∃ n, literal.reify element = .error (.notEmptyList n)) ∨
      literal.depth ≤ element.depth + 1 ∧ ∃ e, literal.reify element = .ok e ∧ P element literal e
  | .nest members => by
    rw [depth, reify.eq_def]
    cases element with
    | list inner =>
      dsimp only
      rw [DataType.depth]
      rcases reifyAll_cases hP inner members with ⟨hdeep, n, hall⟩ | ⟨hflat, es, hall, hes⟩
      · rw [hall]
        exact .inl ⟨by omega, n, rfl⟩
      · rw [hall]
        exact .inr ⟨by omega, _, rfl, hP (hes.imp fun _ _ h => ⟨inner, rfl, h⟩)⟩
    | number | string | bool =>
      cases members with
      | nil => exact .inr ⟨by simp [depthOfAll], _, rfl, hP .nil⟩
      | cons literal rest =>
        have hdeep : 0 < literal.depth := by cases literal; rw [depth]; omega
        exact .inl ⟨by simp only [DataType.depth, depthOfAll]; omega, _, rfl⟩

theorem reifyAll_cases {P : DataType → EmptyLists → Expr → Prop} (hP : Inherited P) (element : DataType) :
    ∀ members : List EmptyLists, (element.depth + 1 < depthOfAll members ∧
        ∃ n, reifyAll element members = .error (.notEmptyList n)) ∨
      depthOfAll members ≤ element.depth + 1 ∧ ∃ es, reifyAll element members = .ok es ∧ Forall₂ (P element) members es
  | [] => .inr ⟨Nat.zero_le _, [], rfl, .nil⟩
  | literal :: rest => by
    rw [depthOfAll, reifyAll]
    rcases reify_cases hP element literal with ⟨hdeep, n, hfirst⟩ | ⟨hflat, e, hfirst, he⟩
    · rw [hfirst]
      exact .inl ⟨by omega, n, rfl⟩
    · rw [hfirst]
      rcases reifyAll_cases hP element rest with ⟨hdeep, n, hrest⟩ | ⟨hflat', es, hrest, hes⟩
      · rw [hrest]
        exact .inl ⟨by omega, n, rfl⟩
      · rw [hrest]
        exact .inr ⟨by omega, _, rfl, .cons he hes⟩

end

/-- What the parser refuses is nested too deeply. -/
theorem fault_of_reify {element : DataType} {literal : EmptyLists} {fault : ParseFault}
    (h : literal.reify element = .error fault) : ∃ n, fault = .notEmptyList n := by
  rcases reify_cases (P := fun _ _ _ => True) (fun _ => trivial) element literal with ⟨-, n, hrefused⟩ | ⟨-, e, hok, -⟩
  · exact ⟨n, Except.error.inj (h.symm.trans hrefused)⟩
  · cases h.symm.trans hok

theorem Inherited.of_reify {P : DataType → EmptyLists → Expr → Prop} (hP : Inherited P) {element : DataType}
    {literal : EmptyLists} {e : Expr} (h : literal.reify element = .ok e) : P element literal e := by
  rcases reify_cases hP element literal with ⟨-, n, hrefused⟩ | ⟨-, d, hok, hd⟩
  · cases h.symm.trans hrefused
  · exact Except.ok.inj (h.symm.trans hok) ▸ hd

end EmptyLists

/-! ### Shapes -/

mutual

/-- The shape of an expression that is made of nothing but list literals. -/
def Expr.shape? : Expr → Option EmptyLists
  | .listLiteral _ elements => (Expr.shapes? elements).map .nest
  | _ => none

def Expr.shapes? : List Expr → Option (List EmptyLists)
  | [] => some []
  | e :: rest => do return (← e.shape?) :: (← Expr.shapes? rest)

end

mutual

/-- The shape of a value that is made of nothing but lists. -/
def Value.shape? : Value → Option EmptyLists
  | .list _ elements => (Value.shapes? elements).map .nest
  | _ => none

def Value.shapes? : List Value → Option (List EmptyLists)
  | [] => some []
  | v :: rest => do return (← v.shape?) :: (← Value.shapes? rest)

end

/-- An expression of a list type has the given shape, and so has its value, which is the same everywhere. -/
structure Embodies (element : DataType) (literal : EmptyLists) (e : Expr) (v : Value) : Prop where
  typed : e.dataType = .ok (.list element)
  shaped : e.shape? = some literal
  wellFormed : v.WellFormed
  valueTyped : v.dataType = .list element
  valueShaped : v.shape? = some literal
  evaluates : ∀ {σ : Type} (h : Host σ) (f : Frame) (s : σ), e.eval h f s = (.ok (v, f), s)

theorem inherited_embodies : EmptyLists.Inherited fun element literal e => ∃ v, Embodies element literal e v := by
  intro element members es hparts
  have hall : ∃ vs, Expr.shapes? es = some members ∧ Value.AllWellFormed element vs ∧ Value.shapes? vs = some members ∧
      ∀ {σ : Type} (h : Host σ) (f : Frame) (s : σ), Expr.evalAll h es f s = (.ok (vs, f), s) := by
    induction hparts with
    | nil => exact ⟨[], rfl, trivial, rfl, fun _ _ _ => rfl⟩
    | @cons literal e members es hfirst _ ih =>
      obtain ⟨inner, rfl, v, hv⟩ := hfirst
      obtain ⟨vs, hshapes, hformed, hvalues, heval⟩ := ih
      refine ⟨v :: vs, ?_, ⟨hv.valueTyped, hv.wellFormed, hformed⟩, ?_, fun h f s => ?_⟩
      · rw [Expr.shapes?, hv.shaped, hshapes]
        rfl
      · rw [Value.shapes?, hv.valueShaped, hvalues]
        rfl
      · exact (Eval.bind_of_ok (hv.evaluates h f s) _).trans (Eval.bind_of_ok (heval h f s) _)
  obtain ⟨vs, hshapes, hformed, hvalues, heval⟩ := hall
  refine ⟨.list element vs, rfl, ?_, hformed, rfl, ?_, fun h f s => ?_⟩
  · rw [Expr.shape?, hshapes]
    rfl
  · rw [Value.shape?, hvalues]
    rfl
  · exact Eval.bind_of_ok (heval h f s) _

theorem reify_empty_lists (literal : EmptyLists) (element : DataType) :
    ((∃ n, literal.reify element = .error (.notEmptyList n)) ↔ (DataType.list element).depth < literal.depth) ∧
    (literal.depth ≤ (DataType.list element).depth → ∃ e, literal.reify element = .ok e ∧ ∃ v, Embodies element literal e v) := by
  rw [DataType.depth]
  rcases EmptyLists.reify_cases inherited_embodies element literal with ⟨hdeep, n, hrefused⟩ | ⟨hflat, e, hok, he⟩
  · exact ⟨⟨fun _ => hdeep, fun _ => ⟨n, hrefused⟩⟩, fun h => absurd hdeep (by omega)⟩
  · refine ⟨⟨?_, fun h => absurd hflat (by omega)⟩, fun _ => ⟨e, hok, he⟩⟩
    rintro ⟨n, hrefused⟩
    cases hrefused.symm.trans hok

end StreamBot.Script
