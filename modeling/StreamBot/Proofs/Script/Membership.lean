import Mathlib.Data.List.Forall2
import StreamBot.Proofs.Script.Soundness

/-! # Membership in lists

Elements are compared only as far as their types tell how to: the comparison of two values fails if they are of different
kinds.  Values of one type never get there, since the elements of well-formed lists of one type are again of one type, at every
depth (`same_tells`).

Main statement: `contains` tells whether an element is alike (`contains_decides`).
-/

namespace StreamBot.Script

open List

namespace Value

/-- Values of the same shape with equal leaves.  Numbers are compared as such: the two zeros are equal, and what is not a number
is not equal to itself. -/
inductive Alike : Value → Value → Prop where
  | number {x y : Float} (h : (x == y)) : Alike (.number x) (.number y)
  | string (s : String) : Alike (.string s) (.string s)
  | bool (b : Bool) : Alike (.bool b) (.bool b)
  | list {a b : DataType} {xs ys : List Value} (h : Forall₂ Alike xs ys) : Alike (.list a xs) (.list b ys)

/-- A comparison succeeds and tells whether something holds. -/
def Tells (r : Except BuiltinFault Bool) (P : Prop) : Prop := ∃ b, r = .ok b ∧ (b ↔ P)

theorem Tells.of_iff {r : Except BuiltinFault Bool} {P Q : Prop} (h : Tells r P) (hPQ : P ↔ Q) : Tells r Q :=
  h.imp fun _ hb => ⟨hb.1, hb.2.trans hPQ⟩

theorem Tells.yes {P : Prop} (h : P) : Tells (.ok true) P := ⟨true, rfl, by simpa using h⟩

theorem Tells.no {P : Prop} (h : ¬ P) : Tells (.ok false) P := ⟨false, rfl, by simpa using h⟩

mutual

/-- **Values of one type can be compared**, and are found equal if they are alike. -/
theorem same_tells : ∀ {x y : Value}, x.WellFormed → y.WellFormed → x.dataType = y.dataType → Tells (x.same y) (Alike x y)
  | .number x, .number y, _, _, _ => ⟨x == y, rfl, .number, fun | .number h => h⟩
  | .string s, .string t, _, _, _ => ⟨s == t, rfl, fun h => beq_iff_eq.1 h ▸ .string s, fun | .string _ => BEq.rfl⟩
  | .bool b, .bool c, _, _, _ => ⟨b == c, rfl, fun h => beq_iff_eq.1 h ▸ .bool b, fun | .bool _ => BEq.rfl⟩
  | .list a xs, .list b ys, hx, hy, htype => by
    obtain rfl := DataType.list.inj htype
    have hiff : Forall₂ Alike xs ys ↔ Alike (.list a xs) (.list a ys) := ⟨.list, fun | .list h => h⟩
    rw [same]
    by_cases hlength : xs.length = ys.length
    · rw [if_pos ⟨rfl, hlength⟩]
      exact (sameAll_tells hx hy hlength).of_iff hiff
    · rw [if_neg (hlength ·.2)]
      exact .no fun h => hlength (hiff.2 h).length_eq

theorem sameAll_tells {element : DataType} : ∀ {xs ys : List Value}, AllWellFormed element xs → AllWellFormed element ys →
    xs.length = ys.length → Tells (sameAll xs ys) (Forall₂ Alike xs ys)
  | [], [], _, _, _ => .yes .nil
  | x :: xs, y :: ys, ⟨hxtype, hx, hxs⟩, ⟨hytype, hy, hys⟩, hlength => by
    obtain ⟨b, hsame, hb⟩ := same_tells hx hy (hxtype.trans hytype.symm)
    rw [sameAll, hsame, forall₂_cons]
    cases b with
    | false => exact .no fun h => by simpa using hb.2 h.1
    | true =>
      have hrest := sameAll_tells hxs hys (Nat.succ.inj hlength)
      exact hrest.of_iff (and_iff_right (hb.1 rfl)).symm

end

theorem isAmong_tells {x : Value} {element : DataType} (hx : x.WellFormed) (htype : x.dataType = element) {vs : List Value}
    (hvs : AllWellFormed element vs) : Tells (x.isAmong vs) (∃ v ∈ vs, Alike x v) := by
  induction vs with
  | nil => exact .no (by simp)
  | cons v rest ih =>
    obtain ⟨hvtype, hv, hrest⟩ := hvs
    obtain ⟨b, hsame, hb⟩ := same_tells hx hv (htype.trans hvtype.symm)
    rw [isAmong, hsame]
    simp only [mem_cons, exists_eq_or_imp]
    cases b with
    | false => exact (ih hrest).of_iff (or_iff_right (by simpa using hb)).symm
    | true => exact .yes (.inl (hb.1 rfl))

end Value

variable {σ : Type} {h : Host σ} {f g k : Frame} {s t u : σ} {haystack needle : Expr} {xs x : Value}

theorem contains_eval (hxs : haystack.eval h f s = (.ok (xs, g), t)) (hx : needle.eval h g t = (.ok (x, k), u)) :
    (Expr.call (.stringLiteral "contains") [haystack, needle]).eval h f s =
      Eval.ofExcept (((xs.containsValue x).map fun b => .string (Value.boolText b)).mapError .builtin) k u := by
  show ((do return .string (← Builtin.contains.call h.world (Expr.arguments h [haystack, needle]))) : Eval σ Value) f s = _
  have hargs : Builtin.contains.call h.world (Expr.arguments h [haystack, needle]) f s =
      Eval.ofExcept (((xs.containsValue x).map Value.boolText).mapError .builtin) k u := by
    refine (Eval.bind_of_ok hxs _).trans ((Eval.bind_of_ok hx _).trans ?_)
    rw [Builtin.ofTwo]
    cases xs.containsValue x <;> rfl
  rw [Eval.bind_run, hargs]
  cases xs.containsValue x <;> rfl

/-- **`contains` tells whether an element of a list is alike.**  A value that is not of the type of the elements is refused.
Otherwise the answer is given, and never does a comparison get to values of different kinds. -/
theorem contains_decides {element : DataType} {elements : List Value}
    (hxs : haystack.eval h f s = (.ok (.list element elements, g), t)) (hx : needle.eval h g t = (.ok (x, k), u))
    (formed : (Value.list element elements).WellFormed) (needleFormed : x.WellFormed) :
    let call := (Expr.call (.stringLiteral "contains") [haystack, needle]).eval h f s
    (x.dataType ≠ element → call = (.error (.builtin (.containsElement x.dataType (.list element))), u)) ∧
    (x.dataType = element →
      ∃ b, call = (.ok (.string (Value.boolText b), k), u) ∧ (b = true ↔ ∃ v ∈ elements, x.Alike v)) ∧
    call.1 ≠ .error (.builtin .unlikeElements) := by
  intro call
  have hcall : call = _ := contains_eval hxs hx
  by_cases htype : x.dataType = element
  · obtain ⟨b, hamong, hb⟩ := x.isAmong_tells needleFormed htype formed
    have hok : call = (.ok (.string (Value.boolText b), k), u) := by
      rw [hcall, Value.containsValue, if_pos htype, hamong]
      rfl
    exact ⟨absurd htype, fun _ => ⟨b, hok, hb⟩, by simp [hok]⟩
  · have hrefused : call = (.error (.builtin (.containsElement x.dataType (.list element))), u) := by
      rw [hcall, Value.containsValue, if_neg htype]
      rfl
    exact ⟨fun _ => hrefused, (absurd · htype), by simp [hrefused]⟩

/-- A list is found in a list of lists, although one of its zeros has another sign. -/
theorem contains_decides_zeros : let numbers (xs : List Float) : Expr := .listLiteral .number (xs.map .numberLiteral)
    let f : Frame := { callStack := [] }
    (Expr.call (.stringLiteral "contains") [.listLiteral (.list .number) [numbers [], numbers [1.0, 0.0]],
      numbers [1.0, -0.0]]).eval .echo f () = (.ok (.string "true", f), ()) := by
  intro numbers f
  have hxs : (Expr.listLiteral (.list .number) [numbers [], numbers [1.0, 0.0]]).eval .echo f () =
      (.ok (.list (.list .number) [.list .number [], .list .number [.number 1.0, .number 0.0]], f), ()) := rfl
  have hx : (numbers [1.0, -0.0]).eval .echo f () = (.ok (.list .number [.number 1.0, .number (-0.0)], f), ()) := rfl
  have hcall := contains_decides hxs hx (by simp [Value.WellFormed, Value.AllWellFormed, Value.dataType])
    (by simp [Value.WellFormed, Value.AllWellFormed, Value.dataType])
  obtain ⟨b, htrue, hb⟩ := hcall.2.1 rfl
  have halike : b = true := hb.2 ⟨_, mem_cons_of_mem _ (mem_singleton_self _),
    .list (.cons (.number rfl) (.cons (.number rfl) .nil))⟩
  rwa [halike] at htrue

end StreamBot.Script
