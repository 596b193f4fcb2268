import StreamBot.Proofs.Script.Soundness

/-! # Sorting and ranges

A comparison of a script may do anything to the variables and to the host.  As far as it answers, from the contexts that it
leads to, only by the two values that it compares (`Decides`), the sorted list is the one that a merge sort without effects
gives (`Eval.Answers.mergeSortM`).  That list is a rearrangement whatever the answers are; it is in order, and equivalent elements
stay in their order, if the answers are those of a strict weak order (`arranged_sortBy`).

Main statements: `sort_arranges`, for comparisons and for numbers without one, and `sort_numbers_eq`: on numbers the sort
without a comparison is the one that compares with `<`.

A range holds the integers from its start to its end, up or down, as doubles.  Whether it goes up or down is a matter of its
step (`steps`), and so each of its laws (`range_laws`) is one about integers in steps.
-/

namespace StreamBot

open List

section Lists

variable {α : Type} {lt : α → α → Bool} {all xs ys : List α} {v x y : α}

/-! ### Strict weak orders -/

/-- A strict weak order of some elements: of two elements at most one is less than the other, and whatever is less than
another is less than any third one or has it below that one. -/
structure StrictWeak (lt : α → α → Bool) (all : List α) : Prop where
  asymm : ∀ x ∈ all, ∀ y ∈ all, lt x y → lt y x = false
  cotrans : ∀ x ∈ all, ∀ y ∈ all, ∀ z ∈ all, lt x z → lt x y ∨ lt y z

def equivalent (lt : α → α → Bool) (v x : α) : Bool := !lt v x && !lt x v

/-- A list with the elements of another one.  If they are ordered, then so is the list, and equivalent elements stand in it in
the order that they had. -/
structure Arranged (lt : α → α → Bool) (all sorted : List α) : Prop where
  perm : sorted.Perm all
  ordered : StrictWeak lt all → sorted.Pairwise fun x y => lt y x = false
  stable : StrictWeak lt all → ∀ v ∈ all, sorted.filter (equivalent lt v) = all.filter (equivalent lt v)

/-- The left element comes first unless only the right one is less than the other. -/
def precedes (lt : α → α → Bool) (x y : α) : Bool := lt x y || !lt y x

/-! ### Ranks -/

/-- How many of the elements are less than this one. -/
def rank (lt : α → α → Bool) (all : List α) (x : α) : ℕ := all.countP (lt · x)

theorem StrictWeak.lt_iff (h : StrictWeak lt all) (hx : x ∈ all) (hy : y ∈ all) :
    lt x y ↔ rank lt all x < rank lt all y := by
  constructor
  · intro hxy
    -- whatever is less than `x` is less than `y`, and `x` is not less than itself
    have hle (z : α) (hz : z ∈ all) (hzx : lt z x) : lt z y :=
      (h.cotrans z hz y hy x hx hzx).resolve_right (by simp [h.asymm x hx y hy hxy])
    have hxx : lt x x = false := by
      by_contra hlt
      exact hlt (h.asymm x hx x hx (by simpa using hlt))
    obtain ⟨before, after, rfl⟩ := append_of_mem hx
    have hbefore := countP_mono_left fun z hz => hle z (mem_append_left _ hz)
    have hafter := countP_mono_left fun z hz => hle z (mem_append_right _ (mem_cons_of_mem _ hz))
    simp only [rank, countP_append, countP_cons, hxx, hxy]
    simp only [Bool.false_eq_true, if_false, if_true]
    omega
  · intro hrank
    by_contra hxy
    have hle : rank lt all y ≤ rank lt all x :=
      countP_mono_left fun z hz hzy => (h.cotrans z hz x hx y hy hzy).resolve_right hxy
    omega

theorem StrictWeak.eq_false_iff (h : StrictWeak lt all) (hx : x ∈ all) (hy : y ∈ all) :
    lt y x = false ↔ rank lt all x ≤ rank lt all y := by
  rw [← Bool.not_eq_true, h.lt_iff hy hx, not_lt]

/-! ### Merging -/

/-- Merging by ranks does not mix up elements of the same rank: those of the left list come first. -/
theorem filter_merge {r : α → ℕ} {k : ℕ} (sorted : xs.Pairwise fun x y => r x ≤ r y) :
    (xs.merge ys fun x y => r x ≤ r y).filter (r · = k) = xs.filter (r · = k) ++ ys.filter (r · = k) := by
  induction xs generalizing ys with
  | nil => simp
  | cons x xs ih =>
    obtain ⟨habove, hrest⟩ := pairwise_cons.1 sorted
    induction ys with
    | nil => simp
    | cons y ys ih' =>
      rw [cons_merge_cons]
      split
      case isTrue =>
        rw [filter_cons, filter_cons, ih hrest]
        split <;> rfl
      case isFalse hle =>
        rw [filter_cons, ih', filter_cons (x := y)]
        split
        case isFalse => rfl
        case isTrue hy =>
          -- all elements on the left have a higher rank than `y`
          have hnone : (x :: xs).filter (r · = k) = [] := by
            rw [filter_eq_nil_iff, forall_mem_cons]
            simp only [decide_eq_true_eq] at hle hy ⊢
            exact ⟨by omega, fun z hz => by have := habove z hz; omega⟩
          rw [hnone, nil_append, nil_append]

/-! ### The sort without effects -/

def sortBy (le : α → α → Bool) (xs : List α) : List α :=
  if h : xs.length ≤ 1 then xs
  else (sortBy le (xs.take (xs.length / 2))).merge (sortBy le (xs.drop (xs.length / 2))) le
termination_by xs.length
decreasing_by all_goals simp; omega

theorem perm_sortBy (le : α → α → Bool) (xs : List α) : (sortBy le xs).Perm xs := by
  fun_induction sortBy le xs with
  | case1 => exact .refl _
  | case2 xs _ ihLeft ihRight =>
    have hparts := ihLeft.append ihRight
    rw [take_append_drop] at hparts
    exact (merge_perm_append le).trans hparts

theorem mem_sortBy {le : α → α → Bool} : x ∈ sortBy le xs ↔ x ∈ xs := (perm_sortBy le xs).mem_iff

theorem sortBy_congr {le le' : α → α → Bool} (h : ∀ x ∈ xs, ∀ y ∈ xs, le x y = le' x y) : sortBy le xs = sortBy le' xs := by
  fun_induction sortBy le xs with
  | case1 xs hshort => rw [sortBy, dif_pos hshort]
  | case2 xs hlong ihLeft ihRight =>
    rw [sortBy.eq_def le', dif_neg hlong, ← ihLeft fun x hx y hy => h x (mem_of_mem_take hx) y (mem_of_mem_take hy),
      ← ihRight fun x hx y hy => h x (mem_of_mem_drop hx) y (mem_of_mem_drop hy)]
    refine (map_id _).symm.trans ((map_merge fun x hx y hy => ?_).trans (by rw [map_id, map_id]))
    exact h x (mem_of_mem_take (mem_sortBy.1 hx)) y (mem_of_mem_drop (mem_sortBy.1 hy))

theorem ordered_sortBy (r : α → ℕ) (xs : List α) :
    (sortBy (fun x y => r x ≤ r y) xs).Pairwise fun x y => r x ≤ r y := by
  fun_induction sortBy (fun x y => r x ≤ r y) xs with
  | case1 xs hshort =>
    rcases xs with _ | ⟨x, _ | ⟨y, xs⟩⟩
    · exact .nil
    · exact pairwise_singleton _ _
    · simp at hshort
  | case2 xs _ ihLeft ihRight =>
    refine (pairwise_merge ?_ ?_ _ _ (ihLeft.imp decide_eq_true) (ihRight.imp decide_eq_true)).imp of_decide_eq_true
    · grind
    · grind

theorem filter_sortBy (r : α → ℕ) (k : ℕ) (xs : List α) :
    (sortBy (fun x y => r x ≤ r y) xs).filter (r · = k) = xs.filter (r · = k) := by
  fun_induction sortBy (fun x y => r x ≤ r y) xs with
  | case1 => rfl
  | case2 xs _ ihLeft ihRight =>
    rw [filter_merge (ordered_sortBy r _), ihLeft, ihRight, ← filter_append, take_append_drop]

theorem arranged_sortBy (lt : α → α → Bool) (xs : List α) : Arranged lt xs (sortBy (precedes lt) xs) := by
  have hranks (h : StrictWeak lt xs) :
      sortBy (precedes lt) xs = sortBy (fun x y => rank lt xs x ≤ rank lt xs y) xs := by
    refine sortBy_congr fun x hx y hy => ?_
    have hxy := h.lt_iff hx hy
    have hyx := h.eq_false_iff hx hy
    rw [precedes]
    grind
  refine ⟨perm_sortBy _ _, fun h => ?_, fun h v hv => ?_⟩
  · rw [hranks h]
    exact (ordered_sortBy _ xs).imp_of_mem fun hx hy => (h.eq_false_iff (mem_sortBy.1 hx) (mem_sortBy.1 hy)).2
  · have hsame {x : α} (hx : x ∈ xs) : equivalent lt v x = decide (rank lt xs x = rank lt xs v) := by
      have hvx := h.eq_false_iff hv hx
      have hxv := h.eq_false_iff hx hv
      rw [equivalent]
      grind
    rw [filter_congr fun x hx => hsame (mem_sortBy.1 hx), hranks h, filter_sortBy, filter_congr fun x hx => hsame hx]

end Lists

namespace Script

variable {σ α β : Type} {I : Frame → σ → Prop}

/-! ### Computations that give a known answer -/

/-- From all contexts of a kind, a computation returns the same result, and leads to such a context again. -/
def Eval.Answers (I : Frame → σ → Prop) (x : Eval σ α) (a : α) : Prop :=
  ∀ f s, I f s → ∃ g t, x f s = (.ok (a, g), t) ∧ I g t

namespace Eval.Answers

theorem pure (a : α) : Answers I (Pure.pure a : Eval σ α) a := fun f s h => ⟨f, s, rfl, h⟩

theorem bind {x : Eval σ α} {k : α → Eval σ β} {a : α} {b : β} (hx : x.Answers I a) (hk : (k a).Answers I b) :
    (x >>= k).Answers I b := by
  intro f s h
  obtain ⟨g, t, hrun, h⟩ := hx f s h
  rw [Eval.bind_of_ok hrun]
  exact hk g t h

theorem mergeM {takeLeft : α → α → Eval σ Bool} {le : α → α → Bool} {xs ys : List α}
    (h : ∀ x ∈ xs, ∀ y ∈ ys, (takeLeft x y).Answers I (le x y)) :
    (StreamBot.mergeM takeLeft xs ys).Answers I (xs.merge ys le) := by
  fun_induction StreamBot.mergeM takeLeft xs ys with
  | case1 ys => simpa using pure ys
  | case2 xs => simpa using pure xs
  | case3 x xs y ys ihLeft ihRight =>
    rw [cons_merge_cons]
    refine bind (h x mem_cons_self y mem_cons_self) ?_
    cases le x y with
    | true => exact bind (ihLeft fun x' hx' => h x' (mem_cons_of_mem _ hx')) (pure _)
    | false => exact bind (ihRight fun x' hx' y' hy' => h x' hx' y' (mem_cons_of_mem _ hy')) (pure _)

theorem mergeSortM {takeLeft : α → α → Eval σ Bool} {le : α → α → Bool} {xs : List α}
    (h : ∀ x ∈ xs, ∀ y ∈ xs, (takeLeft x y).Answers I (le x y)) :
    (StreamBot.mergeSortM takeLeft xs).Answers I (sortBy le xs) := by
  fun_induction StreamBot.mergeSortM takeLeft xs with
  | case1 xs hshort =>
    rw [sortBy, dif_pos hshort]
    exact pure xs
  | case2 xs hlong ihLeft ihRight =>
    rw [sortBy, dif_neg hlong]
    refine bind (ihLeft fun x hx y hy => h x (mem_of_mem_take hx) y (mem_of_mem_take hy)) ?_
    refine bind (ihRight fun x hx y hy => h x (mem_of_mem_drop hx) y (mem_of_mem_drop hy)) ?_
    refine mergeM fun x hx y hy => h x ?_ y ?_
    · exact mem_of_mem_take (mem_sortBy.1 hx)
    · exact mem_of_mem_drop (mem_sortBy.1 hy)

end Eval.Answers

/-! ### Numbers -/

section Numbers

open Float.Model (UnpackedFloat)

/-- Where a number stands among all numbers: by its sign and by whether it is infinite, then by its exponent and then by its
mantissa. -/
def place : UnpackedFloat → ℤ ×ₗ ℤ ×ₗ ℤ
  | .infinity .negative => toLex (-2, toLex (0, 0))
  | .finite .negative m e _ => toLex (-1, toLex (-e, -m))
  | .zero _ | .notANumber => toLex (0, toLex (0, 0))
  | .finite .positive m e _ => toLex (1, toLex (e, m))
  | .infinity .positive => toLex (2, toLex (0, 0))

theorem lt_iff_place {a b : UnpackedFloat} (ha : a.isNaN = false) (hb : b.isNaN = false) :
    a.lt b ↔ place a < place b := by
  rw [UnpackedFloat.lt]
  rcases a with (_ | _) | _ | _ | ⟨_ | _, m, e, hm⟩ <;> rcases b with (_ | _) | _ | _ | ⟨_ | _, n, d, hn⟩ <;>
    simp_all [UnpackedFloat.compare, UnpackedFloat.isNaN, place, Prod.Lex.toLex_lt_toLex]
  case infinity.negative.infinity.positive => rfl
  case finite.negative.finite.negative => rw [Ordering.then_eq_gt, compare_gt_iff_gt, compare_gt_iff_gt, compare_eq_iff_eq]
  case finite.positive.finite.positive => rw [Ordering.then_eq_lt, compare_lt_iff_lt, compare_lt_iff_lt, compare_eq_iff_eq]

def numberLess : Value → Value → Bool
  | .number l, .number r => decide (l < r)
  | _, _ => false

theorem numberLess_iff {l r : Float} (hl : l.isNaN = false) (hr : r.isNaN = false) :
    numberLess (.number l) (.number r) ↔ place l.toModel.unpack < place r.toModel.unpack := by
  have hless : l < r ↔ l.toModel.unpack.lt r.toModel.unpack := decide_eq_true_iff
  rw [← lt_iff_place hl hr, ← hless]
  exact decide_eq_true_iff

theorem strictWeak_numberLess {elements : List Value} (h : ∀ v ∈ elements, ∃ x : Float, v = .number x ∧ x.isNaN = false) :
    StrictWeak numberLess elements where
  asymm v hv w hw hless := by
    obtain ⟨x, rfl, hx⟩ := h v hv
    obtain ⟨y, rfl, hy⟩ := h w hw
    rw [numberLess_iff hx hy] at hless
    rw [← Bool.not_eq_true, numberLess_iff hy hx]
    exact hless.asymm
  cotrans u hu v hv w hw hless := by
    obtain ⟨x, rfl, hx⟩ := h u hu
    obtain ⟨y, rfl, hy⟩ := h v hv
    obtain ⟨z, rfl, hz⟩ := h w hw
    rw [numberLess_iff hx hz] at hless
    rw [numberLess_iff hx hy, numberLess_iff hy hz]
    exact (lt_or_ge _ _).imp_right fun hge => hge.trans_lt hless

end Numbers

/-! ### Lists that are sorted by expressions -/

/-- From contexts of a kind, with two of some values under its variables, a comparison tells whether the first one is less
than the second, and leads to such a context again. -/
def Decides (I : Frame → σ → Prop) (left right : String) (comparison : Eval σ Value) (values : List Value)
    (lt : Value → Value → Bool) : Prop :=
  ∀ x ∈ values, ∀ y ∈ values, ∀ f s, I f s → ∃ g t, comparison
    { f with bindings := Dict.set (Dict.set f.bindings left x) right y } s = (.ok (.bool (lt x y), g), t) ∧ I g t

section Sorts

variable {h : Host σ} {list : Expr} {f g : Frame} {s t : σ} {element : DataType} {elements : List Value}
  {left right : String} {comparison : Eval σ Value} {lt : Value → Value → Bool}

theorem setVariable_run (name : String) (v : Value) (k : Unit → Eval σ α) (f : Frame) (s : σ) :
    (Eval.setVariable name v >>= k) f s = k () { f with bindings := Dict.set f.bindings name v } s := rfl

theorem Decides.leftFirst (hdecides : Decides I left right comparison elements lt) {x y : Value} (hx : x ∈ elements)
    (hy : y ∈ elements) : (leftFirst (some left) (some right) comparison x y).Answers I (precedes lt x y) := by
  have compare {x y : Value} (hx : x ∈ elements) (hy : y ∈ elements) :
      (compareWith left right comparison x y).Answers I (lt x y) := by
    intro f s hI
    obtain ⟨g, t, hrun, hI⟩ := hdecides x hx y hy f s hI
    refine ⟨g, t, ?_, hI⟩
    rw [compareWith, setVariable_run, setVariable_run, Eval.bind_of_ok hrun]
    rfl
  refine .bind (compare hx hy) ?_
  rw [precedes]
  cases lt x y with
  | true => exact .pure true
  | false => exact .bind (compare hy hx) (.pure _)

theorem sort_answers (element : DataType) {takeLeft : Value → Value → Eval σ Bool} {le : Value → Value → Bool}
    (htake : ∀ x ∈ elements, ∀ y ∈ elements, (takeLeft x y).Answers I (le x y)) :
    Eval.Answers I (if elements.length ≤ 1 then return Value.list element elements
      else do return .list element (← mergeSortM takeLeft elements)) (.list element (sortBy le elements)) := by
  split
  case isTrue hshort =>
    rw [sortBy, dif_pos hshort]
    exact .pure _
  case isFalse => exact .bind (.mergeSortM htake) (.pure _)

theorem numbersInOrder_answers (hnumbers : ∀ v ∈ elements, ∃ x, v = .number x) {x y : Value} (hx : x ∈ elements)
    (hy : y ∈ elements) :
    Eval.Answers I (Eval.ofExcept (numbersInOrder x y)) (precedes numberLess x y) := by
  obtain ⟨l, rfl⟩ := hnumbers x hx
  obtain ⟨r, rfl⟩ := hnumbers y hy
  exact .pure _

def lessOf (left right : String) : Expr := .binary (.var left .number) .less (.var right .number)

theorem lessOf_decides (hnumbers : ∀ v ∈ elements, ∃ x, v = .number x) (hne : left ≠ right) (s : σ) :
    Decides (fun _ t => t = s) left right ((lessOf left right).eval h) elements numberLess := by
  intro x hx y hy f s' hs
  subst hs
  obtain ⟨l, rfl⟩ := hnumbers x hx
  obtain ⟨r, rfl⟩ := hnumbers y hy
  generalize hinner : { f with bindings := Dict.set (Dict.set f.bindings left (.number l)) right (.number r) } = inner
  have hleft : Dict.get? inner.bindings left = some (.number l) := by
    rw [← hinner, Dict.get?_set_of_ne _ _ hne, Dict.get?_set_self]
  have hright : Dict.get? inner.bindings right = some (.number r) := by
    rw [← hinner, Dict.get?_set_self]
  have hread {name : String} {z : Float} (hz : Dict.get? inner.bindings name = some (.number z)) :
      (Expr.var name .number).eval h inner s' = (.ok (.number z, inner), s') := by
    change readVariable name .number inner s' = _
    rw [readVariable, Eval.get_run, hz]
    rfl
  refine ⟨inner, s', ?_, rfl⟩
  exact (Eval.bind_of_ok (hread hleft) _).trans (Eval.bind_of_ok (hread hright) _)

/-- **Sorting sorts.**  With a comparison that tells for any two elements whether the one is less than the other, a list gets
rearranged, in order and without changing the order of equivalent elements if the comparison is a strict weak order.  Without
a comparison this holds for numbers and for their own order. -/
theorem sort_arranges {h : Host σ} {list : Expr} {f g : Frame} {s t : σ} {element : DataType} {elements : List Value}
    (hlist : list.eval h f s = (.ok (.list element elements, g), t)) :
    (∀ (I : Frame → σ → Prop) (left right : String) (comparison : Expr) (lt : Value → Value → Bool), I g t →
      Decides I left right (comparison.eval h) elements lt →
        ∃ sorted g' t', (Expr.sort list (some left) (some right) (some comparison)).eval h f s =
          (.ok (.list element sorted, g'), t') ∧ I g' t' ∧ Arranged lt elements sorted) ∧
      ((∀ v ∈ elements, ∃ x : Float, v = .number x ∧ x.isNaN = false) →
        ∃ sorted, (Expr.sort list none none none).eval h f s = (.ok (.list element sorted, g), t) ∧
          StrictWeak numberLess elements ∧ Arranged numberLess elements sorted) := by
  constructor
  · intro I left right comparison lt hI hdecides
    obtain ⟨g', t', hrun, hI'⟩ := sort_answers element (fun x hx y hy => hdecides.leftFirst hx hy) g t hI
    exact ⟨_, g', t', (Eval.bind_of_ok hlist _).trans hrun, hI', arranged_sortBy lt elements⟩
  · intro hnumbers
    have htake (x : Value) (hx : x ∈ elements) (y : Value) (hy : y ∈ elements) :=
      numbersInOrder_answers (I := fun g' t' => g' = g ∧ t' = t) (fun v hv => (hnumbers v hv).imp fun _ => And.left) hx hy
    obtain ⟨_, _, hrun, rfl, rfl⟩ := sort_answers element htake g t ⟨rfl, rfl⟩
    exact ⟨_, (Eval.bind_of_ok hlist _).trans hrun, strictWeak_numberLess hnumbers, arranged_sortBy numberLess elements⟩

def falling : Expr := .listLiteral .number [.numberLiteral 2.0, .numberLiteral 1.0]

theorem sort_arranges_falling :
    (∃ sorted g, (Expr.sort falling (some "a") (some "b") (some (lessOf "a" "b"))).eval .echo { callStack := [] } () =
        (.ok (.list .number sorted, g), ()) ∧ Arranged numberLess [.number 2.0, .number 1.0] sorted) ∧
      ∃ sorted, (Expr.sort falling none none none).eval .echo { callStack := [] } () =
        (.ok (.list .number sorted, { callStack := [] }), ()) ∧ Arranged numberLess [.number 2.0, .number 1.0] sorted := by
  have hlist : falling.eval .echo { callStack := [] } () =
      (.ok (.list .number [.number 2.0, .number 1.0], { callStack := [] }), ()) := rfl
  have hnumbers : ∀ v ∈ [Value.number 2.0, .number 1.0], ∃ x : Float, v = .number x ∧ x.isNaN = false :=
    forall_mem_cons.2 ⟨⟨_, rfl, by decide +kernel⟩, forall_mem_singleton.2 ⟨_, rfl, by decide +kernel⟩⟩
  obtain ⟨hcompared, hplain⟩ := sort_arranges hlist
  have hdecides : Decides (fun _ t => t = ()) "a" "b" ((lessOf "a" "b").eval .echo) _ numberLess :=
    lessOf_decides (fun v hv => (hnumbers v hv).imp fun _ => And.left) (by decide) ()
  obtain ⟨sorted, g, _, hrun, -, harranged⟩ := hcompared _ "a" "b" _ _ rfl hdecides
  obtain ⟨sorted', hrun', -, harranged'⟩ := hplain hnumbers
  exact ⟨⟨sorted, g, hrun, harranged⟩, sorted', hrun', harranged'⟩

/-! ### The two ways to sort numbers -/

/-- What came of a computation, whatever its frame is then. -/
def Eval.outcome (r : Except Fault (α × Frame) × σ) : Except Fault α × σ := (r.1.map Prod.fst, r.2)

/-- **The two ways to sort numbers agree**: without a comparison, and with a comparison by `<`.  Both fail with the same fault
or both give the same list, whatever the numbers are. -/
theorem sort_numbers_eq {scope : Scope} {list : Expr} (accepted : Accepted scope list)
    (typed : list.dataType = .ok (.list .number)) {left right : String} (distinct : left ≠ right) (h : Host σ) {f : Frame}
    (wellFormed : f.WellFormed) (s : σ) :
    Eval.outcome ((Expr.sort list none none none).eval h f s) =
      Eval.outcome ((Expr.sort list (some left) (some right) (some (lessOf left right))).eval h f s) := by
  rcases hrun : list.eval h f s with ⟨fault | ⟨v, g⟩, t⟩
  · have hfails (k : Value → Eval σ Value) : (list.eval h >>= k) f s = (.error fault, t) := by
      rw [Eval.bind_run, hrun]
    exact congrArg Eval.outcome ((hfails _).trans (hfails _).symm)
  · obtain ⟨⟨hformed, htype⟩, -⟩ := accepted.eval_gives h f s v g t wellFormed hrun
    cases v with
    | list element elements =>
      cases htype _ typed
      have hnumbers : ∀ v ∈ elements, ∃ x, v = .number x := by
        intro v hv
        obtain ⟨-, hnumber⟩ := Value.allWellFormed_iff.1 hformed v hv
        cases v <;> cases hnumber
        exact ⟨_, rfl⟩
      obtain ⟨_, t₁, hplain, ht₁⟩ := sort_answers .number (I := fun _ t' => t' = t)
        (fun x hx y hy => numbersInOrder_answers hnumbers hx hy) g t rfl
      obtain ⟨_, t₂, hcompared, ht₂⟩ := sort_answers .number
        (fun x hx y hy => (lessOf_decides (h := h) hnumbers distinct t).leftFirst hx hy) g t rfl
      have hleft : (Expr.sort list none none none).eval h f s = _ := (Eval.bind_of_ok hrun _).trans hplain
      have hright : (Expr.sort list (some left) (some right) (some (lessOf left right))).eval h f s = _ :=
        (Eval.bind_of_ok hrun _).trans hcompared
      rw [hleft, hright, ht₁, ht₂]
      rfl
    | number | string | bool => cases htype _ typed

theorem sort_numbers_eq_falling : Eval.outcome ((Expr.sort falling none none none).eval .echo { callStack := [] } ()) =
      Eval.outcome ((Expr.sort falling (some "a") (some "b") (some (lessOf "a" "b"))).eval .echo { callStack := [] } ()) := by
  have haccepted : Accepted {} falling :=
    .listLiteral (forall_mem_cons.2 ⟨.numberLiteral _, forall_mem_singleton.2 (.numberLiteral _)⟩)
      (forall_mem_cons.2 ⟨rfl, forall_mem_singleton.2 rfl⟩)
  exact sort_numbers_eq haccepted rfl (by decide) .echo ⟨by simp, by simp, by simp⟩ ()

end Sorts

end Script

end StreamBot

namespace StreamBot.Script

open List Decimal

/-! ### Integers one after the other -/

/-- The integers on the way of `n` steps by `d`. -/
def steps (a d : ℤ) (n : ℕ) : List ℤ := (range (n + 1)).map fun (i : ℕ) => a + d * i

theorem integersTo_eq {d : ℤ} (hd : d = 1 ∨ d = -1) (a : ℤ) (n : ℕ) : integersTo a (a + d * n) = steps a d n := by
  unfold integersTo steps
  rcases hd with rfl | rfl
  · rw [if_pos (by omega), show (a + 1 * n - a + 1).toNat = n + 1 by omega]
    simp only [one_mul]
  · split
    · obtain rfl : n = 0 := by omega
      simp
    · rw [show (a - (a + -1 * n) + 1).toNat = n + 1 by omega]
      simp only [neg_mul, one_mul, sub_eq_add_neg]

theorem exists_steps (a b : ℤ) : ∃ d : ℤ, (d = 1 ∨ d = -1) ∧ b = a + d * (b - a).natAbs := by
  by_cases h : a ≤ b
  · exact ⟨1, .inl rfl, by omega⟩
  · exact ⟨-1, .inr rfl, by omega⟩

theorem integersTo_reverse (a b : ℤ) : (integersTo a b).reverse = integersTo b a := by
  obtain ⟨d, hd, hb⟩ := exists_steps a b
  generalize (b - a).natAbs = n at hb
  subst hb
  have hback := integersTo_eq (d := -d) (by omega) (a + d * n) n
  rw [neg_mul, add_neg_cancel_right] at hback
  rw [integersTo_eq hd, hback]
  refine ext_getElem (by simp [steps]) fun i hi hi' => ?_
  simp [steps] at hi ⊢
  grind

theorem steps_append (a d : ℤ) (k n : ℕ) : (steps a d k).dropLast ++ steps (a + d * k) d n = steps a d (k + n) := by
  have hdrop : (steps a d k).dropLast = (range k).map fun (i : ℕ) => a + d * i := by
    rw [steps, range_succ, map_append, map_singleton, dropLast_concat]
  have hrange : range (k + (n + 1)) = range k ++ (range (n + 1)).map (k + ·) := range_add
  rw [hdrop, steps, steps, Nat.add_assoc, hrange, map_append, map_map]
  congr 2
  funext i
  simp [mul_add, add_assoc]

theorem integersTo_append {a b c : ℤ} (hlow : min a b ≤ c) (hhigh : c ≤ max a b) :
    (integersTo a c).dropLast ++ integersTo c b = integersTo a b := by
  obtain ⟨d, hd, hb⟩ := exists_steps a b
  -- what lies between the ends is met on the way
  obtain ⟨k, j, rfl, rfl⟩ : ∃ k j : ℕ, c = a + d * k ∧ b = a + d * (k + j : ℕ) := by
    refine ⟨(c - a).natAbs, (b - c).natAbs, ?_⟩
    rcases hd with rfl | rfl <;> omega
  have hrest := integersTo_eq hd (a + d * k) j
  rw [add_assoc, ← mul_add, ← Nat.cast_add] at hrest
  rw [integersTo_eq hd, integersTo_eq hd, hrest, steps_append]

/-! ### Ranges -/

variable {σ : Type}

def rangeOf (l : Float) (op : BinaryOp) (r : Float) : Expr := .binary (.numberLiteral l) op (.numberLiteral r)

def numbers (ns : List ℤ) : Value := .list .number (ns.map fun n => .number (Float.ofInt n))

theorem rangeOf_eval {l r : Float} {a b : ℤ} (hl : toInt? l = some a) (hr : toInt? r = some b) (h : Host σ) (f : Frame)
    (t : σ) : (rangeOf l .rangeInclusive r).eval h f t = (.ok (numbers (integersTo a b), f), t) ∧
      (rangeOf l .rangeExclusive r).eval h f t = (.ok (numbers (integersTo a b).dropLast, f), t) := by
  have heval (op : BinaryOp) (hop : op.isRange) :
      (rangeOf l op r).eval h f t = Eval.ofExcept (rangeList op l r) f t := by
    cases op <;> first | rfl | cases hop
  rw [heval _ rfl, heval _ rfl]
  simp only [rangeList, hl, hr]
  exact ⟨rfl, rfl⟩

theorem append_eval {left right : Expr} {ns ms : List ℤ} {h : Host σ} {f : Frame} {t : σ}
    (hleft : left.eval h f t = (.ok (numbers ns, f), t)) (hright : right.eval h f t = (.ok (numbers ms, f), t)) :
    (Expr.binary left .add right).eval h f t = (.ok (numbers (ns ++ ms), f), t) := by
  refine (Eval.bind_of_ok hleft _).trans ((Eval.bind_of_ok hright _).trans ?_)
  simp only [numbers, map_append]
  rfl

/-- **The laws of ranges.**  Between numbers that are integers, a range that includes its end goes from its start to its end in
steps of one, up or down; without the end its last number is missing; from its end to its start it is the same list in the
other order; and cut at an integer that lies between, it is put together from its two parts. -/
theorem range_laws (h : Host σ) (f : Frame) (t : σ) {l r : Float} {a b : ℤ} (hl : toInt? l = some a)
    (hr : toInt? r = some b) :
    let ns : List ℤ := (range ((b - a).natAbs + 1)).map fun (i : ℕ) => if a ≤ b then a + i else a - i
    (rangeOf l .rangeInclusive r).eval h f t = (.ok (numbers ns, f), t) ∧
      (rangeOf l .rangeExclusive r).eval h f t = (.ok (numbers ns.dropLast, f), t) ∧
      (rangeOf r .rangeInclusive l).eval h f t = (.ok (numbers ns.reverse, f), t) ∧
      ∀ m c, toInt? m = some c → min a b ≤ c → c ≤ max a b →
        (Expr.binary (rangeOf l .rangeExclusive m) .add (rangeOf m .rangeInclusive r)).eval h f t =
          (.ok (numbers ns, f), t) := by
  intro ns
  have hns : ns = integersTo a b := by
    rw [integersTo]
    split
    · rw [show (b - a + 1).toNat = (b - a).natAbs + 1 by omega]
      simp [ns, *]
    · rw [show (a - b + 1).toNat = (b - a).natAbs + 1 by omega]
      simp [ns, *]
  rw [hns, integersTo_reverse]
  obtain ⟨hincluded, hexcluded⟩ := rangeOf_eval hl hr h f t
  refine ⟨hincluded, hexcluded, (rangeOf_eval hr hl h f t).1, fun m c hm hlow hhigh => ?_⟩
  rw [← integersTo_append hlow hhigh]
  exact append_eval (rangeOf_eval hl hm h f t).2 (rangeOf_eval hm hr h f t).1

theorem range_laws_falling : let f : Frame := { callStack := [] }
    (rangeOf 3.0 .rangeInclusive 1.0).eval .echo f () = (.ok (numbers [3, 2, 1], f), ()) ∧
      (Expr.binary (rangeOf 3.0 .rangeExclusive 2.0) .add (rangeOf 2.0 .rangeInclusive 1.0)).eval .echo f () =
        (.ok (numbers [3, 2, 1], f), ()) := by
  intro f
  have hthree : toInt? 3.0 = some 3 := by decide +kernel
  have htwo : toInt? 2.0 = some 2 := by decide +kernel
  have hone : toInt? 1.0 = some 1 := by decide +kernel
  obtain ⟨hrange, -, -, hparts⟩ := range_laws .echo f () hthree hone
  exact ⟨hrange, hparts 2.0 2 htwo (by decide) (by decide)⟩

end StreamBot.Script
