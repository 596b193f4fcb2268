import StreamBot.Trigger.Pattern

/-! # The texts of a pattern

The texts of a pattern in the order of their lengths, those of one length in the order of code points
(`firstTexts`), whether two patterns have a text in common (`meets`), and whether a pattern has several texts
(`isVaried`).  A text is a list of code points here, for a set of characters may also hold some that stand for no
character.
-/

namespace StreamBot.Trigger.Pattern

open Text

/-- What may follow the first character of some patterns, whatever it is. -/
def afterAny (ps : List Pattern) : List Pattern :=
  (((ps.flatMap steps).filter fun (set, _) => !set.isEmpty).map (·.2)).eraseDups

def anyOfLength : Nat → List Pattern → Bool
  | 0, ps => ps.any nullable
  | n + 1, ps => !ps.isEmpty && anyOfLength n (afterAny ps)

/-- The code points at which the sets of first characters begin, or behind which they end, in order. -/
def bounds (ps : List Pattern) : List Nat :=
  let ends := (ps.flatMap steps).flatMap fun (set, _) => set.flatMap fun (lo, hi) => [lo, hi + 1]
  (ends.mergeSort (· ≤ ·)).eraseDups

/-- The first `limit` code points from `lo` to before `hi`. -/
def pointsBetween (limit lo hi : Nat) : List Nat :=
  (List.range (min limit (hi - lo))).map (lo + ·)

/-- The first `limit` texts of a length, in the order of code points.  Between two bounds all code points lead
to the same patterns. -/
def textsOfLength (limit : Nat) : Nat → List Pattern → List (List Nat)
  | 0, ps => if ps.any nullable then [[]] else []
  | n + 1, ps =>
    let marks := bounds ps
    ((marks.zip marks.tail).flatMap fun (lo, hi) =>
      let rest := after lo ps
      if anyOfLength n rest then
        let tails := textsOfLength limit n rest
        (pointsBetween limit lo hi).flatMap fun c => tails.map (c :: ·)
      else []).take limit

/-- A bound on the lengths of a pattern's texts without unlimited repetitions, and on the differences of
lengths with them. -/
def size : Pattern → Nat
  | .empty => 0
  | .chars _ => 1
  | .group inside => inside.size
  | .repeated part least most => (most.getD (least + 1)) * part.size
  | .seq first second => first.size + second.size
  | .alt left right => left.size + right.size

/-- The first `limit` texts among those with `length` characters and, as long as `more` allows, longer
ones. -/
def textsFrom (p : Pattern) (limit : Nat) : Nat → Nat → List (List Nat)
  | 0, _ => []
  | more + 1, length =>
    let found := if anyOfLength length [p] then textsOfLength limit length [p] else []
    if found.length < limit then found ++ textsFrom p (limit - found.length) more (length + 1)
    else found

/-- The first `limit` texts of a pattern, the shorter ones first. -/
def firstTexts (p : Pattern) (limit : Nat) : List (List Nat) :=
  textsFrom p limit ((limit + 1) * (p.size + 1)) 0

/-- The pairs of patterns that a common first character leads to. -/
def commonSteps (pair : Pattern × Pattern) : List (Pattern × Pattern) :=
  pair.1.steps.flatMap fun (set, rest) =>
    pair.2.steps.filterMap fun (set', rest') =>
      if meet set set' then some (rest, rest') else none

/-- One of the pairs in `todo` leads to a common text; those in `seen` have been looked at. -/
def meetFrom : Nat → List (Pattern × Pattern) → List (Pattern × Pattern) → Bool
  | 0, _, _ => false
  | fuel + 1, seen, todo =>
    if todo.any fun (p, q) => p.nullable && q.nullable then true
    else
      let seen := seen ++ todo
      let next := ((todo.flatMap commonSteps).eraseDups).filter fun pair => !seen.contains pair
      if next.isEmpty then false else meetFrom fuel seen next

def meets (p q : Pattern) : Bool :=
  meetFrom ((p.size + 2) * (q.size + 2)) [] [(p, q)]

/-- How many texts a pattern has: none, the given one, or several. -/
inductive Variety where
  | none
  | one (text : List Nat)
  | several
  deriving Repr, DecidableEq

def Variety.inRow : Variety → Variety → Variety
  | .none, _ | _, .none => .none
  | .one text, .one text' => .one (text ++ text')
  | _, _ => .several

def Variety.either : Variety → Variety → Variety
  | .none, v | v, .none => v
  | .one text, .one text' => if text = text' then .one text else .several
  | _, _ => .several

def Variety.repeated (least : Nat) (most : Option Nat) : Variety → Variety
  | .none => if least = 0 then .one [] else .none
  | .one text => if text = [] ∨ most = some least then .one (List.replicate least text).flatten else .several
  | .several => if most = some 0 then .one [] else .several

def variety : Pattern → Variety
  | .empty => .one []
  | .chars [] => .none
  | .chars ((lo, hi) :: rest) => if ∀ interval ∈ (lo, hi) :: rest, interval = (lo, lo) then .one [lo] else .several
  | .group inside => inside.variety
  | .repeated part least most => part.variety.repeated least most
  | .seq first second => first.variety.inRow second.variety
  | .alt left right => left.variety.either right.variety

def isVaried (p : Pattern) : Bool := p.variety == .several

end StreamBot.Trigger.Pattern
