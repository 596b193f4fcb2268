import StreamBot.Text.Search

/-! # Patterns

What a command's name may be: a regular expression.  A pattern stands for a set of texts.  `matches` asks
whether a text is one of them: the pattern is split into its possible first characters and what may follow
each of them (`steps`), and the text is followed through these splits.

A set of characters is a list of intervals of code points in a normal form: in increasing order, and neither
overlapping nor adjacent.  So two sets with the same characters are equal.
-/

namespace StreamBot.Trigger

open Text

/-- An interval put in front of a set, joined with all that it touches; the intervals of the set are not
below the first one. -/
def joinInterval (interval : Nat × Nat) : CodePoints → CodePoints
  | [] => [interval]
  | (lo, hi) :: rest =>
    if lo ≤ interval.2 + 1 then joinInterval (min interval.1 lo, max interval.2 hi) rest
    else interval :: (lo, hi) :: rest

def addInterval (interval : Nat × Nat) : CodePoints → CodePoints
  | [] => [interval]
  | (lo, hi) :: rest =>
    if hi + 1 < interval.1 then (lo, hi) :: addInterval interval rest
    else joinInterval interval ((lo, hi) :: rest)

def charSet (intervals : List (Nat × Nat)) : CodePoints :=
  intervals.foldl (fun set interval => addInterval interval set) []

def oneChar (c : Char) : CodePoints := [(c.toNat, c.toNat)]

def lastCodePoint : Nat := 0x10FFFF

/-- The code points from `start` on that are not in a set. -/
def complementFrom (start : Nat) : CodePoints → CodePoints
  | [] => if start ≤ lastCodePoint then [(start, lastCodePoint)] else []
  | (lo, hi) :: rest =>
    if start < lo then (start, lo - 1) :: complementFrom (hi + 1) rest
    else complementFrom (hi + 1) rest

def complement (set : CodePoints) : CodePoints := complementFrom 0 set

def meet (a b : CodePoints) : Bool :=
  a.any fun (lo, hi) => b.any fun (lo', hi') => decide (max lo lo' ≤ min hi hi')

inductive Pattern where
  | empty
  | chars (set : CodePoints)
  | group (inside : Pattern)
  | repeated (part : Pattern) (least : Nat) (most : Option Nat)
  | seq (first second : Pattern)
  | alt (left right : Pattern)
  deriving Repr, DecidableEq, Inhabited

namespace Pattern

def ofChars : List Char → Pattern
  | [] => .empty
  | [c] => .chars (oneChar c)
  | c :: rest => .seq (.chars (oneChar c)) (ofChars rest)

def literal (s : String) : Pattern := ofChars s.toList

def branches : Pattern → List Pattern
  | .alt left right => left.branches ++ right.branches
  | p => [p]

/-- The comparisons with the alternatives of a pattern.  Two patterns are alike if they have the same
alternatives, in any order, and each is written alike: the same parts in the same order, with the same sets
of characters and the same numbers of repetitions. -/
def comparisons : Pattern → List (Pattern → Bool)
  | .empty => [fun q => q == .empty]
  | .chars set => [fun q => q == .chars set]
  | .group inside =>
    let tests := inside.comparisons
    [fun q => match q with
      | .group inside' =>
        tests.all (inside'.branches.any ·) && inside'.branches.all fun b => tests.any (· b)
      | _ => false]
  | .repeated part least most =>
    let tests := part.comparisons
    [fun q => match q with
      | .repeated part' least' most' => least == least' && most == most' && tests.all (· part')
      | _ => false]
  | .seq first second =>
    let firsts := first.comparisons
    let seconds := second.comparisons
    [fun q => match q with
      | .seq first' second' => firsts.all (· first') && seconds.all (· second')
      | _ => false]
  | .alt left right => left.comparisons ++ right.comparisons

/-- Two patterns have the same alternatives, each written alike. -/
def alike (p q : Pattern) : Bool :=
  p.comparisons.all (q.branches.any ·) && q.branches.all fun b => p.comparisons.any (· b)

def nullable : Pattern → Bool
  | .empty => true
  | .chars _ => false
  | .group inside => inside.nullable
  | .repeated part least _ => least == 0 || part.nullable
  | .seq first second => first.nullable && second.nullable
  | .alt left right => left.nullable || right.nullable

def followedBy : Pattern → Pattern → Pattern
  | .empty, q => q
  | p, q => .seq p q

/-- The possible first characters of the pattern's texts, each set with a pattern for what follows. -/
def steps : Pattern → List (CodePoints × Pattern)
  | .empty => []
  | .chars set => [(set, .empty)]
  | .group inside => inside.steps
  | .repeated part least most =>
    match most with
    | some 0 => []
    | some (n + 1) =>
      part.steps.map fun (set, rest) => (set, rest.followedBy (.repeated part (least - 1) (some n)))
    | none => part.steps.map fun (set, rest) => (set, rest.followedBy (.repeated part (least - 1) none))
  | .seq first second =>
    let firsts := first.steps.map fun (set, rest) => (set, rest.followedBy second)
    if first.nullable then firsts ++ second.steps else firsts
  | .alt left right => left.steps ++ right.steps

/-- What may follow a code point at the beginning of some patterns. -/
def after (c : Nat) (ps : List Pattern) : List Pattern :=
  ((ps.flatMap steps).filter fun (set, _) => set.holds c).map (·.2) |>.eraseDups

def anyMatches : List Pattern → List Nat → Bool
  | ps, [] => ps.any nullable
  | ps, c :: rest => anyMatches (after c ps) rest

def «matches» (p : Pattern) (s : String) : Bool := anyMatches [p] (codePoints s)

end Pattern
end StreamBot.Trigger
