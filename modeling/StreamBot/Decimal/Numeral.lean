import StreamBot.Decimal.Binary
import StreamBot.Text.Lines

/-! # The shortest decimal of a double

A double stands for all reals that round to it.  Its shortest decimal is the one with the fewest digits
among these; of several with as few digits it is the nearest, and of two equally near ones the even one.
-/

namespace StreamBot.Decimal

def digitCount (n : Nat) : Nat := (Nat.toDigits 10 n).length

/-- The greatest `k` with `10 ^ k ≤ num / den`, for a positive fraction. -/
def log10Floor (num den : Nat) : Int :=
  if den ≤ num then (digitCount (num / den) : Int) - 1
  else -(digitCount ((den - 1) / num) : Int)

/-- Digits without zeros at the end, and the power of ten they are then counted in. -/
def dropZeros (digits : Nat) (exponent : Int) : Nat × Int :=
  let text := Nat.toDigits 10 digits
  let zeros := (text.reverse.takeWhile (· == '0')).length
  if digits = 0 then (0, 0) else (digits / Nat.pow 10 zeros, exponent + zeros)

/-- The decimal with at most `count` digits that rounds to `m · 2 ^ e`, if there is one, as its digits and the
power of ten they are counted in. -/
def candidate? (m : Nat) (e : Int) (count : Nat) : Option (Nat × Int) :=
  let v : Rat := m * 2 ^ e
  let k := log10Floor v.num.natAbs v.den - count + 1
  let place := v / 10 ^ k
  let nearer := nearestNat place
  let farther := 2 * place.floor.toNat + 1 - nearer
  ([nearer, farther].map (dropZeros · k)).find? fun (digits, exponent) => decimalBits digits exponent == bitsOf m e

/-- `m · 2 ^ e` as an exact decimal: its digits and the power of ten they are counted in. -/
def exactDecimal (m : Nat) (e : Int) : Nat × Int :=
  if 0 ≤ e then (m * powerOfTwo e.toNat, 0) else (m * Nat.pow 5 (-e).toNat, e)

/-- The digits of the shortest decimal of a positive `m · 2 ^ e` and the power of ten they are counted
in. -/
def shortest (m : Nat) (e : Int) : Nat × Int :=
  ((List.range 17).findSome? fun n => candidate? m e (n + 1)).getD (exactDecimal m e)

/-! ## Numerals

How numbers are written and read.  A double is written with its shortest decimal; an exponent is used
below `10 ^ -4` and from `10 ^ 16` on.
-/

/-- Where numbers are written without an exponent: the least and the greatest power of ten of the first
digit. -/
structure Notation where
  leastPower : Int
  greatestPower : Int

def Notation.standard : Notation := ⟨-4, 15⟩

def zeros (n : Nat) : String := String.ofList (List.replicate n '0')

def exponentText (power : Int) : String :=
  let digits := toString power.natAbs
  "e" ++ (if power < 0 then "-" else "+") ++ (if digits.length < 2 then "0" ++ digits else digits)

/-- The decimal `digits · 10 ^ exponent` in a notation. -/
def decimalText (style : Notation) (digits : Nat) (exponent : Int) : String :=
  let text := toString digits
  let power : Int := exponent + text.length - 1
  if style.leastPower ≤ power ∧ power ≤ style.greatestPower then
    if 0 ≤ exponent then text ++ zeros exponent.toNat ++ ".0"
    else if 0 ≤ power then
      let whole := power.toNat + 1
      String.ofList (text.toList.take whole) ++ "." ++ String.ofList (text.toList.drop whole)
    else "0." ++ zeros ((-power).toNat - 1) ++ text
  else
    match text.toList with
    | [] => ""
    | [d] => d.toString ++ exponentText power
    | d :: rest => d.toString ++ "." ++ String.ofList rest ++ exponentText power

def text (x : Float) : String :=
  match Binary.ofFloat x with
  | .undefined => "nan"
  | .infinite negative => if negative then "-inf" else "inf"
  | .finite negative m e =>
    (if negative then "-" else "") ++
      if m = 0 then "0.0"
      else let (digits, exponent) := shortest m e; decimalText .standard digits exponent

/-- A double as text, where integers are written without a point. -/
def plainText (x : Float) : String :=
  match toInt? x with
  | some n => toString n
  | none => text x

def ofDigits (values : List Nat) : Nat := values.foldl (fun n d => 10 * n + d) 0

/-- Reads digits, perhaps followed by a point and more digits.  Only decimal digits are read. -/
def read? (cs : List Char) : Option Float :=
  match cs.span (· != '.') with
  | (whole, []) => do
    if whole.isEmpty then none
    return Float.ofNat (ofDigits (← Text.decimalValues? whole))
  | (whole, _ :: fraction) => do
    if whole.isEmpty && fraction.isEmpty then none
    let values := (← Text.decimalValues? whole) ++ (← Text.decimalValues? fraction)
    return Float.ofScientific (ofDigits values) true fraction.length

end StreamBot.Decimal
