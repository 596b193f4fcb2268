/-! # Floating-point numbers as exact binary fractions

A finite double is `± mantissa · 2 ^ exponent`.  On this form, comparison with integers, rounding to
integers and remainders are exact integer arithmetic.
-/

namespace StreamBot.Decimal

def powerOfTwo (n : Nat) : Nat := Nat.pow 2 n

inductive Binary where
  | finite (negative : Bool) (mantissa : Nat) (exponent : Int)
  | infinite (negative : Bool)
  | undefined
  deriving Repr, DecidableEq

def Binary.ofFloat (x : Float) : Binary :=
  let bits := x.toBits.toNat
  let negative := decide (powerOfTwo 63 ≤ bits)
  let exponent : Nat := bits / powerOfTwo 52 % powerOfTwo 11
  let fraction := bits % powerOfTwo 52
  if exponent = 2047 then
    if fraction = 0 then .infinite negative else .undefined
  else if exponent = 0 then .finite negative fraction (-1074)
  else .finite negative (powerOfTwo 52 + fraction) ((exponent : Int) - 1075)

def signed (negative : Bool) (n : Nat) : Int := if negative then -(n : Int) else n

/-! ## The nearest double -/

/-- The greatest `k` with `2 ^ k ≤ v`, for a positive number. -/
def log2Floor (v : Rat) : Int :=
  let k : Int := v.num.natAbs.log2 - v.den.log2
  if 2 ^ k ≤ v then k else k - 1

/-- The nearest integer to a number that is not negative; of two that are equally near, the even one. -/
def nearestNat (v : Rat) : Nat :=
  let below := v.floor.toNat
  let rest := v - below
  if 1 / 2 < rest ∨ (rest = 1 / 2 ∧ below % 2 = 1) then below + 1 else below

/-- The bits of `m · 2 ^ e`, where `m` has 53 binary digits, or fewer if `e` is the least exponent. -/
def bitsOf (m : Nat) (e : Int) : Nat := (e + 1074).toNat * powerOfTwo 52 + m

def infinityBits : Nat := 2047 * powerOfTwo 52

/-- The bits of the double that is nearest to a positive number. -/
def nearestBits (v : Rat) : Nat :=
  let e := max (log2Floor v - 52) (-1074)
  min (bitsOf (nearestNat (v / 2 ^ e)) e) infinityBits

/-- The bits of the double that is nearest to `digits · 10 ^ exponent`. -/
def decimalBits (digits : Nat) (exponent : Int) : Nat :=
  if digits = 0 ∨ exponent < -(2048 + digits.log2) then 0
  else if 2048 < exponent then infinityBits
  else nearestBits (digits * 10 ^ exponent)

def ofDecimal (negative : Bool) (digits : Nat) (exponent : Int) : Float :=
  Float.ofBits (UInt64.ofNat ((if negative then powerOfTwo 63 else 0) + decimalBits digits exponent))

/-- The double that is nearest to `± mantissa · 2 ^ exponent`. -/
def ofBinary (negative : Bool) (mantissa : Nat) (exponent : Int) : Float :=
  let x := if 0 ≤ exponent then Float.ofNat (mantissa * powerOfTwo exponent.toNat)
    else
      -- the decimal fraction `mantissa · 5 ^ n / 10 ^ n` is the same number
      Float.ofScientific (mantissa * Nat.pow 5 (-exponent).toNat) true (-exponent).toNat
  if negative then -x else x

def isInteger (x : Float) : Bool :=
  match Binary.ofFloat x with
  | .finite _ m e => decide (0 ≤ e) || m % powerOfTwo (-e).toNat == 0
  | _ => false

/-- The greatest integer that is not above `± m · 2 ^ e`. -/
def Binary.floorOf (negative : Bool) (m : Nat) (e : Int) : Int :=
  if 0 ≤ e then signed negative (m * powerOfTwo e.toNat)
  else Int.fdiv (signed negative m) (powerOfTwo (-e).toNat)

def floor? (x : Float) : Option Int :=
  match Binary.ofFloat x with
  | .finite negative m e => some (Binary.floorOf negative m e)
  | _ => none

def ceil? (x : Float) : Option Int :=
  match Binary.ofFloat x with
  | .finite negative m e => some (-Binary.floorOf (!negative) m e)
  | _ => none

/-- The integer next to a finite `x` on the side of zero. -/
def truncate? (x : Float) : Option Int :=
  match Binary.ofFloat x with
  | .finite negative m e => some (signed negative (Binary.floorOf false m e).toNat)
  | _ => none

/-- The nearest integer to a finite `x`; of two that are equally near, the even one. -/
def round? (x : Float) : Option Int :=
  match Binary.ofFloat x with
  | .finite negative m e =>
    if 0 ≤ e then some (signed negative (m * powerOfTwo e.toNat))
    else
      let unit := powerOfTwo (-e).toNat
      let below := m / unit
      let twice := 2 * (m % unit)
      let up := decide (unit < twice) || (twice == unit && below % 2 == 1)
      some (signed negative (if up then below + 1 else below))
  | _ => none

def toInt? (x : Float) : Option Int :=
  if isInteger x then truncate? x else none

/-- The remainder of a division that rounds to the floor: zero or of the divisor's sign.  A zero has the
divisor's sign, and with an infinite divisor of the other sign the remainder is that divisor. -/
def floorMod (x y : Float) : Float :=
  match Binary.ofFloat x, Binary.ofFloat y with
  | .finite nx mx ex, .finite ny my ey =>
    if my = 0 then 0.0 / 0.0
    else
      let e := min ex ey
      let a := mx * powerOfTwo (ex - e).toNat
      let b := my * powerOfTwo (ey - e).toNat
      let r := a % b
      if r = 0 then (if ny then -0.0 else 0.0)
      else
        let remainder := ofBinary nx r e
        if nx = ny then remainder else remainder + y
  | .finite nx mx _, .infinite ny =>
    if mx = 0 then (if ny then -0.0 else 0.0)
    else if nx = ny then x else y
  | _, _ => 0.0 / 0.0

/-! ## Powers -/

inductive PowerFault where
  | notReal
  | ofZero
  | overflow
  /-- A negative base with an exponent that is not an integer, where the result is too large as well. -/
  | overflowNotReal
  deriving Repr, DecidableEq

def isOdd (x : Float) : Bool :=
  match toInt? x with
  | some n => n % 2 != 0
  | none => false

private def infinity : Float := 1.0 / 0.0

def powerToInfinity (base exponent : Float) : Float :=
  let size := base.abs
  if size == 1.0 then 1.0
  else if (exponent > 0.0) == (size > 1.0) then infinity
  else 0.0

def powerOfInfinity (base exponent : Float) : Float :=
  let odd := isOdd exponent
  if exponent > 0.0 then (if odd then base else base.abs)
  else if odd && base < 0.0 then -0.0
  else 0.0

def powerOfPositive (base exponent : Float) : Except PowerFault Float :=
  if base == 1.0 then .ok 1.0
  else
    let result := Float.pow base exponent
    if result.isInf then .error .overflow else .ok result

def power (base exponent : Float) : Except PowerFault Float :=
  if exponent == 0.0 then .ok 1.0
  else if base.isNaN then .ok base
  else if exponent.isNaN then .ok (if base == 1.0 then 1.0 else exponent)
  else if exponent.isInf then .ok (powerToInfinity base exponent)
  else if base.isInf then .ok (powerOfInfinity base exponent)
  else if base == 0.0 then
    if exponent < 0.0 then .error .ofZero
    else .ok (if isOdd exponent then base else 0.0)
  else if base < 0.0 then
    if !isInteger exponent then
      .error (if (Float.pow (-base) exponent).isInf then .overflowNotReal else .notReal)
    else do
      let result ← powerOfPositive (-base) exponent
      return if isOdd exponent then -result else result
  else powerOfPositive base exponent

end StreamBot.Decimal
