import StreamBot.Time.Calendar

/-! # Reading dates

A date as `YYYY-MM-DDTHH:MM:SS`, perhaps with a fraction of the second.
-/

namespace StreamBot.Time

private def numberOf? (digits : List Char) : Option Nat :=
  if !digits.isEmpty && digits.all Char.isDigit then
    some (digits.foldl (fun n d => n * 10 + (d.toNat - 48)) 0)
  else none

def fraction? : List Char → Option Nat
  | [] => some 0
  | '.' :: digits => do
    let n ← numberOf? (digits.take 6)
    return n * Nat.pow 10 (6 - min 6 digits.length)
  | _ => none

def Instant.ofIso? (s : String) : Option Instant :=
  match s.toList with
  | y1 :: y2 :: y3 :: y4 :: '-' :: m1 :: m2 :: '-' :: d1 :: d2 :: _ ::
      h1 :: h2 :: ':' :: n1 :: n2 :: ':' :: s1 :: s2 :: rest => do
    let year ← numberOf? [y1, y2, y3, y4]
    let month ← numberOf? [m1, m2]
    let day ← numberOf? [d1, d2]
    let hour ← numberOf? [h1, h2]
    let minute ← numberOf? [n1, n2]
    let second ← numberOf? [s1, s2]
    let micros ← fraction? rest
    return DateTime.instant ⟨year, month, day, hour, minute, second, micros⟩
  | _ => none

end StreamBot.Time
