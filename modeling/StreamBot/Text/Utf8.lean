/-! # Texts as bytes

Reading UTF-8 tells where and why bytes are not text: at the first byte that cannot begin a character, at
the first that cannot go on with one, or at the end in the middle of a character.
-/

namespace StreamBot.Text

inductive Utf8Reason where
  | invalidStart
  | invalidContinuation
  | unexpectedEnd
  deriving Repr, DecidableEq

/-- The bytes that are not text: the first of them, their place and their number. -/
structure Utf8Fault where
  byte : Nat
  position : Nat
  length : Nat
  reason : Utf8Reason
  deriving Repr, DecidableEq

def Utf8Reason.message : Utf8Reason → String
  | invalidStart => "invalid start byte"
  | invalidContinuation => "invalid continuation byte"
  | unexpectedEnd => "unexpected end of data"

private def hexByte (n : Nat) : String :=
  String.ofList [Nat.digitChar (n / 16 % 16), Nat.digitChar (n % 16)]

def Utf8Fault.message (f : Utf8Fault) : String :=
  if f.length = 1 then
    s!"'utf-8' codec can't decode byte 0x{hexByte f.byte} in position {f.position}: {f.reason.message}"
  else
    s!"'utf-8' codec can't decode bytes in position {f.position}-{f.position + f.length - 1}: " ++
      f.reason.message

/-- The number of bytes behind a first byte, and the bounds of the second byte. -/
def utf8Shape? (b : Nat) : Option (Nat × Nat × Nat) :=
  if 0xC2 ≤ b ∧ b ≤ 0xDF then some (1, 0x80, 0xBF)
  else if b = 0xE0 then some (2, 0xA0, 0xBF)
  else if b = 0xED then some (2, 0x80, 0x9F)
  else if 0xE1 ≤ b ∧ b ≤ 0xEF then some (2, 0x80, 0xBF)
  else if b = 0xF0 then some (3, 0x90, 0xBF)
  else if b = 0xF4 then some (3, 0x80, 0x8F)
  else if 0xF1 ≤ b ∧ b ≤ 0xF3 then some (3, 0x80, 0xBF)
  else none

/-- How many of the bytes behind a first byte can belong to its character. -/
def utf8Valid (count low high : Nat) : List UInt8 → Nat
  | [] => 0
  | b :: rest =>
    if count = 0 then 0
    else if low ≤ b.toNat ∧ b.toNat ≤ high then 1 + utf8Valid (count - 1) 0x80 0xBF rest
    else 0

/-- The bytes from a position on as text; the first `skip` of them belong to a character that has been
read. -/
def decodeUtf8From (position : Nat) : Nat → List UInt8 → Except Utf8Fault (List Char)
  | _, [] => .ok []
  | skip + 1, _ :: rest => decodeUtf8From (position + 1) skip rest
  | 0, b :: rest =>
    let first := b.toNat
    if first < 0x80 then do return Char.ofNat first :: (← decodeUtf8From (position + 1) 0 rest)
    else match utf8Shape? first with
      | none => .error ⟨first, position, 1, .invalidStart⟩
      | some (count, low, high) =>
        let valid := utf8Valid count low high rest
        if valid = count then do
          let lead := first % Nat.pow 2 (6 - count)
          let code := (rest.take count).foldl (fun n b => n * 64 + b.toNat % 64) lead
          return Char.ofNat code :: (← decodeUtf8From (position + 1) count rest)
        else
          let reason : Utf8Reason :=
            if valid = rest.length then .unexpectedEnd else .invalidContinuation
          .error ⟨first, position, valid + 1, reason⟩

def decodeUtf8 (bytes : List UInt8) : Except Utf8Fault String :=
  (decodeUtf8From 0 0 bytes).map String.ofList

def encodeUtf8 (s : String) : List UInt8 := s.toUTF8.toList

/-! ## Texts in addresses

Letters, digits and a few signs stand for themselves in an address.  All other characters are written byte
by byte, as a percent sign and two hexadecimal digits.
-/

/-- The signs that stand for themselves, beside letters and digits. -/
def plainSigns : List Char := "_.-~/".toList

def capitalHexDigit (n : Nat) : Char := "0123456789ABCDEF".toList.getD n '0'

def percentByte (b : UInt8) : List Char :=
  let c := Char.ofNat b.toNat
  if c.isAlphanum || plainSigns.contains c then [c]
  else ['%', capitalHexDigit (b.toNat / 16), capitalHexDigit (b.toNat % 16)]

def percentEncoded (s : String) : String := String.ofList ((encodeUtf8 s).flatMap percentByte)

end StreamBot.Text
