/-! # Digests and their letters

SHA-1 and SHA-256 digests, and digests with a key.  They are computed from blocks of 64 bytes: a message is
filled up to whole blocks by a bit that is set, zeros, and its length in bits.
-/

namespace StreamBot.Hash

def bigEndian : Nat → Nat → List UInt8
  | 0, _ => []
  | width + 1, n => bigEndian width (n / 256) ++ [UInt8.ofNat (n % 256)]

def ofBigEndian (bytes : List UInt8) : Nat := bytes.foldl (fun n b => n * 256 + b.toNat) 0

def blockLength : Nat := 64

def padded (message : List UInt8) : List UInt8 :=
  let zeros := (2 * blockLength - 9 - message.length % blockLength) % blockLength
  message ++ 0x80 :: List.replicate zeros 0 ++ bigEndian 8 (8 * message.length)

/-- Pieces of `n` elements, at most `count` of them. -/
def chunks {α : Type} (n : Nat) : Nat → List α → List (List α)
  | 0, _ => []
  | _, [] => []
  | count + 1, xs => xs.take n :: chunks n count (xs.drop n)

def words (block : List UInt8) : List UInt32 :=
  (chunks 4 (block.length / 4) block).map fun bytes => UInt32.ofNat (ofBigEndian bytes)

def blocks (message : List UInt8) : List (List UInt32) :=
  let bytes := padded message
  (chunks blockLength (bytes.length / blockLength) bytes).map words

def bytesOf (ws : List UInt32) : List UInt8 := ws.flatMap fun w => bigEndian 4 w.toNat

def rotateLeft (w : UInt32) (n : UInt32) : UInt32 := (w <<< n) ||| (w >>> (32 - n))

def rotateRight (w : UInt32) (n : UInt32) : UInt32 := (w >>> n) ||| (w <<< (32 - n))

namespace Sha1

structure State where
  a : UInt32
  b : UInt32
  c : UInt32
  d : UInt32
  e : UInt32

def State.start : State := ⟨0x67452301, 0xEFCDAB89, 0x98BADCFE, 0x10325476, 0xC3D2E1F0⟩

/-- The words of the rounds, the last one first: `count` more of them. -/
def expand : Nat → List UInt32 → List UInt32
  | 0, ws => ws
  | count + 1, ws =>
    let w := fun i : Nat => ws.getD i 0
    expand count (rotateLeft (w 2 ^^^ w 7 ^^^ w 13 ^^^ w 15) 1 :: ws)

def mix (round : Nat) (s : State) : UInt32 × UInt32 :=
  if round < 20 then ((s.b &&& s.c) ||| (~~~s.b &&& s.d), 0x5A827999)
  else if round < 40 then (s.b ^^^ s.c ^^^ s.d, 0x6ED9EBA1)
  else if round < 60 then ((s.b &&& s.c) ||| (s.b &&& s.d) ||| (s.c &&& s.d), 0x8F1BBCDC)
  else (s.b ^^^ s.c ^^^ s.d, 0xCA62C1D6)

def step (s : State) (round : Nat × UInt32) : State :=
  let (f, k) := mix round.1 s
  ⟨rotateLeft s.a 5 + f + s.e + k + round.2, s.a, rotateLeft s.b 30, s.c, s.d⟩

def absorb (s : State) (block : List UInt32) : State :=
  let ws := (expand 64 block.reverse).reverse
  let t := (ws.zipIdx.map fun (w, i) => (i, w)).foldl step s
  ⟨s.a + t.a, s.b + t.b, s.c + t.c, s.d + t.d, s.e + t.e⟩

def digest (message : List UInt8) : List UInt8 :=
  let s := (blocks message).foldl absorb .start
  bytesOf [s.a, s.b, s.c, s.d, s.e]

end Sha1

namespace Sha256

def constants : List UInt32 := [
  0x428a2f98, 0x71374491, 0xb5c0fbcf, 0xe9b5dba5, 0x3956c25b, 0x59f111f1, 0x923f82a4, 0xab1c5ed5,
  0xd807aa98, 0x12835b01, 0x243185be, 0x550c7dc3, 0x72be5d74, 0x80deb1fe, 0x9bdc06a7, 0xc19bf174,
  0xe49b69c1, 0xefbe4786, 0x0fc19dc6, 0x240ca1cc, 0x2de92c6f, 0x4a7484aa, 0x5cb0a9dc, 0x76f988da,
  0x983e5152, 0xa831c66d, 0xb00327c8, 0xbf597fc7, 0xc6e00bf3, 0xd5a79147, 0x06ca6351, 0x14292967,
  0x27b70a85, 0x2e1b2138, 0x4d2c6dfc, 0x53380d13, 0x650a7354, 0x766a0abb, 0x81c2c92e, 0x92722c85,
  0xa2bfe8a1, 0xa81a664b, 0xc24b8b70, 0xc76c51a3, 0xd192e819, 0xd6990624, 0xf40e3585, 0x106aa070,
  0x19a4c116, 0x1e376c08, 0x2748774c, 0x34b0bcb5, 0x391c0cb3, 0x4ed8aa4a, 0x5b9cca4f, 0x682e6ff3,
  0x748f82ee, 0x78a5636f, 0x84c87814, 0x8cc70208, 0x90befffa, 0xa4506ceb, 0xbef9a3f7, 0xc67178f2]

structure State where
  a : UInt32
  b : UInt32
  c : UInt32
  d : UInt32
  e : UInt32
  f : UInt32
  g : UInt32
  h : UInt32

def State.start : State := ⟨
  0x6a09e667, 0xbb67ae85, 0x3c6ef372, 0xa54ff53a, 0x510e527f, 0x9b05688c, 0x1f83d9ab, 0x5be0cd19⟩

/-- The words of the rounds, the last one first: `count` more of them. -/
def expand : Nat → List UInt32 → List UInt32
  | 0, ws => ws
  | count + 1, ws =>
    let w := fun i : Nat => ws.getD i 0
    let early := rotateRight (w 14) 7 ^^^ rotateRight (w 14) 18 ^^^ (w 14 >>> 3)
    let late := rotateRight (w 1) 17 ^^^ rotateRight (w 1) 19 ^^^ (w 1 >>> 10)
    expand count ((w 15 + early + w 6 + late) :: ws)

def step (s : State) (round : UInt32 × UInt32) : State :=
  let (k, w) := round
  let mixed := rotateRight s.e 6 ^^^ rotateRight s.e 11 ^^^ rotateRight s.e 25
  let choice := (s.e &&& s.f) ^^^ (~~~s.e &&& s.g)
  let first := s.h + mixed + choice + k + w
  let turned := rotateRight s.a 2 ^^^ rotateRight s.a 13 ^^^ rotateRight s.a 22
  let majority := (s.a &&& s.b) ^^^ (s.a &&& s.c) ^^^ (s.b &&& s.c)
  ⟨first + turned + majority, s.a, s.b, s.c, s.d + first, s.e, s.f, s.g⟩

def absorb (s : State) (block : List UInt32) : State :=
  let t := (constants.zip (expand 48 block.reverse).reverse).foldl step s
  ⟨s.a + t.a, s.b + t.b, s.c + t.c, s.d + t.d, s.e + t.e, s.f + t.f, s.g + t.g, s.h + t.h⟩

def digest (message : List UInt8) : List UInt8 :=
  let s := (blocks message).foldl absorb .start
  bytesOf [s.a, s.b, s.c, s.d, s.e, s.f, s.g, s.h]

def blockKey (key : List UInt8) : List UInt8 :=
  let key := if blockLength < key.length then digest key else key
  key ++ List.replicate (blockLength - key.length) 0

def keyedDigest (key message : List UInt8) : List UInt8 :=
  let key := blockKey key
  digest (key.map (· ^^^ 0x5c) ++ digest (key.map (· ^^^ 0x36) ++ message))

end Sha256

end StreamBot.Hash

/-! ## Bytes as letters and digits

Three bytes are written as four characters, each of which stands for six bits.  The alphabet is the one that
is safe in addresses, and nothing is added at the end to fill up the last group.
-/

namespace StreamBot.Hash.Base64

def alphabet : List Char :=
  "ABCDEFGHIJKLMNOPQRSTUVWXYZabcdefghijklmnopqrstuvwxyz0123456789-_".toList

def charOf (n : Nat) : Char := alphabet.getD (n % 64) 'A'

def valueOf? (c : Char) : Option Nat := alphabet.findIdx? (· == c)

def encodeChars : List UInt8 → List Char
  | a :: b :: c :: rest =>
    let n := (a.toNat * 256 + b.toNat) * 256 + c.toNat
    charOf (n / 262144) :: charOf (n / 4096) :: charOf (n / 64) :: charOf n :: encodeChars rest
  | [a, b] =>
    let n := (a.toNat * 256 + b.toNat) * 4
    [charOf (n / 4096), charOf (n / 64), charOf n]
  | [a] =>
    let n := a.toNat * 16
    [charOf (n / 64), charOf n]
  | [] => []

def encode (bytes : List UInt8) : String := String.ofList (encodeChars bytes)

/-- The bytes of groups of six bits; a last group of one character is refused. -/
def ofValues? : List Nat → Option (List UInt8)
  | a :: b :: c :: d :: rest => do
    let n := ((a * 64 + b) * 64 + c) * 64 + d
    return UInt8.ofNat (n / 65536) :: UInt8.ofNat (n / 256) :: UInt8.ofNat n :: (← ofValues? rest)
  | [a, b, c] =>
    let n := (a * 64 + b) * 64 + c
    some [UInt8.ofNat (n / 1024), UInt8.ofNat (n / 4)]
  | [a, b] => some [UInt8.ofNat ((a * 64 + b) / 16)]
  | [_] => none
  | [] => some []

def decode? (text : String) : Option (List UInt8) := do ofValues? (← text.toList.mapM valueOf?)

end StreamBot.Hash.Base64
