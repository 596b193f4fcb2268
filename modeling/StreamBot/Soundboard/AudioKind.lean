/-! # Kinds of audio files

A file's kind is told by its first bytes.
-/

namespace StreamBot.Soundboard

inductive AudioKind where
  | mp3
  | wav
  | ogg
  | webm
  | aac
  deriving Repr, DecidableEq

def AudioKind.extension : AudioKind → String
  | .mp3 => ".mp3"
  | .wav => ".wav"
  | .ogg => ".ogg"
  | .webm => ".webm"
  | .aac => ".aac"

def AudioKind.ofBytes? : List UInt8 → Option AudioKind
  | 0x49 :: 0x44 :: 0x33 :: _ => some .mp3
  | 0xFF :: 0xFB :: _ :: _ => some .mp3
  | 0xFF :: 0xF3 :: _ :: _ => some .mp3
  | 0xFF :: 0xF2 :: _ :: _ => some .mp3
  | 0x52 :: 0x49 :: 0x46 :: 0x46 :: _ :: _ :: _ :: _ :: 0x57 :: 0x41 :: 0x56 :: 0x45 :: _ => some .wav
  | 0x4F :: 0x67 :: 0x67 :: 0x53 :: _ => some .ogg
  | 0x1A :: 0x45 :: 0xDF :: 0xA3 :: _ => some .webm
  | 0xFF :: 0xF1 :: _ => some .aac
  | 0xFF :: 0xF9 :: _ => some .aac
  | _ => none

end StreamBot.Soundboard
