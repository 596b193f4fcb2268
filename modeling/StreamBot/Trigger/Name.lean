import StreamBot.Text.Case
import StreamBot.Trigger.Language
import StreamBot.Trigger.Parser

/-! # Names of commands

A command's name is a pattern without regard to case.
-/

namespace StreamBot.Trigger

def ofName (name : String) : Except PatternFault Pattern := Pattern.parse (Text.lower name)

def maxAliases : Nat := 3

/-- Some texts that call a command, in order, with a mark in place of the last one if there are too many. -/
def aliases (p : Pattern) : List String :=
  let calls := (p.firstTexts (maxAliases + 1)).map fun text => "!" ++ String.ofList (text.map Char.ofNat)
  let texts := calls.mergeSort (· ≤ ·)
  if maxAliases < texts.length then texts.dropLast ++ ["!..."] else texts

/-- Two names can be meant by the same text.  Names of one text each have to be written alike. -/
def overlap (p q : Pattern) : Bool :=
  if p.isVaried || q.isVaried then p.meets q else p.alike q

end StreamBot.Trigger
