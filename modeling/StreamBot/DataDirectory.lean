import StreamBot.Text.Lines
import StreamBot.Text.Utf8

/-! # Files that scripts may read

Scripts read text files below one directory.  A path is resolved by its components: an absolute path
begins anew, `.` and empty components stay where they are and `..` goes up.  A path that ends up anywhere
but strictly below the directory is refused before anything is opened.
-/

namespace StreamBot

structure DataDirectory where
  root : List String
  files : List (List String × List UInt8)

inductive FileFault where
  | outside
  | missing
  | unreadable (reason : String)
  | nullByte
  deriving Repr, DecidableEq

namespace DataDirectory

def enter (place : List String) (component : String) : List String :=
  if component = "" ∨ component = "." then place
  else if component = ".." then place.dropLast
  else place ++ [component]

def resolve (place : List String) (path : String) : List String :=
  let components := Text.splitOn path "/"
  components.foldl enter (if Text.startsWith path "/" then [] else place)

/-- The part of an absolute path below the directory, if it is strictly below. -/
def below? (d : DataDirectory) (path : List String) : Option (List String) :=
  if d.root.isPrefixOf path ∧ d.root.length < path.length then some (path.drop d.root.length) else none

def textOf (bytes : List UInt8) : Except FileFault String :=
  match Text.decodeUtf8 bytes with
  | .ok s => .ok (String.ofList (Text.unifyLineEnds s.toList))
  | .error fault => .error (.unreadable fault.message)

def pathText (path : List String) : String := "/" ++ Text.join "/" path

def read (d : DataDirectory) (path : String) : Except FileFault String :=
  if path.toList.contains '\x00' then .error .nullByte
  else
    let place := resolve d.root path
    match d.below? place with
    | none => .error .outside
    | some inside =>
      match d.files.lookup inside with
      | some bytes => textOf bytes
      | none =>
        if d.files.any fun (file, _) => inside.isPrefixOf file then
          .error (.unreadable s!"[Errno 21] Is a directory: '{pathText place}'")
        else if d.files.any fun (file, _) => file.isPrefixOf inside then
          .error (.unreadable s!"[Errno 20] Not a directory: '{pathText place}'")
        else .error .missing

end DataDirectory
end StreamBot
