import StreamBot.Json.Printer

/-! # Clips on the soundboard

A clip to be played is an address and a volume.  Listeners get it as an event of a stream: the lines of an
event each begin with the name of a field, and a blank line ends the event.
-/

namespace StreamBot.Soundboard

structure Clip where
  url : String
  volume : Float
  deriving Repr

def fileUrl (filename : String) : String := "/static/soundboard/" ++ filename

def Clip.json (c : Clip) : String :=
  (Json.obj [("clip_url", .str c.url), ("volume", .float c.volume)]).render

def Clip.event (c : Clip) : String :=
  let data := (Text.lines c.json.toList).map fun line => "data: " ++ String.ofList line
  Text.join "\r\n" (["event: message"] ++ data ++ ["", ""])

end StreamBot.Soundboard
