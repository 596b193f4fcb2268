import StreamBot.Chat.Message
import StreamBot.Markdown.Html

/-! # Texts on their way out -/

namespace StreamBot.Chat

def Platform.prepared (platform : Platform) (text : String) : String :=
  match platform.features.formatting with
  | .plain => Markdown.toText text
  | .html => Markdown.toSafeHtml text
  | .markdown => text

end StreamBot.Chat
