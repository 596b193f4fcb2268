import StreamBot.Config.Settings

/-! # The configuration, listed as JSON -/

namespace StreamBot

def Mail.Protection.name : Mail.Protection → String
  | .none => "NONE"
  | .tls => "TLS"
  | .ssl => "SSL"

def Mail.Server.toJson (s : Mail.Server) : Json := .obj [
  ("host", .str s.host), ("port", .int s.port), ("username", .str s.username),
  ("password", .str s.password), ("crypto", .str s.protection.name), ("from_address", .str s.sender)]

namespace Config

def Tokens.toJson (t : Tokens) : Json :=
  .obj [("access_token", .str t.access), ("refresh_token", .str t.refresh)]

def toJson (c : Config) : Json := .obj [
  ("environment", .str c.stage.text), ("database_file", .str c.databaseFile),
  ("data_root_path", .str c.dataRoot), ("twitch_client_id", .str c.clientId),
  ("twitch_client_secret", .str c.clientSecret),
  ("twitch_credentials", Json.ofOption Tokens.toJson c.credentials), ("twitch_channel", .str c.channel),
  ("twitch_chatbot_web_interface_client_id", .str c.webClientId),
  ("twitch_chatbot_web_interface_client_secret", .str c.webClientSecret),
  ("twitch_redirect_uri", .str c.redirectUri), ("twitch_eventsub_public_url", .str c.eventsUrl),
  ("twitch_eventsub_listen_port", .int c.eventsPort), ("twitch_eventsub_secret", .str c.eventsSecret),
  ("ignore_existing_subscriptions", .bool c.ignoreSubscriptions), ("jwt_secret", .str c.sessionSecret),
  ("discord_token", .str c.discordToken),
  ("discord_moderator_role_id", Json.ofOption Json.int c.discordModeratorRole),
  ("smtp_settings", c.mail.toJson)]

end Config
end StreamBot
