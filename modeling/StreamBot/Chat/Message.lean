/-! # Texts in the language of the chat

The bot's answers about its own commands are texts that can be set, each under a key.
-/

namespace StreamBot.Chat

inductive TranslationKey where
  | commandAlreadyExists
  | commandToUpdateNotFound
  | commandToDeleteNotFound
  | commandUpdateCausesAmbiguity
  | builtinCommandCannotBeDeleted
  | builtinCommandCannotBeChanged
  | commandAdded
  | commandUpdated
  | commandRemoved
  | soundboardEnabled
  | soundboardDisabled
  | cannotAddOrUpdateSoundboardCommand
  | cannotAddOrUpdateScriptCommand
  | soundboardManagedViaWebUi
  deriving Repr, DecidableEq

namespace TranslationKey

def all : List TranslationKey := [
  .commandAlreadyExists, .commandToUpdateNotFound, .commandToDeleteNotFound,
  .commandUpdateCausesAmbiguity, .builtinCommandCannotBeDeleted, .builtinCommandCannotBeChanged,
  .commandAdded, .commandUpdated, .commandRemoved, .soundboardEnabled, .soundboardDisabled,
  .cannotAddOrUpdateSoundboardCommand, .cannotAddOrUpdateScriptCommand, .soundboardManagedViaWebUi]

def text : TranslationKey → String
  | .commandAlreadyExists => "COMMAND_ALREADY_EXISTS"
  | .commandToUpdateNotFound => "COMMAND_TO_UPDATE_NOT_FOUND"
  | .commandToDeleteNotFound => "COMMAND_TO_DELETE_NOT_FOUND"
  | .commandUpdateCausesAmbiguity => "COMMAND_UPDATE_CAUSES_AMBIGUITY"
  | .builtinCommandCannotBeDeleted => "BUILTIN_COMMAND_CANNOT_BE_DELETED"
  | .builtinCommandCannotBeChanged => "BUILTIN_COMMAND_CANNOT_BE_CHANGED"
  | .commandAdded => "COMMAND_ADDED"
  | .commandUpdated => "COMMAND_UPDATED"
  | .commandRemoved => "COMMAND_REMOVED"
  | .soundboardEnabled => "SOUNDBOARD_ENABLED"
  | .soundboardDisabled => "SOUNDBOARD_DISABLED"
  | .cannotAddOrUpdateSoundboardCommand => "CANNOT_ADD_OR_UPDATE_SOUNDBOARD_COMMAND"
  | .cannotAddOrUpdateScriptCommand => "CANNOT_ADD_OR_UPDATE_SCRIPT_COMMAND"
  | .soundboardManagedViaWebUi => "SOUNDBOARD_MANAGED_VIA_WEB_UI"

def ofText? (s : String) : Option TranslationKey := all.find? (·.text == s)

end TranslationKey

/-! ## Chat platforms

The bot talks in several chats at once.  What it can do in a chat is decided by the platform.
-/

inductive Platform where
  | twitch
  | discord
  deriving Repr, DecidableEq

inductive Formatting where
  | plain
  | html
  | markdown
  deriving Repr, DecidableEq

structure Features where
  conversation : Bool
  broadcasts : Bool
  formatting : Formatting
  liveNotifications : Bool
  raidReactions : Bool
  shoutouts : Bool
  soundboard : Bool
  entranceSounds : Bool
  giveaways : Bool
  deriving Repr, DecidableEq

namespace Platform

def name : Platform → String
  | .twitch => "TWITCH"
  | .discord => "DISCORD"

def features : Platform → Features
  | .twitch => {
      conversation := true, broadcasts := true, formatting := .plain, liveNotifications := false,
      raidReactions := true, shoutouts := true, soundboard := true, entranceSounds := true,
      giveaways := true }
  | .discord => {
      conversation := true, broadcasts := false, formatting := .markdown, liveNotifications := true,
      raidReactions := false, shoutouts := false, soundboard := false, entranceSounds := false,
      giveaways := false }

def all : List Platform := [.twitch, .discord]

end Platform

/-! ## Messages in a chat, and what is sent to it -/

inductive PermissionLevel where
  | viewer
  | moderator
  | admin
  deriving Repr, DecidableEq

namespace PermissionLevel

def rank : PermissionLevel → Nat
  | .viewer => 0
  | .moderator => 1
  | .admin => 2

def covers (level required : PermissionLevel) : Bool := decide (required.rank ≤ level.rank)

def name : PermissionLevel → String
  | .viewer => "VIEWER"
  | .moderator => "MODERATOR"
  | .admin => "ADMIN"

end PermissionLevel

structure Message where
  text : String
  sender : String
  level : PermissionLevel
  platform : Platform
  senderId : Option String := none
  deriving Repr, DecidableEq

inductive Delivery where
  | response (text : String)
  | broadcast (text : String)
  | live (channel text : String)
  | raid (text : String)
  | shoutout (fromId toId : String)
  deriving Repr, DecidableEq

end StreamBot.Chat
