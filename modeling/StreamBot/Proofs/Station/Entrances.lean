import StreamBot.Proofs.Bot.Reach
import StreamBot.Proofs.Station.Hearing

/-! # Entrance sounds

The entrance sound of a user is looked up when a message is taken from the queue, and it is played when that message has
been answered.  In between, other messages are taken and answered, also some of the same user.

A course of events (`Course`) is any interleaving of messages that are taken and messages that are answered, in any order,
with anything else in between.  It comes with what happened to the messages (`Moment`).  Whose sound was played in a session
is not looked up again, so only messages that were taken before can play it once more (`Happens.awaited_le`).  Main
statement: `entrance_sound_again`.
-/

namespace StreamBot

open List
open Chat (Handler Message)

namespace Bot

variable {τ : Type} {view : Bot → τ} {bot : Bot} {message : Message} {user : String} {e : Entrance}

/-! ### What a message does to sounds -/

/-- A view of the bot that shows no more than who was greeted and what is played for listeners. -/
def AtDoor (view : Bot → τ) : Prop :=
  ∀ bot now : Bot, now.greeted = bot.greeted → now.listeners = bot.listeners → view now = view bot

theorem AtDoor.unmanaged (h : AtDoor view) : Unmanaged view where
  journal _ _ := h _ _ rfl rfl
  lastUses _ _ := h _ _ rfl rfl
  pausesLeft _ _ := h _ _ rfl rfl
  scriptStores _ _ := h _ _ rfl rfl
  tables _ _ _ _ _ _ := h _ _ rfl rfl

theorem AtDoor.leaves_handle (h : AtDoor view) {handler : Handler}
    (hplay : handler.isClip → ∀ clip, Leaves view (play clip)) (arguments : List String) :
    Leaves view (handle handler message arguments) := by
  have hspares (bot : Bot) (name : String) : Spares view bot name := spares_of_tables (fun _ _ => h _ _ rfl rfl) name
  have hdoes := handle_does handler message arguments
  generalize handle handler message arguments = x at hdoes
  cases hdoes with
  | answers _ leaves => exact leaves h.unmanaged.toReserved hplay
  | enters => exact leaves_enterGiveaway (fun _ _ => h _ _ rfl rfl) message
  | commands =>
    exact fun bot => manageCommands_view h.unmanaged (fun _ _ => hspares bot _) (fun _ _ _ _ => hspares bot _)
      (fun _ _ => h _ _ rfl rfl) arguments
  | words => exact leaves_manageDictionary (fun _ _ => h _ _ rfl rfl) (fun _ _ => h _ _ rfl rfl) message arguments
  | giveaway => exact leaves_manageGiveaway (fun _ _ => h _ _ rfl rfl) message arguments
  | soundboard => exact leaves_manageSoundboard (fun _ _ => h _ _ rfl rfl) arguments

theorem callsClip_eq (bot : Bot) (message : Message) : callsClip bot message = (bot.call? message).any (·.1.isClip) := by
  rw [callsClip, call?]
  cases Chat.Command.ofMessage? message.text with
  | none => rfl
  | some command => cases hcalled : calledHandler? bot message command <;> simp [hcalled]

theorem greeted_afterCall (bot : Bot) (message : Message) : (bot.afterCall message).greeted = bot.greeted := by
  have hdoor : AtDoor (·.greeted) := fun _ _ hgreeted _ => hgreeted
  refine afterCall_cases (P := fun now => now.greeted = bot.greeted) rfl fun handler arguments _ => ?_
  refine hdoor.leaves_handle (fun _ clip => leaves_modify fun bot => ?_) arguments bot
  split <;> rfl

theorem listeners_afterCall (hclip : callsClip bot message = false) :
    (bot.afterCall message).listeners = bot.listeners := by
  have hdoor : AtDoor (·.listeners) := fun _ _ _ hlisteners => hlisteners
  refine afterCall_cases (P := fun now => now.listeners = bot.listeners) rfl fun handler arguments hcall => ?_
  refine hdoor.leaves_handle (fun hisClip => ?_) arguments bot
  rw [callsClip_eq, hcall] at hclip
  exact absurd (hisClip.symm.trans hclip) Bool.noConfusion

/-- The entrance sound that is played when a message has been answered: the one that was looked up, unless the message
calls a clip. -/
def greetingFor (bot : Bot) (message : Message) (entrance : Option Entrance) : Option Entrance :=
  if callsClip bot message then none else entrance

theorem any_of_greetingFor (bot : Bot) (message : Message) (entrance : Option Entrance) (p : Entrance → Bool)
    (h : (bot.greetingFor message entrance).any p) : entrance.any p := by
  rw [greetingFor] at h
  split at h
  · cases h
  · exact h

/-- A bot has answered a message and greeted its sender. -/
structure Answers (bot : Bot) (message : Message) (greeting : Option Entrance) (now : Bot) : Prop where
  greeted : ∀ user, user ∈ now.greeted ↔ user ∈ bot.greeted ∨ greeting.any (·.userId == user)
  listeners : callsClip bot message = false → now.listeners = if (bot.afterCall message).soundboardEnabled then
      bot.listeners.map fun l => { l with clips := l.clips ++ (greeting.map (·.clip)).toList }
    else bot.listeners

/-- Who was greeted, what is played for listeners, and whether the soundboard is switched on. -/
def stage (bot : Bot) : List String × List Listener × Bool := (bot.greeted, bot.listeners, bot.soundboardEnabled)

theorem reserved_stage : Reserved stage := ⟨fun _ _ => rfl, fun _ _ => rfl, fun _ _ => rfl, fun _ _ => rfl⟩

theorem process_state (incoming : Station.Incoming) (entrance : Option Entrance) (bot : Bot) :
    ∃ between, stage between = stage (bot.afterCall incoming.message) ∧
      (process incoming.message entrance (Station.answer incoming) bot).2 =
        (bot.greetingFor incoming.message entrance).elim between fun e => (greet e between).2 := by
  rw [process, run_get_bind, andFinally_state]
  have hstage := answer_view reserved_stage incoming bot
  generalize ((do Station.answer incoming (← responsesTo incoming.message)) bot).2 = between at hstage ⊢
  refine ⟨between, hstage, ?_⟩
  rw [greetingFor]
  cases callsClip bot incoming.message with
  | false | true =>
    cases entrance with
    | none => rfl
    | some e => rfl

theorem mem_greeted_greet : user ∈ (greet e bot).2.greeted ↔ user ∈ bot.greeted ∨ e.userId = user := by
  have hgreeted : (greet e bot).2.greeted =
      if bot.greeted.contains e.userId then bot.greeted else bot.greeted ++ [e.userId] := by
    refine view_bind (fun _ => leaves_modify fun bot => ?_) bot
    split <;> rfl
  rw [hgreeted]
  split
  · rename_i hcontains
    exact ⟨.inl, fun h => h.elim id fun h => h ▸ contains_iff_mem.1 hcontains⟩
  · rw [mem_append, mem_singleton, eq_comm]

theorem listeners_greet : (greet e bot).2.listeners =
    if bot.soundboardEnabled then bot.listeners.map fun l => { l with clips := l.clips ++ [e.clip] } else bot.listeners := by
  show (if bot.soundboardEnabled then _ else _ : Bot).listeners = _
  split <;> rfl

/-- A message is answered, and then the sound that was looked up is played for all listeners, unless the message calls a
clip.  Whose sound it is was greeted then. -/
theorem process_answers (incoming : Station.Incoming) (entrance : Option Entrance) (bot : Bot) :
    Answers bot incoming.message (bot.greetingFor incoming.message entrance)
      (process incoming.message entrance (Station.answer incoming) bot).2 := by
  obtain ⟨between, hstage, hstate⟩ := process_state incoming entrance bot
  simp only [stage, Prod.mk.injEq] at hstage
  obtain ⟨hgreeted, hlisteners, henabled⟩ := hstage
  rw [greeted_afterCall] at hgreeted
  rw [hstate]
  cases bot.greetingFor incoming.message entrance with
  | none =>
    refine ⟨fun user => by simp [hgreeted], fun hclip => ?_⟩
    rw [Option.elim_none, hlisteners, listeners_afterCall hclip]
    simp
  | some e =>
    refine ⟨fun user => ?_, fun hclip => ?_⟩
    · rw [Option.elim_some, mem_greeted_greet, hgreeted, Option.any_some, beq_iff_eq]
    · rw [Option.elim_some, listeners_greet, hlisteners, henabled, listeners_afterCall hclip]
      rfl

theorem entranceOf_of_greeted {entrance : Option Entrance}
    (hfound : (entranceOf message bot).1 = .ok entrance) (huser : user ∈ bot.greeted) :
    entrance.any (·.userId == user) = false := by
  cases entrance with
  | none => rfl
  | some e =>
    rw [Option.any_some, beq_eq_false_iff_ne]
    rintro rfl
    rw [entranceOf] at hfound
    split at hfound
    · cases hfound
    generalize message.senderId = sender at hfound
    cases sender with
    | none => cases hfound
    | some id =>
      dsimp only at hfound
      rw [run_get_bind] at hfound
      split at hfound
      · cases hfound
      rename_i hnew
      obtain ⟨row, t, -, hbind⟩ | ⟨fault, t, -, hbind⟩ :=
        run_bind (perform (Database.getEntranceSoundByTwitchUserId id)) _ bot
      · rw [hbind] at hfound
        cases row with
        | none => cases hfound
        | some row =>
          cases hfound
          exact hnew (contains_iff_mem.2 huser)
      · rw [hbind] at hfound
        cases hfound

end Bot

namespace Station

open StreamBot.Bot (Entrance)

variable {s t u : Station} {user : String} {trace moments : List Moment}

/-! ### Messages that are being answered -/

/-- What happens to a message and its entrance sound. -/
inductive Moment where
  /-- It is taken from the queue, and the sound is looked up. -/
  | taken (c : Conversation)
  /-- It has been answered, and perhaps the sound is played. -/
  | answered (c : Conversation) (greeting : Option Entrance)
  | renewed

def Moment.plays (user : String) : Moment → Bool
  | answered _ greeting => greeting.any (·.userId == user)
  | _ => false

def plays (user : String) (trace : List Moment) : Nat := trace.countP (·.plays user)

theorem plays_append (user : String) (trace more : List Moment) :
    plays user (trace ++ more) = plays user trace + plays user more := countP_append

theorem plays_answered (user : String) (c : Conversation) (greeting : Option Entrance) :
    plays user [.answered c greeting] = if greeting.any (·.userId == user) then 1 else 0 :=
  countP_singleton

/-- The entrance sound of a user is due when a message has been answered. -/
def Conversation.awaits (user : String) (c : Conversation) : Bool := c.entrance.any (·.userId == user)

/-- How many messages are being answered for which the entrance sound of a user is due. -/
def awaited (user : String) (s : Station) : Nat := s.conversations.countP (·.awaits user)

/-- The station when one of the messages has been answered and the others are left. -/
def afterAnswer (s : Station) (c : Conversation) (rest : List Conversation) : Station :=
  { s with conversations := rest, bot := (Bot.process c.incoming.message c.entrance (answer c.incoming) s.bot).2 }

theorem afterAnswer_answers (s : Station) (c : Conversation) (rest : List Conversation) :
    Bot.Answers s.bot c.incoming.message (s.bot.greetingFor c.incoming.message c.entrance) (s.afterAnswer c rest).bot := by
  have hanswers := Bot.process_answers c.incoming c.entrance s.bot
  rw [afterAnswer]
  generalize (Bot.process c.incoming.message c.entrance (answer c.incoming) s.bot).2 = now at hanswers ⊢
  exact hanswers

/-- The same messages are being answered, in some order, and the same users were greeted. -/
structure Undisturbed (s t : Station) : Prop where
  conversations : (t.conversations.map fun c => (c.incoming, c.entrance)).Perm
    (s.conversations.map fun c => (c.incoming, c.entrance))
  greeted : t.bot.greeted = s.bot.greeted

theorem undisturbed_of_eq (hconversations : t.conversations = s.conversations) (hgreeted : t.bot.greeted = s.bot.greeted) :
    Undisturbed s t :=
  ⟨by rw [hconversations], hgreeted⟩

/-- One thing that happens at a station, with what it means to the messages. -/
inductive Happens : Station → List Moment → Station → Prop where
  | take {s : Station} {who : Participant} {incoming : Incoming} {rest : List (Participant × Item)}
    {entrance : Option Entrance} (hqueue : s.queue = (who, .said incoming) :: rest)
    (hfound : (Bot.entranceOf incoming.message s.bot).1 = .ok entrance) :
    Happens s [.taken { incoming, entrance }] (take s).2
  | answer {s : Station} {c : Conversation} {before after : List Conversation}
    (hc : s.conversations = before ++ c :: after) :
    Happens s [.answered c (s.bot.greetingFor c.incoming.message c.entrance)] (s.afterAnswer c (before ++ after))
  | renew {s t : Station} (hsame : t.conversations = s.conversations) (hnobody : t.bot.greeted = []) :
    Happens s [.renewed] t
  | pass {s t : Station} (h : Undisturbed s t) : Happens s [] t

/-- What happens at a station from one state to another. -/
inductive Course (s : Station) : List Moment → Station → Prop where
  | start : Course s [] s
  | step {trace moments : List Moment} {t u : Station} (h : Course s trace t) (hnext : Happens t moments u) :
    Course s (trace ++ moments) u

theorem Undisturbed.awaited_eq (h : Undisturbed s t) (user : String) : t.awaited user = s.awaited user := by
  have hcount (s : Station) : s.awaited user =
      (s.conversations.map fun c => (c.incoming, c.entrance)).countP (fun p => p.2.any (·.userId == user)) := by
    rw [countP_map]
    rfl
  rw [hcount, hcount, h.conversations.countP_eq]

/-! ### The station's own steps -/

theorem leaves_greeted_sayLive (text : String) :
    Leaves (fun s : Station => (s.conversations, s.bot.greeted)) (onBot (sayLive text)) := by
  have hreserved : Bot.Reserved (·.greeted) := ⟨fun _ _ => rfl, fun _ _ => rfl, fun _ _ => rfl, fun _ _ => rfl⟩
  have hdiscreet : Bot.Discreet ∅ (·.greeted) := Bot.discreet_of_tokenless (fun _ _ => rfl) fun _ _ => rfl
  refine leaves_onBot fun s => congrArg (Prod.mk s.conversations) ((?_ : Leaves (·.greeted) _) s.bot)
  refine leaves_get.bind fun bot => ?_
  split
  · refine Leaves.bind (leaves_get.bind fun _ => (Bot.leaves_ask hdiscreet _).returns) fun live => ?_
    split
    · exact Bot.leaves_say hreserved text
    · exact leaves_pure _
  · exact leaves_pure _

theorem take_happens (s : Station) : ∃ moments, Happens s moments (take s).2 := by
  cases hqueue : s.queue with
  | nil =>
    refine ⟨[], .pass (undisturbed_of_eq ?_ ?_)⟩ <;> rw [take, run_get_bind, hqueue] <;> rfl
  | cons entry rest =>
    obtain ⟨who, item⟩ := entry
    cases item with
    | said incoming =>
      obtain ⟨fault, -, hrun⟩ | ⟨entrance, hfound, -⟩ := receive_run incoming { s with queue := rest }
      · refine ⟨[], .pass ?_⟩
        rw [take_of_said hqueue, hrun]
        exact undisturbed_of_eq rfl rfl
      · exact ⟨_, .take hqueue hfound⟩
    | broadcast text =>
      have htake : take s = sendBroadcast text { s with queue := rest } := by
        rw [take, run_get_bind, hqueue]
        rfl
      have hsame := leaves_sendBroadcast leaves_greeted_sayLive text { s with queue := rest }
      rw [← htake] at hsame
      exact ⟨[], .pass (undisturbed_of_eq (congrArg Prod.fst hsame) (congrArg Prod.snd hsame))⟩
    | ended =>
      refine ⟨[], .pass (undisturbed_of_eq ?_ ?_)⟩ <;> rw [take, run_get_bind, hqueue] <;> rfl

theorem finish_happens (s : Station) : ∃ moments, Happens s moments (finish s).2 := by
  rw [finish, run_get_bind]
  cases hconversations : s.conversations with
  | nil => exact ⟨[], .pass (undisturbed_of_eq rfl rfl)⟩
  | cons c rest =>
    dsimp only
    split
    · refine ⟨[], .pass ⟨?_, rfl⟩⟩
      rw [hconversations]
      show (List.map _ (rest ++ [_])).Perm _
      rw [map_append]
      exact perm_append_singleton _ _
    · have hanswer : Happens s _ (s.afterAnswer c ([] ++ rest)) := .answer hconversations
      rw [run_set_bind, run_bind_of_ok (attempt_run _ _)]
      exact ⟨_, hanswer⟩

/-! ### Sounds that are played again -/

theorem Happens.awaited_le (h : Happens s moments t) (hsession : .renewed ∉ moments) (huser : user ∈ s.bot.greeted) :
    user ∈ t.bot.greeted ∧ plays user moments + t.awaited user ≤ s.awaited user := by
  cases h with
  | @take who incoming rest entrance hqueue hfound =>
    -- no sound was looked up for a message of a user who was greeted, so none more is due
    have hnone : entrance.any (·.userId == user) = false := Bot.entranceOf_of_greeted hfound huser
    obtain ⟨fault, hfault, -⟩ | ⟨found, hfound', hrun⟩ := receive_run incoming { s with queue := rest }
    · cases hfault.symm.trans hfound
    · obtain rfl : found = entrance := Except.ok.inj (hfound'.symm.trans hfound)
      rw [take_of_said hqueue, hrun]
      refine ⟨huser, ?_⟩
      simp [plays, Moment.plays, awaited, Conversation.awaits, hnone]
  | @answer c before after hc =>
    -- if a sound is played it was due for this message, which is not being answered any more
    refine ⟨((afterAnswer_answers s c _).greeted user).2 (.inl huser), ?_⟩
    have hdue : (s.bot.greetingFor c.incoming.message c.entrance).any (·.userId == user) → c.awaits user :=
      Bot.any_of_greetingFor s.bot c.incoming.message c.entrance _
    have hrest : (s.afterAnswer c (before ++ after)).awaited user =
        before.countP (·.awaits user) + after.countP (·.awaits user) := countP_append
    rw [hrest, awaited, hc, countP_append, countP_cons, plays_answered]
    by_cases hplays : (s.bot.greetingFor c.incoming.message c.entrance).any (·.userId == user)
    · rw [if_pos hplays, if_pos (hdue hplays)]
      omega
    · rw [if_neg hplays]
      omega
  | renew => exact absurd (mem_singleton_self _) hsession
  | pass hundisturbed =>
    rw [hundisturbed.greeted, hundisturbed.awaited_eq]
    exact ⟨huser, Nat.le_of_eq (Nat.zero_add _)⟩

theorem Course.awaited_le (h : Course s trace t) (hsession : .renewed ∉ trace) (huser : user ∈ s.bot.greeted) :
    user ∈ t.bot.greeted ∧ plays user trace + t.awaited user ≤ s.awaited user := by
  induction h with
  | start => exact ⟨huser, Nat.le_of_eq (Nat.zero_add _)⟩
  | @step trace moments t u _ hnext ih =>
    rw [mem_append, not_or] at hsession
    obtain ⟨hgreeted, hle⟩ := ih hsession.1
    obtain ⟨hgreeted', hle'⟩ := hnext.awaited_le hsession.2 hgreeted
    refine ⟨hgreeted', ?_⟩
    rw [plays_append]
    omega

theorem Happens.of_plays (h : Happens s moments t) (hplays : plays user moments ≠ 0) :
    user ∈ t.bot.greeted ∧ plays user moments = 1 ∧ ∃ c greeting, moments = [.answered c greeting] := by
  cases h with
  | @answer c before after hc =>
    rw [plays_answered] at hplays ⊢
    split at hplays
    · rename_i hgreets
      rw [if_pos hgreets]
      exact ⟨((afterAnswer_answers s c _).greeted user).2 (.inr hgreets), rfl, c, _, rfl⟩
    · exact absurd rfl hplays
  | take | renew | pass => exact absurd rfl hplays

theorem Course.first (h : Course s trace t) (user : String) : plays user trace = 0 ∨
    ∃ quiet c greeting later m, trace = quiet ++ .answered c greeting :: later ∧ plays user quiet = 0 ∧
      plays user [.answered c greeting] = 1 ∧ Course s (quiet ++ [.answered c greeting]) m ∧ user ∈ m.bot.greeted ∧
      Course m later t := by
  induction h with
  | start => exact .inl rfl
  | @step trace moments t u hcourse hnext ih =>
    -- either this is the first time, or what came after the first time becomes longer
    rcases ih with hquiet | ⟨quiet, c, greeting, later, m, rfl, hquiet, hone, hfirst, hgreeted, hlater⟩
    · by_cases hplays : plays user moments = 0
      · left
        rw [plays_append, hquiet, hplays]
      · obtain ⟨hgreeted, hone, c, greeting, rfl⟩ := hnext.of_plays hplays
        exact .inr ⟨trace, c, greeting, [], u, rfl, hquiet, hone, hcourse.step hnext, hgreeted, .start⟩
    · right
      refine ⟨quiet, c, greeting, later ++ moments, m, ?_, hquiet, hone, hfirst, hgreeted, hlater.step hnext⟩
      rw [append_assoc, cons_append]

/-- Whatever is taken from the queue, and whichever message is answered next, goes on with a course of events.  When a
message has been answered, the sound that was looked up for it is played, unless it calls a clip; and then its user was
greeted.  As long as users are not greeted anew, the sound of a user is not played at all, or there is a first time, and
from then on it is played at most once for each message of the user that was being answered at that time and for which it
was due.  So it is played only once unless several messages of the user were being answered at once. -/
theorem entrance_sound_again {s t : Station} {trace : List Moment} (h : Course s trace t) :
    (∃ more, Course s (trace ++ more) (take t).2) ∧
    (∃ more, Course s (trace ++ more) (finish t).2) ∧
    (∀ c before after, t.conversations = before ++ c :: after →
      let greeting := t.bot.greetingFor c.incoming.message c.entrance
      Course s (trace ++ [.answered c greeting]) (t.afterAnswer c (before ++ after)) ∧
        Bot.Answers t.bot c.incoming.message greeting (t.afterAnswer c (before ++ after)).bot) ∧
    (.renewed ∉ trace → ∀ user, plays user trace = 0 ∨
      ∃ quiet c greeting later m, trace = quiet ++ .answered c greeting :: later ∧ plays user quiet = 0 ∧
        Course s (quiet ++ [.answered c greeting]) m ∧ Course m later t ∧
        plays user trace = 1 + plays user later ∧ plays user later ≤ m.awaited user) := by
  obtain ⟨taken, htake⟩ := take_happens t
  obtain ⟨finished, hfinish⟩ := finish_happens t
  refine ⟨⟨taken, h.step htake⟩, ⟨finished, h.step hfinish⟩, fun c before after hc => ?_, fun hsession user => ?_⟩
  · exact ⟨h.step (.answer hc), afterAnswer_answers t c _⟩
  · rcases h.first user with hnever | ⟨quiet, c, greeting, later, m, rfl, hquiet, hone, hfirst, hgreeted, hlater⟩
    · exact .inl hnever
    · have hsame : .renewed ∉ later := fun hmem => hsession (by simp [hmem])
      have hle := (hlater.awaited_le hsame hgreeted).2
      refine .inr ⟨quiet, c, greeting, later, m, rfl, hquiet, hfirst, hlater, ?_, by omega⟩
      rw [plays_append, ← singleton_append, plays_append, hquiet, hone, Nat.zero_add]

def hello : Incoming := { message := ⟨"hi", "Ann", .viewer, .twitch, some "1"⟩ }

/-- The word is being answered, and the entrance sound of the user is due. -/
def helloAnswered : Conversation := { incoming := hello, entrance := some ⟨"1", ⟨Soundboard.fileUrl "in.mp3", 1.0⟩⟩ }

/-- A station at which somebody listens and a user with an entrance sound has written twice. -/
def doorway : Station where
  bot := { Bot.blank with database := { entranceSounds := [⟨"1", "in.mp3"⟩] }, listeners := [⟨0, []⟩] }
  queue := [(.chat .twitch, .said hello), (.chat .twitch, .said hello)]

/-- What happens at the door: both words are taken, and then both are answered. -/
def doorwayMoments : List Moment :=
  [.taken helloAnswered, .taken helloAnswered, .answered helloAnswered helloAnswered.entrance,
    .answered helloAnswered helloAnswered.entrance]

theorem doorway_course : ∃ t, Course doorway doorwayMoments t ∧
    (t.bot.listeners.map fun l => l.clips.map (·.url)) = [["/static/soundboard/in.mp3", "/static/soundboard/in.mp3"]] := by
  have hplain (bot : Bot) :
      bot.greetingFor helloAnswered.incoming.message helloAnswered.entrance = helloAnswered.entrance := by
    have hword : Chat.Command.ofMessage? helloAnswered.incoming.message.text = none := by decide +kernel
    rfl
  have hfirst : Happens doorway [.taken helloAnswered] (take doorway).2 := .take rfl rfl
  have hsecond : Happens (take doorway).2 [.taken helloAnswered] (take (take doorway).2).2 := .take rfl rfl
  generalize hboth : (take (take doorway).2).2 = both at hsecond
  have hconversations : both.conversations = [] ++ helloAnswered :: [helloAnswered] := by
    rw [← hboth]
    rfl
  have hthird := Happens.answer hconversations
  have hfourth : Happens (both.afterAnswer helloAnswered [helloAnswered]) _ _ :=
    .answer (show [helloAnswered] = [] ++ helloAnswered :: [] from rfl)
  refine ⟨_, ((((Course.start).step hfirst).step hsecond).step hthird).step hfourth, ?_⟩
  rw [← hboth]
  decide +kernel

theorem plays_doorway : plays "1" doorwayMoments = 2 := by decide +kernel

theorem not_renewed_doorway : .renewed ∉ doorwayMoments := by simp [doorwayMoments]

/-- The sound is played for the first word, and then once more for the one that was being answered at that time. -/
theorem entrance_sound_again_doorway : .renewed ∉ doorwayMoments ∧ ∃ t, Course doorway doorwayMoments t ∧
    ∃ quiet c greeting later m, doorwayMoments = quiet ++ .answered c greeting :: later ∧ plays "1" quiet = 0 ∧
      Course doorway (quiet ++ [.answered c greeting]) m ∧ Course m later t ∧
      plays "1" later = 1 ∧ plays "1" later ≤ m.awaited "1" := by
  obtain ⟨t, hcourse, -⟩ := doorway_course
  refine ⟨not_renewed_doorway, t, hcourse, ?_⟩
  obtain ⟨-, -, -, hplays⟩ := entrance_sound_again hcourse
  obtain hnever | ⟨quiet, c, greeting, later, m, hmoments, hquiet, hfirst, hlater, hone, hle⟩ :=
    hplays not_renewed_doorway "1"
  · rw [plays_doorway] at hnever
    cases hnever
  · rw [plays_doorway] at hone
    exact ⟨quiet, c, greeting, later, m, hmoments, hquiet, hfirst, hlater, by omega, hle⟩

/-- The sound of a user may be played twice in a session, where nobody was greeted and nothing was being answered before. -/
theorem exists_entrance_sound_twice : ∃ (s t : Station) (trace : List Moment), s.conversations = [] ∧ s.bot.greeted = [] ∧
    Course s trace t ∧ .renewed ∉ trace ∧ plays "1" trace = 2 ∧
    (t.bot.listeners.map fun l => l.clips.map (·.url)) = [["/static/soundboard/in.mp3", "/static/soundboard/in.mp3"]] := by
  obtain ⟨t, hcourse, hheard⟩ := doorway_course
  exact ⟨doorway, t, doorwayMoments, rfl, rfl, hcourse, not_renewed_doorway, plays_doorway, hheard⟩

end Station
end StreamBot
