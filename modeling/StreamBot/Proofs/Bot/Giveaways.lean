import StreamBot.Proofs.Bot.Reach
import StreamBot.Proofs.Chat.Fairness

/-! # Giveaways in every run

What a message does to the giveaway is what it asks for (`deed?`, `giveaway_of_process`), and the responses to it begin
with what the chat hears of that (`announced`, `responsesTo_of_announced`).  In runs of messages, with commands that are
read again in between and anything else that concerns neither the commands nor the giveaway (`Step`, `Run`), the giveaway
is fair from each start to the next (`giveaways_fair`).

That users enter by the command for it and by no other one is kept too (`Genuine`): commands in the tables do not enter
giveaways, and the handlers are only ever replaced by what is read from there.
-/

namespace StreamBot

open List Option
open Chat (Giveaway Handler Message)

namespace Bot

open Chat.Giveaway

variable {bot : Bot} {message : Message} {handler : Handler} {arguments : List String} {deed : Deed} {e : Event}

/-! ### What a message asks for -/

def managing? (arguments : List String) (chance : Nat) : Option Deed :=
  let word := arguments.head?.map Text.lower
  if word = some "start" then some .start
  else if word = some "end" then some .stop
  else if word = some "pick" then some (.pick chance)
  else none

theorem cases_of_managing? {arguments : List String} {chance : Nat} {deed : Deed}
    (h : managing? arguments chance = some deed) : deed = .start ∨ deed = .stop ∨ deed = .pick chance := by
  rw [managing?] at h
  grind

/-- What a message asks for, in a chat that has giveaways. -/
def deed? (bot : Bot) (message : Message) : Option Deed :=
  if message.platform.features.giveaways then
    (bot.call? message).bind fun call => match call.1.action with
      | .enterGiveaway => some (.enter message)
      | .manageGiveaway => managing? call.2 bot.draw
      | _ => none
  else none

/-- What the chat hears of the giveaway when a message is answered. -/
def announced (bot : Bot) (message : Message) : Option Event :=
  (bot.deed? message).bind (·.event? bot.giveaway)

/-- What is asked for is done, and the bot says what has come of it. -/
def grant (bot : Bot) (deed : Deed) : Except Fault (Option (List String)) × Bot :=
  (.ok (some (deed.apply bot.giveaway).2.texts), { bot with giveaway := (deed.apply bot.giveaway).1 })

theorem manageGiveaway_run (hgiveaways : message.platform.features.giveaways) :
    manageGiveaway message arguments bot = (managing? arguments bot.draw).elim (.ok none, bot) bot.grant := by
  rw [manageGiveaway, hgiveaways, managing?]
  show (get >>= _ : BotM _) bot = _
  split
  · rename_i hword
    rw [hword]
    rfl
  · rename_i hword
    rw [hword]
    rfl
  · rename_i hword
    rw [hword]
    rfl
  · rename_i hstart hend hpick
    rw [if_neg hstart, if_neg hend, if_neg hpick]
    rfl

theorem handle_of_deed (h : bot.deed? message = some deed) :
    ∃ handler arguments, bot.call? message = some (handler, arguments) ∧ handle handler message arguments bot = bot.grant deed := by
  rw [deed?] at h
  split at h
  · rename_i hgiveaways
    obtain ⟨⟨handler, arguments⟩, hcall, hdeed⟩ := bind_eq_some_iff.1 h
    refine ⟨handler, arguments, hcall, ?_⟩
    rw [handle]
    split at hdeed
    · rename_i haction
      cases hdeed
      rw [haction]
      show enterGiveaway message bot = _
      rw [enterGiveaway_run, if_pos hgiveaways]
      rfl
    · rename_i haction
      rw [haction]
      show manageGiveaway message arguments bot = _
      rw [manageGiveaway_run hgiveaways, hdeed]
      rfl
    · cases hdeed
  · cases h

theorem unmanaged_giveaway : Unmanaged (·.giveaway) :=
  ⟨⟨fun _ _ => rfl, fun _ _ => rfl, fun _ _ => rfl, fun _ _ => rfl⟩, fun _ _ _ _ _ _ => rfl⟩

theorem casual_giveaway : Casual (·.giveaway) := ⟨unmanaged_giveaway.toReserved, fun _ _ => rfl, fun _ _ => rfl⟩

theorem unmanaged_handlers : Unmanaged (·.handlers) :=
  ⟨⟨fun _ _ => rfl, fun _ _ => rfl, fun _ _ => rfl, fun _ _ => rfl⟩, fun _ _ _ _ _ _ => rfl⟩

theorem casual_handlers : Casual (·.handlers) := ⟨unmanaged_handlers.toReserved, fun _ _ => rfl, fun _ _ => rfl⟩

theorem giveaway_of_no_deed (hcall : bot.call? message = some (handler, arguments)) (h : bot.deed? message = none) :
    (handle handler message arguments bot).2.giveaway = bot.giveaway := by
  have hdoes := handle_does handler message arguments
  rw [deed?, hcall, bind_some] at h
  generalize handle handler message arguments = x at hdoes
  cases hdoes with
  | answers _ leaves => exact leaves casual_giveaway.toReserved (fun _ => leaves_play casual_giveaway) bot
  | enters action =>
    rw [action] at h
    rw [enterGiveaway_run]
    split at h
    · cases h
    · rename_i hgiveaways
      rw [if_neg hgiveaways]
  | commands =>
    refine manageCommands_view unmanaged_giveaway ?_ ?_ (fun _ _ => rfl) arguments
    · exact fun name _ => spares_of_tables (fun _ _ => rfl) name
    · exact fun _ found _ _ => spares_of_tables (fun _ _ => rfl) found.name
  | words => exact leaves_manageDictionary (fun _ _ => rfl) (fun _ _ => rfl) message arguments bot
  | giveaway _ action =>
    rw [action] at h
    split at h
    · rename_i hgiveaways
      have hnone : managing? arguments bot.draw = none := h
      rw [manageGiveaway_run hgiveaways, hnone]
      rfl
    · rename_i hgiveaways
      rw [Bool.not_eq_true] at hgiveaways
      rw [manageGiveaway, hgiveaways]
      rfl
  | soundboard => exact leaves_manageSoundboard (fun _ _ => rfl) arguments bot

theorem giveaway_of_process (incoming : Station.Incoming) (entrance : Option Entrance) (bot : Bot) :
    (process incoming.message entrance (Station.answer incoming) bot).2.giveaway =
      (bot.deed? incoming.message).elim bot.giveaway fun deed => (deed.apply bot.giveaway).1 := by
  rw [process_view casual_giveaway]
  cases hdeed : bot.deed? incoming.message with
  | none =>
    refine afterCall_cases (P := fun now => now.giveaway = bot.giveaway) rfl fun handler arguments hcall => ?_
    exact giveaway_of_no_deed hcall hdeed
  | some deed =>
    obtain ⟨handler, arguments, hcall, hhandle⟩ := handle_of_deed hdeed
    rw [afterCall, hcall, elim_some, hhandle]
    rfl

theorem responsesTo_of_announced (h : bot.announced message = some e) :
    ∃ more, (responsesTo message bot).1 = .ok (e.reply.texts ++ more) := by
  obtain ⟨deed, hdeed, hevent⟩ := bind_eq_some_iff.1 h
  obtain ⟨handler, arguments, hcall, hhandle⟩ := handle_of_deed hdeed
  obtain ⟨command, hcommand, hcalled⟩ := bind_eq_some_iff.1 hcall
  obtain ⟨found, hfound, heq⟩ := map_eq_some_iff.1 hcalled
  cases heq
  rw [← deed.reply_of_event? hevent, responsesTo, hcommand]
  show ∃ more, ((get >>= _ : BotM _) bot).1 = _
  rw [run_get_bind, hfound]
  dsimp only
  rw [run_bind_of_ok hhandle]
  exact ⟨_, rfl⟩

/-! ### Who may enter -/

def Genuine (handlers : List Handler) : Prop :=
  ∀ h ∈ handlers, h.action = .enterGiveaway → h = .plain enterCommand .enterGiveaway

/-- The message calls the command that enters giveaways, in a chat that has them. -/
structure Admitted (message : Message) : Prop where
  giveaways : message.platform.features.giveaways
  spoken : ∃ command, Chat.Command.ofMessage? message.text = some command ∧ Handler.spoken command.name = enterCommand

theorem eq_of_answers_plain {name text : String} {action : Chat.Action} (hname : Trigger.ofName name = .ok (.literal name))
    (h : (Handler.plain name action).answers text) : text = name := by
  have halike : (Trigger.Pattern.literal name).alike (.literal text) := h
  have hplain := ((Trigger.Pattern.WellFormed.of_parse hname).alike_iff_plainAs
    (Trigger.Pattern.plainAs_ofChars text.toList)).1 halike
  have hlist := hplain.mem_language.1 (Trigger.Pattern.mem_language_ofChars.2 rfl)
  exact String.toList_inj.1 (Trigger.Pattern.map_toNat_injective hlist).symm

theorem admitted_of_announced (hgenuine : Genuine bot.handlers) {entering : Message}
    (h : bot.announced message = some (.entered entering)) : Admitted entering := by
  obtain ⟨deed, hdeed, hevent⟩ := bind_eq_some_iff.1 h
  rw [deed?] at hdeed
  split at hdeed
  · rename_i hgiveaways
    obtain ⟨⟨handler, arguments⟩, hcall, hasked⟩ := bind_eq_some_iff.1 hdeed
    have haim := (filter_eq_some_iff.1 hevent).1
    split at hasked
    · rename_i haction
      cases hasked
      cases haim
      obtain ⟨command, hcommand, hcalled⟩ := bind_eq_some_iff.1 hcall
      obtain ⟨found, hfound, heq⟩ := map_eq_some_iff.1 hcalled
      cases heq
      have hlookup := (filter_eq_some_iff.1 hfound).1
      have hplain := hgenuine handler (mem_of_find?_eq_some hlookup) haction
      have hanswers := find?_some hlookup
      rw [hplain] at hanswers
      exact ⟨hgiveaways, command, hcommand, eq_of_answers_plain rfl hanswers⟩
    · rcases cases_of_managing? hasked with rfl | rfl | rfl
      · cases haim
      · cases haim
      · obtain ⟨p, -, hwon⟩ := map_eq_some_iff.1 haim
        cases hwon
    · cases hasked
  · cases hdeed

theorem genuine_nil : Genuine [] := fun _ h => absurd h not_mem_nil

theorem genuine_of_loadHandlers {handlers : List Handler} {after : Bot} (h : loadHandlers bot = (.ok handlers, after)) :
    Genuine handlers := by
  obtain ⟨-, own, hown, rfl⟩ := ok_of_loadHandlers h
  refine forall_mem_append.2 ⟨fun x hx haction => ?_, fun x hx haction => ?_⟩
  · obtain ⟨c, hc, hhandler⟩ := Trigger.exists_left_of_forall₂ hown hx
    obtain ⟨pattern, action, -, hc', rfl⟩ := StoredCommand.handler_eq_ok.1 hhandler
    obtain rfl : action = .enterGiveaway := haction
    rw [storedCommands] at hc
    simp only [mem_append, List.mem_map] at hc
    obtain ((⟨row, -, rfl⟩ | ⟨row, -, rfl⟩) | ⟨row, -, rfl⟩) | ⟨row, -, rfl⟩ := hc
    · cases hc'
    · cases hc'
    · cases hc'
    · obtain ⟨script, -, hexecute⟩ := StoredCommand.ok_of_ofScript hc'
      cases hexecute
  · simp only [Handler.builtins, mem_cons, not_mem_nil, or_false] at hx
    rcases hx with rfl | rfl | rfl | rfl | rfl
    · cases haction
    · cases haction
    · rfl
    · cases haction
    · cases haction

def KeepsGenuine (bot now : Bot) : Prop := Genuine bot.handlers → Genuine now.handlers

instance : Chained KeepsGenuine := ⟨fun _ => id, fun h h' => h' ∘ h⟩

theorem keepsGenuine_of_eq {now : Bot} (h : now.handlers = bot.handlers) : KeepsGenuine bot now := by
  intro hgenuine
  rwa [h]

theorem along_reloadHandlers : Along KeepsGenuine reloadHandlers := by
  intro bot _
  rw [reloadHandlers, run_modify_bind]
  obtain ⟨handlers, t, hload, hbind⟩ | ⟨fault, t, hload, hbind⟩ := run_bind loadHandlers
    (fun handlers => modify fun bot => { bot with handlers }) { bot with handlers := [] }
  · rw [hbind]
    exact genuine_of_loadHandlers hload
  · have hempty : t.handlers = [] := Leaves.of_run leaves_loadHandlers hload
    rw [hbind]
    rw [hempty]
    exact genuine_nil

theorem along_manageCommands (arguments : List String) : Along KeepsGenuine (manageCommands arguments) := by
  have hmanage : Leaves (·.handlers) (manage arguments) := by
    intro bot
    refine manage_view unmanaged_handlers ?_ ?_ arguments
    · exact fun name _ => spares_of_tables (fun _ _ => rfl) name
    · exact fun _ found _ _ => spares_of_tables (fun _ _ => rfl) found.name
  refine Along.bind (fun bot => keepsGenuine_of_eq (hmanage bot)) fun outcome => ?_
  split
  · exact Along.pure _
  · split
    · exact along_reloadHandlers.bind fun _ => Along.pure _
    · exact Along.pure _

theorem along_handle (handler : Handler) (message : Message) (arguments : List String) :
    Along KeepsGenuine (handle handler message arguments) := by
  intro bot
  have hdoes := handle_does handler message arguments
  generalize handle handler message arguments = x at hdoes
  cases hdoes with
  | commands => exact along_manageCommands arguments bot
  | answers _ leaves =>
    exact keepsGenuine_of_eq (leaves casual_handlers.toReserved (fun _ => leaves_play casual_handlers) bot)
  | enters => exact keepsGenuine_of_eq (leaves_enterGiveaway (fun _ _ => rfl) message bot)
  | words => exact keepsGenuine_of_eq (leaves_manageDictionary (fun _ _ => rfl) (fun _ _ => rfl) message arguments bot)
  | giveaway => exact keepsGenuine_of_eq (leaves_manageGiveaway (fun _ _ => rfl) message arguments bot)
  | soundboard => exact keepsGenuine_of_eq (leaves_manageSoundboard (fun _ _ => rfl) arguments bot)

theorem process_keepsGenuine (incoming : Station.Incoming) (entrance : Option Entrance) (bot : Bot) :
    KeepsGenuine bot (process incoming.message entrance (Station.answer incoming) bot).2 := by
  have hcall : KeepsGenuine bot (bot.afterCall incoming.message) :=
    afterCall_cases id fun handler arguments _ => along_handle handler _ arguments bot
  exact Chained.trans hcall (keepsGenuine_of_eq (process_view casual_handlers incoming entrance bot))

/-! ### Whole runs -/

/-- One step of a run with what the chat hears of giveaways: a message is answered, the commands are read again, or
something happens that concerns neither the commands nor the giveaway: time passes, chance draws, tables change. -/
inductive Step (bot : Bot) : List Event → Bot → Prop
  | said (incoming : Station.Incoming) (entrance : Option Entrance) : Step bot (bot.announced incoming.message).toList
      (process incoming.message entrance (Station.answer incoming) bot).2
  | reloaded : Step bot [] (reloadHandlers bot).2
  | other {now : Bot} (hgiveaway : now.giveaway = bot.giveaway) (hhandlers : now.handlers = bot.handlers) : Step bot [] now

inductive Run (bot : Bot) : List Event → Bot → Prop
  | refl : Run bot [] bot
  | step {events more : List Event} {between now : Bot} (hrun : Run bot events between) (hstep : Step between more now) :
      Run bot (events ++ more) now

variable {now : Bot} {events : List Event}

/-- A step changes the giveaway in one of the four ways and the chat hears of it, or it does not change it. -/
theorem Step.moves (h : bot.Step events now) :
    (events = [] ∧ now.giveaway = bot.giveaway) ∨ ∃ e, events = [e] ∧ Moves bot.giveaway e now.giveaway := by
  cases h with
  | said incoming entrance =>
    rw [giveaway_of_process, announced]
    cases bot.deed? incoming.message with
    | none => exact .inl ⟨rfl, rfl⟩
    | some deed =>
      rw [bind_some]
      obtain ⟨e, hevent, hmoves⟩ | ⟨hevent, hsame⟩ := deed.moves bot.giveaway
      · rw [hevent]
        exact .inr ⟨e, rfl, hmoves⟩
      · rw [hevent]
        exact .inl ⟨rfl, hsame⟩
  | reloaded => exact .inl ⟨rfl, leaves_reloadHandlers (fun _ _ => rfl) bot⟩
  | other hgiveaway _ => exact .inl ⟨rfl, hgiveaway⟩

theorem Step.admitted (h : bot.Step events now) (hgenuine : Genuine bot.handlers) :
    Genuine now.handlers ∧ ∀ message, .entered message ∈ events → Admitted message := by
  cases h with
  | said incoming entrance =>
    refine ⟨process_keepsGenuine incoming entrance bot hgenuine, fun message hmem => ?_⟩
    exact admitted_of_announced hgenuine (mem_toList.1 hmem)
  | reloaded => exact ⟨along_reloadHandlers bot hgenuine, fun _ hmem => absurd hmem not_mem_nil⟩
  | other _ hhandlers => exact ⟨keepsGenuine_of_eq hhandlers hgenuine, fun _ hmem => absurd hmem not_mem_nil⟩

theorem Run.admitted (h : bot.Run events now) (hgenuine : Genuine bot.handlers) :
    Genuine now.handlers ∧ ∀ message, .entered message ∈ events → Admitted message := by
  induction h with
  | refl => exact ⟨hgenuine, fun _ hmem => absurd hmem not_mem_nil⟩
  | step _ hstep ih =>
    obtain ⟨hnow, hmore⟩ := hstep.admitted ih.1
    refine ⟨hnow, fun message hmem => ?_⟩
    rcases mem_append.1 hmem with hmem | hmem
    · exact ih.2 message hmem
    · exact hmore message hmem

theorem Run.split {first second : List Event} (h : bot.Run events now) (heq : events = first ++ second) :
    ∃ between, bot.Run first between ∧ between.Run second now := by
  induction h generalizing second with
  | refl =>
    obtain ⟨rfl, rfl⟩ := append_eq_nil_iff.1 heq.symm
    exact ⟨bot, .refl, .refl⟩
  | @step events more between now hrun hstep ih =>
    obtain ⟨rfl, -⟩ | ⟨e, rfl, -⟩ := hstep.moves
    · obtain ⟨middle, hfirst, hsecond⟩ := ih (by simpa using heq)
      exact ⟨middle, hfirst, by simpa using hsecond.step hstep⟩
    · rcases eq_nil_or_concat second with rfl | ⟨most, last, rfl⟩
      · rw [append_nil] at heq
        exact ⟨now, heq ▸ hrun.step hstep, .refl⟩
      · have hsplit : events ++ [e] = (first ++ most) ++ [last] := by simpa using heq
        obtain ⟨hevents, hlast⟩ := append_inj' hsplit rfl
        obtain rfl := singleton_inj.1 hlast
        obtain ⟨middle, hfirst, hsecond⟩ := ih hevents
        exact ⟨middle, hfirst, by simpa using hsecond.step hstep⟩

/-- The giveaway is idle until it is started for the first time; afterwards it is what has become of it since it was
started for the last time. -/
structure Accounts (events : List Event) (g : Giveaway) : Prop where
  unstarted : .started ∉ events → events = [] ∧ g.phase = .idle
  started : ∀ before period, events = before ++ .started :: period → .started ∉ period → Tallies period g

theorem Accounts.step {g g' : Giveaway} (h : Accounts events g) (hmoves : Moves g e g') :
    Accounts (events ++ [e]) g' := by
  constructor
  · intro hnever
    exfalso
    obtain ⟨-, hidle⟩ := h.unstarted fun hmem => hnever (mem_append_left _ hmem)
    cases hmoves with
    | start => exact hnever (by simp)
    | enter hrunning | finish hrunning =>
      rw [hidle] at hrunning
      cases hrunning
    | win hended =>
      rw [hidle] at hended
      cases hended
  · intro before period heq hlast
    rcases eq_nil_or_concat period with rfl | ⟨most, last, rfl⟩
    · obtain ⟨-, hstarted⟩ := append_inj' heq rfl
      obtain rfl := singleton_inj.1 hstarted
      cases hmoves
      exact tallies_nil
    · have hsplit : events ++ [e] = (before ++ .started :: most) ++ [last] := by simpa using heq
      obtain ⟨hevents, hend⟩ := append_inj' hsplit rfl
      obtain rfl := singleton_inj.1 hend
      rw [concat_eq_append, mem_append, not_or] at hlast
      rw [concat_eq_append]
      refine (h.started before most hevents hlast.1).step hmoves ?_
      rintro rfl
      exact hlast.2 (mem_singleton_self _)

theorem Run.accounts (h : bot.Run events now) (hidle : bot.giveaway.phase = .idle) : Accounts events now.giveaway := by
  induction h with
  | refl => exact ⟨fun _ => ⟨rfl, hidle⟩, fun before period heq => by simp at heq⟩
  | step _ hstep ih =>
    obtain ⟨rfl, hsame⟩ | ⟨e, rfl, hmoves⟩ := hstep.moves
    · rw [append_nil, hsame]
      exact ih
    · exact ih.step hmoves

/-- In every run that begins without a giveaway, nothing is heard of one until it is started, and from each start to the
next it is fair.  Only messages that call the command for it, in chats that have giveaways, make their senders enter, and
what is heard is what the bot responds. -/
theorem giveaways_fair {before after : Bot} (hread : loadHandlers before = (.ok bot.handlers, after))
    (hidle : bot.giveaway.phase = .idle) (hrun : bot.Run events now) :
    (.started ∉ events → events = []) ∧
    (∀ earlier period later, events = earlier ++ .started :: (period ++ later) → .started ∉ period →
      ∃ between, bot.Run (earlier ++ .started :: period) between ∧ between.Run later now ∧
        Fair period between.giveaway) ∧
    (∀ message, .entered message ∈ events → Admitted message) ∧
    ∀ state message e, announced state message = some e →
      ∃ more, (responsesTo message state).1 = .ok (e.reply.texts ++ more) := by
  refine ⟨fun hnever => ((hrun.accounts hidle).unstarted hnever).1, ?_,
    (hrun.admitted (genuine_of_loadHandlers hread)).2, fun _ _ _ => responsesTo_of_announced⟩
  intro earlier period later heq hlast
  have hsplit : events = (earlier ++ .started :: period) ++ later := by simpa using heq
  obtain ⟨between, hfirst, hsecond⟩ := hrun.split hsplit
  exact ⟨between, hfirst, hsecond, ((hfirst.accounts hidle).started earlier period rfl hlast).fair⟩

def heard (bot : Bot) (message : Message) : Bot := (process message none (Station.answer ⟨message, none⟩) bot).2

theorem Run.heard (h : bot.Run events now) (message : Message) (hannounced : now.announced message = some e) :
    bot.Run (events ++ [e]) (now.heard message) := by
  have hstep : now.Step (now.announced message).toList (now.heard message) := .said ⟨message, none⟩ none
  rw [hannounced] at hstep
  exact h.step hstep

def lobby : Bot := { blank with handlers := Handler.builtins }

def hosted (text : String) : Message := ⟨text, "host", .admin, .twitch, none⟩

def joined (name : String) : Message := ⟨"!enter", name, .viewer, .twitch, none⟩

/-- The lobby after a giveaway that two users have entered, one of them after the commands were read again. -/
def lobbyClosed : Bot :=
  (((reloadHandlers ((lobby.heard (hosted "!giveaway start")).heard (joined "ann"))).2.heard (joined "bob")).heard
    (hosted "!giveaway end"))

theorem run_lobbyClosed :
    lobby.Run [.started, .entered (joined "ann"), .entered (joined "bob"), .finished] lobbyClosed := by
  have hstarted : lobby.Run [.started] (lobby.heard (hosted "!giveaway start")) :=
    Run.refl.heard (hosted "!giveaway start") (by decide +kernel)
  have hann := hstarted.heard (joined "ann") (e := .entered (joined "ann")) (by decide +kernel)
  have hbob := (hann.step .reloaded).heard (joined "bob") (e := .entered (joined "bob")) (by decide +kernel)
  exact hbob.heard (hosted "!giveaway end") (by decide +kernel)

theorem announced_lobbyClosed : lobbyClosed.announced (hosted "!giveaway pick") = some (.won ⟨"ann", .twitch⟩) := by
  have hdeed : lobbyClosed.deed? (hosted "!giveaway pick") = some (.pick 0) := by decide +kernel
  have hgiveaway : lobbyClosed.giveaway = ⟨.ended, [⟨"ann", .twitch⟩, ⟨"bob", .twitch⟩]⟩ := by decide +kernel
  have hchosen : chosen? 0 [⟨"ann", .twitch⟩, ⟨"bob", .twitch⟩] = some ⟨"ann", .twitch⟩ := by
    rw [chosen?, mergeSort_of_pairwise (by decide +kernel)]
    rfl
  rw [announced, hdeed, hgiveaway]
  refine Deed.event?_eq_some ?_ ?_
  · rw [Deed.aim?, hchosen]
    rfl
  · rw [Deed.apply, Chat.Giveaway.pick, hchosen]
    rfl

theorem giveaways_fair_lobby : loadHandlers blank = (.ok lobby.handlers, blank) ∧ lobby.giveaway.phase = .idle ∧
    ∃ now, lobby.Run [.started, .entered (joined "ann"), .entered (joined "bob"), .finished, .won ⟨"ann", .twitch⟩] now ∧
      Fair [.entered (joined "ann"), .entered (joined "bob"), .finished, .won ⟨"ann", .twitch⟩] now.giveaway := by
  have hload : loadHandlers blank = (.ok lobby.handlers, blank) :=
    (loadHandlers_eq_ok rfl).2 ⟨.nil, [], .nil, rfl⟩
  have hrun := run_lobbyClosed.heard (hosted "!giveaway pick") announced_lobbyClosed
  obtain ⟨now, hnow, -, hfair⟩ := (giveaways_fair hload rfl hrun).2.1 []
    [.entered (joined "ann"), .entered (joined "bob"), .finished, .won ⟨"ann", .twitch⟩] [] rfl (by decide)
  exact ⟨hload, rfl, now, hnow, hfair⟩

end Bot
end StreamBot
