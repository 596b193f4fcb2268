import StreamBot.Bot.Platform
import StreamBot.Proofs.Script.Simulation

/-! # Reasoning about what the bot does

How a computation of the bot runs when it is put together from others, and what an operation of the
database does to the bot: it changes the tables and nothing else (`perform_of_ok`, `ok_of_perform`).

A relation that can be chained holds between the states before and after a computation if it does so for its parts
(`Along`).  A computation that does not change some part of the state leaves a view of it as it is (`Leaves`).  Speaking
to the streaming platform for a user leaves everything but the tokens that are stored for the user and what the services
were told (`Discreet`).
-/

namespace StreamBot

variable {ε σ τ α β : Type}
variable {k : α → ExceptT ε (StateM σ) β} {o : Database.Operation α}

theorem BotM.map_run (f : α → β) (x : BotM α) (bot : Bot) : (f <$> x) bot = ((x bot).1.map f, (x bot).2) := by
  rcases hx : x bot with ⟨fault | a, after⟩ <;>
    simp only [Functor.map, ExceptT.map, ExceptT.mk, bind, StateT.bind, hx] <;> rfl

namespace Bot

/-- A bot that has just been set up, with empty tables. -/
def blank : Bot where
  config := {
    stage := .development, databaseFile := "", dataRoot := "", clientId := "", clientSecret := "",
    credentials := none, channel := "", webClientId := "", webClientSecret := "", redirectUri := "",
    eventsUrl := "", eventsPort := 0, eventsSecret := "", ignoreSubscriptions := true,
    sessionSecret := "", discordToken := "", discordModeratorRole := none,
    mail := ⟨"", 0, "", "", .none, ""⟩ }
  database := {}
  clock := ⟨⟨0⟩, 0⟩
  chance := 0
  draw := 0
  files := ⟨[], []⟩

def Working (bot : Bot) (operation : String) : Prop :=
  bot.outages.find? (·.operation == operation) = none

variable {o : Database.Operation α} {bot bot' : Bot} {a : α} {db : Database}

theorem working_of_outages (h : bot.outages = []) (operation : String) : bot.Working operation := by
  rw [Working, h]
  rfl

theorem requireWorking_of_working {operation : String} (h : bot.Working operation) :
    requireWorking operation bot = (.ok (), bot) := by
  unfold requireWorking
  rw [run_get_bind, h]
  rfl

theorem perform_of_ok (hworking : bot.Working o.name) (h : o.run bot.database = .ok (a, db)) :
    perform o bot = (.ok a, { bot with database := db }) := by
  unfold perform
  rw [run_bind_of_ok (requireWorking_of_working hworking), run_get_bind, h]
  rfl

theorem perform_of_error {fault : Database.Fault} (hworking : bot.Working o.name)
    (h : o.run bot.database = .error fault) : perform o bot = (.error (.database fault), bot) := by
  unfold perform
  rw [run_bind_of_ok (requireWorking_of_working hworking), run_get_bind, h]
  rfl

theorem run_perform (o : Database.Operation α) (bot : Bot) :
    (∃ a db, o.run bot.database = .ok (a, db) ∧ perform o bot = (.ok a, { bot with database := db })) ∨
      ∃ fault, perform o bot = (.error fault, bot) := by
  cases hfind : bot.outages.find? (·.operation == o.name) with
  | some outage =>
    have hrun : requireWorking o.name bot = (.error (.outage outage), bot) := by
      unfold requireWorking
      rw [run_get_bind, hfind]
      rfl
    exact .inr ⟨_, run_bind_of_error hrun _⟩
  | none =>
    rcases hrun : o.run bot.database with fault | ⟨a, db⟩
    · exact .inr ⟨_, perform_of_error hfind hrun⟩
    · exact .inl ⟨a, db, rfl, perform_of_ok hfind hrun⟩

theorem ok_of_perform (h : perform o bot = (.ok a, bot')) :
    ∃ db, o.run bot.database = .ok (a, db) ∧ bot' = { bot with database := db } := by
  obtain ⟨b, db, hrun, hperform⟩ | ⟨_, hperform⟩ := run_perform o bot
  · rw [hperform] at h
    cases h
    exact ⟨db, hrun, rfl⟩
  · rw [hperform] at h
    cases h

theorem attempt_run (x : BotM α) (bot : Bot) : attempt x bot = (.ok (x bot).1, (x bot).2) := rfl

theorem ask_run (hup : bot.services.down = false) (entry : Service.Entry) :
    ask entry bot = (.ok bot.services, { bot with journal := bot.journal ++ [entry] }) := by
  have hnote : note entry bot = (.ok ⟨⟩, { bot with journal := bot.journal ++ [entry] }) := rfl
  rw [ask, run_bind_of_ok hnote, run_get_bind]
  rw [if_neg (by simp [hup])]
  rfl

theorem usersById_run (hup : bot.services.down = false) (ids : List String) : usersById ids bot =
      (.ok (bot.services.usersById ids), { bot with journal := bot.journal ++ [.usersById ids] }) := by
  rw [usersById, run_bind_of_ok (ask_run hup _)]
  rfl

theorem usersByLogin_run (hup : bot.services.down = false) (logins : List String) : usersByLogin logins bot =
      (.ok (bot.services.usersByLogin logins), { bot with journal := bot.journal ++ [.usersByLogin logins] }) := by
  rw [usersByLogin, run_bind_of_ok (ask_run hup _)]
  rfl

end Bot

/-! ### Parts of the state that do not change -/

/-- A computation leaves a view of the state as it is, whether it returns or fails. -/
def Leaves (view : σ → τ) : ExceptT ε (StateM σ) α → Prop := Along fun s t => view t = view s

instance {view : σ → τ} : Chained fun s t => view t = view s :=
  ⟨fun _ => rfl, fun hfirst hsecond => hsecond.trans hfirst⟩

section Views

variable {view : σ → τ} {x : ExceptT ε (StateM σ) α}

@[simp]
theorem leaves_pure (a : α) : Leaves view (pure a : ExceptT ε (StateM σ) α) := fun _ => rfl

@[simp]
theorem leaves_throw (e : ε) : Leaves view (throw e : ExceptT ε (StateM σ) α) := fun _ => rfl

theorem leaves_get : Leaves view (get : ExceptT ε (StateM σ) σ) := fun _ => rfl

theorem leaves_modify {f : σ → σ} (h : ∀ s, view (f s) = view s) :
    Leaves view (modify f : ExceptT ε (StateM σ) PUnit) := h

theorem Leaves.of_run {s t : σ} {r : Except ε α} (hx : Leaves view x) (hrun : x s = (r, t)) : view t = view s := by
  have h := hx s
  rwa [hrun] at h

theorem Leaves.bind (hx : Leaves view x) (hk : ∀ a, Leaves view (k a)) : Leaves view (x >>= k) :=
  Along.bind hx hk

theorem Leaves.returns {f : α → β} (hx : Leaves view x) : Leaves view (x >>= fun a => pure (f a)) :=
  hx.bind fun a => leaves_pure (f a)

theorem view_bind (hk : ∀ a, Leaves view (k a)) (s : σ) : view ((x >>= k) s).2 = view (x s).2 := by
  obtain ⟨a, t, hrun, hbind⟩ | ⟨e, t, hrun, hbind⟩ := run_bind x k s
  · rw [hbind, hrun]
    exact hk a t
  · rw [hbind, hrun]

end Views

namespace Bot

/-- A view of the bot that shows neither what the services were told nor tokens that are stored for some users. -/
structure Discreet (users : Set String) (view : Bot → τ) : Prop where
  journal : ∀ bot entries, view { bot with journal := entries } = view bot
  tokens : ∀ userId ∈ users, ∀ bot access refresh expiresAt u db,
    (Database.addOrUpdateTwitchTokenSet userId access refresh expiresAt).run bot.database = .ok (u, db) →
      view { bot with database := db } = view bot

variable {users : Set String} {view : Bot → τ}

theorem discreet_of_tokenless (hjournal : ∀ bot entries, view { bot with journal := entries } = view bot)
    (htokens : ∀ bot rows, view { bot with database := { bot.database with tokenSets := rows } } = view bot) :
    Discreet users view := by
  refine ⟨hjournal, fun userId _ bot access refresh expiresAt u db hrun => ?_⟩
  cases hrun
  dsimp only
  split <;> exact htokens bot _

theorem leaves_requireWorking (operation : String) : Leaves view (requireWorking operation) := by
  refine leaves_get.bind fun bot => ?_
  split <;> simp

theorem eq_of_perform_error {bot bot' : Bot} {fault : Fault}
    (h : perform o bot = (.error fault, bot')) : bot' = bot := by
  obtain ⟨a, db, -, hperform⟩ | ⟨_, hperform⟩ := run_perform o bot
  · rw [hperform] at h
    cases h
  · rw [hperform] at h
    cases h
    rfl

theorem leaves_perform
    (h : ∀ bot : Bot, ∀ a db, o.run bot.database = .ok (a, db) → view { bot with database := db } = view bot) :
    Leaves view (perform o) := by
  intro bot
  obtain ⟨a, db, hrun, hperform⟩ | ⟨fault, hperform⟩ := run_perform o bot
  · rw [hperform]
    exact h bot a db hrun
  · rw [hperform]

theorem leaves_read {read : Database → α} (h : ∀ db, o.run db = .ok (read db, db)) : Leaves view (perform o) := by
  refine leaves_perform fun bot a db hrun => ?_
  rw [h] at hrun
  cases hrun
  rfl

theorem leaves_settingOr (kind : Database.SettingKind) (default : String) : Leaves view (settingOr kind default) :=
  (leaves_requireWorking _).bind fun _ => (leaves_read fun _ => rfl).returns

theorem leaves_ask (h : Discreet users view) (entry : Service.Entry) : Leaves view (ask entry) := by
  refine (leaves_modify fun bot => h.journal bot _).bind fun _ => leaves_get.bind fun bot => ?_
  dsimp only
  split
  · exact (leaves_throw _).returns
  · exact leaves_pure _

theorem leaves_useToken (token : String) : Leaves view (useToken token) := by
  refine leaves_get.bind fun bot => ?_
  dsimp only
  split
  · exact leaves_throw _
  · split <;> simp

theorem leaves_speakFor (h : Discreet users view) {userId : String} (huser : userId ∈ users) :
    Leaves view (speakFor userId) := by
  refine (leaves_read fun _ => rfl).bind fun tokens => ?_
  split
  · exact leaves_throw _
  · refine (leaves_useToken _).bind fun used => ?_
    split
    · exact leaves_get.bind fun bot => leaves_perform fun bot a db hrun => h.tokens userId huser bot _ _ _ a db hrun
    · exact leaves_pure _

theorem leaves_usersByLogin (h : Discreet users view) (logins : List String) : Leaves view (usersByLogin logins) :=
  (leaves_ask h _).returns

theorem leaves_usersById (h : Discreet users view) (ids : List String) : Leaves view (usersById ids) :=
  (leaves_ask h _).returns

theorem leaves_ownBroadcasterId (h : Discreet users view) : Leaves view ownBroadcasterId := by
  refine leaves_get.bind fun bot => (leaves_usersByLogin h _).bind fun users => ?_
  split <;> simp

theorem leaves_signature : Leaves view signature := leaves_get.bind fun _ => leaves_settingOr _ _

theorem leaves_sendMail (hmail : ∀ bot letters, view { bot with mail := letters } = view bot)
    (recipient subject text : String) : Leaves view (sendMail recipient subject text) := by
  intro bot
  unfold sendMail
  rw [run_get_bind]
  split
  · rfl
  split
  · rfl
  · exact hmail bot _

theorem leaves_notify (hmail : ∀ bot letters, view { bot with mail := letters } = view bot) (hnotifications : ∀ bot rows,
      view { bot with database := { bot.database with notifications := rows } } = view bot)
    (userId notification subject letter : String) : Leaves view (notify userId notification subject letter) := by
  refine leaves_get.bind fun bot => (leaves_perform fun bot a db hrun => ?_).bind fun _ => ?_
  · cases hrun
    exact hnotifications bot _
  · refine (leaves_read fun _ => rfl).bind fun profile => ?_
    split
    · exact leaves_sendMail hmail _ _ _
    · exact leaves_pure _

end Bot
end StreamBot
