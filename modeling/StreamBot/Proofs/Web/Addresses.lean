import StreamBot.Proofs.Web.Soundboard

/-! # Confirmed addresses

Users enter an address for letters, and confirm it by opening a link that is mailed there.  What a request does to the
profiles is told by at most one event (`Event`, `answer_tells`): an address was entered and perhaps a link made for it, a
link was opened, or a profile was deleted.  `Traced` relates the profiles and the links that can still be opened to the
events of a run (`Run`).

Main statement: `confirmed_by_link`.  A link is made for a user and not for an address, so an address that is entered
afterwards counts as confirmed at once (`exists_unconfirmed_address`).
-/

namespace StreamBot.Web

open List Database StreamBot.Bot
open Database (UserProfile VerificationToken)

variable {event : Option Event} {email : Option String} {token : String}
variable {α β : Type} {site : Site} {r : Request} {before after between : Bot} {userId : String} {route : Route}
variable {db : Database}

/-! ### Events -/

structure Link where
  token : String
  madeAt : Time.Instant
  /-- The letter with the link was handed in. -/
  sent : Bool

inductive Event where
  /-- A user enters an address or none, and a link may be made for it. -/
  | saved (userId : String) (email : Option String) (link : Option Link)
  /-- A link that was made for a user is opened. -/
  | opened (token userId : String) (time : Time.Instant)
  | deleted (userId : String)

def profilesAfter (rows : List UserProfile) : Option Event → List UserProfile
  | none => rows
  | some (.saved userId email _) =>
    if rows.any (·.userId == userId) then change (·.userId == userId) (fun row => { row with email }) rows
    else rows ++ [{ userId, email }]
  | some (.opened _ userId _) =>
    change (·.userId == userId) (fun row => { row with emailIsVerified := true }) rows
  | some (.deleted userId) => rows.filter (·.userId != userId)

def Offers (letter : Mail.Letter) (token : String) : Prop :=
  ∃ user address botName, letter.text =
    Mail.body (Mail.verificationText user (address ++ ("/viewer/verify-email/" ++ token)) botName)

/-- An event tells what has become of the profiles, the links and the letters. -/
structure Changed (before : Bot) (event : Option Event) (after : Bot) : Prop where
  profiles : after.database.profiles = profilesAfter before.database.profiles event
  /-- Links that can be opened were there before, or one has just been made. -/
  links : ∀ row ∈ after.database.verificationTokens, row ∈ before.database.verificationTokens ∨
    ∃ email link, event = some (.saved row.userId (some email) (some link)) ∧
      row = ⟨link.token, row.userId, link.madeAt⟩
  /-- A link that is opened was there, and is not too old. -/
  current : ∀ token userId time, event = some (.opened token userId time) →
    ∃ row ∈ before.database.verificationTokens, row.token = token ∧ row.userId = userId ∧
      time.micros - row.createdAt.micros ≤ verificationTime
  letters : before.mail <+: after.mail
  sent : ∀ userId email link, event = some (.saved userId (some email) (some link)) →
    if link.sent then ∃ delivery ∈ after.mail, delivery.letter.recipient = email ∧ Offers delivery.letter link.token
    else after.mail = before.mail

def records (bot : Bot) : List UserProfile × List VerificationToken × List Mail.Delivery × Time.Clock :=
  (bot.database.profiles, bot.database.verificationTokens, bot.mail, bot.clock)

theorem discreet_records : Discreet Set.univ records :=
  discreet_of_tokenless (fun _ _ => rfl) fun _ _ => rfl

theorem Changed.congr {before' after' : Bot} (h : Changed before event after) (hbefore : records before' = records before)
    (hafter : records after' = records after) : Changed before' event after' := by
  simp only [records, Prod.mk.injEq] at hbefore hafter
  obtain ⟨hprofiles, hlinks, hmail, -⟩ := hbefore
  obtain ⟨hprofiles', hlinks', hmail', -⟩ := hafter
  constructor
  case profiles => rw [hprofiles', hprofiles]; exact h.profiles
  case links => rw [hlinks', hlinks]; exact h.links
  case current => rw [hlinks]; exact h.current
  case letters => rw [hmail', hmail]; exact h.letters
  case sent => rw [hmail', hmail]; exact h.sent

theorem changed_none (hprofiles : after.database.profiles = before.database.profiles)
    (hlinks : after.database.verificationTokens ⊆ before.database.verificationTokens) (hmail : after.mail = before.mail) :
    Changed before none after where
  profiles := hprofiles
  links _ hrow := .inl (hlinks hrow)
  current _ _ _ h := by cases h
  letters := by rw [hmail]
  sent _ _ _ h := by cases h

/-- What was done is told by an event, if at all, and that is one of some. -/
def Tells (tells : Event → Prop) (before after : Bot) : Prop :=
  ∃ event, Changed before event after ∧ ∀ e ∈ event, tells e

section

variable {tells : Event → Prop} {x : SiteM α} {k : α → SiteM β}

theorem tells_same (hsame : records after = records before) : Tells tells before after :=
  ⟨none, (changed_none rfl (List.Subset.refl _) rfl).congr rfl hsame, fun _ h => by cases h⟩

theorem Tells.follow (h : Tells tells before between) (hsame : records after = records between) :
    Tells tells before after := by
  obtain ⟨event, hchanged, htells⟩ := h
  exact ⟨event, hchanged.congr rfl hsame, htells⟩

theorem Tells.mono {tells' : Event → Prop} (h : Tells tells before after) (himp : ∀ e, tells e → tells' e) :
    Tells tells' before after := by
  obtain ⟨event, hchanged, htells⟩ := h
  exact ⟨event, hchanged, fun e he => himp e (htells e he)⟩

theorem tells_bind (hx : SiteM.Leaves records x)
    (hk : ∀ a t, x site = (.ok a, t) → records t.bot = records site.bot → Tells tells t.bot (k a t).2.bot) :
    Tells tells site.bot ((x >>= k) site).2.bot := by
  have hfirst := hx site
  obtain ⟨a, t, hrun, hbind⟩ | ⟨failure, t, hrun, hbind⟩ := run_bind x k site
  · rw [hrun] at hfirst
    rw [hbind]
    obtain ⟨event, hchanged, htells⟩ := hk a t hrun hfirst
    exact ⟨event, hchanged.congr hfirst.symm rfl, htells⟩
  · rw [hrun] at hfirst
    rw [hbind]
    exact tells_same hfirst

theorem Tells.bind (hx : Tells tells site.bot (x site).2.bot) (hk : ∀ a, SiteM.Leaves records (k a)) :
    Tells tells site.bot ((x >>= k) site).2.bot :=
  hx.follow (view_bind hk site)

end

/-! ### What requests do -/

theorem leaves_toProfile (message : ProfileMessage) : SiteM.Leaves records (toProfile message) := leaves_goTo _

theorem changed_deleted (userId : String) : Changed before (some (.deleted userId))
    { before with database := { before.database with
      profiles := before.database.profiles.filter (·.userId != userId) } } where
  profiles := rfl
  links _ hrow := .inl hrow
  current _ _ _ h := by cases h
  letters := prefix_refl _
  sent _ _ _ h := by cases h

theorem deleteProfile_tells (visitor : Visitor) (site : Site) :
    Tells (· = .deleted visitor.id) site.bot (deleteProfile visitor site).2.bot := by
  refine Tells.bind ?_ fun _ => leaves_toProfile _
  rw [perform, onBot_after]
  obtain ⟨u, db, hrun, hperform⟩ | ⟨fault, hperform⟩ := Bot.run_perform (deleteUserProfile visitor.id) site.bot
  · rw [hperform, eq_of_required hrun]
    exact ⟨_, changed_deleted visitor.id, fun _ he => (Option.some.inj he).symm⟩
  · rw [hperform]
    exact tells_same rfl

theorem deleteToken_after (token : String) (bot : Bot) : ∃ rows, rows ⊆ bot.database.verificationTokens ∧
      (Bot.perform (deleteEmailVerificationToken token) bot).2 =
        { bot with database := { bot.database with verificationTokens := rows } } := by
  obtain ⟨u, db, hrun, hperform⟩ | ⟨fault, hperform⟩ :=
    Bot.run_perform (deleteEmailVerificationToken token) bot
  · rw [hperform, eq_of_required hrun]
    exact ⟨_, filter_subset_self _, rfl⟩
  · rw [hperform]
    exact ⟨_, List.Subset.refl _, rfl⟩

/-- A link is opened: the user's profile is marked, if there is one, and the link is forgotten. -/
theorem confirm_tells {row : VerificationToken} {now : Time.Instant} (hrow : row ∈ before.database.verificationTokens)
    (hage : now.micros - row.createdAt.micros ≤ verificationTime) :
    Tells (· = .opened row.token row.userId now) before ((do
      Bot.perform (markEmailAsVerified row.userId)
      Bot.perform (deleteEmailVerificationToken row.token) : BotM Unit) before).2 := by
  obtain ⟨u, db, hrun, hmark⟩ | ⟨fault, hmark⟩ := Bot.run_perform (markEmailAsVerified row.userId) before
  · rw [run_bind_of_ok hmark, eq_of_required hrun]
    obtain ⟨rows, hrows, hafter⟩ := deleteToken_after row.token { before with database := { before.database with
      profiles := change (·.userId == row.userId) (fun row => { row with emailIsVerified := true })
        before.database.profiles } }
    rw [hafter]
    refine ⟨some (.opened row.token row.userId now), ?_, fun _ he => (Option.some.inj he).symm⟩
    refine ⟨rfl, fun _ hleft => .inl (hrows hleft), fun token userId time h => ?_, prefix_refl _, fun _ _ _ h => ?_⟩
    · cases h
      exact ⟨row, hrow, rfl, rfl, hage⟩
    · cases h
  · rw [run_bind_of_error hmark]
    exact tells_same rfl

theorem verifyAddress_tells (token : String) (site : Site) :
    Tells (fun e => ∃ userId, e = .opened token userId site.bot.clock.now) site.bot (verifyAddress token site).2.bot := by
  refine tells_bind (leaves_read fun _ => rfl) fun found t hfound _ => ?_
  obtain ⟨db, hrun, hbot⟩ := ok_of_perform (ok_of_onBot hfound)
  cases hrun
  cases hrow : site.bot.database.verificationTokens.find? (·.token == token) with
  | none => exact tells_same (leaves_toProfile _ t)
  | some row =>
    dsimp only
    rw [run_get_bind]
    split
    · refine Tells.bind ?_ fun _ => leaves_toProfile _
      rw [perform, onBot_after]
      obtain ⟨rows, hrows, hafter⟩ := deleteToken_after token t.bot
      rw [hafter]
      exact ⟨none, changed_none rfl hrows rfl, fun _ he => by cases he⟩
    · next hage =>
      refine Tells.bind ?_ fun result => ?_
      · rw [hbot] at hage
        have htoken : row.token = token := by simpa using find?_some hrow
        obtain ⟨event, hchanged, htells⟩ :=
          confirm_tells (mem_of_find?_eq_some hrow) (Int.not_lt.1 hage)
        rw [htoken] at hchanged htells
        rw [attempt_run, hbot]
        exact ⟨event, hchanged, fun e he => ⟨row.userId, htells e he⟩⟩
      · split
        · exact leaves_toProfile _
        · split
          · exact leaves_toProfile _
          · exact leaves_throw _

/-- What becomes of a letter: it is handed in, or nothing happens. -/
theorem sendMail_run (recipient subject text : String) (bot : Bot) :
    (∃ fault, sendMail recipient subject text bot = (.error fault, bot)) ∨
      sendMail recipient subject text bot = (.ok (), { bot with
        mail := bot.mail ++ [⟨bot.config.mail, recipient, subject, Mail.body text⟩] }) := by
  unfold sendMail
  rw [run_get_bind]
  split
  · exact .inl ⟨_, rfl⟩
  split
  · exact .inl ⟨_, rfl⟩
  · exact .inr rfl

/-- The address that a user has entered; none if that is blank. -/
def addressOf (entered : String) : Option String :=
  let email := Text.lower (Text.strip entered)
  if email.isEmpty then none else some email

theorem changed_saved {u : Unit} (h : (upsertUserProfile userId email).run before.database = .ok (u, db)) :
    Changed before (some (.saved userId email none)) { before with database := db } := by
  have hdb : db.profiles = profilesAfter before.database.profiles (some (.saved userId email none)) ∧
      db.verificationTokens = before.database.verificationTokens := by
    cases h
    dsimp only [profilesAfter]
    split <;> exact ⟨rfl, rfl⟩
  refine ⟨hdb.1, fun row hrow => .inl (hdb.2 ▸ hrow), fun _ _ _ he => ?_, prefix_refl _, fun _ _ _ he => ?_⟩
  · cases he
  · cases he

theorem Changed.link {email : String} {madeAt : Time.Instant} {letters : List Mail.Delivery}
    (h : Changed before (some (.saved userId (some email) none)) between) (hmail : between.mail = before.mail)
    (hlink : (addEmailVerificationToken token userId madeAt).run between.database = .ok ((), db))
    (hletters : letters = [] ∨ ∃ delivery, letters = [delivery] ∧ delivery.letter.recipient = email ∧ Offers delivery.letter token) :
    ∃ sent, Changed before (some (.saved userId (some email) (some ⟨token, madeAt, sent⟩)))
      { between with database := db, mail := between.mail ++ letters } := by
  have hdb : db = { between.database with
      verificationTokens := between.database.verificationTokens ++ [⟨token, userId, madeAt⟩] } := by
    obtain ⟨_, _, hget, hrest⟩ := ok_of_bind hlink
    cases hget
    split at hrest
    · cases hrest
    · cases hrest
      rfl
  refine ⟨!letters.isEmpty, ?_⟩
  constructor
  case profiles => rw [hdb]; exact h.profiles
  case links =>
    intro row hrow
    rw [hdb] at hrow
    rcases mem_append.1 hrow with hrow | hrow
    · rcases h.links row hrow with hrow | ⟨_, _, he, -⟩
      · exact .inl hrow
      · cases he
    · rw [mem_singleton.1 hrow]
      exact .inr ⟨email, _, rfl, rfl⟩
  case current => intro _ _ _ he; cases he
  case letters => exact h.letters.trans (prefix_append _ _)
  case sent =>
    intro _ _ _ he
    cases he
    rcases hletters with rfl | ⟨delivery, rfl, hdelivery⟩
    · exact (append_nil _).trans hmail
    · exact ⟨delivery, mem_append_right _ (mem_singleton_self _), hdelivery⟩

theorem mailLink_after (email token user address : String) (bot : Bot) : ∃ letters, ((do
      let botName ← signature
      sendMail email "Verify Your Email Address"
        (Mail.verificationText user (address ++ ("/viewer/verify-email/" ++ token)) botName) : BotM Unit) bot).2 =
        { bot with mail := bot.mail ++ letters } ∧
      (letters = [] ∨ ∃ delivery, letters = [delivery] ∧ delivery.letter.recipient = email ∧
        Offers delivery.letter token) := by
  have hnothing : bot = { bot with mail := bot.mail ++ [] } := by rw [append_nil]
  have hsame : (signature bot).2 = bot := (leaves_signature : Leaves id signature) bot
  rcases hrun : signature bot with ⟨fault | botName, bot'⟩
  · rw [hrun] at hsame
    rw [run_bind_of_error hrun]
    exact ⟨[], hsame.trans hnothing, .inl rfl⟩
  · rw [hrun] at hsame
    rw [run_bind_of_ok hrun, show bot' = bot from hsame]
    generalize htext : Mail.verificationText user (address ++ ("/viewer/verify-email/" ++ token)) botName = text
    obtain ⟨fault, hmail⟩ | hmail := sendMail_run email "Verify Your Email Address" text bot
    · rw [hmail]
      exact ⟨[], hnothing, .inl rfl⟩
    · rw [hmail]
      exact ⟨_, rfl, .inr ⟨_, rfl, rfl, user, address, botName, by rw [htext]⟩⟩

theorem saveProfile_tells (r : Request) (visitor : Visitor) (site : Site) :
    Tells (fun e => ∃ entered link, Dict.get? r.form "email" = some entered ∧
      e = .saved visitor.id (addressOf entered) link) site.bot (saveProfile r visitor site).2.bot := by
  refine tells_bind (leaves_field r "email") fun entered t hfield _ => ?_
  have hentered := get?_of_field hfield
  have haddress : (if (Text.lower (Text.strip entered)).isEmpty then none else some (Text.lower (Text.strip entered))) =
      addressOf entered := rfl
  rw [haddress]
  -- Whichever link is made, the event is what the request asks for.
  have htells {link : Option Link} {bot : Bot}
      (h : Changed t.bot (some (.saved visitor.id (addressOf entered) link)) bot) :
      Tells (fun e => ∃ entered link, Dict.get? r.form "email" = some entered ∧
        e = .saved visitor.id (addressOf entered) link) t.bot bot :=
    ⟨_, h, fun e he => ⟨entered, link, hentered, (Option.some.inj he).symm⟩⟩
  generalize addressOf entered = email at htells ⊢
  rcases hrun : perform (upsertUserProfile visitor.id email) t with ⟨failure | u, t₁⟩
  · obtain ⟨fault, hperform⟩ := error_of_onBot hrun
    rw [run_bind_of_error hrun, eq_of_perform_error hperform]
    exact tells_same rfl
  obtain ⟨db, hupsert, hbot⟩ := ok_of_perform (ok_of_onBot hrun)
  have hsaved := changed_saved hupsert
  rw [← hbot] at hsaved
  rw [run_bind_of_ok hrun]
  cases email with
  | none => exact (htells hsaved).follow (leaves_toProfile _ t₁)
  | some email =>
    have hissue : nextIssue t₁ = (.ok (t₁.issued + 1), { t₁ with issued := t₁.issued + 1 }) := rfl
    dsimp only
    rw [run_bind_of_ok hissue, run_get_bind]
    generalize identifier (t₁.issued + 1) = token
    rcases hadd : perform (addEmailVerificationToken token visitor.id t₁.bot.clock.now)
      { t₁ with issued := t₁.issued + 1 } with ⟨failure | u, t₂⟩
    · obtain ⟨fault, hperform⟩ := error_of_onBot hadd
      rw [run_bind_of_error hadd, eq_of_perform_error hperform]
      exact htells hsaved
    obtain ⟨db₂, hlink, hbot₂⟩ := ok_of_perform (ok_of_onBot hadd)
    have hurl : urlFor ("/viewer/verify-email/" ++ token) t₂ =
      (.ok (t₂.address ++ ("/viewer/verify-email/" ++ token)), t₂) := rfl
    obtain ⟨letters, hmailed, hletters⟩ := mailLink_after email token visitor.displayName t₂.address t₂.bot
    obtain ⟨sent, hchanged⟩ := hsaved.link (by rw [hbot]) hlink hletters
    rw [run_bind_of_ok hadd, run_bind_of_ok hurl]
    refine (htells hchanged).follow ((view_bind (fun _ => leaves_toProfile _) t₂).trans ?_)
    rw [onBot_after, hmailed, hbot₂]

/-! ### Requests -/

def Request.route? (r : Request) : Option Route := (Route.ofPath r.path).2.lookup r.method

def Route.isProfile : Route → Bool
  | .saveProfile | .deleteProfile | .verifyAddress _ => true
  | _ => false

def MadeBy (site : Site) (r : Request) (userId : String) : Prop :=
  ∃ visitor, (visitor? r site).1 = .ok (some visitor) ∧ visitor.id = userId

def Event.AskedBy (site : Site) (r : Request) : Event → Prop
  | .saved userId email _ => r.route? = some .saveProfile ∧ MadeBy site r userId ∧
      ∃ entered, Dict.get? r.form "email" = some entered ∧ email = addressOf entered
  | .opened token _ time => r.route? = some (.verifyAddress token) ∧ time = site.bot.clock.now
  | .deleted userId => r.route? = some .deleteProfile ∧ MadeBy site r userId

theorem answerRoute_tells (hpath : r.route? = some route) (hroute : route.isProfile)
    (audience : Route.Audience) (site : Site) :
    Tells (Event.AskedBy site r) site.bot (answerRoute r audience route site).2.bot := by
  cases audience with
  | everybody =>
    -- No other audience has routes that are about profiles.
    refine tells_same ?_
    cases route with
    | saveProfile | deleteProfile | verifyAddress => rfl
    | _ => cases hroute
  | users =>
    refine tells_bind (leaves_visitor? r) fun found t hfound hsame => ?_
    refine tells_bind (leaves_requireVisitor found) fun visitor t' hvisitor hsame' => ?_
    have hmade : MadeBy site r visitor.id := by
      refine ⟨visitor, ?_, rfl⟩
      rw [hfound, eq_some_of_requireVisitor hvisitor]
    have hclock : t'.bot.clock = site.bot.clock := congrArg (·.2.2.2) (hsame'.trans hsame)
    cases route with
    | saveProfile =>
      refine (saveProfile_tells r visitor t').mono ?_
      rintro e ⟨entered, link, hentered, rfl⟩
      exact ⟨hpath, hmade, entered, hentered, rfl⟩
    | deleteProfile =>
      refine (deleteProfile_tells visitor t').mono ?_
      rintro e rfl
      exact ⟨hpath, hmade⟩
    | verifyAddress token =>
      refine (verifyAddress_tells token t').mono ?_
      rintro e ⟨userId, rfl⟩
      exact ⟨hpath, by rw [hclock]⟩
    | _ => cases hroute
  | broadcaster =>
    refine tells_bind (leaves_visitor? r) fun found t _ _ => ?_
    refine tells_bind (leaves_requireBroadcaster discreet_records fun _ _ => trivial) fun visitor t' _ _ => ?_
    refine tells_same ?_
    cases route with
    | saveProfile | deleteProfile | verifyAddress => rfl
    | _ => cases hroute

theorem answer_tells (hpath : r.route? = some route) (hroute : route.isProfile) (site : Site) :
    Tells (Event.AskedBy site r) site.bot (answer r site).2.bot := by
  have htells := answerRoute_tells hpath hroute (Route.ofPath r.path).1 site
  have hpath' : (Route.ofPath r.path).2.lookup r.method = some route := hpath
  unfold answer
  dsimp only
  rw [hpath']
  dsimp only
  obtain ⟨a, t, hrun, htry⟩ | ⟨failure, t, hrun, htry⟩ :=
    run_tryCatch (answerRoute r (Route.ofPath r.path).1 route) (answerFailure r) site
  · rw [hrun] at htells
    rw [htry]
    exact htells
  · rw [hrun] at htells
    rw [htry]
    refine htells.follow ?_
    cases failure with
    | refused status detail => exact leaves_errorPage discreet_records r status detail fun _ _ _ => trivial
    | unprocessable | waits | fault => rfl

/-! ### Runs -/

/-- Requests about profiles are answered at any times, with anything else in between. -/
inductive Run : List Event → Site → Prop where
  | start {site : Site} (hprofiles : site.bot.database.profiles = [])
      (hlinks : site.bot.database.verificationTokens = []) : Run [] site
  | request {trace : List Event} {site : Site} {r : Request} {route : Route} {event : Option Event} (h : Run trace site)
      (hpath : r.route? = some route) (hroute : route.isProfile) (hasked : ∀ e ∈ event, e.AskedBy site r)
      (hchanged : Changed site.bot event (answer r site).2.bot) : Run (trace ++ event.toList) (answer r site).2
  | pass {trace : List Event} {site site' : Site} (h : Run trace site)
      (hprofiles : site'.bot.database.profiles = site.bot.database.profiles)
      (hlinks : site'.bot.database.verificationTokens = site.bot.database.verificationTokens)
      (hletters : site.bot.mail <+: site'.bot.mail) : Run trace site'

theorem Run.answer {trace : List Event} (h : Run trace site) (hpath : r.route? = some route)
    (hroute : route.isProfile) : ∃ event, Run (trace ++ Option.toList event) (answer r site).2 := by
  obtain ⟨event, hchanged, hasked⟩ := answer_tells hpath hroute site
  exact ⟨event, h.request hpath hroute hasked hchanged⟩

def Event.savedBy (userId : String) : Event → Option (Option String)
  | .saved user email _ => if user = userId then some email else none
  | .opened .. | .deleted _ => none

def lastSaved (userId : String) (trace : List Event) : Option (Option String) :=
  (trace.filterMap (·.savedBy userId)).getLast?

/-- A link that was made for a user was opened in time, and the profile was not deleted afterwards. -/
def Confirmed (trace : List Event) (userId : String) : Prop :=
  ∃ first email link middle time last,
    trace = first ++ .saved userId (some email) (some link) :: (middle ++ .opened link.token userId time :: last) ∧
      time.micros - link.madeAt.micros ≤ verificationTime ∧ .deleted userId ∉ last

/-- The profiles, the links that can be opened and the letters come from the events of a run. -/
structure Traced (trace : List Event) (bot : Bot) : Prop where
  emails : ∀ row ∈ bot.database.profiles, lastSaved row.userId trace = some row.email
  confirmed : ∀ row ∈ bot.database.profiles, row.emailIsVerified → Confirmed trace row.userId
  links : ∀ row ∈ bot.database.verificationTokens, ∃ email sent,
    .saved row.userId (some email) (some ⟨row.token, row.createdAt, sent⟩) ∈ trace
  letters : ∀ userId email link, .saved userId (some email) (some link) ∈ trace → link.sent →
    ∃ delivery ∈ bot.mail, delivery.letter.recipient = email ∧ Offers delivery.letter link.token

section

variable {trace : List Event} {e : Event} {userId : String} {rows : List UserProfile} {row : UserProfile}
variable {time : Time.Instant} {link : Option Link}

theorem lastSaved_concat (trace : List Event) (e : Event) :
    lastSaved userId (trace ++ [e]) = (e.savedBy userId).or (lastSaved userId trace) := by
  rw [lastSaved, lastSaved]
  cases h : e.savedBy userId with
  | none | some => simp [h]

/-- Nothing else was entered since. -/
theorem lastSaved_of_split {first rest : List Event} (h : ∀ x l, .saved userId x l ∈ rest → x = email) :
    lastSaved userId (first ++ .saved userId email link :: rest) = some email := by
  induction rest using List.reverseRecOn with
  | nil => simp [lastSaved_concat, Event.savedBy]
  | append_singleton rest e ih =>
    have hrest := ih fun x l hmem => h x l (mem_append_left _ hmem)
    rw [← cons_append, ← append_assoc, lastSaved_concat, hrest]
    cases e with
    | saved user x l =>
      rw [Event.savedBy]
      split
      · next huser =>
        rw [h x l (mem_append_right _ (by rw [huser]; exact mem_singleton_self _))]
        rfl
      · rfl
    | opened | deleted => rfl

theorem Confirmed.concat (h : Confirmed trace userId) (he : e ≠ .deleted userId) : Confirmed (trace ++ [e]) userId := by
  obtain ⟨first, email, link, middle, time, last, rfl, hage, hkept⟩ := h
  refine ⟨first, email, link, middle, time, last ++ [e], by simp, hage, ?_⟩
  rw [mem_append, mem_singleton, not_or]
  exact ⟨hkept, he.symm⟩

theorem of_mem_saved (h : row ∈ profilesAfter rows (some (.saved userId email link))) :
    (row.userId = userId ∧ row.email = email ∧
      (row.emailIsVerified → ∃ old ∈ rows, old.userId = userId ∧ old.emailIsVerified)) ∨
      row ∈ rows ∧ row.userId ≠ userId := by
  rw [profilesAfter] at h
  split at h
  · obtain ⟨old, hold, rfl⟩ := mem_map.1 h
    by_cases huser : old.userId = userId
    · rw [if_pos (beq_iff_eq.2 huser)]
      exact .inl ⟨huser, rfl, fun hverified => ⟨old, hold, huser, hverified⟩⟩
    · rw [if_neg (by simpa using huser)]
      exact .inr ⟨hold, huser⟩
  · next hnew =>
    rcases mem_append.1 h with h | h
    · refine .inr ⟨h, fun huser => hnew ?_⟩
      exact any_eq_true.2 ⟨row, h, beq_iff_eq.2 huser⟩
    · obtain rfl := mem_singleton.1 h
      exact .inl ⟨rfl, rfl, fun hverified => by cases hverified⟩

theorem of_mem_opened (h : row ∈ profilesAfter rows (some (.opened token userId time))) :
    ∃ old ∈ rows, old.userId = row.userId ∧ old.email = row.email ∧
      (row.emailIsVerified → old.emailIsVerified ∨ row.userId = userId) := by
  obtain ⟨old, hold, rfl⟩ := mem_map.1 h
  refine ⟨old, hold, ?_⟩
  split
  · next huser => exact ⟨rfl, rfl, fun _ => .inr (beq_iff_eq.1 huser)⟩
  · exact ⟨rfl, rfl, .inl⟩

theorem of_mem_deleted (h : row ∈ profilesAfter rows (some (.deleted userId))) : row ∈ rows ∧ row.userId ≠ userId := by
  obtain ⟨hrow, hother⟩ := mem_filter.1 h
  exact ⟨hrow, by simpa using hother⟩

theorem Traced.emails_step (h : Traced trace before) (hchanged : Changed before event after) :
    ∀ row ∈ after.database.profiles, lastSaved row.userId (trace ++ event.toList) = some row.email := by
  intro row hrow
  rw [hchanged.profiles] at hrow
  cases event with
  | none =>
    rw [Option.toList_none, append_nil]
    exact h.emails row hrow
  | some e =>
    rw [Option.toList_some, lastSaved_concat]
    cases e with
    | saved user email link =>
      rw [Event.savedBy]
      rcases of_mem_saved hrow with ⟨huser, hemail, -⟩ | ⟨hold, huser⟩
      · rw [if_pos huser.symm, hemail]
        rfl
      · rw [if_neg huser.symm]
        exact h.emails row hold
    | opened token user time =>
      obtain ⟨old, hold, huser, hemail, -⟩ := of_mem_opened hrow
      rw [← huser, ← hemail]
      exact h.emails old hold
    | deleted user => exact h.emails row (of_mem_deleted hrow).1

theorem Traced.opened (h : Traced trace before) (hchanged : Changed before (some (.opened token userId time)) after) :
    Confirmed (trace ++ [.opened token userId time]) userId := by
  obtain ⟨row, hrow, htoken, huser, hage⟩ := hchanged.current token userId time rfl
  obtain ⟨email, sent, hmem⟩ := h.links row hrow
  obtain ⟨first, rest, hsplit⟩ := append_of_mem hmem
  rw [huser, htoken] at hsplit
  exact ⟨first, email, ⟨token, row.createdAt, sent⟩, rest, time, [], by rw [hsplit, append_assoc]; rfl, hage,
    not_mem_nil⟩

theorem Traced.confirmed_step (h : Traced trace before) (hchanged : Changed before event after) :
    ∀ row ∈ after.database.profiles, row.emailIsVerified → Confirmed (trace ++ event.toList) row.userId := by
  intro row hrow hverified
  have hrow' := hrow
  rw [hchanged.profiles] at hrow'
  cases event with
  | none =>
    rw [Option.toList_none, append_nil]
    exact h.confirmed row hrow' hverified
  | some e =>
    cases e with
    | saved user email link =>
      rcases of_mem_saved hrow' with ⟨huser, -, hkept⟩ | ⟨hold, -⟩
      · obtain ⟨old, hold, huser', hverified'⟩ := hkept hverified
        rw [huser, ← huser']
        exact (h.confirmed old hold hverified').concat (by simp)
      · exact (h.confirmed row hold hverified).concat (by simp)
    | opened token user time =>
      obtain ⟨old, hold, huser, -, hmark⟩ := of_mem_opened hrow'
      rcases hmark hverified with hverified' | huser'
      · rw [← huser]
        exact (h.confirmed old hold hverified').concat (by simp)
      · rw [huser']
        exact h.opened hchanged
    | deleted user =>
      obtain ⟨hold, huser⟩ := of_mem_deleted hrow'
      exact (h.confirmed row hold hverified).concat fun heq => huser (Event.deleted.inj heq).symm

theorem Traced.step {event : Option Event} (h : Traced trace before) (hchanged : Changed before event after) :
    Traced (trace ++ event.toList) after where
  emails := h.emails_step hchanged
  confirmed := h.confirmed_step hchanged
  links := by
    intro row hrow
    rcases hchanged.links row hrow with hrow | ⟨email, link, rfl, heq⟩
    · obtain ⟨email, sent, hmem⟩ := h.links row hrow
      exact ⟨email, sent, mem_append_left _ hmem⟩
    · rw [heq]
      exact ⟨email, link.sent, mem_append_right _ (mem_singleton_self _)⟩
  letters := by
    intro user email link hmem hsent
    rcases mem_append.1 hmem with hmem | hmem
    · obtain ⟨delivery, hdelivery, hletter⟩ := h.letters user email link hmem hsent
      exact ⟨delivery, hchanged.letters.subset hdelivery, hletter⟩
    · have hletter := hchanged.sent user email link (Option.mem_toList.1 hmem)
      rwa [if_pos hsent] at hletter

theorem traced_nil {bot : Bot} (hprofiles : bot.database.profiles = []) (hlinks : bot.database.verificationTokens = []) :
    Traced [] bot where
  emails := by simp [hprofiles]
  confirmed := by simp [hprofiles]
  links := by simp [hlinks]
  letters _ _ _ hmem := absurd hmem not_mem_nil

theorem Run.traced {trace : List Event} {site : Site} (h : Run trace site) : Traced trace site.bot := by
  induction h with
  | start hprofiles hlinks => exact traced_nil hprofiles hlinks
  | request _ _ _ _ hchanged ih => exact ih.step hchanged
  | pass _ hprofiles hlinks hletters ih =>
    refine ⟨hprofiles ▸ ih.emails, hprofiles ▸ ih.confirmed, hlinks ▸ ih.links, fun user email link hmem hsent => ?_⟩
    obtain ⟨delivery, hdelivery, hletter⟩ := ih.letters user email link hmem hsent
    exact ⟨delivery, hletters.subset hdelivery, hletter⟩

end

theorem of_mem_notify {notification subject letter : String} {bot : Bot} {delivery : Mail.Delivery}
    (h : delivery ∈ (notify userId notification subject letter bot).2.mail) :
    delivery ∈ bot.mail ∨ ∃ row ∈ bot.database.profiles, row.userId = userId ∧ row.emailIsVerified ∧
      row.email = some delivery.letter.recipient := by
  rw [notify, run_get_bind] at h
  obtain ⟨u, db, hrun, hadd⟩ | ⟨fault, hadd⟩ :=
    Bot.run_perform (addNotification userId notification bot.clock.now) bot
  · cases hrun
    rw [run_bind_of_ok hadd] at h
    obtain ⟨found, db, hrun, hlook⟩ | ⟨fault, hlook⟩ := Bot.run_perform (getUserProfile userId)
      { bot with database := { bot.database with notifications := bot.database.notifications ++
        [⟨nextId (·.id) bot.database.notifications, userId, notification, bot.clock.now, false⟩] } }
    · cases hrun
      rw [run_bind_of_ok hlook] at h
      rcases hfound : bot.database.profiles.find? (·.userId == userId) with _ | ⟨user, _ | address, _ | _⟩
      all_goals rw [hfound] at h
      -- There is no profile, or no address, or it does not count as confirmed.
      iterate 4 exact .inl h
      obtain ⟨fault, hmail⟩ | hmail := sendMail_run address subject letter _
      · dsimp only at h
        rw [hmail] at h
        exact .inl h
      · dsimp only at h
        rw [hmail] at h
        rcases mem_append.1 h with h | h
        · exact .inl h
        · obtain rfl := mem_singleton.1 h
          exact .inr ⟨_, mem_of_find?_eq_some hfound, by simpa using find?_some hfound, rfl, rfl⟩
    · rw [run_bind_of_error hlook] at h
      exact .inl h
  · rw [run_bind_of_error hadd] at h
    exact .inl h

/-- In every run of requests about profiles that starts without any, a user whose address counts as confirmed has opened,
or somebody has, a link that was made for the user and an address that the user had entered, when it was at most a day old,
and the profile has not been deleted since.  If the user has entered nothing else since the link was made, then that is the
address that counts as confirmed.  The link was mailed to the address for which it was made, unless the letter could not be
handed in.  Only addresses that count as confirmed are written to.  Every request goes on with a run. -/
theorem confirmed_by_link {trace : List Event} {site : Site} (h : Run trace site) :
    (∀ row ∈ site.bot.database.profiles, row.emailIsVerified = true → ∃ first email link middle time last,
        trace = first ++ .saved row.userId (some email) (some link) ::
          (middle ++ .opened link.token row.userId time :: last) ∧
        time.micros - link.madeAt.micros ≤ 24 * 60 * 60 * 1000000 ∧ .deleted row.userId ∉ last ∧
        ((∀ x l, .saved row.userId x l ∈ middle ++ last → x = some email) → row.email = some email)) ∧
    (∀ userId email link, .saved userId (some email) (some link) ∈ trace → link.sent = true →
      ∃ delivery ∈ site.bot.mail, delivery.letter.recipient = email ∧ Offers delivery.letter link.token) ∧
    (∀ userId notification subject letter,
      ∀ delivery ∈ (Bot.notify userId notification subject letter site.bot).2.mail, delivery ∈ site.bot.mail ∨
        ∃ row ∈ site.bot.database.profiles, row.userId = userId ∧ row.emailIsVerified = true ∧
          row.email = some delivery.letter.recipient) ∧
    (∀ r route, Request.route? r = some route → route.isProfile = true →
      ∃ event, (∀ e ∈ event, e.AskedBy site r) ∧ Run (trace ++ Option.toList event) (answer r site).2) := by
  have htraced := h.traced
  refine ⟨fun row hrow hverified => ?_, htraced.letters, fun _ _ _ _ _ hdelivery => of_mem_notify hdelivery,
    fun r route hpath hroute => ?_⟩
  · obtain ⟨first, email, link, middle, time, last, hsplit, hage, hkept⟩ := htraced.confirmed row hrow hverified
    refine ⟨first, email, link, middle, time, last, hsplit, hage, hkept, fun hsame => ?_⟩
    have hlast : lastSaved row.userId trace = some (some email) := by
      rw [hsplit]
      refine lastSaved_of_split fun x l hmem => hsame x l ?_
      simpa using hmem
    exact Option.some.inj ((htraced.emails row hrow).symm.trans hlast)
  · obtain ⟨event, hchanged, hasked⟩ := answer_tells hpath hroute site
    exact ⟨event, hasked, h.request hpath hroute hasked hchanged⟩

/-! ### A user with two addresses -/

def lounge : Site where
  bot := { blank with database := { tokenSets := [⟨1, "1", "t", "r", 5⟩] } }
  address := ""
  zones := []

def enter (email : String) : Request where
  method := .post
  path := "/viewer/profile"
  form := [("email", email)]
  cookies := [(sessionCookie, pass)]

def openFirst : Request where
  method := .get
  path := "/viewer/verify-email/00000000000000000000000000000001"
  cookies := [(sessionCookie, pass)]

theorem route_enter (email : String) : (enter email).route? = some .saveProfile := by
  change (Route.ofPath "/viewer/profile").2.lookup .post = some .saveProfile
  decide +kernel

theorem route_openFirst : openFirst.route? = some (.verifyAddress "00000000000000000000000000000001") := by
  decide +kernel

def entered : Site := (tryCatch (answerKnown (enter "a") streamer .users .saveProfile) (answerFailure (enter "a")) lounge).2

def opened : Site := (tryCatch (answerKnown openFirst streamer .users (.verifyAddress "00000000000000000000000000000001"))
  (answerFailure openFirst) entered).2

theorem answer_enter : (answer (enter "a") lounge).2 = entered := by
  rw [answer_of_visitor .users (visitor?_pass rfl rfl rfl rfl rfl) (by decide +kernel) (route_enter "a")]
  rfl

theorem answer_openFirst : (answer openFirst entered).2 = opened := by
  rw [answer_of_visitor .users (visitor?_pass rfl (by decide +kernel) (by decide +kernel) (by decide +kernel)
    (by decide +kernel : _ = some ⟨1, "1", "t", "r", 5⟩)) (by decide +kernel) route_openFirst]
  rfl

theorem lounge_run : (answer (enter "a") lounge).2.bot.mail.map (·.letter.recipient) = ["a"] ∧
    (answer openFirst (answer (enter "a") lounge).2).2.bot.database.profiles = [⟨"1", some "a", true⟩] ∧
    (answer (enter "b") (answer openFirst (answer (enter "a") lounge).2).2).2.bot.database.profiles =
      [⟨"1", some "b", true⟩] := by
  rw [answer_enter, answer_openFirst, answer_of_visitor .users (visitor?_pass rfl (by decide +kernel)
    (by decide +kernel) (by decide +kernel) (by decide +kernel : _ = some ⟨1, "1", "t", "r", 5⟩)) (by decide +kernel)
    (route_enter "b")]
  decide +kernel

/-- Where a user has entered one address and opened the link, that one counts as confirmed. -/
theorem confirmed_by_link_lounge : ∃ trace site, Run trace site ∧ site.bot.database.profiles = [⟨"1", some "a", true⟩] ∧
      ∃ email link time, .saved "1" (some email) (some link) ∈ trace ∧ .opened link.token "1" time ∈ trace := by
  have hstart : Run [] lounge := .start rfl rfl
  obtain ⟨entered, hentered⟩ := hstart.answer (route_enter "a") rfl
  obtain ⟨opened, hopened⟩ := hentered.answer route_openFirst rfl
  have hprofiles := lounge_run.2.1
  refine ⟨_, _, hopened, hprofiles, ?_⟩
  obtain ⟨first, email, link, middle, time, last, hsplit, -⟩ :=
    (confirmed_by_link hopened).1 ⟨"1", some "a", true⟩ (by rw [hprofiles]; exact mem_singleton_self _) rfl
  rw [hsplit]
  exact ⟨email, link, time, by simp, by simp⟩

/-- A user can have a confirmed address to which no link was mailed that anybody opened: it was entered after the link for
another address had been opened. -/
theorem exists_unconfirmed_address :
    ∃ (site : Site) (token : String) (r₁ r₂ r₃ : Request), site.bot.database.profiles = [] ∧ site.bot.mail = [] ∧
      r₁.route? = some .saveProfile ∧ r₂.route? = some (.verifyAddress token) ∧ r₃.route? = some .saveProfile ∧
      (answer r₁ site).2.bot.mail.map (·.letter.recipient) = ["a"] ∧
      (answer r₃ (answer r₂ (answer r₁ site).2).2).2.bot.database.profiles = [⟨"1", some "b", true⟩] :=
  ⟨lounge, _, enter "a", openFirst, enter "b", rfl, rfl, route_enter "a", route_openFirst, route_enter "b", lounge_run.1,
    lounge_run.2.2⟩

end StreamBot.Web
