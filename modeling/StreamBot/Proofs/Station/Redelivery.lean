import StreamBot.Proofs.Bot.Reach
import StreamBot.Proofs.Chat.Fairness
import StreamBot.Proofs.Station.Hearing

/-! # Events that are delivered more than once

The streaming platform may deliver an event several times, and late.  What the bot remembers of events that it has received
is enough to tell a new one from one that it has seen: what it forgets has long been too old to be acted on.

A run (`Handling`) handles events and goes on with lookups, in any order and with anything else in between.  It comes with
what became of each event (`Occurrence`): it was ignored, it set something off, or a stream is asked for again later.
`Recorded` relates this to what is remembered, and `Followed` to the stream that is looked up.  Main statement:
`acted_on_once`.
-/

namespace StreamBot

open List Database
open Database (ReceivedMessage)

namespace Bot

variable {bot : Bot} {n : Notice} {now : Time.Instant} {rows : List ReceivedMessage}

/-! ### What is remembered of events -/

def remembered (now : Time.Instant) (rows : List ReceivedMessage) : List ReceivedMessage :=
  rows.filter fun row => !decide (row.timestamp.micros < (minutesAgo now rememberedMinutes).micros)

/-- An event is acted on: it is neither too old nor remembered. -/
def Notice.isNew (n : Notice) (now : Time.Instant) (rows : List ReceivedMessage) : Bool :=
  !n.isStale now && !(remembered now rows).any (·.messageId == n.messageId)

/-- What is remembered when an event has been looked at. -/
def Notice.recorded (n : Notice) (now : Time.Instant) (rows : List ReceivedMessage) : List ReceivedMessage :=
  if n.isStale now then rows
  else if n.isNew now rows then remembered now rows ++ [⟨n.messageId, n.sentAt⟩]
  else remembered now rows

/-- Nothing is wrong with the table of events that were received. -/
structure Remembers (bot : Bot) : Prop where
  forgets : bot.Working "purge_received_twitch_messages"
  looks : bot.Working "has_twitch_message_been_received"
  notes : bot.Working "add_or_update_received_twitch_message"

theorem acknowledge_run (h : Remembers bot) :
    acknowledge n bot = (.ok (n.isNew bot.clock.now bot.database.receivedMessages),
      { bot with database := { bot.database with
          receivedMessages := n.recorded bot.clock.now bot.database.receivedMessages } }) := by
  rw [acknowledge, run_get_bind]
  by_cases hstale : n.isStale bot.clock.now
  · rw [Notice.isNew, Notice.recorded, hstale]
    rfl
  rw [if_neg hstale]
  generalize hrows : remembered bot.clock.now bot.database.receivedMessages = rows
  have hpurge : attempt (perform (purgeReceivedTwitchMessages bot.clock.now rememberedMinutes)) bot =
      (.ok (.ok ()), { bot with database := { bot.database with receivedMessages := rows } }) := by
    rw [attempt_run, perform_of_ok h.forgets rfl, ← hrows]
    rfl
  generalize hbetween : { bot with database := { bot.database with receivedMessages := rows } } = between at hpurge
  have hlook : attempt (perform (hasTwitchMessageBeenReceived n.messageId)) between =
      (.ok (.ok (rows.any (·.messageId == n.messageId))), between) := by
    rw [attempt_run, ← hbetween, perform_of_ok h.looks rfl]
  rw [run_bind_of_ok hpurge, run_bind_of_ok hlook, Notice.recorded, if_neg hstale, Notice.isNew, hrows]
  cases hseen : rows.any (·.messageId == n.messageId) with
  | true =>
    rw [Bool.not_true, Bool.and_false, if_neg Bool.false_ne_true, hbetween]
    rfl
  | false =>
    have hnote : attempt (perform (addOrUpdateReceivedTwitchMessage n.messageId n.sentAt)) between =
        (.ok (.ok ()), { bot with database := { bot.database with
          receivedMessages := rows ++ [⟨n.messageId, n.sentAt⟩] } }) := by
      have hrun : (addOrUpdateReceivedTwitchMessage n.messageId n.sentAt).run between.database =
          .ok ((), { bot.database with receivedMessages := rows ++ [⟨n.messageId, n.sentAt⟩] }) := by
        rw [← hbetween]
        change Except.ok ((), if rows.any (·.messageId == n.messageId) then _ else _) = _
        rw [hseen]
        rfl
      rw [attempt_run, perform_of_ok (hbetween ▸ h.notes) hrun, ← hbetween]
    dsimp only
    rw [run_bind_of_ok hnote]
    simp [hstale]
    rfl

theorem isStale_iff : n.isStale now ↔ 10 * 60 * 1000000 < now.micros - n.sentAt.micros := decide_eq_true_iff

theorem mem_remembered (hfresh : ¬ n.isStale now) (h : ⟨n.messageId, n.sentAt⟩ ∈ rows) :
    ⟨n.messageId, n.sentAt⟩ ∈ remembered now rows := by
  have hkept : ¬ n.sentAt.micros < now.micros - 60 * 60000000 := by
    rw [isStale_iff] at hfresh
    omega
  exact mem_filter.2 ⟨h, by rw [Bool.not_eq_true']; exact decide_eq_false hkept⟩

theorem isStale_mono {later : Time.Instant} (hlater : now.micros ≤ later.micros) (h : n.isStale now) :
    n.isStale later := by
  rw [isStale_iff] at h ⊢
  omega

theorem mem_recorded {m : Notice} (h : m.isStale now ∨ ⟨m.messageId, m.sentAt⟩ ∈ rows) :
    m.isStale now ∨ ⟨m.messageId, m.sentAt⟩ ∈ n.recorded now rows := by
  by_cases hfresh : m.isStale now
  · exact .inl hfresh
  · have hmem := h.resolve_left hfresh
    right
    rw [Notice.recorded]
    split
    · exact hmem
    · split
      · exact mem_append_left _ (mem_remembered hfresh hmem)
      · exact mem_remembered hfresh hmem

theorem of_mem_recorded {row : ReceivedMessage} (h : row ∈ n.recorded now rows) :
    row ∈ rows ∨ row = ⟨n.messageId, n.sentAt⟩ := by
  rw [Notice.recorded] at h
  split at h
  · exact .inl h
  · split at h
    · rcases mem_append.1 h with h | h
      · exact .inl (mem_filter.1 h).1
      · exact .inr (mem_singleton.1 h)
    · exact .inl (mem_filter.1 h).1

theorem exists_mem_recorded (rows : List ReceivedMessage) (hfresh : ¬ n.isStale now) :
    ∃ row ∈ n.recorded now rows, row.messageId = n.messageId := by
  rw [Notice.recorded, if_neg hfresh]
  split
  · exact ⟨_, mem_append_right _ (mem_singleton_self _), rfl⟩
  · next hnew =>
    simpa [Notice.isNew, hfresh] using hnew

theorem isNew_iff : n.isNew now rows ↔
    ¬ n.isStale now ∧ ∀ row ∈ remembered now rows, row.messageId ≠ n.messageId := by
  simp [Notice.isNew]

end Bot

namespace Station

open StreamBot.Bot (Happening LiveStream Notice Raid)

variable {s t : Station} {n : Notice} {rest : List Notice} {l : Lookup} {x : StationM Unit}

/-! ### What becomes of an event -/

inductive Reaction where
  | live (stream : LiveStream)
  | raid (raid : Raid)

def Reaction.start : Reaction → StationM Unit
  | .live stream => streamLive stream
  | .raid r => act (.raid r)

inductive Outcome where
  | ignored
  | starts (reaction : Reaction)
  /-- A stream is not known to be live and will be looked up again. -/
  | waits (l : Lookup)

namespace Outcome

def carryOut : Outcome → StationM Unit
  | ignored => return ()
  | starts reaction => do
    onWatch fun w => { w with lookup := none }
    orGiveUp reaction.start
  | waits l => do
    sleep .lookup l.pause
    onWatch fun w => { w with lookup := some { l with questions := l.questions - 1, pause := l.pause * 2.0 } }

def isIgnored : Outcome → Bool
  | ignored => true
  | starts _ | waits _ => false

def isStart : Outcome → Bool
  | starts _ => true
  | ignored | waits _ => false

def isWait : Outcome → Bool
  | waits _ => true
  | ignored | starts _ => false

def ofLookup (services : Service.World) (l : Lookup) : Outcome :=
  match Dict.get? services.streams l.stream.id with
  | some details => starts (.live { l.stream with
      title := details.title, game := details.game, thumbnailUrl := details.thumbnailUrl })
  | none => waits l

/-- The stream of a broadcaster, by the names that the platform knows if there are any. -/
def streamOf (services : Service.World) (id login name : String) : LiveStream :=
  match (services.usersById [id]).head? with
  | some user => { name := user.displayName, login := user.login, id }
  | none => { name, login, id }

def ofHappening (services : Service.World) : Happening → Outcome
  | .raid raid => starts (.raid raid)
  | .online id login name => ofLookup services ⟨streamOf services id login name, lookupQuestions, 1.0⟩

def ofNotice (bot : Bot) (n : Notice) : Outcome :=
  if n.isNew bot.clock.now bot.database.receivedMessages then ofHappening bot.services n.happening else ignored

/-- What becomes of a stream that is looked up again. -/
def ofResumed (services : Service.World) (l : Lookup) : Outcome :=
  if l.questions = 0 then starts (.live l.stream) else ofLookup services l

end Outcome

open Outcome

def noted (s : Station) (entries : List Service.Entry) : Station :=
  { s with bot := { s.bot with journal := s.bot.journal ++ entries } }

theorem noted_noted (s : Station) (entries more : List Service.Entry) :
    (s.noted entries).noted more = s.noted (entries ++ more) := by
  rw [noted, noted, noted, ← append_assoc]

theorem onWatch_run (f : Watch → Watch) (s : Station) : onWatch f s = (.ok ⟨⟩, { s with watch := s.watch.map f }) := rfl

theorem orGiveUp_congr {y : StationM Unit} (h : x s = y t) : orGiveUp x s = orGiveUp y t := by
  simp only [orGiveUp, tryCatch, tryCatchThe, MonadExceptOf.tryCatch, ExceptT.tryCatch, ExceptT.mk, bind, StateT.bind, h]

theorem lookUp_run (hup : s.bot.services.down = false) (l : Lookup) :
    orGiveUp (lookUp l) s = (ofLookup s.bot.services l).carryOut (s.noted [.streams [l.stream.id]]) := by
  have hask : onBot (Bot.ask (.streams [l.stream.id])) s = (.ok s.bot.services, s.noted [.streams [l.stream.id]]) := by
    rw [onBot_run, Bot.ask_run hup]
    rfl
  rw [ofLookup]
  cases hfound : Dict.get? s.bot.services.streams l.stream.id with
  | some details =>
    rw [carryOut, run_bind_of_ok (onWatch_run _ _)]
    apply orGiveUp_congr
    rw [lookUp, run_bind_of_ok hask, hfound]
    exact run_bind_of_ok (onWatch_run _ _) _
  | none =>
    have hwaits : lookUp l s = (waits l).carryOut (s.noted [.streams [l.stream.id]]) := by
      rw [lookUp, run_bind_of_ok hask, hfound]
      rfl
    rw [orGiveUp_congr hwaits]
    rfl

def Unengaged (s : Station) : Prop := ∀ watch ∈ s.watch, watch.lookup = none

theorem map_watch_of_unengaged (h : s.Unengaged) : s.watch.map (fun w => { w with lookup := none }) = s.watch := by
  cases hwatch : s.watch with
  | none => rfl
  | some watch => rw [Option.map_some, ← h watch hwatch]

theorem act_run (hup : s.bot.services.down = false) (hlookup : s.Unengaged) (happening : Happening) :
    ∃ entries, orGiveUp (act happening) s = (ofHappening s.bot.services happening).carryOut (s.noted entries) := by
  cases happening with
  | raid raid =>
    have hnothing : s.noted [] = s := by rw [noted, append_nil]
    refine ⟨[], ?_⟩
    rw [hnothing, ofHappening, carryOut, run_bind_of_ok (onWatch_run _ _), map_watch_of_unengaged hlookup]
    rfl
  | online id login name =>
    have husers : onBot (Bot.usersById [id]) s = (.ok (s.bot.services.usersById [id]), s.noted [.usersById [id]]) := by
      rw [onBot_run, Bot.usersById_run hup]
      rfl
    have hact : act (.online id login name) s =
        lookUp ⟨streamOf s.bot.services id login name, lookupQuestions, 1.0⟩ (s.noted [.usersById [id]]) := by
      rw [act, run_bind_of_ok husers]
      rfl
    have hlookUp := lookUp_run (s := s.noted [.usersById [id]]) hup
      ⟨streamOf s.bot.services id login name, lookupQuestions, 1.0⟩
    rw [noted_noted] at hlookUp
    exact ⟨_, (orGiveUp_congr hact).trans hlookUp⟩

/-- The event that is handled next, and those that come after it. -/
def Next (s : Station) (n : Notice) (rest : List Notice) : Prop :=
  ∃ watch, s.watch = some watch ∧ watch.isOpen ∧ watch.lookup = none ∧ watch.notices = n :: rest

/-- The platform answers, and nothing is wrong with the table of events that were received. -/
structure Attended (s : Station) : Prop where
  remembers : s.bot.Remembers
  up : s.bot.services.down = false

def lookedAt (s : Station) (n : Notice) (rest : List Notice) : Station :=
  { s with
    watch := s.watch.map fun w => { w with notices := rest }
    bot := { s.bot with database := { s.bot.database with
      receivedMessages := n.recorded s.bot.clock.now s.bot.database.receivedMessages } } }

theorem handleNotice_run (h : s.Attended) (hnext : s.Next n rest) :
    ∃ entries, handleNotice s = (ofNotice s.bot n).carryOut ((s.lookedAt n rest).noted entries) := by
  obtain ⟨watch, hwatch, hopen, hlookup, hnotices⟩ := hnext
  have hlooked : onBot (Bot.acknowledge n) { s with watch := s.watch.map fun w => { w with notices := rest } } =
      (.ok (n.isNew s.bot.clock.now s.bot.database.receivedMessages), s.lookedAt n rest) := by
    rw [onBot_run, Bot.acknowledge_run h.remembers]
    rfl
  have hunengaged : (s.lookedAt n rest).Unengaged := by
    intro w hw
    rw [lookedAt, hwatch] at hw
    cases hw
    exact hlookup
  rw [handleNotice, run_get_bind, hwatch]
  dsimp only
  rw [hopen, hlookup, hnotices]
  dsimp only
  rw [run_bind_of_ok (onWatch_run _ _), run_bind_of_ok hlooked, ofNotice]
  split
  · exact act_run (s := s.lookedAt n rest) h.up hunengaged n.happening
  · exact ⟨[], by rw [noted, append_nil]; rfl⟩

theorem resumeLookup_run (hup : s.bot.services.down = false) (hlookup : s.watch.bind (·.lookup) = some l) :
    ∃ entries, resumeLookup s = (ofResumed s.bot.services l).carryOut (s.noted entries) := by
  rw [resumeLookup, run_get_bind, hlookup, ofResumed]
  dsimp only
  split
  · refine ⟨[], ?_⟩
    rw [noted, append_nil, carryOut, run_bind_of_ok (onWatch_run _ _)]
    exact orGiveUp_congr (run_bind_of_ok (onWatch_run _ _) _)
  · exact ⟨_, lookUp_run hup l⟩

/-! ### What is left when this has become of it -/

def memory (bot : Bot) : List ReceivedMessage × Time.Clock := (bot.database.receivedMessages, bot.clock)

/-- The watch, what is remembered of events, and the time. -/
def desk (s : Station) : Option Watch × List ReceivedMessage × Time.Clock := (s.watch, memory s.bot)

theorem casual_memory : Bot.Casual memory where
  journal _ _ := rfl
  listeners _ _ := rfl
  greeted _ _ := rfl
  lastUses _ _ := rfl
  pausesLeft _ _ := rfl
  scriptStores _ _ := rfl

theorem aloof_desk : Aloof desk := ⟨fun _ _ => rfl, fun _ _ => rfl, fun _ _ => rfl⟩

theorem leaves_transmit (chatId : String) (platform : Chat.Platform) (delivery : Chat.Delivery) :
    Leaves memory (transmit chatId platform delivery) := by
  cases delivery with
  | shoutout fromId toId => exact Bot.leaves_note casual_memory.toReserved _
  | raid text => exact Bot.leaves_say casual_memory.toReserved text
  | response | broadcast | live => exact leaves_pure _

theorem eq_of_getRaidEventActionByTwitchUser {userId : String} {db db' : Database} {action : Option RaidAction}
    (h : (getRaidEventActionByTwitchUser userId).run db = .ok (action, db')) : db' = db := by
  obtain ⟨_, _, hget, hrest⟩ := ok_of_bind h
  cases hget
  obtain ⟨row, _, honly, hrest⟩ := ok_of_bind hrest
  obtain ⟨rfl, -⟩ := eq_of_only? honly
  cases row with
  | some row =>
    cases hrest
    rfl
  | none => exact (eq_of_only? hrest).1

theorem leaves_beRaided (chatId : String) (raid : Raid) : Leaves memory (Bot.beRaided raid (transmit chatId)) := by
  have hsend (p : Chat.Platform → Bool) (delivery : Chat.Delivery) : Leaves memory
      (forIn Chat.Platform.all PUnit.unit fun platform _ =>
        if p platform then transmit chatId platform delivery >>= fun _ => pure (.yield PUnit.unit)
        else pure (.yield PUnit.unit)) := by
    refine Along.forIn fun platform _ => ?_
    split
    · exact (leaves_transmit chatId platform delivery).returns
    · exact leaves_pure _
  refine (Bot.leaves_perform fun bot a db hrun => ?_).bind fun action => ?_
  · rw [eq_of_getRaidEventActionByTwitchUser hrun]
  split
  · exact leaves_pure _
  dsimp only
  -- Whether there is a message and a shoutout or not, a clip may be played in the end.
  split
  on_goal 1 => refine (hsend (·.features.raidReactions) _).bind fun _ => ?_
  all_goals
    split
    on_goal 1 => refine (hsend (·.features.shoutouts) _).bind fun _ => ?_
    all_goals
      split
      · refine (Bot.leaves_read fun _ => rfl).bind fun rows => ?_
        split
        · exact Bot.leaves_play casual_memory _
        · exact leaves_pure _
      · exact leaves_pure _

theorem Reaction.leaves_start (reaction : Reaction) : Leaves desk reaction.start := by
  cases reaction with
  | live stream => exact leaves_streamLive aloof_desk stream
  | raid raid =>
    refine leaves_get.bind fun s => ?_
    split
    · exact leaves_onBot fun s => congrArg (Prod.mk s.watch) (leaves_beRaided _ raid s.bot)
    · exact leaves_pure _

def lookup? (s : Station) : Option Lookup := s.watch.bind (·.lookup)

/-- The stream that is looked up when this has become of an event. -/
def Outcome.left (before : Option Lookup) : Outcome → Option Lookup
  | ignored => before
  | starts _ => none
  | waits l => some { l with questions := l.questions - 1, pause := l.pause * 2.0 }

theorem memory_orGiveUp (hx : Leaves desk x) : Leaves (memory ∘ bot) (orGiveUp x) := by
  have hbot : Leaves (memory ∘ bot) x := fun s => congrArg Prod.snd (hx s)
  exact Along.tryCatch hbot fun _ => leaves_modify fun _ => rfl

theorem unengaged_orGiveUp (hx : Leaves desk x) (h : s.lookup? = none) : (orGiveUp x s).2.lookup? = none := by
  have hwatch : (x s).2.watch = s.watch := congrArg Prod.fst (hx s)
  obtain ⟨a, t, hrun, htry⟩ | ⟨fault, t, hrun, htry⟩ :=
    run_tryCatch x (fun _ => onWatch fun w => { w with lookup := none }) s
  · rw [hrun] at hwatch
    rw [orGiveUp, htry, lookup?, hwatch]
    exact h
  · rw [orGiveUp, htry, onWatch_run]
    cases t.watch with
    | none | some => rfl

namespace Outcome

theorem memory_carryOut (outcome : Outcome) : Leaves (memory ∘ bot) outcome.carryOut := by
  cases outcome with
  | ignored => exact leaves_pure _
  | starts reaction =>
    exact Leaves.bind (leaves_modify fun _ => rfl) fun _ => memory_orGiveUp reaction.leaves_start
  | waits l => exact Leaves.bind (leaves_modify fun _ => rfl) fun _ => leaves_modify fun _ => rfl

theorem lookup?_carryOut (outcome : Outcome) (hwatch : s.watch.isSome) :
    (outcome.carryOut s).2.lookup? = outcome.left s.lookup? := by
  obtain ⟨watch, hwatch⟩ := Option.isSome_iff_exists.1 hwatch
  cases outcome with
  | ignored => rfl
  | starts reaction =>
    rw [carryOut, run_bind_of_ok (onWatch_run _ _)]
    exact unengaged_orGiveUp reaction.leaves_start (by rw [hwatch]; rfl)
  | waits l =>
    change (s.watch.map _).bind _ = _
    rw [hwatch]
    rfl

end Outcome

/-! ### Runs -/

/-- Something has become of an event: it was handled at some time, or its stream was looked up again. -/
inductive Occurrence where
  | handled (n : Notice) (time : Time.Instant) (outcome : Outcome)
  | resumed (n : Notice) (outcome : Outcome)

namespace Occurrence

def notice : Occurrence → Notice
  | handled n _ _ | resumed n _ => n

def outcome : Occurrence → Outcome
  | handled _ _ outcome | resumed _ outcome => outcome

/-- What an event of this name sets off is started. -/
def starts (id : String) (o : Occurrence) : Bool := o.notice.messageId == id && o.outcome.isStart

/-- A stream is left for later because of an event of this name. -/
def waits (id : String) (o : Occurrence) : Bool := o.notice.messageId == id && o.outcome.isWait

def acts (id : String) : Occurrence → Bool
  | handled n _ outcome => n.messageId == id && !outcome.isIgnored
  | resumed .. => false

/-- An event is acted on exactly if it is the first of its name and not too old. -/
def Judged (before : List Occurrence) : Occurrence → Prop
  | handled n time outcome => outcome.isIgnored = false ↔
      (∀ o ∈ before, o.notice.messageId ≠ n.messageId) ∧ ¬ n.isStale time
  | resumed .. => True

end Occurrence

def pending (trace : List Occurrence) : Option Notice :=
  trace.getLast?.bind fun o => if o.outcome.isWait then some o.notice else none

/-- Something goes on that concerns no events, and time passes. -/
structure Passes (s t : Station) : Prop where
  lookup : t.lookup? = s.lookup?
  rows : t.bot.database.receivedMessages = s.bot.database.receivedMessages
  later : s.bot.clock.now.micros ≤ t.bot.clock.now.micros

/-- Events are handled and streams looked up, with anything else in between. -/
inductive Handling : List Occurrence → Station → Prop where
  | start {s : Station} (hlookup : s.lookup? = none) (hrows : s.bot.database.receivedMessages = []) : Handling [] s
  | handle {trace : List Occurrence} {s : Station} {n : Notice} {rest : List Notice} (h : Handling trace s) (hs : s.Attended)
      (hnext : s.Next n rest) :
      Handling (trace ++ [.handled n s.bot.clock.now (.ofNotice s.bot n)]) (handleNotice s).2
  | resume {trace : List Occurrence} {s : Station} {n : Notice} {l : Lookup} (h : Handling trace s) (hs : s.Attended)
      (hlookup : s.lookup? = some l) (hpending : pending trace = some n) :
      Handling (trace ++ [.resumed n (.ofResumed s.bot.services l)]) (resumeLookup s).2
  | pass {trace : List Occurrence} {s t : Station} (h : Handling trace s) (hpasses : Passes s t) : Handling trace t

theorem passes_hearNotice (subscription : String) (n : Notice) (s : Station) : Passes s (hearNotice subscription n s).2 := by
  have hadd : Leaves (fun s => (s.lookup?, memory s.bot)) (onWatch fun w => { w with notices := w.notices ++ [n] }) := by
    refine leaves_modify fun s => ?_
    rw [lookup?, lookup?]
    cases s.watch with
    | none | some => rfl
  have hsame := leaves_hearNotice hadd subscription s
  exact ⟨congrArg Prod.fst hsame, congrArg (·.2.1) hsame, le_of_eq (congrArg (·.2.2.now.micros) hsame).symm⟩

/-! ### What is remembered and what became of events -/

/-- What is remembered comes from the events that were handled, and is enough to tell the next one from them. -/
structure Recorded (trace : List Occurrence) (s : Station) : Prop where
  kept : ∀ o ∈ trace, o.notice.isStale s.bot.clock.now ∨
    ⟨o.notice.messageId, o.notice.sentAt⟩ ∈ s.bot.database.receivedMessages
  rows : ∀ row ∈ s.bot.database.receivedMessages, ∃ o ∈ trace, row = ⟨o.notice.messageId, o.notice.sentAt⟩

def Consistent (trace : List Occurrence) : Prop :=
  ∀ o ∈ trace, ∀ o' ∈ trace, o.notice.messageId = o'.notice.messageId → o.notice.sentAt = o'.notice.sentAt

variable {trace : List Occurrence} {o : Occurrence}

theorem Consistent.of_concat (h : Consistent (trace ++ [o])) : Consistent trace :=
  fun o ho o' ho' => h o (mem_append_left _ ho) o' (mem_append_left _ ho')

theorem Recorded.handled (h : Recorded trace s) (hsame : Consistent (trace ++ [o])) (hnow : t.bot.clock.now = s.bot.clock.now)
    (hrows : t.bot.database.receivedMessages =
      o.notice.recorded s.bot.clock.now s.bot.database.receivedMessages) : Recorded (trace ++ [o]) t := by
  have hfrom : ∀ row ∈ t.bot.database.receivedMessages, ∃ o' ∈ trace ++ [o],
      row = ⟨o'.notice.messageId, o'.notice.sentAt⟩ := by
    intro row hrow
    rw [hrows] at hrow
    rcases Bot.of_mem_recorded hrow with hrow | hrow
    · obtain ⟨o', ho', heq⟩ := h.rows row hrow
      exact ⟨o', mem_append_left _ ho', heq⟩
    · exact ⟨o, mem_append_right _ (mem_singleton_self o), hrow⟩
  refine ⟨fun o' ho' => ?_, hfrom⟩
  rw [hnow]
  rcases mem_append.1 ho' with hbefore | hlast
  · rw [hrows]
    exact Bot.mem_recorded (h.kept o' hbefore)
  · obtain rfl := mem_singleton.1 hlast
    by_cases hfresh : o'.notice.isStale s.bot.clock.now
    · exact .inl hfresh
    · right
      obtain ⟨row, hrow, hname⟩ := Bot.exists_mem_recorded s.bot.database.receivedMessages hfresh
      rw [← hrows] at hrow
      obtain ⟨first, hfirst, heq⟩ := hfrom row hrow
      have hfirstName : first.notice.messageId = o'.notice.messageId := by rw [← hname, heq]
      rwa [heq, hfirstName, hsame first hfirst o' ho' hfirstName] at hrow

theorem Recorded.isNew_iff (h : Recorded trace s) (hsame : Consistent (trace ++ [o])) :
    o.notice.isNew s.bot.clock.now s.bot.database.receivedMessages ↔
      (∀ o' ∈ trace, o'.notice.messageId ≠ o.notice.messageId) ∧ ¬ o.notice.isStale s.bot.clock.now := by
  rw [Bot.isNew_iff]
  constructor
  · rintro ⟨hfresh, hnone⟩
    refine ⟨fun o' ho' hname => ?_, hfresh⟩
    have hsent := hsame o' (mem_append_left _ ho') o (mem_append_right _ (mem_singleton_self o)) hname
    rcases h.kept o' ho' with hstale | hrow
    · rw [Bot.isStale_iff, hsent, ← Bot.isStale_iff] at hstale
      exact hfresh hstale
    · rw [hname, hsent] at hrow
      exact hnone _ (Bot.mem_remembered hfresh hrow) rfl
  · rintro ⟨hfirst, hfresh⟩
    refine ⟨hfresh, fun row hrow hname => ?_⟩
    obtain ⟨o', ho', heq⟩ := h.rows row (mem_filter.1 hrow).1
    exact hfirst o' ho' (by rw [← hname, heq])

/-! ### What is started and what is still looked up -/

def Reaction.Answers : Reaction → Happening → Prop
  | live stream, .online id _ _ => stream.id = id
  | raid r, .raid r' => r = r'
  | live _, .raid _ | raid _, .online .. => False

/-- What becomes of an event is what it tells of, and if a stream is left for later some questions were left. -/
def Outcome.Suits (n : Notice) (questions : Nat) : Outcome → Prop
  | ignored => True
  | starts reaction => reaction.Answers n.happening
  | waits l => l.questions = questions ∧ 0 < questions ∧ ∃ login name, n.happening = .online l.stream.id login name

namespace Outcome

variable {services : Service.World}

theorem suits_ofLookup {login name : String} (h : n.happening = .online l.stream.id login name) (hmore : 0 < l.questions) :
    (ofLookup services l).Suits n l.questions := by
  rw [ofLookup]
  split
  · rw [Suits, h]
    rfl
  · exact ⟨rfl, hmore, login, name, h⟩

theorem id_streamOf (services : Service.World) (id login name : String) : (streamOf services id login name).id = id := by
  rw [streamOf]
  split <;> rfl

theorem suits_ofHappening : (ofHappening services n.happening).Suits n lookupQuestions := by
  cases h : n.happening with
  | raid raid =>
    rw [ofHappening, Suits, h]
    rfl
  | online id login name =>
    have hid : n.happening = .online (streamOf services id login name).id login name := by rw [h, id_streamOf]
    exact suits_ofLookup hid (Nat.succ_pos 2)

theorem suits_ofNotice (bot : Bot) (n : Notice) : (ofNotice bot n).Suits n lookupQuestions := by
  rw [ofNotice]
  split
  · exact suits_ofHappening
  · trivial

theorem suits_ofResumed (services : Service.World) {login name : String} (h : n.happening = .online l.stream.id login name) :
    (ofResumed services l).Suits n l.questions := by
  rw [ofResumed]
  split
  · rw [Suits, h]
    rfl
  · next hmore => exact suits_ofLookup h (Nat.pos_of_ne_zero hmore)

theorem isIgnored_ofLookup : (ofLookup services l).isIgnored = false := by
  rw [ofLookup]
  split <;> rfl

theorem isIgnored_ofResumed (services : Service.World) (l : Lookup) : (ofResumed services l).isIgnored = false := by
  rw [ofResumed]
  split
  · rfl
  · exact isIgnored_ofLookup

theorem isIgnored_ofNotice (bot : Bot) (n : Notice) :
    (ofNotice bot n).isIgnored = false ↔ n.isNew bot.clock.now bot.database.receivedMessages := by
  rw [ofNotice]
  split
  · next hnew =>
    refine iff_of_true ?_ hnew
    cases n.happening with
    | raid raid => rfl
    | online id login name => exact isIgnored_ofLookup
  · next hold => exact iff_of_false (by decide) hold

end Outcome

/-- Everything that events set off was started, but for the stream that is still looked up. -/
structure Followed (trace : List Occurrence) (s : Station) : Prop where
  idle : pending trace = none → s.lookup? = none
  busy : ∀ n, pending trace = some n → ∃ l, s.lookup? = some l ∧
    trace.countP (·.waits n.messageId) + l.questions = lookupQuestions ∧
    ∃ login name, n.happening = .online l.stream.id login name
  counts : ∀ id, trace.countP (·.starts id) + ((pending trace).any (·.messageId == id)).toNat = trace.countP (·.acts id)
  patience : ∀ id, trace.countP (·.waits id) ≤ lookupQuestions

theorem pending_concat : pending (trace ++ [o]) = if o.outcome.isWait then some o.notice else none := by
  rw [pending, getLast?_concat]
  rfl

theorem any_pending_concat (id : String) : (pending (trace ++ [o])).any (·.messageId == id) = o.waits id := by
  rw [pending_concat, Occurrence.waits]
  split
  · next hwait => rw [hwait, Bool.and_true, Option.any_some]
  · next hwait => rw [Bool.eq_false_of_not_eq_true hwait, Bool.and_false, Option.any_none]

theorem Followed.pending_eq_none (h : Followed trace s) (hlookup : s.lookup? = none) : pending trace = none := by
  cases hpending : pending trace with
  | none => rfl
  | some n =>
    obtain ⟨l, hl, -⟩ := h.busy n hpending
    rw [hlookup] at hl
    cases hl

/-- One more thing has become of an event: it is acted on, or it was before and its stream has been looked up since. -/
theorem Followed.concat (h : Followed trace s) (hleft : t.lookup? = o.outcome.left none)
    (hsuits : o.outcome.Suits o.notice (lookupQuestions - trace.countP (·.waits o.notice.messageId)))
    (hbalance : ∀ id, (o.starts id).toNat + (o.waits id).toNat =
      (o.acts id).toNat + ((pending trace).any (·.messageId == id)).toNat) : Followed (trace ++ [o]) t := by
  have hcount (p : Occurrence → Bool) : (trace ++ [o]).countP p = trace.countP p + (p o).toNat := by
    rw [countP_append, countP_singleton]
    cases p o with
    | true | false => rfl
  have hwaits (l : Lookup) (houtcome : o.outcome = .waits l) :
      trace.countP (·.waits o.notice.messageId) + l.questions = lookupQuestions ∧ 0 < l.questions ∧
        ∃ login name, o.notice.happening = .online l.stream.id login name := by
    rw [houtcome] at hsuits
    obtain ⟨hquestions, hmore, hhappening⟩ := hsuits
    exact ⟨by omega, by omega, hhappening⟩
  refine ⟨fun hnone => ?_, fun n hn => ?_, fun id => ?_, fun id => ?_⟩
  · rw [hleft]
    rw [pending_concat] at hnone
    cases houtcome : o.outcome with
    | ignored | starts => rfl
    | waits l =>
      rw [houtcome] at hnone
      cases hnone
  · rw [pending_concat] at hn
    cases houtcome : o.outcome with
    | ignored | starts =>
      rw [houtcome] at hn
      cases hn
    | waits l =>
      obtain ⟨hquestions, hmore, hhappening⟩ := hwaits l houtcome
      rw [houtcome] at hn
      cases hn
      have hleft' : t.lookup? = some { l with questions := l.questions - 1, pause := l.pause * 2.0 } := by
        rw [hleft, houtcome]
        rfl
      refine ⟨_, hleft', ?_, hhappening⟩
      rw [hcount, Occurrence.waits, houtcome, beq_self_eq_true, isWait, Bool.and_true, Bool.toNat_true]
      dsimp only
      omega
  · have hbefore := h.counts id
    have hnow := hbalance id
    rw [hcount, hcount, any_pending_concat]
    omega
  · rw [hcount]
    cases houtcome : o.outcome with
    | ignored | starts =>
      rw [Occurrence.waits, houtcome, isWait, Bool.and_false]
      exact h.patience id
    | waits l =>
      obtain ⟨hquestions, hmore, -⟩ := hwaits l houtcome
      by_cases hname : o.notice.messageId = id
      · rw [← hname]
        have hle := Bool.toNat_le (o.waits o.notice.messageId)
        omega
      · rw [Occurrence.waits, beq_eq_false_iff_ne.2 hname]
        exact h.patience id

/-- All that became of events in a run is accounted for. -/
structure Accounted (trace : List Occurrence) (s : Station) : Prop where
  recorded : Recorded trace s
  followed : Followed trace s
  judged : ∀ before o rest, trace = before ++ o :: rest → o.Judged before
  once : ∀ id, trace.countP (·.acts id) ≤ 1
  answers : ∀ o ∈ trace, ∀ reaction, o.outcome = .starts reaction → reaction.Answers o.notice.happening

theorem Accounted.concat (h : Accounted trace s) (hrecorded : Recorded (trace ++ [o]) t) (hfollowed : Followed (trace ++ [o]) t)
    (hjudged : o.Judged trace) (honce : ∀ id, o.acts id → trace.countP (·.acts id) = 0) {questions : Nat}
    (hsuits : o.outcome.Suits o.notice questions) : Accounted (trace ++ [o]) t where
  recorded := hrecorded
  followed := hfollowed
  judged := Chat.Giveaway.forall_split_concat h.judged hjudged
  once id := by
    rw [countP_append, countP_singleton]
    split
    · next hacts => rw [honce id hacts]
    · exact h.once id
  answers o' ho' reaction houtcome := by
    rcases mem_append.1 ho' with ho' | ho'
    · exact h.answers o' ho' reaction houtcome
    · rw [mem_singleton.1 ho'] at houtcome ⊢
      rwa [houtcome] at hsuits

theorem Occurrence.name_of_acts {id : String} (h : o.acts id) : o.notice.messageId = id := by
  cases o with
  | handled n time outcome => exact eq_of_beq (Bool.and_eq_true_iff.1 h).1
  | resumed => cases h

theorem Accounted.handled (h : Accounted trace s) (hs : s.Attended) {rest : List Notice} (hnext : s.Next n rest)
    (hsame : Consistent (trace ++ [.handled n s.bot.clock.now (.ofNotice s.bot n)])) :
    Accounted (trace ++ [.handled n s.bot.clock.now (.ofNotice s.bot n)]) (handleNotice s).2 := by
  obtain ⟨entries, hrun⟩ := handleNotice_run hs hnext
  obtain ⟨watch, hwatch, -, hlookup, -⟩ := hnext
  have hidle : s.lookup? = none := by rw [lookup?, hwatch]; exact hlookup
  have hmemory : memory (handleNotice s).2.bot = memory (s.lookedAt n rest).bot := by
    rw [hrun]
    exact (ofNotice s.bot n).memory_carryOut _
  have hleft : (handleNotice s).2.lookup? = (ofNotice s.bot n).left none := by
    have hlooked : ((s.lookedAt n rest).noted entries).watch = some { watch with notices := rest } := by
      rw [lookedAt, hwatch]
      rfl
    rw [hrun, lookup?_carryOut _ (by rw [hlooked]; rfl), lookup?, hlooked, Option.bind_some, hlookup]
  have hsuits := suits_ofNotice s.bot n
  have hnew : (ofNotice s.bot n).isIgnored = false ↔
      (∀ o ∈ trace, o.notice.messageId ≠ n.messageId) ∧ ¬ n.isStale s.bot.clock.now :=
    (isIgnored_ofNotice s.bot n).trans (h.recorded.isNew_iff hsame)
  generalize ofNotice s.bot n = outcome at hleft hsuits hnew hsame ⊢
  refine h.concat (h.recorded.handled hsame (congrArg (·.2.now) hmemory) (congrArg Prod.fst hmemory)) ?_ hnew
    (fun id hacts => ?_) hsuits
  · refine h.followed.concat hleft ?_ fun id => ?_
    · cases outcome with
      | ignored => trivial
      | starts reaction => exact hsuits
      | waits l =>
        have hnone : trace.countP (·.waits n.messageId) = 0 :=
          countP_eq_zero.2 fun o ho hwaits => (hnew.1 rfl).1 o ho (eq_of_beq (Bool.and_eq_true_iff.1 hwaits).1)
        change (waits l).Suits n (lookupQuestions - trace.countP (·.waits n.messageId))
        rw [hnone]
        exact hsuits
    · rw [h.followed.pending_eq_none hidle, Occurrence.starts, Occurrence.waits, Occurrence.acts]
      cases outcome <;> simp [Occurrence.notice, Occurrence.outcome, isStart, isWait, isIgnored]
  · obtain ⟨hname, hacted⟩ := Bool.and_eq_true_iff.1 hacts
    have hfirst := (hnew.1 (by simpa using hacted)).1
    exact countP_eq_zero.2 fun o ho hacts' =>
      hfirst o ho ((Occurrence.name_of_acts hacts').trans (eq_of_beq hname).symm)

theorem exists_of_pending (h : pending trace = some n) : ∃ o ∈ trace, o.notice = n := by
  obtain ⟨o, hlast, ho⟩ := Option.bind_eq_some_iff.1 h
  split at ho
  · cases ho
    exact ⟨o, mem_of_getLast? hlast, rfl⟩
  · cases ho

theorem Recorded.resumed (h : Recorded trace s) (hmem : ∃ o' ∈ trace, o'.notice = o.notice)
    (hmemory : memory t.bot = memory s.bot) : Recorded (trace ++ [o]) t := by
  have hrows : t.bot.database.receivedMessages = s.bot.database.receivedMessages := congrArg Prod.fst hmemory
  have hnow : t.bot.clock.now = s.bot.clock.now := congrArg (·.2.now) hmemory
  refine ⟨fun o' ho' => ?_, fun row hrow => ?_⟩
  · rw [hrows, hnow]
    rcases mem_append.1 ho' with ho' | ho'
    · exact h.kept o' ho'
    · obtain ⟨earlier, hearlier, heq⟩ := hmem
      rw [mem_singleton.1 ho', ← heq]
      exact h.kept earlier hearlier
  · rw [hrows] at hrow
    obtain ⟨o', ho', heq⟩ := h.rows row hrow
    exact ⟨o', mem_append_left _ ho', heq⟩

theorem Accounted.resumed (h : Accounted trace s) (hs : s.Attended) (hlookup : s.lookup? = some l)
    (hpending : pending trace = some n) :
    Accounted (trace ++ [.resumed n (.ofResumed s.bot.services l)]) (resumeLookup s).2 := by
  obtain ⟨entries, hrun⟩ := resumeLookup_run hs.up hlookup
  obtain ⟨l', hl', hquestions, login, name, hhappening⟩ := h.followed.busy n hpending
  obtain rfl : l = l' := Option.some.inj (hlookup.symm.trans hl')
  have hmemory : memory (resumeLookup s).2.bot = memory s.bot := by
    rw [hrun]
    exact (ofResumed s.bot.services l).memory_carryOut _
  have hwatch : (s.noted entries).watch.isSome := by
    obtain ⟨watch, hwatch, -⟩ := Option.bind_eq_some_iff.1 hlookup
    exact Option.isSome_iff_exists.2 ⟨watch, hwatch⟩
  have hleft : (resumeLookup s).2.lookup? = (ofResumed s.bot.services l).left s.lookup? := by
    rw [hrun]
    exact lookup?_carryOut _ hwatch
  have hsuits := suits_ofResumed s.bot.services hhappening
  have hacted := isIgnored_ofResumed s.bot.services l
  generalize ofResumed s.bot.services l = outcome at hleft hsuits hacted ⊢
  refine h.concat (h.recorded.resumed (exists_of_pending hpending) hmemory) (h.followed.concat ?_ ?_ fun id => ?_) trivial nofun
    hsuits
  · cases outcome with
    | ignored => cases hacted
    | starts | waits => exact hleft
  · have hleft : lookupQuestions - trace.countP (·.waits n.messageId) = l.questions := by omega
    change outcome.Suits n (lookupQuestions - trace.countP (·.waits n.messageId))
    rw [hleft]
    exact hsuits
  · rw [hpending, Occurrence.starts, Occurrence.waits, Occurrence.acts]
    cases outcome with
    | ignored => cases hacted
    | starts | waits => simp [Occurrence.notice, Occurrence.outcome, isStart, isWait]

theorem Accounted.pass (h : Accounted trace s) (hpasses : Passes s t) : Accounted trace t where
  recorded := by
    refine ⟨fun o ho => ?_, ?_⟩
    · rw [hpasses.rows]
      exact (h.recorded.kept o ho).imp_left (Bot.isStale_mono hpasses.later)
    · rw [hpasses.rows]
      exact h.recorded.rows
  followed := by
    refine ⟨?_, ?_, h.followed.counts, h.followed.patience⟩
    · rw [hpasses.lookup]
      exact h.followed.idle
    · rw [hpasses.lookup]
      exact h.followed.busy
  judged := h.judged
  once := h.once
  answers := h.answers

theorem accounted_nil (hlookup : s.lookup? = none) (hrows : s.bot.database.receivedMessages = []) : Accounted [] s where
  recorded := ⟨fun _ ho => absurd ho not_mem_nil, by rw [hrows]; exact fun _ hrow => absurd hrow not_mem_nil⟩
  followed := ⟨fun _ => hlookup, fun _ hn => (by cases hn), fun _ => rfl, fun _ => Nat.zero_le _⟩
  judged before o rest heq := absurd heq.symm (by simp)
  once _ := Nat.zero_le _
  answers _ ho := absurd ho not_mem_nil

theorem Handling.accounted (h : Handling trace s) (hsame : Consistent trace) : Accounted trace s := by
  induction h with
  | start hlookup hrows => exact accounted_nil hlookup hrows
  | handle _ hs hnext ih => exact (ih hsame.of_concat).handled hs hnext hsame
  | resume _ hs hlookup hpending ih => exact (ih hsame.of_concat).resumed hs hlookup hpending
  | pass _ hpasses ih => exact (ih hsame).pass hpasses

/-- In every run that starts with nothing remembered and in which events of one name were sent at one time, an event is
acted on exactly if it is the first of its name and at most ten minutes old when it is handled.  What it tells of is started
once for each name that was acted on, unless its stream is still looked up, and it is left for later three times at most.
To handle an event and to go on with a lookup is to let this become of it, and events may come in at any time. -/
theorem acted_on_once {trace : List Occurrence} {s : Station} (h : Handling trace s) (hsame : Consistent trace) :
    (∀ before n time outcome rest, trace = before ++ .handled n time outcome :: rest →
      (outcome.isIgnored = false ↔ (∀ o ∈ before, o.notice.messageId ≠ n.messageId) ∧
        time.micros - n.sentAt.micros ≤ 10 * 60 * 1000000)) ∧
    (∀ id, trace.countP (·.starts id) ≤ 1 ∧
      trace.countP (·.starts id) + ((pending trace).any (·.messageId == id)).toNat = trace.countP (·.acts id) ∧
      trace.countP (·.waits id) ≤ lookupQuestions) ∧
    (∀ o ∈ trace, ∀ reaction, o.outcome = .starts reaction → reaction.Answers o.notice.happening) ∧
    (s.Attended → ∀ n rest, s.Next n rest → ∃ entries,
      handleNotice s = (Outcome.ofNotice s.bot n).carryOut ((s.lookedAt n rest).noted entries)) ∧
    (s.Attended → ∀ l, s.lookup? = some l → ∃ entries,
      resumeLookup s = (Outcome.ofResumed s.bot.services l).carryOut (s.noted entries)) ∧
    ∀ subscription n, Handling trace (hearNotice subscription n s).2 := by
  have haccounted := h.accounted hsame
  refine ⟨fun before n time outcome rest heq => ?_, fun id => ⟨?_, haccounted.followed.counts id,
    haccounted.followed.patience id⟩, haccounted.answers, fun hs n rest hnext => handleNotice_run hs hnext,
    fun hs l hlookup => resumeLookup_run hs.up hlookup, fun subscription n => h.pass (passes_hearNotice subscription n s)⟩
  · have hjudged := haccounted.judged before _ rest heq
    rwa [Occurrence.Judged, Bot.isStale_iff, not_lt] at hjudged
  · have hcounts := haccounted.followed.counts id
    have honce := haccounted.once id
    omega

def raidNotice : Notice := ⟨"a", ⟨0⟩, .raid ⟨"Ann", "2", 5, "1"⟩⟩

/-- A stream goes live that the platform does not know yet. -/
def onlineNotice : Notice := ⟨"b", ⟨-599000000⟩, .online "2" "ann" "Ann"⟩

def alerted (rows : List ReceivedMessage) (notices : List Notice) : Station where
  bot := { Bot.blank with database := { receivedMessages := rows } }
  watch := some { board := { address := "" }, notices }

theorem attended_alerted (rows : List ReceivedMessage) (notices : List Notice) : (alerted rows notices).Attended where
  remembers := ⟨rfl, rfl, rfl⟩
  up := rfl

theorem next_alerted (rows : List ReceivedMessage) (n : Notice) (rest : List Notice) :
    (alerted rows (n :: rest)).Next n rest := ⟨_, rfl, rfl, rfl, rfl⟩

/-- What a raid sets off is started, its second notice is ignored, and a stream is left for later. -/
theorem acted_on_once_alerted :
    ∃ trace s, Handling trace s ∧ Consistent trace ∧ trace.map (·.outcome.isIgnored) = [false, true, false] ∧
      trace.countP (·.starts "a") = 1 ∧ trace.countP (·.starts "b") = 0 ∧ ∀ id, trace.countP (·.starts id) ≤ 1 := by
  have hfirst : (handleNotice (alerted [] [raidNotice, raidNotice, onlineNotice])).2 =
      alerted [⟨"a", ⟨0⟩⟩] [raidNotice, onlineNotice] := rfl
  have hsecond : (handleNotice (alerted [⟨"a", ⟨0⟩⟩] [raidNotice, onlineNotice])).2 =
      alerted [⟨"a", ⟨0⟩⟩] [onlineNotice] := rfl
  have hraid := (Handling.start rfl rfl).handle (attended_alerted [] _) (next_alerted _ raidNotice [raidNotice, onlineNotice])
  rw [hfirst] at hraid
  have hagain := hraid.handle (attended_alerted _ _) (next_alerted _ _ _)
  rw [hsecond] at hagain
  have honline := hagain.handle (attended_alerted _ _) (next_alerted _ _ _)
  refine ⟨_, _, honline, ?_, rfl, rfl, rfl, fun id => ((acted_on_once honline ?_).2.1 id).1⟩
  all_goals
    intro o ho o' ho'
    simp only [nil_append, cons_append, mem_cons, not_mem_nil, or_false] at ho ho'
    rcases ho with rfl | rfl | rfl
    all_goals rcases ho' with rfl | rfl | rfl
    all_goals decide

end Station
end StreamBot
