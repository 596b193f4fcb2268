import StreamBot.Proofs.Bot.Computation
import StreamBot.Station.Loop

/-! # Who hears the chat

A message that is taken from the queue is heard by the broadcasters of the bot that are active.  Nobody ever joins those
who are active, and whose end is taken from the queue is not active any more.  When producers are stopped their ends are
put into the queue under the same indices as those of the producers that are started then.

A run (`Run`) is any interleaving of what the parts of the station do (`Step`), together with what was taken from the
queue and what was served (`Event`).  What `start`, `settle` and `advance` do is such a run (`start_leads`,
`settle_leads`, `advance_leads`).  `Tracks` relates the state to the events of a run.  Main statement: `heard_by_active`.
-/

namespace StreamBot.Station

open List StreamBot.Bot Participant

variable {who : Participant} {item : Item} {rest : List (Participant × Item)} {R : Station → Station → Prop}
variable {α τ : Type} {s t u : Station} {x : StationM α} {incoming : Incoming}

/-! ### Announcements -/

section Announcements

variable {τ : Type} {view : Station → τ}

/-- A view of the station that does not show what changes when a stream is announced: the channels of the chat server, what
the services were told, and who was greeted. -/
structure Aloof (view : Station → τ) : Prop where
  channels : ∀ s channels, view { s with channels } = view s
  journal : ∀ s entries, view { s with bot := { s.bot with journal := entries } } = view s
  greeted : ∀ s users, view { s with bot := { s.bot with greeted := users } } = view s

theorem attempt_run (x : BotM α) (s : Station) : attempt x s = (.ok (x s.bot).1, { s with bot := (x s.bot).2 }) := rfl

theorem onBot_run (x : BotM α) (s : Station) : onBot x s = ((x s.bot).1, { s with bot := (x s.bot).2 }) := by
  rw [onBot, run_bind_of_ok (attempt_run x s)]
  cases (x s.bot).1 with
  | ok | error => rfl

theorem leaves_onBot {x : BotM α} (h : ∀ s : Station, view { s with bot := (x s.bot).2 } = view s) :
    Leaves view (onBot x) := by
  intro s
  rw [onBot_run]
  exact h s

theorem leaves_channel? (h : Aloof view) (name : String) : Leaves view (channel? name) := by
  refine leaves_get.bind fun s => ?_
  split
  · exact Leaves.bind (leaves_modify (by intro s; exact h.channels s _)) fun _ => leaves_get.returns
  · exact leaves_get.returns

theorem leaves_announce (h : Aloof view) (row : Database.LiveChannel) (stream : LiveStream) :
    Leaves view (announce row stream) := by
  have hembed (embed : Except Fault Service.Embed) : Leaves view (liftM embed : StationM Service.Embed) := by
    intro s
    cases embed with
    | ok | error => rfl
  refine (leaves_channel? h _).bind fun channel => ?_
  split
  · exact leaves_pure _
  · refine leaves_get.bind fun s => (hembed _).bind fun embed => ?_
    refine Leaves.bind (leaves_modify (by intro s; exact h.channels s _)) fun _ => ?_
    split
    · exact leaves_onBot fun s => h.journal s _
    · exact leaves_pure _

theorem goLive_after (stream : LiveStream) (bot : Bot) :
    ∃ users, (goLive stream bot).2 = { bot with greeted := users } := by
  have hrow : Leaves id (perform Database.getLiveNotificationChannels >>= fun rows =>
      pure (rows.find? (·.broadcasterId == stream.id))) :=
    (leaves_read fun _ => rfl).returns
  rw [goLive, run_get_bind]
  split
  · exact ⟨[], hrow _⟩
  · exact ⟨bot.greeted, hrow bot⟩

theorem leaves_streamLive (h : Aloof view) (stream : LiveStream) : Leaves view (streamLive stream) := by
  refine (leaves_onBot fun s => ?_).bind fun row => ?_
  · obtain ⟨users, husers⟩ := goLive_after stream s.bot
    rw [husers]
    exact h.greeted s users
  · split
    · exact leaves_announce h _ _
    · exact leaves_pure _

end Announcements

/-! ### What concerns neither the queue nor the producers -/

/-- The active ones, the queue, the producers and how the station is doing. -/
def ledger (s : Station) : List Participant × List (Participant × Item) × List Producer × Status :=
  (s.active, s.queue, s.producers, s.status)

/-- A computation does something that concerns neither the queue nor the producers. -/
abbrev Aside (x : StationM α) : Prop := Leaves ledger x

theorem aside_attempt (x : BotM α) : Aside (attempt x) := fun _ => rfl

theorem aside_onBot (x : BotM α) : Aside (onBot x) := leaves_onBot fun _ => rfl

theorem aside_onWatch (f : Watch → Watch) : Aside (onWatch f) := leaves_modify fun _ => rfl

theorem aside_sleep (sleeper : Sleeper) (seconds : Float) : Aside (sleep sleeper seconds) := leaves_modify fun _ => rfl

theorem aside_refreshChannels : Aside refreshChannels := leaves_modify fun _ => rfl

theorem aside_call (calls : List Live.Call) : Aside (call calls) := by
  refine leaves_modify fun s => ?_
  split <;> rfl

theorem aside_closeWatch : Aside closeWatch :=
  (aside_call _).bind fun _ => (aside_onWatch _).bind fun _ => leaves_modify fun _ => rfl

theorem aside_reconcile (starting : Bool) : Aside (reconcile starting) :=
  leaves_get.bind fun _ => (aside_call _).bind fun _ => (aside_onBot _).bind fun _ => (aside_onBot _).bind fun _ =>
    aside_call _

theorem aside_followChanges : Aside followChanges := by
  intro s
  rw [followChanges, run_get_bind]
  split
  · rw [run_set_bind]
    exact aside_reconcile false _
  · rfl

theorem aloof_ledger : Aloof ledger := ⟨fun _ _ => rfl, fun _ _ => rfl, fun _ _ => rfl⟩

theorem aside_lookUp (l : Lookup) : Aside (lookUp l) := by
  refine (aside_onBot _).bind fun services => ?_
  split
  · exact (aside_onWatch _).bind fun _ => leaves_streamLive aloof_ledger _
  · exact (aside_sleep _ _).bind fun _ => aside_onWatch _

theorem aside_act (happening : Happening) : Aside (act happening) := by
  cases happening with
  | raid raid =>
    refine leaves_get.bind fun s => ?_
    split
    · exact aside_onBot _
    · exact leaves_pure _
  | online id login name => exact (aside_onBot _).bind fun users => aside_lookUp _

theorem aside_orGiveUp {x : StationM Unit} (hx : Aside x) : Aside (orGiveUp x) :=
  Along.tryCatch hx fun _ => aside_onWatch _

theorem aside_handleNotice : Aside handleNotice := by
  refine leaves_get.bind fun s => ?_
  split
  · exact leaves_pure _
  · split
    · refine (aside_onWatch _).bind fun _ => (aside_onBot _).bind fun heard => ?_
      split
      · exact aside_orGiveUp (aside_act _)
      · exact leaves_pure _
    · exact leaves_pure _

theorem aside_resumeLookup : Aside resumeLookup := by
  refine leaves_get.bind fun s => ?_
  split
  · exact leaves_pure _
  · apply aside_orGiveUp
    split
    · exact (aside_onWatch _).bind fun _ => leaves_streamLive aloof_ledger _
    · exact aside_lookUp _

theorem leaves_hearNotice {view : Station → τ} {notice : Notice}
    (h : Leaves view (onWatch fun w => { w with notices := w.notices ++ [notice] })) (subscription : String) :
    Leaves view (hearNotice subscription notice) := by
  refine leaves_get.bind fun s => ?_
  split
  · exact leaves_pure _
  · split
    · split
      · exact h.returns
      · exact leaves_pure _
    · exact leaves_pure _

theorem aside_reload : Aside reload := Leaves.bind (leaves_modify fun _ => rfl) fun _ => aside_onBot _

theorem aside_receive (incoming : Incoming) : Aside (receive incoming) :=
  (aside_onBot _).bind fun _ => leaves_get.bind fun _ => (aside_onBot _).bind fun _ => leaves_modify fun _ => rfl

theorem leaves_sendBroadcast {view : Station → τ} (h : ∀ text, Leaves view (onBot (sayLive text)))
    (text : String) : Leaves view (sendBroadcast text) := by
  refine Leaves.bind (Along.forIn fun platform _ => ?_) fun _ => leaves_pure _
  refine leaves_get.bind fun s => ?_
  split
  · exact (h _).returns
  · exact leaves_pure _

theorem aside_finish : Aside finish := by
  intro s
  rw [finish, run_get_bind]
  cases s.conversations with
  | nil => rfl
  | cons c rest =>
    dsimp only
    split
    · rfl
    · rw [run_set_bind]
      exact (aside_attempt _).bind (fun _ => leaves_pure _) _

/-! ### Producers that go on -/

/-- Nothing is taken from the queue, and ends are put into it only for producers that have failed. -/
structure GoesOn (s t : Station) : Prop where
  active : t.active = s.active
  running : t.isRunning → s.isRunning
  indices : t.producers.map (·.index) = s.producers.map (·.index)
  queue : s.queue ⊆ t.queue
  unfailed : ∀ p ∈ t.producers, p.failed = false → p ∈ s.producers
  ended : ∀ p ∈ t.producers, p.failed = false →
    (broadcaster p.index, Item.ended) ∈ t.queue → (broadcaster p.index, Item.ended) ∈ s.queue

instance : Chained GoesOn where
  refl _ := ⟨rfl, id, rfl, List.Subset.refl _, fun _ h _ => h, fun _ _ _ h => h⟩
  trans h h' := {
    active := h'.active.trans h.active
    running := fun hrunning => h.running (h'.running hrunning)
    indices := h'.indices.trans h.indices
    queue := List.Subset.trans h.queue h'.queue
    unfailed := fun p hp hfailed => h.unfailed p (h'.unfailed p hp hfailed) hfailed
    ended := fun p hp hfailed hended => h.ended p (h'.unfailed p hp hfailed) hfailed (h'.ended p hp hfailed hended) }

theorem goesOn_of_same (hactive : t.active = s.active) (hqueue : t.queue = s.queue) (hproducers : t.producers = s.producers)
    (hrunning : t.isRunning → s.isRunning) : GoesOn s t := by
  refine ⟨hactive, hrunning, by rw [hproducers], by rw [hqueue]; exact List.Subset.refl _, ?_, ?_⟩
  · rw [hproducers]
    exact fun p hp _ => hp
  · rw [hqueue]
    exact fun _ _ _ hended => hended

theorem goesOn_of_ledger (h : ledger t = ledger s) : GoesOn s t := by
  simp only [ledger, Prod.mk.injEq] at h
  obtain ⟨hactive, hqueue, hproducers, hstatus⟩ := h
  refine goesOn_of_same hactive hqueue hproducers fun hrunning => ?_
  rwa [isRunning, ← hstatus]

theorem Aside.goesOn (hx : Aside x) : Along GoesOn x := fun s => goesOn_of_ledger (hx s)

theorem post_goesOn (h : ∀ j, (broadcaster j, Item.ended) ≠ (who, item)) : Along GoesOn (post who item) := by
  intro s
  refine ⟨rfl, id, rfl, subset_append_left _ _, fun _ hp _ => hp, fun p _ _ hended => ?_⟩
  rcases mem_append.1 hended with hended | hended
  · exact hended
  · exact absurd (mem_singleton.1 hended) (h p.index)

theorem fail_goesOn (index : Nat) : GoesOn s { s with
      producers := s.producers.map fun p => if p.index = index then { p with failed := true } else p
      queue := s.queue ++ [(.broadcaster index, .ended)] } := by
  have hother {p : Producer} (hp : p ∈ s.producers.map fun p => if p.index = index then { p with failed := true } else p)
      (hfailed : p.failed = false) : p ∈ s.producers ∧ p.index ≠ index := by
    obtain ⟨q, hq, rfl⟩ := mem_map.1 hp
    by_cases hindex : q.index = index
    · rw [if_pos hindex] at hfailed
      cases hfailed
    · rw [if_neg hindex]
      exact ⟨hq, hindex⟩
  refine ⟨rfl, id, ?_, subset_append_left _ _, fun p hp hfailed => (hother hp hfailed).1, fun p hp hfailed hended => ?_⟩
  · rw [map_map]
    refine map_congr_left fun p _ => ?_
    by_cases hindex : p.index = index <;> simp [hindex]
  · rcases mem_append.1 hended with hended | hended
    · exact hended
    · cases mem_singleton.1 hended
      exact absurd rfl (hother hp hfailed).2

theorem ledger_withMessages (s : Station) (messages : List Chat.Broadcaster) :
    ledger (s.withMessages messages) = ledger s := by
  rw [withMessages]
  split <;> rfl

theorem produce_goesOn (index : Nat) : Along GoesOn (produce index) := by
  intro s
  rw [produce, run_get_bind]
  cases s.messages[index]? with
  | none => exact Chained.refl s
  | some b =>
    dsimp only
    split
    · exact (aside_sleep _ _).goesOn s
    · rw [run_set_bind]
      apply Chained.trans (goesOn_of_ledger (ledger_withMessages s _))
      refine (aside_attempt _).goesOn.bind (fun result => ?_) _
      cases result with
      | ok text =>
        have hpost : Along GoesOn (post (.broadcaster index) (.broadcast text)) :=
          post_goesOn fun j h => by cases h
        exact hpost.bind fun _ => (aside_sleep _ _).goesOn
      | error fault => exact fun s => fail_goesOn index

/-! ### Producers that are stopped and started -/

def freshProducers (n : Nat) : List Producer := (List.range n).map fun index => { index }

/-- The ends of all producers are put into the queue. -/
structure Stops (s t : Station) : Prop where
  active : t.active = s.active
  running : t.isRunning → s.isRunning
  queue : s.queue ⊆ t.queue
  ended : ∀ p ∈ s.producers, (broadcaster p.index, Item.ended) ∈ t.queue

theorem Stops.goesOn (h : Stops s t) (h' : GoesOn t u) : Stops s u where
  active := h'.active.trans h.active
  running hrunning := h.running (h'.running hrunning)
  queue := List.Subset.trans h.queue h'.queue
  ended p hp := h'.queue (h.ended p hp)

theorem restart_stops (s : Station) : restart s = (.error .producerFailed, s) ∨ Stops s (restart s).2 := by
  rw [restart, run_get_bind]
  by_cases hfailed : s.producers.any (·.failed)
  · rw [if_pos hfailed]
    exact .inl rfl
  · rw [if_neg hfailed]
    right
    have hproduce := Along.forM (l := List.range s.bot.broadcasters.length) produce_goesOn
    refine Stops.goesOn ?_ (hproduce _)
    refine ⟨rfl, id, subset_append_left _ _, fun p hp => ?_⟩
    exact mem_append_right _ (mem_map_of_mem hp)

/-! ### Failures -/

/-- A failure stops the station and nothing else changes in the queue and the producers. -/
structure Collapses (s t : Station) : Prop where
  active : t.active = s.active
  queue : t.queue = s.queue
  producers : t.producers = s.producers
  stopped : t.isRunning = false

theorem collapse_collapses (fault : Fault) (s : Station) : Collapses s (collapse fault s).2 := by
  have hclose := aside_closeWatch s
  simp only [ledger, Prod.mk.injEq] at hclose
  exact ⟨hclose.1, hclose.2.1, hclose.2.2.1, rfl⟩

theorem Collapses.goesOn (h : Collapses s t) : GoesOn s t :=
  goesOn_of_same h.active h.queue h.producers fun hrunning => absurd (h.stopped.symm.trans hrunning) Bool.false_ne_true

theorem whileRunning_one {x : StationM Unit} (hrunning : s.isRunning) :
    (whileRunning x 1 s).2 = (x s).2 ∧ (x s).1 = .ok () ∨
      Collapses (x s).2 (whileRunning x 1 s).2 ∧ ∃ fault, (x s).1 = .error fault := by
  rw [whileRunning, run_get_bind, if_pos hrunning]
  obtain ⟨a, t, hrun, htry⟩ | ⟨fault, t, hrun, htry⟩ := run_tryCatch x collapse s
  · left
    rw [run_bind_of_ok htry, hrun]
    exact ⟨rfl, rfl⟩
  · right
    have hcollapse : collapse fault t = (.ok (), (collapse fault t).2) := rfl
    rw [run_bind_of_ok (htry.trans hcollapse), hrun]
    exact ⟨collapse_collapses fault t, fault, rfl⟩

theorem whileRunning_of_ok {x : StationM Unit} (hrunning : s.isRunning) (hx : x s = (.ok (), t)) :
    (whileRunning x 1 s).2 = t := by
  rcases whileRunning_one hrunning with ⟨hsame, -⟩ | ⟨-, fault, hfault⟩
  · rw [hsame, hx]
  · rw [hx] at hfault
    cases hfault

theorem whileRunning_stopped {x : StationM Unit} {n : Nat} (hstopped : s.isRunning = false) :
    (whileRunning x n s).2 = s := by
  have hnot : ¬ s.isRunning := by
    rw [hstopped]
    exact Bool.false_ne_true
  induction n with
  | zero => rfl
  | succ n ih =>
    rw [whileRunning, run_get_bind, if_neg hnot]
    exact ih

theorem whileRunning_goesOn {x : StationM Unit} (hx : Along GoesOn x) : Along GoesOn (whileRunning x 1) := by
  intro s
  cases hrunning : s.isRunning with
  | false =>
    rw [whileRunning_stopped hrunning]
    exact Chained.refl s
  | true =>
    rcases whileRunning_one hrunning with ⟨hsame, -⟩ | ⟨hcollapses, -⟩
    · rw [hsame]
      exact hx s
    · exact Chained.trans (hx s) hcollapses.goesOn

/-! ### Taking from the queue -/

/-- Something is taken from the queue; whose end it is, that one is not active any more. -/
structure Takes (s : Station) (who : Participant) (item : Item) (rest : List (Participant × Item)) (t : Station) :
    Prop where
  active : ∀ p, p ∈ t.active ↔ p ∈ s.active ∧ ¬ (p = who ∧ item = .ended)
  queue : t.queue = rest
  producers : t.producers = s.producers
  running : t.isRunning → s.isRunning

theorem Takes.collapses (h : Takes s who item rest t) (h' : Collapses t u) : Takes s who item rest u where
  active p := by rw [h'.active, h.active]
  queue := h'.queue.trans h.queue
  producers := h'.producers.trans h.producers
  running hrunning := h.running (h'.goesOn.running hrunning)

theorem take_takes (hqueue : s.queue = (who, item) :: rest) : Takes s who item rest (take s).2 := by
  -- all that is done with a thing that is not an end leaves the queue alone
  have haside {x : StationM Unit} (hx : Aside x) (hitem : item ≠ .ended) :
      Takes s who item rest (x { s with queue := rest }).2 := by
    have hledger := hx { s with queue := rest }
    have hrunning := (goesOn_of_ledger hledger).running
    simp only [ledger, Prod.mk.injEq] at hledger
    refine ⟨fun p => ?_, hledger.2.1, hledger.2.2.1, hrunning⟩
    rw [hledger.1]
    simp [hitem]
  rw [take, run_get_bind, hqueue]
  cases item with
  | said incoming => exact haside (aside_receive incoming) (fun h => by cases h)
  | broadcast text => exact haside (leaves_sendBroadcast (fun _ => aside_onBot _) text) (fun h => by cases h)
  | ended =>
    refine ⟨fun p => ?_, rfl, rfl, id⟩
    change p ∈ s.active.filter (· ≠ who) ↔ _
    simp

theorem take_of_said (hqueue : s.queue = (who, .said incoming) :: rest)
    : take s = receive incoming { s with queue := rest } := by
  rw [take, run_get_bind, hqueue]
  rfl

theorem leaves_entranceOf {view : Bot → τ} (message : Chat.Message) : Leaves view (entranceOf message) := by
  rw [entranceOf]
  split
  · exact leaves_pure _
  · split
    · exact leaves_pure _
    · refine leaves_get.bind fun bot => ?_
      split
      · exact leaves_pure _
      · refine (leaves_read fun _ => rfl).bind fun row => ?_
        split <;> simp

/-- A message from a chat is heard by the active broadcasters, unless the entrance sound cannot be looked up. -/
theorem receive_run (incoming : Incoming) (s : Station) :
    (∃ fault, (entranceOf incoming.message s.bot).1 = .error fault ∧ receive incoming s = (.error fault, s)) ∨
      ∃ entrance, (entranceOf incoming.message s.bot).1 = .ok entrance ∧ receive incoming s = (.ok (), { s with
          bot := { s.bot with broadcasters := s.bot.broadcasters.mapIdx fun j b =>
            if s.active.contains (.broadcaster j) then b.hear s.now incoming.message.text else b }
          conversations := s.conversations ++ [{ incoming, entrance }] }) := by
  have hsame : (entranceOf incoming.message s.bot).2 = s.bot := (leaves_entranceOf _ : Leaves id _) _
  have hrun := onBot_run (entranceOf incoming.message) s
  rw [hsame] at hrun
  cases hentrance : (entranceOf incoming.message s.bot).1 with
  | error fault =>
    rw [hentrance] at hrun
    left
    refine ⟨fault, rfl, ?_⟩
    rw [receive, run_bind_of_error hrun]
  | ok entrance =>
    rw [hentrance] at hrun
    right
    refine ⟨entrance, rfl, ?_⟩
    rw [receive, run_bind_of_ok hrun]
    rfl

/-! ### Runs -/

inductive Event where
  | took (who : Participant) (item : Item)
  | served (request : Request)

/-- What a part of the station does until it has to wait, or what happens to the station. -/
inductive Step where
  | take
  | serve
  | follow
  | attend
  | finish
  | wake (sleeper : Sleeper)
  | pass (alarms : List Alarm) (clock : Time.Clock)
  | arrive (platform : Chat.Platform) (incoming : Incoming)
  | hear (subscription : String) (notice : Notice)
  | reload
  | refresh
  | renew (tokens : Config.Tokens)
  | leave
  /-- Another part of the bot does something. -/
  | meanwhile (x : BotM Unit)

def Step.perform : Step → StationM Unit
  | .take => whileRunning Station.take 1
  | .serve => whileRunning serveNext 1
  | .follow => whileRunning followChanges 1
  | .attend => handleNotice
  | .finish => Station.finish
  | .wake sleeper => Station.wake sleeper
  | .pass alarms clock => modify fun s => { s with alarms, bot := { s.bot with clock } }
  | .arrive platform incoming => post (.chat platform) (.said incoming)
  | .hear subscription notice => do let _ ← hearNotice subscription notice
  | .reload => Station.reload
  | .refresh => refreshChannels
  | .renew tokens => renewTokens tokens
  | .leave => Station.leave
  | .meanwhile x => onBot x

def Step.events (s : Station) : Step → List Event
  | .take => if s.isRunning then (s.queue.head?.map fun entry => Event.took entry.1 entry.2).toList else []
  | .serve => if s.isRunning then (s.bot.requests.head?.map Event.served).toList else []
  | _ => []

/-- The station is running with a producer for each of the bot's messages, none of which has done anything yet. -/
structure Opened (n : Nat) (s : Station) : Prop where
  count : s.bot.broadcasters.length = n
  active : s.active = s.participants
  producers : s.producers = freshProducers n
  quiet : s.queue = []

/-- What was noted of a run of a station that was opened with some number of messages, and the state then. -/
inductive Run (n : Nat) : List Event → Station → Prop
  | opened {s : Station} (h : Opened n s) : Run n [] s
  | step {events : List Event} {s : Station} (h : Run n events s) (a : Step) :
    Run n (events ++ a.events s) (a.perform s).2

def Anew (events : List Event) : Prop := Event.served .reloadBroadcasters ∈ events

/-- A message was there at the start, and no end was taken for its index. -/
def Heeds (n : Nat) (events : List Event) (j : Nat) : Prop :=
  j < n ∧ Event.took (.broadcaster j) .ended ∉ events

/-- The end of a producer has been put into the queue. -/
def Ended (events : List Event) (s : Station) (j : Nat) : Prop :=
  (broadcaster j, Item.ended) ∈ s.queue ∨ Event.took (.broadcaster j) .ended ∈ events

/-- How the state is related to what was noted of a run. -/
structure Tracks (n : Nat) (events : List Event) (s : Station) : Prop where
  active : ∀ j, broadcaster j ∈ s.active ↔ Heeds n events j
  indices : ¬ Anew events → s.producers.map (·.index) = List.range n
  unfailed : ¬ Anew events → ∀ p ∈ s.producers, p.failed = false → ¬ Ended events s p.index
  stopped : Anew events → s.isRunning → ∀ j < n, Ended events s j

variable {n : Nat} {events : List Event}

theorem Opened.tracks (h : Opened n s) : Tracks n [] s where
  active j := by
    rw [h.active, participants, h.count]
    simp [Heeds]
  indices _ := by
    rw [h.producers, freshProducers, map_map]
    exact map_id _
  unfailed _ p _ _ hended := by
    rw [Ended, h.quiet] at hended
    simp at hended
  stopped hanew := absurd hanew not_mem_nil

theorem Tracks.goesOn (h : Tracks n events s) (h' : GoesOn s t) : Tracks n events t where
  active j := by rw [h'.active, h.active]
  indices hanew := h'.indices.trans (h.indices hanew)
  unfailed hanew p hp hfailed hended :=
    h.unfailed hanew p (h'.unfailed p hp hfailed) hfailed (hended.imp_left (h'.ended p hp hfailed))
  stopped hanew hrunning j hj := (h.stopped hanew (h'.running hrunning) j hj).imp_left fun hended => h'.queue hended

theorem Tracks.of_same {events' : List Event} (h : Tracks n events s) (hanew : Anew events' ↔ Anew events)
    (hended : ∀ j, Ended events' t j ↔ Ended events s j) (hproducers : t.producers = s.producers)
    (hrunning : t.isRunning → s.isRunning) (hactive : ∀ j, broadcaster j ∈ t.active ↔ Heeds n events' j) :
    Tracks n events' t where
  active := hactive
  indices hnot := hproducers ▸ h.indices (mt hanew.2 hnot)
  unfailed hnot p hp hfailed := mt (hended p.index).1 (h.unfailed (mt hanew.2 hnot) p (hproducers ▸ hp) hfailed)
  stopped hyes hgoing j hj := (hended j).2 (h.stopped (hanew.1 hyes) (hrunning hgoing) j hj)

theorem Tracks.takes (h : Tracks n events s) (hqueue : s.queue = (who, item) :: rest) (h' : Takes s who item rest t) :
    Tracks n (events ++ [.took who item]) t := by
  refine h.of_same (by simp [Anew]) (fun j => ?_) h'.producers h'.running fun j => ?_
  · rw [Ended, Ended, h'.queue]
    grind
  · rw [h'.active, h.active, Heeds, Heeds]
    simp only [mem_append, mem_singleton, Event.took.injEq, not_or]
    constructor
    · rintro ⟨⟨hj, htaken⟩, hnot⟩
      exact ⟨hj, htaken, fun heq => hnot ⟨heq.1, heq.2.symm⟩⟩
    · rintro ⟨hj, htaken, hnot⟩
      exact ⟨⟨hj, htaken⟩, fun heq => hnot ⟨heq.1, heq.2.symm⟩⟩

theorem Tracks.served_other {request : Request} (h : Tracks n events s) (hother : request ≠ .reloadBroadcasters) :
    Tracks n (events ++ [.served request]) s := by
  refine h.of_same (by simp [Anew, hother.symm]) (fun j => by simp [Ended]) rfl id fun j => ?_
  rw [h.active]
  simp [Heeds]

theorem Tracks.stops (h : Tracks n events s) (hrunning : s.isRunning) (hactive : t.active = s.active)
    (h' : t.isRunning → Stops s t) : Tracks n (events ++ [.served .reloadBroadcasters]) t := by
  have hanew : Anew (events ++ [.served .reloadBroadcasters]) := mem_append_right _ (mem_singleton_self _)
  refine ⟨fun j => ?_, absurd hanew, absurd hanew, fun _ hgoing j hj => ?_⟩
  · rw [hactive, h.active]
    simp [Heeds]
  · have hstops := h' hgoing
    by_cases hbefore : Anew events
    · rcases h.stopped hbefore hrunning j hj with hqueue | htaken
      · exact .inl (hstops.queue hqueue)
      · exact .inr (mem_append_left _ htaken)
    · have hindex : j ∈ s.producers.map (·.index) := by
        rw [h.indices hbefore]
        exact mem_range.2 hj
      obtain ⟨p, hp, rfl⟩ := mem_map.1 hindex
      exact .inl (hstops.ended p hp)

theorem Tracks.take_step (h : Tracks n events s) : Tracks n (events ++ Step.take.events s) (Step.take.perform s).2 := by
  cases hrunning : s.isRunning with
  | false =>
    rw [Step.events, Step.perform, whileRunning_stopped hrunning, hrunning]
    simpa using h
  | true =>
    rw [Step.events, if_pos hrunning, Step.perform]
    cases hqueue : s.queue with
    | nil =>
      have htake : take s = (.ok (), s) := by
        rw [take, run_get_bind, hqueue]
        rfl
      rw [whileRunning_of_ok hrunning htake]
      simpa using h
    | cons entry rest =>
      have htakes := take_takes hqueue
      rcases whileRunning_one hrunning with ⟨hsame, -⟩ | ⟨hcollapses, -⟩
      · rw [hsame]
        exact h.takes hqueue htakes
      · exact h.takes hqueue (htakes.collapses hcollapses)

theorem Tracks.restarts {x : StationM Unit} (h : Tracks n events t) (hrunning : t.isRunning)
    (hrunning' : s.isRunning) (hx : x s = restart t) :
    Tracks n (events ++ [.served .reloadBroadcasters]) (whileRunning x 1 s).2 := by
  have hone := whileRunning_one (x := x) hrunning'
  rw [hx] at hone
  have hcollapsed {u : Station} (hcollapses : Collapses u (whileRunning x 1 s).2) (hactive : u.active = t.active) :
      Tracks n (events ++ [.served .reloadBroadcasters]) (whileRunning x 1 s).2 :=
    h.stops hrunning (hcollapses.active.trans hactive) fun hgoing =>
      absurd (hcollapses.stopped.symm.trans hgoing) Bool.false_ne_true
  rcases restart_stops t with herror | hstops
  · rw [herror] at hone
    rcases hone with ⟨-, hok⟩ | ⟨hcollapses, -⟩
    · cases hok
    · exact hcollapsed hcollapses rfl
  · rcases hone with ⟨hsame, -⟩ | ⟨hcollapses, -⟩
    · rw [hsame]
      exact h.stops hrunning hstops.active fun _ => hstops
    · exact hcollapsed hcollapses hstops.active

theorem Tracks.serve_step (h : Tracks n events s) :
    Tracks n (events ++ Step.serve.events s) (Step.serve.perform s).2 := by
  cases hrunning : s.isRunning with
  | false =>
    rw [Step.events, Step.perform, whileRunning_stopped hrunning, hrunning]
    simpa using h
  | true =>
    rw [Step.events, if_pos hrunning, Step.perform]
    cases hrequests : s.bot.requests with
    | nil =>
      have hserve : serveNext s = (.ok (), s) := by
        rw [serveNext, run_get_bind, hrequests]
        rfl
      rw [whileRunning_of_ok hrunning hserve]
      simpa using h
    | cons request rest =>
      have hserve : serveNext s = serve request { s with bot := { s.bot with requests := rest } } := by
        rw [serveNext, run_get_bind, hrequests]
        rfl
      have hnext : Tracks n events { s with bot := { s.bot with requests := rest } } := h.goesOn (goesOn_of_ledger rfl)
      cases request with
      | textChannels =>
        rw [whileRunning_of_ok hrunning (hserve.trans rfl)]
        have hother : Request.textChannels ≠ .reloadBroadcasters := fun h => by cases h
        refine Tracks.served_other (hnext.goesOn ?_) hother
        exact goesOn_of_ledger rfl
      | reloadBroadcasters => exact hnext.restarts hrunning hrunning hserve

theorem leave_goesOn : Along GoesOn leave := by
  have hleft : Along GoesOn (modify fun s : Station => { s with status := .left } : StationM PUnit) :=
    fun s => goesOn_of_same rfl rfl rfl fun h => by cases h
  have hshut : Along GoesOn (modify fun s : Station => { s with bot := { s.bot with shuttingDown := true } } :
      StationM PUnit) := fun s => goesOn_of_ledger rfl
  refine hshut.bind fun _ => Along.get.bind fun s => ?_
  split
  · exact aside_closeWatch.goesOn.bind fun _ => hleft
  · exact Along.pure _

theorem Tracks.step (h : Tracks n events s) (a : Step) : Tracks n (events ++ a.events s) (a.perform s).2 := by
  have hgoes {x : StationM Unit} (hx : Along GoesOn x) : Tracks n (events ++ []) (x s).2 := by
    rw [append_nil]
    exact h.goesOn (hx s)
  cases a with
  | take => exact h.take_step
  | serve => exact h.serve_step
  | follow => exact hgoes (whileRunning_goesOn aside_followChanges.goesOn)
  | attend => exact hgoes aside_handleNotice.goesOn
  | finish => exact hgoes aside_finish.goesOn
  | wake sleeper =>
    cases sleeper with
    | producer index => exact hgoes (produce_goesOn index)
    | lookup => exact hgoes aside_resumeLookup.goesOn
  | pass alarms clock => exact hgoes fun s => goesOn_of_ledger rfl
  | arrive platform incoming => exact hgoes (post_goesOn fun j h => by cases h)
  | hear subscription notice =>
    have haside : Aside (hearNotice subscription notice) := leaves_hearNotice (aside_onWatch _) subscription
    exact hgoes (haside.goesOn.bind fun _ => Along.pure _)
  | reload => exact hgoes aside_reload.goesOn
  | refresh => exact hgoes aside_refreshChannels.goesOn
  | renew tokens => exact hgoes fun s => goesOn_of_ledger rfl
  | leave => exact hgoes leave_goesOn
  | meanwhile x => exact hgoes (aside_onBot x).goesOn

theorem Run.tracks (h : Run n events s) : Tracks n events s := by
  induction h with
  | opened hopened => exact hopened.tracks
  | step _ a ih => exact ih.step a

/-! ### The station's own schedule -/

/-- From one state to another there is a part of a run. -/
def Leads (s t : Station) : Prop := ∀ n events, Run n events s → ∃ more, Run n (events ++ more) t

instance : Chained Leads where
  refl _ n events h := ⟨[], by rwa [append_nil]⟩
  trans hfirst hsecond n events h := by
    obtain ⟨more, hmore⟩ := hfirst n events h
    obtain ⟨rest, hrest⟩ := hsecond n _ hmore
    exact ⟨more ++ rest, by rwa [← append_assoc]⟩

theorem Step.leads (a : Step) : Along Leads a.perform := fun s _ _ h => ⟨a.events s, h.step a⟩

theorem whileRunning_along [Chained R] {x : StationM Unit} (hx : Along R (whileRunning x 1)) (n : Nat)
    : Along R (whileRunning x n) := by
  intro s
  induction n generalizing s with
  | zero => exact Chained.refl s
  | succ n ih =>
    cases hrunning : s.isRunning with
    | false =>
      rw [whileRunning_stopped hrunning]
      exact Chained.refl s
    | true =>
      have hone := hx s
      rw [whileRunning, run_get_bind, if_pos hrunning] at hone ⊢
      obtain ⟨a, t, hrun, hbind⟩ | ⟨e, t, hrun, hbind⟩ := run_bind (tryCatch x collapse) (fun _ => whileRunning x n) s
      · rw [run_bind_of_ok hrun] at hone ⊢
        exact Chained.trans hone (ih t)
      · rw [run_bind_of_error hrun] at hone ⊢
        exact hone

theorem times_along [Chained R] {x : StationM Unit} (hx : Along R x) (n : Nat) : Along R (times x n) := by
  induction n with
  | zero => exact Along.pure _
  | succ n ih => exact hx.bind fun _ => ih

theorem settle_leads : Along Leads settle := by
  have hget : Along Leads (get : StationM Station) := Along.get
  refine hget.bind fun _ => ?_
  refine (whileRunning_along Step.serve.leads _).bind fun _ => ?_
  refine Step.follow.leads.bind fun _ => hget.bind fun _ => ?_
  refine (times_along Step.attend.leads _).bind fun _ => hget.bind fun _ => ?_
  refine (whileRunning_along Step.take.leads _).bind fun _ => ?_
  exact hget.bind fun _ => times_along Step.finish.leads _

theorem pass_leads {f : Station → Station} (hf : ∀ s, ∃ alarms clock, f s = { s with alarms, bot := { s.bot with clock } }) :
    Along Leads (modify f : StationM PUnit) := by
  intro s
  obtain ⟨alarms, clock, heq⟩ := hf s
  have hleads := (Step.pass alarms clock).leads s
  change Leads s (f s)
  rw [heq]
  exact hleads

theorem passTime_leads (fuel : Nat) (target : Float) : Along Leads (passTime fuel target) := by
  have hend : Along Leads (passTime 0 target) := by
    rw [passTime]
    exact pass_leads fun s => ⟨_, _, rfl⟩
  induction fuel with
  | zero => exact hend
  | succ fuel ih =>
    rw [passTime]
    refine Along.get.bind fun s => ?_
    split
    · exact hend
    · refine (pass_leads fun s => ⟨_, _, rfl⟩).bind fun _ => ?_
      exact (Step.wake _).leads.bind fun _ => settle_leads.bind fun _ => ih

theorem advance_leads (seconds : Float) : Along Leads (advance seconds) :=
  Along.get.bind fun _ => passTime_leads _ _

theorem aside_accessToken : Aside accessToken := by
  refine leaves_get.bind fun s => ?_
  dsimp only
  split
  · exact leaves_pure _
  · refine (aside_onBot _).bind fun _ => ?_
    split <;> simp

theorem aside_openChat : Aside openChat := by
  refine aside_accessToken.bind fun access => (aside_onBot _).bind fun used => ?_
  dsimp only
  split
  on_goal 1 => refine Leaves.bind (leaves_modify fun _ => rfl) fun _ => ?_
  all_goals
    refine (aside_onBot _).bind fun user => ?_
    cases user with
    | none => exact leaves_throw _
    | some user => exact (aside_onBot _).bind fun _ => leaves_modify fun _ => rfl

theorem aside_openWatch : Aside openWatch := by
  refine leaves_get.bind fun s => ?_
  dsimp only
  split
  · refine Leaves.bind (leaves_modify fun _ => rfl) fun _ => ?_
    exact (aside_call _).bind fun _ => aside_reconcile true
  · exact leaves_pure _

theorem aside_joinServer : Aside joinServer :=
  leaves_get.bind fun _ => (aside_onBot _).bind fun _ => leaves_modify fun _ => rfl

theorem startProducers_opened {s : Station} (hactive : s.active = s.participants) (hqueue : s.queue = []) :
    ∃ events, Run s.bot.broadcasters.length events (startProducers s).2 := by
  have hproduce := Along.forM (l := List.range s.bot.broadcasters.length)
    fun index => (Step.wake (.producer index)).leads
  have hopened : Opened s.bot.broadcasters.length { s with
      producers := freshProducers s.bot.broadcasters.length, former := none } := ⟨rfl, hactive, rfl, hqueue⟩
  obtain ⟨events, hevents⟩ := hproduce _ _ _ (.opened hopened)
  exact ⟨events, hevents⟩

theorem start_leads (hqueue : s.queue = []) (hrunning : (start s).2.isRunning) :
    ∃ n events, Run n events (start s).2 := by
  rw [start] at hrunning ⊢
  obtain ⟨u, t, hbody, hstart⟩ | ⟨fault, t, hbody, hstart⟩ := run_tryCatch _ _ s
  · rw [hstart]
    obtain ⟨_, s₁, hchat, hbody⟩ := run_ok_of_bind hbody
    obtain ⟨_, s₂, hserver, hbody⟩ := run_ok_of_bind hbody
    obtain ⟨_, s₃, hwatch, hbody⟩ := run_ok_of_bind hbody
    rw [run_modify_bind] at hbody
    obtain ⟨_, s₄, hproducers, hsettle⟩ := run_ok_of_bind hbody
    have hopened : ledger s₃ = ledger s := calc
      ledger s₃ = ledger s₂ := aside_openWatch.of_run hwatch
      _ = ledger s₁ := aside_joinServer.of_run hserver
      _ = ledger s := aside_openChat.of_run hchat
    simp only [ledger, Prod.mk.injEq] at hopened
    obtain ⟨events, hevents⟩ := startProducers_opened
      (s := { s₃ with status := .running, active := s₃.participants }) rfl (hopened.2.1.trans hqueue)
    rw [hproducers] at hevents
    obtain ⟨more, hmore⟩ := settle_leads s₄ _ _ hevents
    rw [hsettle] at hmore
    exact ⟨_, _, hmore⟩
  · rw [hstart] at hrunning
    cases hrunning

/-! ### Who hears a message -/

theorem Tracks.heeds_unfailed (h : Tracks n events s) (hanew : ¬ Anew events) {p : Producer} (hp : p ∈ s.producers)
    (hfailed : p.failed = false) : Heeds n events p.index := by
  have hindex : p.index ∈ List.range n := h.indices hanew ▸ mem_map_of_mem hp
  exact ⟨mem_range.1 hindex, fun htaken => h.unfailed hanew p hp hfailed (.inr htaken)⟩

theorem Tracks.ended_of_heeds (h : Tracks n events s) (hanew : Anew events) (hrunning : s.isRunning) {j : Nat}
    (hheeds : Heeds n events j) : (broadcaster j, Item.ended) ∈ s.queue := by
  rcases h.stopped hanew hrunning j hheeds.1 with hqueue | htaken
  · exact hqueue
  · exact absurd htaken hheeds.2

def news : Chat.Broadcaster where
  interval := 60
  message := "Nothing new."
  slot := ⟨0, 1⟩
  alias? := some "news"
  next := 0

def question : Incoming where
  message := ⟨"!news", "ann", .viewer, .twitch, none⟩

/-- A station that sends one message and is asked to read its messages anew. -/
def newsroom : Station where
  bot := { blank with broadcasters := [news], requests := [.reloadBroadcasters] }
  status := .running
  active := [.chat .twitch, .chat .discord, .broadcaster 0]
  producers := freshProducers 1

theorem opened_newsroom : Opened 1 newsroom := ⟨rfl, rfl, rfl, rfl⟩

/-- The newsroom when its producer has been stopped and another one is about to go on. -/
def restarted : Station :=
  { newsroom with
    bot := { newsroom.bot with requests := [] }
    queue := [(.broadcaster 0, .ended)] }

theorem produce_restarted : ∃ alarms, produce 0 restarted = (.ok (), { restarted with alarms }) ∨
      ∃ text, produce 0 restarted = (.ok (), { restarted with
        bot := { restarted.bot with broadcasters := [news.sent] }
        queue := [(.broadcaster 0, .ended), (.broadcaster 0, .broadcast text)]
        alarms }) := by
  rw [produce, run_get_bind]
  by_cases hwait : news.wait restarted.now > 0.0
  · refine ⟨[⟨restarted.now + news.wait restarted.now, .producer 0⟩], .inl ?_⟩
    change (if news.wait restarted.now > 0.0 then _ else _ : StationM Unit) restarted = _
    rw [if_pos hwait]
    rfl
  · refine ⟨[⟨restarted.now + news.sent.wait restarted.now, .producer 0⟩], .inr ?_⟩
    exact ⟨_, rfl⟩

theorem serve_newsroom (h : produce 0 restarted = (.ok (), s)) : (Step.serve.perform newsroom).2 = s := by
  have hserve : serveNext newsroom = (produce 0 >>= fun _ => pure ⟨⟩) restarted := rfl
  rw [run_bind_of_ok h] at hserve
  exact whileRunning_of_ok rfl hserve

theorem hear_news {b : Chat.Broadcaster} (halias : b.alias? = some "news") (now : Float) :
    b.hear now "!news" = { b with next := now + Float.ofInt b.interval } := by
  have hcommand : Chat.Command.ofMessage? "!news" = some ⟨"news", []⟩ := by decide +kernel
  rw [Chat.Broadcaster.hear, halias]
  rfl

end StreamBot.Station
