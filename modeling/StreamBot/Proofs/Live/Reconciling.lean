import Mathlib.Data.List.Induction
import Mathlib.Data.List.Nodup
import StreamBot.Proofs.Station.Hearing

/-! # Subscriptions in line with what is wanted

The bot looks over the subscriptions that are there, ends those that are broken or superfluous, and subscribes to what is
missing.  What a look has shown is told by the subscriptions alone (`Surveyed`), and so is what is left of them when all
calls have been made (`SeenTo`).

Main statement: `reconcile_converges`.
-/

namespace StreamBot.Live

open List
open Service (Subscription World)

/-! ### What subscriptions are good for -/

def inForce (address : String) (s : Subscription) : Bool := deliversTo address s && s.status == "enabled"

/-- A subscription in force tells when the streams of a broadcaster go live. -/
def watchesStreams (address broadcasterId : String) (s : Subscription) : Bool :=
  inForce address s && s.topic == Topic.online.name && s.broadcasterId == some broadcasterId

def watchesRaids (address : String) (s : Subscription) : Bool := inForce address s && s.topic == Topic.raid.name

/-- The broadcaster of whose streams a subscription in force tells. -/
def streamsOf? (address : String) (s : Subscription) : Option String :=
  if inForce address s && s.topic == Topic.online.name then s.broadcasterId else none

/-- A subscription that delivers to an address is of no use beside others: it is not in force, or another one comes first
that watches the same streams. -/
def Redundant (address : String) (all : List Subscription) (s : Subscription) : Prop :=
  deliversTo address s ∧ (s.status ≠ "enabled" ∨ ∃ broadcasterId, watchesStreams address broadcasterId s ∧
      all.find? (watchesStreams address broadcasterId) ≠ some s)

variable {address broadcasterId userId : String} {topic : Topic} {all seen : List Subscription} {s t : Subscription}
variable {p : Subscription → Bool} {topic' : Topic} {calls : List Call} {starting : Bool} {v : Survey}

theorem watchesStreams_iff : watchesStreams address broadcasterId s ↔
    deliversTo address s ∧ s.status = "enabled" ∧ s.topic = Topic.online.name ∧
      s.broadcasterId = some broadcasterId := by
  simp [watchesStreams, inForce, and_assoc]

theorem streamsOf?_eq_some : streamsOf? address s = some broadcasterId ↔ watchesStreams address broadcasterId s := by
  simp [streamsOf?, watchesStreams]

theorem watchesRaids_iff : watchesRaids address s ↔
    deliversTo address s ∧ s.status = "enabled" ∧ s.topic = Topic.raid.name := by
  simp [watchesRaids, inForce, and_assoc]

theorem watchesStreams_inj {other : String} (h : watchesStreams address broadcasterId s) :
    watchesStreams address other s ↔ other = broadcasterId := by
  obtain ⟨hdelivers, hstatus, htopic, hbroadcaster⟩ := watchesStreams_iff.1 h
  rw [watchesStreams_iff]
  simp [hdelivers, hstatus, htopic, hbroadcaster, eq_comm]

theorem not_watchesRaids (h : watchesStreams address broadcasterId s) : ¬ watchesRaids address s := by
  rw [watchesRaids_iff, (watchesStreams_iff.1 h).2.2.1]
  exact fun hraid => absurd hraid.2.2 (by decide)

theorem deliversTo_newSubscription : deliversTo address (newSubscription address topic userId) := by
  simp [deliversTo, newSubscription]

theorem watchesStreams_newSubscription : watchesStreams address broadcasterId (newSubscription address topic userId) ↔
    topic = .online ∧ userId = broadcasterId := by
  rw [watchesStreams_iff, deliversTo_newSubscription]
  cases topic <;> simp [newSubscription, Topic.name]

theorem id_newSubscription_inj {userId' : String}
    (h : (newSubscription address topic userId).id = (newSubscription address topic' userId').id) :
    topic = topic' ∧ userId = userId' := by
  have hchars := congrArg String.toList h
  cases topic <;> cases topic' <;> simp [newSubscription, Topic.name, String.toList_append] at hchars
  all_goals exact ⟨rfl, String.toList_injective hchars⟩

/-! ### A look at the subscriptions -/

structure Surveyed (address : String) (seen : List Subscription) (v : Survey) : Prop where
  watched : ∀ broadcasterId id, (broadcasterId, id) ∈ v.watched ↔
    ∃ s, seen.find? (watchesStreams address broadcasterId) = some s ∧ s.id = id
  raids : v.raidsWatched ↔ ∃ s ∈ seen, watchesRaids address s
  ended : ∀ id, .unsubscribe id ∈ v.calls ↔ ∃ s ∈ seen, s.id = id ∧ Redundant address seen s
  quiet : ∀ topic userId, .listen topic userId ∉ v.calls

theorem Surveyed.watches_iff (h : Surveyed address seen v) :
    v.watches broadcasterId ↔ ∃ s ∈ seen, watchesStreams address broadcasterId s := by
  rw [Survey.watches, any_eq_true]
  constructor
  · rintro ⟨⟨_, id⟩, hmem, heq⟩
    cases beq_iff_eq.1 heq
    obtain ⟨s, hs, -⟩ := (h.watched _ _).1 hmem
    exact ⟨s, mem_of_find?_eq_some hs, find?_some hs⟩
  · rintro ⟨s, hs, hwatches⟩
    obtain ⟨first, hfirst⟩ := Option.isSome_iff_exists.1 (find?_isSome.2 ⟨s, hs, hwatches⟩)
    exact ⟨(broadcasterId, first.id), (h.watched _ _).2 ⟨first, hfirst, rfl⟩, beq_self_eq_true _⟩

theorem surveyed_nil : Surveyed address [] {} where
  watched := by simp
  raids := by simp
  ended := by simp
  quiet := by simp

theorem find?_concat :
    (seen ++ [s]).find? p = some t ↔ seen.find? p = some t ∨ seen.find? p = none ∧ p s ∧ s = t := by
  simp

theorem redundant_concat (ht : t ∈ seen) : Redundant address (seen ++ [s]) t ↔ Redundant address seen t := by
  refine and_congr_right fun _ => or_congr_right (exists_congr fun broadcasterId => and_congr_right fun hwatches => ?_)
  obtain ⟨first, hfirst⟩ := Option.isSome_iff_exists.1 (find?_isSome.2 ⟨t, ht, hwatches⟩)
  rw [find?_append, hfirst, Option.some_or]

theorem Surveyed.find?_eq_none (h : Surveyed address seen v) :
    seen.find? (watchesStreams address broadcasterId) = none ↔ ¬ v.watches broadcasterId := by
  rw [h.watches_iff]
  simp

/-- A subscription to the streams of a broadcaster is superfluous if these were watched already. -/
theorem Surveyed.redundant_iff (h : Surveyed address seen v) (hnew : ∀ t ∈ seen, t.id ≠ s.id) :
    Redundant address (seen ++ [s]) s ↔
      deliversTo address s && (s.status != "enabled" || (streamsOf? address s).any v.watches) := by
  have hfirst (broadcasterId : String) (hs : watchesStreams address broadcasterId s) :
      (seen ++ [s]).find? (watchesStreams address broadcasterId) = some s ↔ ¬ v.watches broadcasterId := by
    rw [find?_concat, ← h.find?_eq_none]
    refine ⟨fun hfound => ?_, fun hnone => .inr ⟨hnone, hs, rfl⟩⟩
    rcases hfound with hmem | ⟨hnone, -⟩
    · exact absurd rfl (hnew s (mem_of_find?_eq_some hmem))
    · exact hnone
  simp only [Redundant, Bool.and_eq_true, Bool.or_eq_true, bne_iff_ne, Option.any_eq_true, streamsOf?_eq_some]
  refine and_congr_right fun _ => or_congr_right (exists_congr fun broadcasterId => and_congr_right fun hs => ?_)
  rw [ne_eq, hfirst broadcasterId hs, not_not]

theorem unsubscribe_not_mem_takeOver {id other : String} : .unsubscribe other ∉ takeOver starting id topic := by
  cases starting <;> simp [takeOver]

theorem listen_not_mem_takeOver {id : String} : .listen topic' userId ∉ takeOver starting id topic := by
  cases starting <;> simp [takeOver]

theorem Survey.see_eq : v.see starting address s =
    { watched := v.watched ++ ((streamsOf? address s).filter (!v.watches ·)).toList.map (·, s.id)
      raidsWatched := v.raidsWatched || watchesRaids address s
      calls := v.calls ++
        if deliversTo address s && (s.status != "enabled" || (streamsOf? address s).any v.watches) then [.unsubscribe s.id]
        else if (streamsOf? address s).isSome then takeOver starting s.id .online
        else if watchesRaids address s then takeOver starting s.id .raid
        else [] } := by
  fun_cases Survey.see <;> simp_all [streamsOf?, watchesRaids, inForce, Topic.name, Option.filter, beq_false_of_ne]

theorem Surveyed.see (h : Surveyed address seen v) (hnew : ∀ t ∈ seen, t.id ≠ s.id) :
    Surveyed address (seen ++ [s]) (v.see starting address s) where
  watched broadcasterId id := by
    have hlast : (broadcasterId, id) ∈ ((streamsOf? address s).filter (!v.watches ·)).toList.map (·, s.id) ↔
        seen.find? (watchesStreams address broadcasterId) = none ∧ watchesStreams address broadcasterId s ∧ s.id = id := by
      rw [h.find?_eq_none, ← streamsOf?_eq_some]
      simp
      tauto
    rw [Survey.see_eq, mem_append, h.watched, hlast]
    simp only [find?_concat]
    constructor
    · rintro (⟨t, ht, rfl⟩ | ⟨hnone, hwatches, rfl⟩)
      · exact ⟨t, .inl ht, rfl⟩
      · exact ⟨s, .inr ⟨hnone, hwatches, rfl⟩, rfl⟩
    · rintro ⟨t, ht | ⟨hnone, hwatches, rfl⟩, rfl⟩
      · exact .inl ⟨t, ht, rfl⟩
      · exact .inr ⟨hnone, hwatches, rfl⟩
  raids := by
    rw [Survey.see_eq, Bool.or_eq_true, h.raids]
    simp [or_and_right, exists_or]
  ended id := by
    have hlast : .unsubscribe id ∈ (v.see starting address s).calls ↔
        .unsubscribe id ∈ v.calls ∨ id = s.id ∧ Redundant address (seen ++ [s]) s := by
      rw [Survey.see_eq, mem_append, h.redundant_iff hnew]
      refine or_congr_right ?_
      split
      · simp [*]
      · split_ifs <;> simp [*, unsubscribe_not_mem_takeOver]
    rw [hlast, h.ended]
    constructor
    · rintro (⟨t, ht, rfl, hredundant⟩ | ⟨rfl, hredundant⟩)
      · exact ⟨t, mem_append_left _ ht, rfl, (redundant_concat ht).2 hredundant⟩
      · exact ⟨s, mem_append_right _ (mem_singleton_self s), rfl, hredundant⟩
    · rintro ⟨t, ht, rfl, hredundant⟩
      rcases mem_append.1 ht with ht | ht
      · exact .inl ⟨t, ht, rfl, (redundant_concat ht).1 hredundant⟩
      · cases mem_singleton.1 ht
        exact .inr ⟨rfl, hredundant⟩
  quiet topic userId := by
    rw [Survey.see_eq, mem_append, not_or]
    refine ⟨h.quiet topic userId, ?_⟩
    split_ifs <;> simp [listen_not_mem_takeOver]

theorem surveyed_ofSubscriptions (starting : Bool) (hids : (all.map (·.id)).Nodup) :
    Surveyed address all (Survey.ofSubscriptions starting address all) := by
  induction all using List.reverseRecOn with
  | nil => exact surveyed_nil
  | append_singleton seen s ih =>
    rw [map_append, nodup_append] at hids
    rw [Survey.ofSubscriptions, foldl_append]
    refine (ih hids.1).see fun t ht => ?_
    exact hids.2.2 t.id (mem_map_of_mem ht) s.id (mem_map_of_mem (mem_singleton_self s))

/-! ### What calls do -/

def Call.applied (address : String) (all : List Subscription) : Call → List Subscription
  | .listen topic userId => all ++ [newSubscription address topic userId]
  | .unsubscribe id => all.filter (·.id ≠ id)
  | _ => all

def applied (address : String) (all : List Subscription) (calls : List Call) : List Subscription :=
  calls.foldl (Call.applied address) all

theorem applied_append (calls more : List Call) :
    applied address all (calls ++ more) = applied address (applied address all calls) more := foldl_append

section

variable {b : Switchboard} {w : World} (hlisten : w.refuseListen = []) (hend : w.refuseUnsubscribe = [])

include hlisten hend

theorem make_run (call : Call) : ∃ heard, b.make w call = ({ b with heard, calls := b.calls ++ [call] },
    { w with subscriptions := call.applied b.address w.subscriptions }) := by
  cases call with
  | listen topic userId =>
    have haccepted : ¬ w.refuseListen.contains userId := by simp [hlisten]
    rw [Switchboard.make]
    rw [if_neg haccepted]
    exact ⟨_, rfl⟩
  | unsubscribe id =>
    have haccepted : ¬ w.refuseUnsubscribe.contains id := by simp [hend]
    rw [Switchboard.make]
    rw [if_neg haccepted]
    exact ⟨_, rfl⟩
  | deliverTo | start | stop | adopt | activate => exact ⟨_, rfl⟩

theorem makeAll_run (calls : List Call) : ∃ heard, b.makeAll w calls = ({ b with heard, calls := b.calls ++ calls },
    { w with subscriptions := applied b.address w.subscriptions calls }) := by
  induction calls generalizing b w with
  | nil => exact ⟨b.heard, by rw [append_nil]; rfl⟩
  | cons call calls ih =>
    obtain ⟨heard, hmake⟩ := make_run hlisten hend call
    have hcons : b.makeAll w (call :: calls) = (b.make w call).1.makeAll (b.make w call).2 calls := rfl
    rw [hmake] at hcons
    obtain ⟨heard', hrest⟩ : ∃ heard', b.makeAll w (call :: calls) =
        ({ b with heard := heard', calls := b.calls ++ [call] ++ calls },
          { w with subscriptions := applied b.address (call.applied b.address w.subscriptions) calls }) :=
      hcons ▸ ih hlisten hend
    exact ⟨heard', by rw [hrest, append_assoc]; rfl⟩

end

theorem applied_of_quiet (hquiet : ∀ topic userId, .listen topic userId ∉ calls) :
    applied address all calls = all.filter fun s => .unsubscribe s.id ∉ calls := by
  induction calls generalizing all with
  | nil => simp [applied]
  | cons call calls ih =>
    change applied address (call.applied address all) calls = _
    rw [ih fun topic userId hmem => hquiet topic userId (mem_cons_of_mem _ hmem)]
    cases call with
    | listen topic userId => exact absurd mem_cons_self (hquiet topic userId)
    | unsubscribe id =>
      rw [Call.applied]
      simp [Bool.and_comm]
    | deliverTo | start | stop | adopt | activate => simp [Call.applied]

theorem applied_listens (users : List String) :
    applied address all (users.map (.listen topic)) = all ++ users.map (newSubscription address topic) := by
  induction users generalizing all with
  | nil => simp [applied]
  | cons userId users ih =>
    change applied address (all ++ [newSubscription address topic userId]) _ = _
    rw [ih, append_assoc]
    rfl

/-! ### What is left when all calls have been made -/

def wanted (requested : List String) (own : String) : List String := (requested ++ [own]).eraseDups

/-- A subscription is left alone: it is of use, and if it watches streams then those of a wanted broadcaster. -/
def Stays (address : String) (wanted : List String) (all : List Subscription) (s : Subscription) : Prop :=
  ¬ Redundant address all s ∧ ∀ broadcasterId, watchesStreams address broadcasterId s → broadcasterId ∈ wanted

/-- The names under which the bot would subscribe are borne by its own subscriptions only, each of them for what its name
says. -/
def NamesFree (address : String) (wanted : List String) (all : List Subscription) : Prop :=
  ∀ s ∈ all, ∀ topic, ∀ userId ∈ wanted, s.id = (newSubscription address topic userId).id →
    deliversTo address s ∧ s.topic = topic.name ∧ (topic = .online → s.broadcasterId = some userId)

/-- Among the subscriptions in force exactly one watches the streams of each wanted broadcaster, none watches those of
anybody else, and one at least tells of raids. -/
structure InLine (address : String) (wanted : List String) (all : List Subscription) : Prop where
  one : ∀ broadcasterId ∈ wanted, ∃ s, all.filter (watchesStreams address broadcasterId) = [s]
  others : ∀ broadcasterId ∉ wanted, all.filter (watchesStreams address broadcasterId) = []
  raids : ∃ s ∈ all, watchesRaids address s

/-- The broadcaster for whom raids are subscribed to, unless somebody tells of them. -/
def raidsMissing (address own : String) (all : List Subscription) : List String :=
  if all.any (watchesRaids address) then [] else [own]

def streamsMissing (address : String) (wanted : List String) (all : List Subscription) : List String :=
  wanted.filter fun broadcasterId => !all.any (watchesStreams address broadcasterId)

/-- The subscriptions to the streams of those who are not wanted. -/
def Survey.unwanted (v : Survey) (wanted : List String) : List String :=
  (v.watched.filter fun p => !wanted.contains p.1).map (·.2)

/-- Some subscriptions after the bot has seen to them: those that stay, and what was missing. -/
def SeenTo (address own : String) (wanted : List String) (all after : List Subscription) : Prop :=
  ∃ stays : Subscription → Bool, (∀ s ∈ all, stays s ↔ Stays address wanted all s) ∧
    after = all.filter stays ++ (raidsMissing address own all).map (newSubscription address .raid) ++
      (streamsMissing address wanted all).map (newSubscription address .online)

theorem mem_raidsMissing {own : String} : userId ∈ raidsMissing address own all ↔
    userId = own ∧ ∀ s ∈ all, ¬ watchesRaids address s := by
  rw [raidsMissing]
  split <;> simp_all

theorem mem_streamsMissing {wanted : List String} : broadcasterId ∈ streamsMissing address wanted all ↔
    broadcasterId ∈ wanted ∧ ∀ s ∈ all, ¬ watchesStreams address broadcasterId s := by
  simp [streamsMissing]

theorem stays_of_elsewhere {wanted : List String} (h : ¬ deliversTo address s) : Stays address wanted all s :=
  ⟨fun hredundant => h hredundant.1, fun _ hwatches => absurd (watchesStreams_iff.1 hwatches).1 h⟩

theorem Stays.enabled {wanted : List String} (h : Stays address wanted all s) (hdelivers : deliversTo address s) :
    s.status = "enabled" := by
  by_contra hbroken
  exact h.1 ⟨hdelivers, .inl hbroken⟩

section

variable {requested : List String} {own : String} {known : String → Bool} (h : Surveyed address all v)
  (hids : (all.map (·.id)).Nodup)

include h hids

theorem Surveyed.ends_iff (hs : s ∈ all) {wanted : List String} :
    (.unsubscribe s.id ∈ v.calls ∨ s.id ∈ v.unwanted wanted) ↔ ¬ Stays address wanted all s := by
  have hinj {t : Subscription} (ht : t ∈ all) (hid : t.id = s.id) : t = s := inj_on_of_nodup_map hids ht hs hid
  have hended : .unsubscribe s.id ∈ v.calls ↔ Redundant address all s := by
    rw [h.ended]
    constructor
    · rintro ⟨t, ht, hid, hredundant⟩
      exact hinj ht hid ▸ hredundant
    · exact fun hredundant => ⟨s, hs, rfl, hredundant⟩
  rw [hended, Stays, not_and_or, not_not]
  constructor
  · rintro (hredundant | hwatched)
    · exact .inl hredundant
    · obtain ⟨⟨broadcasterId, id⟩, hmem, rfl⟩ := mem_map.1 hwatched
      obtain ⟨hmem, hunwanted⟩ := mem_filter.1 hmem
      obtain ⟨t, ht, hid⟩ := (h.watched _ _).1 hmem
      cases hinj (mem_of_find?_eq_some ht) hid
      exact .inr fun hall => absurd (hall broadcasterId (find?_some ht)) (by simpa using hunwanted)
  · rintro (hredundant | hunwanted)
    · exact .inl hredundant
    · by_cases hredundant : Redundant address all s
      · exact .inl hredundant
      · push Not at hunwanted
        obtain ⟨broadcasterId, hwatches, hnot⟩ := hunwanted
        have hfirst : all.find? (watchesStreams address broadcasterId) = some s := by
          by_contra hother
          exact hredundant ⟨(watchesStreams_iff.1 hwatches).1, .inr ⟨broadcasterId, hwatches, hother⟩⟩
        have hmem := (h.watched broadcasterId s.id).2 ⟨s, hfirst, rfl⟩
        exact .inr (mem_map.2 ⟨_, mem_filter.2 ⟨hmem, by simpa using hnot⟩, rfl⟩)

omit hids

theorem Surveyed.changes_eq (hknown : ∀ broadcasterId ∈ requested, known broadcasterId) :
    v.changes (some own) requested known = (raidsMissing address own all).map (.listen .raid) ++
      ((v.unwanted (wanted requested own)).map .unsubscribe ++
        (streamsMissing address (wanted requested own) all).map (.listen .online)) := by
  have hraids : v.raidsWatched = all.any (watchesRaids address) := by
    rw [Bool.eq_iff_iff, h.raids, any_eq_true]
  have hmissing : ((wanted requested own).filter fun id => !v.watches id && (some own == some id || known id)) =
      streamsMissing address (wanted requested own) all := by
    refine filter_congr fun id hid => ?_
    have hwatches : v.watches id = all.any (watchesStreams address id) := by
      rw [Bool.eq_iff_iff, h.watches_iff, any_eq_true]
    have hfound : (some own == some id || known id) := by
      rcases mem_append.1 (mem_eraseDups.1 hid) with hrequested | hself
      · simp [hknown id hrequested]
      · simp [mem_singleton.1 hself]
    rw [hfound, Bool.and_true, hwatches]
  have hunfold : v.changes (some own) requested known = (if v.raidsWatched then [] else [.listen .raid own]) ++
        (v.watched.filter fun p => !(wanted requested own).contains p.1).map (fun p => .unsubscribe p.2) ++
        ((wanted requested own).filter fun id => !v.watches id && (some own == some id || known id)).map
          (.listen .online) := rfl
  rw [hunfold, hmissing, hraids, raidsMissing, Survey.unwanted, map_map]
  cases all.any (watchesRaids address) <;> rfl

/-- A subscription to raids that is made is not ended at once: no other one bears its name. -/
theorem Surveyed.raid_not_unwanted (hfree : NamesFree address (wanted requested own) all) :
    (newSubscription address .raid own).id ∉ v.unwanted (wanted requested own) := by
  intro hmem
  obtain ⟨⟨broadcasterId, id⟩, hmem, hid⟩ := mem_map.1 hmem
  obtain ⟨t, ht, htid⟩ := (h.watched _ _).1 (mem_filter.1 hmem).1
  have hown : own ∈ wanted requested own := by simp [wanted]
  obtain ⟨-, hraid, -⟩ := hfree t (mem_of_find?_eq_some ht) .raid own hown (htid.trans hid)
  have honline := (watchesStreams_iff.1 (find?_some ht)).2.2.1
  exact absurd (honline.symm.trans hraid) (by decide)

theorem Surveyed.seenTo (hids : (all.map (·.id)).Nodup) (hfree : NamesFree address (wanted requested own) all)
    (hknown : ∀ broadcasterId ∈ requested, known broadcasterId) :
    SeenTo address own (wanted requested own) all
      (applied address all (v.calls ++ v.changes (some own) requested known)) := by
  have hquiet : ∀ topic userId, .listen topic userId ∉ (v.unwanted (wanted requested own)).map Call.unsubscribe := by simp
  have hraids : ((raidsMissing address own all).map (newSubscription address .raid)).filter
      (fun s => .unsubscribe s.id ∉ (v.unwanted (wanted requested own)).map Call.unsubscribe) =
        (raidsMissing address own all).map (newSubscription address .raid) := by
    rw [filter_eq_self]
    intro s hs
    obtain ⟨userId, huser, rfl⟩ := mem_map.1 hs
    simpa [(mem_raidsMissing.1 huser).1] using h.raid_not_unwanted hfree
  refine ⟨fun s => .unsubscribe s.id ∉ (v.unwanted (wanted requested own)).map Call.unsubscribe ∧
    .unsubscribe s.id ∉ v.calls, fun s hs => ?_, ?_⟩
  · rw [← not_iff_not, ← h.ends_iff hids hs]
    simp [imp_iff_or_not]
  · rw [applied_append, applied_of_quiet h.quiet, h.changes_eq hknown, applied_append, applied_listens, applied_append,
      applied_of_quiet hquiet, applied_listens, filter_append, filter_filter, hraids]
    simp only [Bool.decide_and]

end

/-! ### What they are like then -/

theorem filter_eq_singleton (hnodup : all.Nodup) (hs : s ∈ all)
    (honly : ∀ t ∈ all, p t ↔ t = s) : all.filter p = [s] := by
  have hcongr : all.filter p = all.filter (· == s) :=
    filter_congr fun t ht => by rw [Bool.eq_iff_iff, honly t ht, beq_iff_eq]
  rw [hcongr, filter_beq, count_eq_one_of_mem hnodup hs]
  rfl

theorem filter_new (h : ∀ userId, ¬ p (newSubscription address topic userId)) (users : List String) :
    (users.map (newSubscription address topic)).filter p = [] := by
  rw [filter_eq_nil_iff]
  intro s hs
  obtain ⟨userId, -, rfl⟩ := mem_map.1 hs
  exact h userId

theorem filter_raids (users : List String) :
    (users.map (newSubscription address .raid)).filter (watchesStreams address broadcasterId) = [] :=
  filter_new (by simp [watchesStreams_newSubscription]) users

theorem filter_streams {users : List String} (hnodup : users.Nodup) :
    (users.map (newSubscription address .online)).filter (watchesStreams address broadcasterId) =
      if broadcasterId ∈ users then [newSubscription address .online broadcasterId] else [] := by
  have hcomp : (watchesStreams address broadcasterId ∘ newSubscription address .online) = (· == broadcasterId) := by
    funext userId
    rw [Bool.eq_iff_iff, Function.comp, watchesStreams_newSubscription]
    simp
  rw [filter_map, hcomp, filter_beq]
  split
  · next hmem =>
    rw [count_eq_one_of_mem hnodup hmem]
    rfl
  · next hmem =>
    rw [count_eq_zero_of_not_mem hmem]
    rfl

theorem nodup_streamsMissing {wanted : List String} (h : wanted.Nodup) : (streamsMissing address wanted all).Nodup :=
  h.filter _

section

variable {own : String} {wanted : List String} {after : List Subscription} (h : SeenTo address own wanted all after)
  (hids : (all.map (·.id)).Nodup)

include h

theorem SeenTo.elsewhere : (after.filter fun s => !deliversTo address s) = all.filter fun s => !deliversTo address s := by
  obtain ⟨stays, hstays, rfl⟩ := h
  have hnew (topic : Topic) (users : List String) :
      ((users.map (newSubscription address topic)).filter fun s => !deliversTo address s) = [] :=
    filter_new (by simp [deliversTo_newSubscription]) users
  rw [filter_append, filter_append, hnew, hnew, append_nil, append_nil, filter_filter]
  refine filter_congr fun s hs => ?_
  by_cases hdelivers : deliversTo address s
  · simp [hdelivers]
  · simp [hdelivers, (hstays s hs).2 (stays_of_elsewhere hdelivers)]

theorem SeenTo.raids : ∃ s ∈ after, watchesRaids address s := by
  obtain ⟨stays, hstays, rfl⟩ := h
  by_cases hany : all.any (watchesRaids address)
  · obtain ⟨s, hs, hraids⟩ := any_eq_true.1 hany
    have hstay : Stays address wanted all s := by
      refine ⟨?_, fun broadcasterId hwatches => absurd hraids (not_watchesRaids hwatches)⟩
      rintro ⟨-, hbroken | ⟨broadcasterId, hwatches, -⟩⟩
      · exact hbroken (watchesRaids_iff.1 hraids).2.1
      · exact not_watchesRaids hwatches hraids
    have hmem : s ∈ all.filter stays := mem_filter.2 ⟨hs, (hstays s hs).2 hstay⟩
    exact ⟨s, mem_append_left _ (mem_append_left _ hmem), hraids⟩
  · refine ⟨newSubscription address .raid own, ?_, watchesRaids_iff.2 ⟨deliversTo_newSubscription, rfl, rfl⟩⟩
    simp [raidsMissing, hany]

theorem SeenTo.others (hunwanted : broadcasterId ∉ wanted) : after.filter (watchesStreams address broadcasterId) = [] := by
  obtain ⟨stays, hstays, rfl⟩ := h
  rw [filter_append, filter_append, filter_raids, append_nil, append_eq_nil_iff]
  constructor
  · rw [filter_eq_nil_iff]
    intro s hs hwatches
    obtain ⟨hs, hstay⟩ := mem_filter.1 hs
    exact hunwanted (((hstays s hs).1 hstay).2 broadcasterId hwatches)
  · rw [filter_eq_nil_iff]
    intro s hs hwatches
    obtain ⟨userId, huser, rfl⟩ := mem_map.1 hs
    rw [(watchesStreams_newSubscription.1 hwatches).2] at huser
    exact hunwanted (mem_streamsMissing.1 huser).1

include hids

theorem SeenTo.one (hnodup : wanted.Nodup) (hwanted : broadcasterId ∈ wanted) :
    ∃ s, after.filter (watchesStreams address broadcasterId) = [s] := by
  obtain ⟨stays, hstays, rfl⟩ := h
  rw [filter_append, filter_append, filter_raids, append_nil, filter_streams (nodup_streamsMissing hnodup)]
  cases hfirst : all.find? (watchesStreams address broadcasterId) with
  | none =>
    -- nobody watches these streams, and so the only subscription to them is the new one
    have hnobody := find?_eq_none.1 hfirst
    rw [if_pos (mem_streamsMissing.2 ⟨hwanted, hnobody⟩), filter_eq_nil_iff.2]
    · exact ⟨_, rfl⟩
    · exact fun s hs => hnobody s (mem_filter.1 hs).1
  | some s =>
    have hs := mem_of_find?_eq_some hfirst
    have hwatches := find?_some hfirst
    have hstay : Stays address wanted all s := by
      refine ⟨?_, fun other hother => (watchesStreams_inj hwatches).1 hother ▸ hwanted⟩
      rintro ⟨-, hbroken | ⟨other, hother, hnot⟩⟩
      · exact hbroken (watchesStreams_iff.1 hwatches).2.1
      · rw [(watchesStreams_inj hwatches).1 hother] at hnot
        exact hnot hfirst
    rw [if_neg fun hmem => (mem_streamsMissing.1 hmem).2 s hs hwatches, append_nil]
    refine ⟨s, filter_eq_singleton (hids.of_map.filter _) (mem_filter.2 ⟨hs, (hstays s hs).2 hstay⟩) fun t ht => ?_⟩
    obtain ⟨ht, htstays⟩ := mem_filter.1 ht
    refine ⟨fun htwatches => ?_, fun heq => heq ▸ hwatches⟩
    -- another one after the first would not have stayed
    by_contra hne
    refine ((hstays t ht).1 htstays).1 ⟨(watchesStreams_iff.1 htwatches).1, .inr ⟨broadcasterId, htwatches, ?_⟩⟩
    rw [hfirst]
    exact fun heq => hne (Option.some.inj heq).symm

theorem SeenTo.inLine (hnodup : wanted.Nodup) : InLine address wanted after :=
  ⟨fun _ hwanted => h.one hids hnodup hwanted, fun _ hunwanted => h.others hunwanted, h.raids⟩

theorem SeenTo.nodup (hnodup : wanted.Nodup) (hown : own ∈ wanted) (hfree : NamesFree address wanted all) :
    (after.map (·.id)).Nodup := by
  obtain ⟨stays, hstays, rfl⟩ := h
  have hkept : ((all.filter stays).map (·.id)).Nodup := hids.sublist (filter_sublist.map _)

  have hraids : (raidsMissing address own all).Nodup := by
    rw [raidsMissing]
    split <;> simp
  have hnew (topic : Topic) {users : List String} (husers : users.Nodup) :
      ((users.map (newSubscription address topic)).map (·.id)).Nodup := by
    rw [map_map]
    exact husers.map fun _ _ heq => (id_newSubscription_inj heq).2
  -- a subscription that stays and bears the name of a new one would do what that is for
  have hother {s : Subscription} (hs : s ∈ all.filter stays) {topic : Topic} {userId : String} (huser : userId ∈ wanted)
      (hid : s.id = (newSubscription address topic userId).id) :
      s ∈ all ∧ s.status = "enabled" ∧ deliversTo address s ∧ s.topic = topic.name ∧
        (topic = .online → s.broadcasterId = some userId) := by
    obtain ⟨hs, hstay⟩ := mem_filter.1 hs
    have hname := hfree s hs topic userId huser hid
    exact ⟨hs, ((hstays s hs).1 hstay).enabled hname.1, hname⟩
  rw [map_append, map_append, nodup_append, nodup_append]
  refine ⟨⟨hkept, hnew .raid hraids, ?_⟩, hnew .online (nodup_streamsMissing hnodup), ?_⟩
  · intro id hid id' hid' heq
    obtain ⟨s, hs, rfl⟩ := mem_map.1 hid
    obtain ⟨_, hmem, rfl⟩ := mem_map.1 hid'
    obtain ⟨userId, huser, rfl⟩ := mem_map.1 hmem
    obtain ⟨rfl, hnone⟩ := mem_raidsMissing.1 huser
    obtain ⟨hs, hstatus, hdelivers, htopic, -⟩ := hother hs hown heq
    exact hnone s hs (watchesRaids_iff.2 ⟨hdelivers, hstatus, htopic⟩)
  · intro id hid id' hid' heq
    obtain ⟨_, hmem', rfl⟩ := mem_map.1 hid'
    obtain ⟨userId, huser, rfl⟩ := mem_map.1 hmem'
    obtain ⟨hwanted, hnone⟩ := mem_streamsMissing.1 huser
    rcases mem_append.1 hid with hid | hid
    · obtain ⟨s, hs, rfl⟩ := mem_map.1 hid
      obtain ⟨hs, hstatus, hdelivers, htopic, hbroadcaster⟩ := hother hs hwanted heq
      exact hnone s hs (watchesStreams_iff.2 ⟨hdelivers, hstatus, htopic, hbroadcaster rfl⟩)
    · obtain ⟨_, hmem, rfl⟩ := mem_map.1 hid
      obtain ⟨_, -, rfl⟩ := mem_map.1 hmem
      exact absurd (id_newSubscription_inj heq).1 (by decide)

theorem SeenTo.not_redundant (hnodup : wanted.Nodup) (hs : s ∈ after) : ¬ Redundant address after s := by
  have hline := h.inLine hids hnodup
  have hstatus (hdelivers : deliversTo address s) : s.status = "enabled" := by
    obtain ⟨stays, hstays, rfl⟩ := h
    rcases mem_append.1 hs with hs | hs
    · rcases mem_append.1 hs with hs | hs
      · obtain ⟨hs, hstay⟩ := mem_filter.1 hs
        exact ((hstays s hs).1 hstay).enabled hdelivers
      · obtain ⟨_, -, rfl⟩ := mem_map.1 hs
        rfl
    · obtain ⟨_, -, rfl⟩ := mem_map.1 hs
      rfl
  rintro ⟨hdelivers, hbroken | ⟨broadcasterId, hwatches, hother⟩⟩
  · exact hbroken (hstatus hdelivers)
  · have hmem : s ∈ after.filter (watchesStreams address broadcasterId) := mem_filter.2 ⟨hs, hwatches⟩
    by_cases hwanted : broadcasterId ∈ wanted
    · obtain ⟨only, honly⟩ := hline.one broadcasterId hwanted
      rw [honly, mem_singleton] at hmem
      rw [← head?_filter, honly, hmem] at hother
      exact hother rfl
    · rw [hline.others broadcasterId hwanted] at hmem
      exact not_mem_nil hmem

end

theorem Surveyed.nothing_left {requested : List String} {own : String} {known : String → Bool} (h : Surveyed address all v)
    (hline : InLine address (wanted requested own) all) (huseful : ∀ s ∈ all, ¬ Redundant address all s)
    (hknown : ∀ broadcasterId ∈ requested, known broadcasterId) {call : Call}
    (hcall : call ∈ v.calls ++ v.changes (some own) requested known) :
    (∀ topic userId, call ≠ .listen topic userId) ∧ ∀ id, call ≠ .unsubscribe id := by
  have hraids : raidsMissing address own all = [] := if_pos (any_eq_true.2 hline.raids)
  have hunwanted : v.unwanted (wanted requested own) = [] := by
    rw [eq_nil_iff_forall_not_mem]
    intro id hid
    obtain ⟨⟨broadcasterId, id⟩, hmem, rfl⟩ := mem_map.1 hid
    obtain ⟨hmem, hnot⟩ := mem_filter.1 hmem
    obtain ⟨s, hs, -⟩ := (h.watched _ _).1 hmem
    have hnone := hline.others broadcasterId (by simpa using hnot)
    exact filter_eq_nil_iff.1 hnone s (mem_of_find?_eq_some hs) (find?_some hs)
  have hmissing : streamsMissing address (wanted requested own) all = [] := by
    rw [eq_nil_iff_forall_not_mem]
    intro broadcasterId hmem
    obtain ⟨hwanted, hnobody⟩ := mem_streamsMissing.1 hmem
    obtain ⟨s, hs⟩ := hline.one broadcasterId hwanted
    have hmem : s ∈ all.filter (watchesStreams address broadcasterId) := hs ▸ mem_singleton_self s
    exact hnobody s (mem_filter.1 hmem).1 (mem_filter.1 hmem).2
  rw [h.changes_eq hknown, hraids, hunwanted, hmissing, map_nil, map_nil, map_nil, append_nil,
    append_nil, append_nil] at hcall
  refine ⟨fun topic userId heq => h.quiet topic userId (heq ▸ hcall), fun id heq => ?_⟩
  obtain ⟨s, hs, -, hredundant⟩ := (h.ended id).1 (heq ▸ hcall)
  exact huseful s hs hredundant

end StreamBot.Live

namespace StreamBot.Station

open List Live
open Live (InLine NamesFree Survey applied wanted)

/-! ### The station -/

def deliveryAddress (s : Station) : String := s.bot.config.eventsUrl ++ "/callback"

def requested (s : Station) : List String := s.bot.database.liveChannels.map (·.broadcasterId)

def knows (s : Station) (id : String) : Bool := !(s.bot.services.usersById [id]).isEmpty

def callsMade (s : Station) : List Call := (s.watch.map (·.board.calls)).getD []

/-- Streams are watched, subscriptions are taken over, everybody concerned is known, and nothing that the station asks for
is refused. -/
structure Unhindered (s : Station) (own : Service.User) : Prop where
  watch : ∃ watch, s.watch = some watch ∧ watch.board.address = s.deliveryAddress
  inherits : s.bot.config.ignoreSubscriptions = false
  working : s.bot.Working Database.getLiveNotificationChannels.name
  up : s.bot.services.down = false
  listens : s.bot.services.refuseListen = []
  ends : s.bot.services.refuseUnsubscribe = []
  own : (s.bot.services.usersByLogin [s.bot.config.channel]).head? = some own
  known : ∀ broadcasterId ∈ s.requested, s.knows broadcasterId

/-- All that the station calls for to bring the subscriptions in line. -/
def reconcilingCalls (starting : Bool) (s : Station) (own : String) : List Call :=
  let survey := Survey.ofSubscriptions starting s.deliveryAddress s.bot.services.subscriptions
  survey.calls ++ survey.changes (some own) s.requested s.knows

/-- Some calls were made, none was refused, and otherwise only questions were asked. -/
structure Told (s : Station) (calls : List Call) (t : Station) : Prop where
  watch : ∀ watch, s.watch = some watch → ∃ heard,
    t.watch = some { watch with board := { watch.board with heard, calls := watch.board.calls ++ calls } }
  bot : ∃ journal, t.bot = { s.bot with
    journal
    services := { s.bot.services with
      subscriptions := applied s.deliveryAddress s.bot.services.subscriptions calls } }

variable {s t u : Station} {own : Service.User} {calls more : List Call}

theorem Told.trans (h : Told s calls t) (h' : Told t more u) : Told s (calls ++ more) u := by
  obtain ⟨journal, hbot⟩ := h.bot
  obtain ⟨journal', hbot'⟩ := h'.bot
  have haddress : t.deliveryAddress = s.deliveryAddress := by rw [deliveryAddress, hbot]; rfl
  refine ⟨fun watch hwatch => ?_, journal', ?_⟩
  · obtain ⟨heard, hfirst⟩ := h.watch watch hwatch
    obtain ⟨heard', hsecond⟩ := h'.watch _ hfirst
    exact ⟨heard', by rw [hsecond, ← append_assoc]⟩
  · rw [hbot', haddress, hbot, applied_append]

theorem Told.same (h : Told s calls t) :
    t.deliveryAddress = s.deliveryAddress ∧ t.requested = s.requested ∧ t.knows = s.knows := by
  obtain ⟨journal, hbot⟩ := h.bot
  rw [deliveryAddress, requested, funext_iff]
  simp only [knows, hbot]
  exact ⟨rfl, rfl, fun _ => rfl⟩

theorem Unhindered.told (h : Unhindered s own) (h' : Told s calls t) : Unhindered t own := by
  obtain ⟨watch, hwatch, haddress⟩ := h.watch
  obtain ⟨heard, hheard⟩ := h'.watch watch hwatch
  obtain ⟨hsame, hrequested, hknows⟩ := h'.same
  obtain ⟨journal, hbot⟩ := h'.bot
  constructor
  case watch => exact ⟨_, hheard, haddress.trans hsame.symm⟩
  case known => rw [hrequested, hknows]; exact h.known
  all_goals rw [hbot]
  case inherits => exact h.inherits
  case working => exact h.working
  case up => exact h.up
  case listens => exact h.listens
  case ends => exact h.ends
  case own => exact h.own

theorem Told.callsMade (h : Unhindered s own) (h' : Told s calls t) : t.callsMade = s.callsMade ++ calls := by
  obtain ⟨watch, hwatch, -⟩ := h.watch
  obtain ⟨heard, hheard⟩ := h'.watch watch hwatch
  rw [Station.callsMade, Station.callsMade, hheard, hwatch]
  rfl

theorem call_told (h : Unhindered s own) (calls : List Call) : ∃ t, call calls s = (.ok (), t) ∧ Told s calls t := by
  obtain ⟨watch, hwatch, haddress⟩ := h.watch
  obtain ⟨heard, hmake⟩ := makeAll_run h.listens h.ends calls
  have hcall : call calls s = (.ok (), { s with
      watch := some { watch with board := (watch.board.makeAll s.bot.services calls).1 }
      bot := { s.bot with services := (watch.board.makeAll s.bot.services calls).2 } }) := by
    change (Except.ok (), _) = _
    dsimp only
    rw [hwatch]
  refine ⟨_, hcall, fun watch' hwatch' => ⟨heard, ?_⟩, s.bot.journal, ?_⟩
  · cases hwatch.symm.trans hwatch'
    rw [hmake]
  · rw [hmake, haddress]

theorem usersByLogin_told (h : Unhindered s own) (logins : List String) :
    ∃ t, onBot (Bot.usersByLogin logins) s = (.ok (s.bot.services.usersByLogin logins), t) ∧ Told s [] t := by
  refine ⟨{ s with bot := { s.bot with journal := s.bot.journal ++ [.usersByLogin logins] } }, ?_, ?_⟩
  · rw [onBot_run, Bot.usersByLogin_run h.up]
  · exact ⟨fun watch hwatch => ⟨watch.board.heard, by rw [append_nil]; exact hwatch⟩, _, rfl⟩

theorem reconcile_told (starting : Bool) (h : Unhindered s own) :
    ∃ t, reconcile starting s = (.ok (), t) ∧ Told s (reconcilingCalls starting s own.id) t := by
  generalize hsurvey : Survey.ofSubscriptions starting s.deliveryAddress s.bot.services.subscriptions = survey
  obtain ⟨s₁, hfirst, htold₁⟩ := call_told h survey.calls
  have h₁ := h.told htold₁
  obtain ⟨hsame, hrequested, hknows⟩ := htold₁.same
  have hrows : onBot (Bot.perform Database.getLiveNotificationChannels) s₁ = (.ok s₁.bot.database.liveChannels, s₁) := by
    rw [onBot_run, Bot.perform_of_ok h₁.working rfl]
  obtain ⟨s₂, hown, htold₂⟩ := usersByLogin_told h₁ [s.bot.config.channel]
  obtain ⟨s₃, hsecond, htold₃⟩ := call_told (h₁.told htold₂) (survey.changes (some own.id) s.requested s.knows)
  refine ⟨s₃, ?_, by rw [reconcilingCalls, hsurvey]; exact htold₁.trans (htold₂.trans htold₃)⟩
  have hchannel : s₁.bot.config.channel = s.bot.config.channel := by
    obtain ⟨journal, hbot⟩ := htold₁.bot
    rw [hbot]
  rw [reconcile, run_get_bind]
  rw [if_neg (by simp [h.inherits]), ← deliveryAddress, hsurvey, run_bind_of_ok hfirst, run_bind_of_ok hrows,
    run_bind_of_ok hown, ← hchannel, h₁.own]
  rw [← hrequested] at hsecond
  exact hsecond

/-- When the subscriptions have been brought in line, exactly one in force watches the streams of each broadcaster that is
announced and of the own channel, none watches those of anybody else, and one at least tells of raids.  What delivers
elsewhere has not been touched.  To do it again subscribes to nothing and ends nothing. -/
theorem reconcile_converges {s : Station} {own : Service.User} (h : Unhindered s own)
    (hids : (s.bot.services.subscriptions.map (·.id)).Nodup)
    (hfree : NamesFree s.deliveryAddress (wanted s.requested own.id) s.bot.services.subscriptions) (starting again : Bool) :
    ∃ t u, reconcile starting s = (.ok (), t) ∧ reconcile again t = (.ok (), u) ∧
      InLine s.deliveryAddress (wanted s.requested own.id) t.bot.services.subscriptions ∧
      (t.bot.services.subscriptions.filter fun x => !Live.deliversTo s.deliveryAddress x) =
        (s.bot.services.subscriptions.filter fun x => !Live.deliversTo s.deliveryAddress x) ∧
      u.bot.services.subscriptions = t.bot.services.subscriptions ∧
      ∃ more, u.callsMade = t.callsMade ++ more ∧
        ∀ call ∈ more, (∀ topic userId, call ≠ .listen topic userId) ∧ ∀ id, call ≠ .unsubscribe id := by
  obtain ⟨t, hfirst, htold⟩ := reconcile_told starting h
  have ht := h.told htold
  obtain ⟨u, hsecond, htold'⟩ := reconcile_told again ht
  obtain ⟨haddress, hrequested, hknows⟩ := htold.same
  have hseen := (Live.surveyed_ofSubscriptions starting hids).seenTo hids hfree h.known
  have hnodup := nodup_eraseDups (s.requested ++ [own.id])
  have hown : own.id ∈ wanted s.requested own.id := by simp [wanted]
  have hsubscriptions : t.bot.services.subscriptions =
      applied s.deliveryAddress s.bot.services.subscriptions (reconcilingCalls starting s own.id) := by
    obtain ⟨journal, hbot⟩ := htold.bot
    rw [hbot]
  rw [← reconcilingCalls, ← hsubscriptions] at hseen
  have hline := hseen.inLine hids hnodup
  have hquiet : ∀ call ∈ reconcilingCalls again t own.id,
      (∀ topic userId, call ≠ .listen topic userId) ∧ ∀ id, call ≠ .unsubscribe id := by
    intro call hcall
    rw [reconcilingCalls, haddress, hrequested, hknows] at hcall
    exact (Live.surveyed_ofSubscriptions again (hseen.nodup hids hnodup hown hfree)).nothing_left hline
      (fun x hx => hseen.not_redundant hids hnodup hx) h.known hcall
  refine ⟨t, u, hfirst, hsecond, hline, hseen.elsewhere, ?_, _, htold'.callsMade ht, hquiet⟩
  obtain ⟨journal, hbot⟩ := htold'.bot
  rw [hbot]
  dsimp only
  rw [Live.applied_of_quiet fun topic userId hmem => (hquiet _ hmem).1 topic userId rfl, filter_eq_self]
  exact fun x _ => decide_eq_true fun hmem => (hquiet _ hmem).2 x.id rfl

/-- A subscription that the bot would make, under another name. -/
def inherited (id : String) (topic : Topic) (userId : String) : Service.Subscription :=
  { newSubscription "/callback" topic userId with id }

/-- A station that announces the streams of one broadcaster, before it has put its subscriptions in order. -/
def untidy : Station where
  bot := { Bot.blank with
    config := { Bot.blank.config with channel := "Me", ignoreSubscriptions := false }
    database := { liveChannels := [⟨1, "2", "", ""⟩] }
    services := {
      users := [⟨"1", "me", "Me", ""⟩, ⟨"2", "ann", "Ann", ""⟩]
      subscriptions := [ { inherited "a" .online "2" with status := "revoked" },
        { inherited "b" .online "2" with callback := some "elsewhere" },
        inherited "c" .online "2",
        inherited "d" .online "3",
        inherited "e" .online "2"] } }
  watch := some { board := { address := "/callback" } }

theorem unhindered_untidy : untidy.Unhindered ⟨"1", "me", "Me", ""⟩ where
  watch := ⟨_, rfl, rfl⟩
  inherits := rfl
  working := rfl
  up := rfl
  listens := rfl
  ends := rfl
  own := by decide +kernel
  known := by decide +kernel

theorem reconcile_converges_untidy : ∃ t u, reconcile true untidy = (.ok (), t) ∧ reconcile false t = (.ok (), u) ∧
      InLine "/callback" ["2", "1"] t.bot.services.subscriptions ∧
      (t.bot.services.subscriptions.filter fun x => !Live.deliversTo "/callback" x).map (·.id) = ["b"] ∧
      u.bot.services.subscriptions = t.bot.services.subscriptions := by
  have hwanted : wanted untidy.requested "1" = ["2", "1"] := by decide +kernel
  have hfree : NamesFree untidy.deliveryAddress (wanted untidy.requested "1") untidy.bot.services.subscriptions := by
    rw [hwanted]
    rintro x hx (_ | _)
    all_goals
      revert x
      decide +kernel
  obtain ⟨t, u, hfirst, hsecond, hline, helsewhere, hsame, -⟩ :=
    reconcile_converges unhindered_untidy (by decide +kernel) hfree true false
  have hkept : (untidy.bot.services.subscriptions.filter fun x => !Live.deliversTo untidy.deliveryAddress x).map (·.id) =
      ["b"] := by decide +kernel
  exact ⟨t, u, hfirst, hsecond, hwanted ▸ hline, (congrArg (List.map (·.id)) helsewhere).trans hkept, hsame⟩

end StreamBot.Station
