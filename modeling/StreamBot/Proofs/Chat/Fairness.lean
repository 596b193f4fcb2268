import Mathlib.Data.List.Nodup
import Mathlib.Data.List.Perm.Basic
import StreamBot.Chat.Giveaway

/-! # Fair giveaways

What users ask for (`Deed`) changes a giveaway in one of four ways, and the chat hears of it (`Event`), or it changes
nothing (`Deed.moves`).  From a start on, the giveaway is what has become of it by these events (`Tallies`): everybody who
entered is still there or has won, nobody enters after the end and nobody wins before it.  This is all that a fair giveaway
takes (`Fair`, `Tallies.fair`).
-/

namespace StreamBot.Chat.Giveaway

open List

variable {p : Participant} {events : List Event} {e : Event} {g : Giveaway} {deed : Deed}

/-- The sender of a message as somebody who takes part. -/
def participantOf (message : Message) : Participant := ⟨message.sender, message.platform⟩

inductive Event where
  | started
  /-- The sender of the message is in the game. -/
  | entered (message : Message)
  | finished
  | won (p : Participant)
  deriving DecidableEq

def Event.reply : Event → Reply
  | .started => .started
  | .entered message => .entered message.sender
  | .finished => .finished
  | .won p => .winner p.name

inductive Deed where
  | enter (message : Message)
  | start
  | stop
  | pick (chance : Nat)
  deriving DecidableEq

/-- What becomes of the giveaway, and what the bot says. -/
def Deed.apply (g : Giveaway) : Deed → Giveaway × Reply
  | .enter message => g.enter (participantOf message)
  | .start => g.start
  | .stop => g.stop
  | .pick chance => g.pick chance

def Deed.aim? (g : Giveaway) : Deed → Option Event
  | .enter message => some (.entered message)
  | .start => some .started
  | .stop => some .finished
  | .pick chance => (chosen? chance g.participants).map .won

def Deed.event? (g : Giveaway) (deed : Deed) : Option Event :=
  (deed.aim? g).filter fun e => (deed.apply g).2 = e.reply

/-- How a giveaway changes when the chat hears of it. -/
inductive Moves (g : Giveaway) : Event → Giveaway → Prop
  | start (h : g.phase ≠ .running) : Moves g .started ⟨.running, []⟩
  | enter {message : Message} (h : g.phase = .running) (hnew : participantOf message ∉ g.participants) :
      Moves g (.entered message) ⟨.running, g.participants ++ [participantOf message]⟩
  | finish (h : g.phase = .running) : Moves g .finished ⟨.ended, g.participants⟩
  | win {p : Participant} (h : g.phase = .ended) (hp : p ∈ g.participants) :
      Moves g (.won p) ⟨.ended, g.participants.erase p⟩

theorem mem_of_chosen? {chance : Nat} {people : List Participant}
    (h : chosen? chance people = some p) : p ∈ people := by
  exact mem_mergeSort.1 (mem_of_getElem? h)

theorem Deed.event?_eq_some (haim : deed.aim? g = some e)
    (hreply : (deed.apply g).2 = e.reply) : deed.event? g = some e := by
  rw [event?, haim, Option.filter_some, if_pos (by simpa using hreply)]

theorem Deed.reply_of_event? (h : deed.event? g = some e) : (deed.apply g).2 = e.reply := by
  simpa using (Option.filter_eq_some_iff.1 h).2

theorem Deed.moves (g : Giveaway) (deed : Deed) :
    (∃ e, deed.event? g = some e ∧ Moves g e (deed.apply g).1) ∨ deed.event? g = none ∧ (deed.apply g).1 = g := by
  obtain ⟨phase, people⟩ := g
  cases deed with
  | enter message =>
    cases phase with
    | running =>
      by_cases hin : participantOf message ∈ people
      · have happly : (Deed.enter message).apply ⟨.running, people⟩ = (⟨.running, people⟩, .alreadyEntered) := by
          simp [apply, Giveaway.enter, hin]
        refine .inr ⟨?_, by rw [happly]⟩
        rw [event?, happly]
        rfl
      · have happly : (Deed.enter message).apply ⟨.running, people⟩ =
            (⟨.running, people ++ [participantOf message]⟩, .entered message.sender) := by
          rw [apply, Giveaway.enter]
          simp only [contains_eq_mem, decide_eq_true_eq, if_neg hin]
          rfl
        refine .inl ⟨.entered message, event?_eq_some rfl (by rw [happly]; rfl), ?_⟩
        rw [happly]
        exact .enter rfl hin
    | idle | ended => exact .inr ⟨rfl, rfl⟩
  | start =>
    cases phase with
    | running => exact .inr ⟨rfl, rfl⟩
    | idle | ended => exact .inl ⟨.started, rfl, .start (by simp)⟩
  | stop =>
    cases phase with
    | running => exact .inl ⟨.finished, rfl, .finish rfl⟩
    | idle | ended => exact .inr ⟨rfl, rfl⟩
  | pick chance =>
    have haim (phase : Phase) : (Deed.pick chance).aim? ⟨phase, people⟩ = (chosen? chance people).map .won := rfl
    cases hchosen : chosen? chance people with
    | none =>
      refine .inr ⟨?_, ?_⟩
      · rw [event?, haim, hchosen]
        rfl
      · cases phase with
        | idle | running => rfl
        | ended => rw [apply, Giveaway.pick, hchosen]
    | some p =>
      rw [hchosen] at haim
      cases phase with
      | idle | running =>
        refine .inr ⟨?_, rfl⟩
        rw [event?, haim]
        rfl
      | ended =>
        have happly : (Deed.pick chance).apply ⟨.ended, people⟩ = (⟨.ended, people.erase p⟩, .winner p.name) := by
          rw [apply, Giveaway.pick, hchosen]
        refine .inl ⟨.won p, event?_eq_some (haim .ended) (by rw [happly]; rfl), ?_⟩
        rw [happly]
        exact .win rfl (mem_of_chosen? hchosen)

/-! ### From one start to the next -/

def entrants (events : List Event) : List Participant :=
  events.filterMap fun e => match e with
    | .entered message => some (participantOf message)
    | _ => none

def winners (events : List Event) : List Participant :=
  events.filterMap fun e => match e with
    | .won p => some p
    | _ => none

theorem entrants_append (first second : List Event) : entrants (first ++ second) = entrants first ++ entrants second :=
  filterMap_append

theorem winners_append (first second : List Event) : winners (first ++ second) = winners first ++ winners second :=
  filterMap_append

theorem mem_entrants : p ∈ entrants events ↔ ∃ message, .entered message ∈ events ∧ participantOf message = p := by
  rw [entrants, mem_filterMap]
  constructor
  · rintro ⟨e, he, hp⟩
    cases e with
    | entered message => exact ⟨message, he, Option.some.inj hp⟩
    | started | finished | won => cases hp
  · rintro ⟨message, hmessage, rfl⟩
    exact ⟨_, hmessage, rfl⟩

theorem mem_winners : p ∈ winners events ↔ .won p ∈ events := by
  rw [winners, mem_filterMap]
  constructor
  · rintro ⟨e, he, hp⟩
    cases e with
    | won q =>
      cases hp
      exact he
    | started | finished | entered => cases hp
  · intro hp
    exact ⟨_, hp, rfl⟩

/-- Somebody enters before the end, and wins after it. -/
def InOrder (before : List Event) : Event → Prop
  | .started => False
  | .entered _ | .finished => .finished ∉ before
  | .won _ => .finished ∈ before

/-- The giveaway is what has become of it since it was started. -/
structure Tallies (period : List Event) (g : Giveaway) : Prop where
  phase : g.phase = if .finished ∈ period then .ended else .running
  entrants_nodup : (entrants period).Nodup
  /-- Everybody who entered is still there or has won. -/
  left : (g.participants ++ winners period).Perm (entrants period)
  inOrder : ∀ before e rest, period = before ++ e :: rest → InOrder before e

theorem tallies_nil : Tallies [] ⟨.running, []⟩ where
  phase := rfl
  entrants_nodup := .nil
  left := .nil
  inOrder before e rest h := by simp at h

theorem forall_split_concat {α : Type} {P : List α → α → Prop} {period : List α} {last : α}
    (h : ∀ before e rest, period = before ++ e :: rest → P before e) (hlast : P period last) :
    ∀ before e rest, period ++ [last] = before ++ e :: rest → P before e := by
  intro before e rest heq
  rcases eq_nil_or_concat rest with rfl | ⟨more, other, rfl⟩
  · obtain ⟨rfl, hend⟩ := append_inj' heq rfl
    obtain rfl := singleton_inj.1 hend
    exact hlast
  · have hsplit : period ++ [last] = (before ++ e :: more) ++ [other] := by simpa using heq
    exact h before e more (append_inj' hsplit rfl).1

variable {period : List Event} {g g' : Giveaway}

theorem Tallies.not_mem_of_running (h : Tallies period g) (hrunning : g.phase = .running) : .finished ∉ period := by
  intro hmem
  rw [h.phase, if_pos hmem] at hrunning
  cases hrunning

theorem Tallies.mem_of_ended (h : Tallies period g) (hended : g.phase = .ended) : .finished ∈ period := by
  by_contra hmem
  rw [h.phase, if_neg hmem] at hended
  cases hended

theorem Tallies.winners_eq_nil (h : Tallies period g) (hrunning : g.phase = .running) : winners period = [] := by
  refine eq_nil_iff_forall_not_mem.2 fun p hp => ?_
  obtain ⟨before, rest, rfl⟩ := append_of_mem (mem_winners.1 hp)
  exact h.not_mem_of_running hrunning (mem_append_left _ (h.inOrder before (.won p) rest rfl))

theorem Tallies.step (h : Tallies period g) (hmoves : Moves g e g') (hgoes : e ≠ .started) :
    Tallies (period ++ [e]) g' := by
  cases hmoves with
  | start => exact absurd rfl hgoes
  | @enter message hrunning hnew =>
    have hopen := h.not_mem_of_running hrunning
    have hentrants : entrants (period ++ [.entered message]) = entrants period ++ [participantOf message] :=
      entrants_append _ _
    have hwinners : winners (period ++ [.entered message]) = winners period ++ [] := winners_append _ _
    -- Nobody has won yet, so those who entered are those who are there.
    have hleft : g.participants.Perm (entrants period) := by
      simpa only [h.winners_eq_nil hrunning, append_nil] using h.left
    refine ⟨?_, ?_, ?_, forall_split_concat h.inOrder hopen⟩
    · rw [if_neg (by simpa using hopen)]
    · rw [hentrants]
      refine h.entrants_nodup.append (nodup_singleton _) (disjoint_singleton.2 ?_)
      exact fun hmem => hnew (hleft.mem_iff.2 hmem)
    · rw [hentrants, hwinners, h.winners_eq_nil hrunning, append_nil, append_nil]
      exact hleft.append_right _
  | finish hrunning =>
    have hentrants : entrants (period ++ [.finished]) = entrants period ++ [] := entrants_append _ _
    have hwinners : winners (period ++ [.finished]) = winners period ++ [] := winners_append _ _
    rw [append_nil] at hentrants hwinners
    refine ⟨?_, ?_, ?_, forall_split_concat h.inOrder (h.not_mem_of_running hrunning)⟩
    · rw [if_pos (by simp)]
    · rw [hentrants]
      exact h.entrants_nodup
    · rw [hentrants, hwinners]
      exact h.left
  | @win p hended hp =>
    have hclosed := h.mem_of_ended hended
    have hentrants : entrants (period ++ [.won p]) = entrants period ++ [] := entrants_append _ _
    have hwinners : winners (period ++ [.won p]) = winners period ++ [p] := winners_append _ _
    rw [append_nil] at hentrants
    refine ⟨?_, ?_, ?_, forall_split_concat h.inOrder hclosed⟩
    · rw [if_pos (mem_append_left _ hclosed)]
    · rw [hentrants]
      exact h.entrants_nodup
    · rw [hentrants, hwinners]
      have hback : (g.participants.erase p ++ winners period ++ [p]).Perm (g.participants ++ winners period) :=
        (perm_append_singleton ..).trans ((perm_cons_erase hp).symm.append_right _)
      rw [← append_assoc]
      exact hback.trans h.left

/-- What everybody can expect of a giveaway from its start until the next one, or until some point before. -/
structure Fair (period : List Event) (g : Giveaway) : Prop where
  entrants_nodup : (entrants period).Nodup
  winners_nodup : (winners period).Nodup
  /-- Whoever wins does so after the end, and has entered before it. -/
  won : ∀ before p rest, period = before ++ .won p :: rest →
    ∃ entries pause, before = entries ++ .finished :: pause ∧ p ∈ entrants entries
  /-- The giveaway ends once, and nobody enters afterwards. -/
  closed : ∀ before rest, period = before ++ .finished :: rest → .finished ∉ rest ∧ entrants rest = []
  phase : g.phase = if .finished ∈ period then .ended else .running
  /-- Everybody who entered is still there or has won. -/
  left : (g.participants ++ winners period).Perm (entrants period)
  count : g.participants.length = (entrants period).length - (winners period).length

theorem Tallies.fair (h : Tallies period g) : Fair period g := by
  have hclosed (before rest : List Event) (heq : period = before ++ .finished :: rest) :
      .finished ∉ rest ∧ entrants rest = [] := by
    refine ⟨fun hmem => ?_, eq_nil_iff_forall_not_mem.2 fun p hp => ?_⟩
    · obtain ⟨between, more, rfl⟩ := append_of_mem hmem
      exact h.inOrder (before ++ .finished :: between) .finished more (by simp [heq]) (by simp)
    · obtain ⟨message, hmem, -⟩ := mem_entrants.1 hp
      obtain ⟨between, more, rfl⟩ := append_of_mem hmem
      exact h.inOrder (before ++ .finished :: between) (.entered message) more (by simp [heq]) (by simp)
  have hnodup : (g.participants ++ winners period).Nodup := h.left.nodup_iff.2 h.entrants_nodup
  refine ⟨h.entrants_nodup, hnodup.of_append_right, fun before p rest heq => ?_, hclosed, h.phase, h.left, ?_⟩
  · have hfinished : .finished ∈ before := h.inOrder before (.won p) rest heq
    obtain ⟨entries, pause, rfl⟩ := append_of_mem hfinished
    refine ⟨entries, pause, rfl, ?_⟩
    have hnone := (hclosed entries (pause ++ .won p :: rest) (by simp [heq])).2
    have hp : p ∈ entrants period := h.left.mem_iff.1 (mem_append_right _ (mem_winners.2 (by simp [heq])))
    have hsplit : period = entries ++ [.finished] ++ (pause ++ .won p :: rest) := by simp [heq]
    rw [hsplit, entrants_append, entrants_append, hnone, append_nil] at hp
    rcases mem_append.1 hp with hp | hp
    · exact hp
    · cases hp
  · have hlength := h.left.length_eq
    rw [length_append] at hlength
    omega

end StreamBot.Chat.Giveaway
