import StreamBot.Proofs.Bot.Computation
import StreamBot.Web.Answer

/-! # What the site leaves as it is

Finding out who makes a request, and putting together what all pages show, leaves every view of the bot as it is that
shows neither what the services were told nor the tokens of the visitor (`leaves_requireBroadcaster`, `leaves_errorPage`).
-/

namespace StreamBot.Web

variable {visitor : Option Visitor}
variable {τ α β : Type} {view : Bot → τ}
variable {site site' : Site} {x : BotM α}

/-- A computation of the site leaves a view of the bot as it is. -/
abbrev SiteM.Leaves (view : Bot → τ) (x : SiteM α) : Prop := StreamBot.Leaves (fun site => view site.bot) x

theorem SiteM.view_bind {x : SiteM α} {k : α → SiteM β} (hx : view (x site).2.bot = view site.bot)
    (hk : ∀ a t, x site = (.ok a, t) → view (k a t).2.bot = view t.bot) :
    view ((x >>= k) site).2.bot = view site.bot := by
  obtain ⟨a, t, hrun, hbind⟩ | ⟨e, t, hrun, hbind⟩ := run_bind x k site
  · rw [hrun] at hx
    rw [hbind, hk a t hrun, hx]
  · rw [hrun] at hx
    rw [hbind, hx]

/-! ### Computations of the bot on the site -/

section

variable {x : BotM α} {site : Site} {bot : Bot} {a : α} {fault : Bot.Fault} {refusal absence : Option Nat}

theorem attempt_run (x : BotM α) (site : Site) :
    attempt x site = (.ok (x site.bot).1, { site with bot := (x site.bot).2 }) := rfl

theorem orRefuse_of_ok (h : x site.bot = (.ok a, bot)) :
    orRefuse refusal absence x site = (.ok a, { site with bot }) := by
  unfold orRefuse
  rw [run_bind_of_ok (attempt_run x site), h]
  rfl

theorem orRefuse_of_error (h : x site.bot = (.error fault, bot)) :
    ∃ failure, orRefuse refusal absence x site = (.error failure, { site with bot }) := by
  unfold orRefuse
  rw [run_bind_of_ok (attempt_run x site), h]
  dsimp only
  cases (if fault.isRefusal then refusal else none) <;> cases (if fault.isAbsence then absence else none) <;>
    exact ⟨_, rfl⟩

variable {site' : Site} {failure : Failure}

theorem ok_of_orRefuse (h : orRefuse refusal absence x site = (.ok a, site')) : x site.bot = (.ok a, site'.bot) := by
  rcases hx : x site.bot with ⟨fault | b, bot⟩
  · obtain ⟨failure, hrun⟩ := orRefuse_of_error hx
    rw [hrun] at h
    cases h
  · rw [orRefuse_of_ok hx] at h
    cases h
    rfl

theorem error_of_orRefuse (h : orRefuse refusal absence x site = (.error failure, site')) :
    ∃ fault, x site.bot = (.error fault, site'.bot) := by
  rcases hx : x site.bot with ⟨fault | b, bot⟩
  · obtain ⟨failure, hrun⟩ := orRefuse_of_error hx
    rw [hrun] at h
    cases h
    exact ⟨fault, rfl⟩
  · rw [orRefuse_of_ok hx] at h
    cases h

theorem onBot_eq_orRefuse (x : BotM α) : onBot x = orRefuse none none x := by
  simp only [onBot, orRefuse, ite_self]

theorem onBot_of_ok (h : x site.bot = (.ok a, bot)) : onBot x site = (.ok a, { site with bot }) := by
  rw [onBot_eq_orRefuse, orRefuse_of_ok h]

theorem onBot_of_error (h : x site.bot = (.error fault, bot)) :
    onBot x site = (.error (.fault fault), { site with bot }) := by
  unfold onBot
  rw [run_bind_of_ok (attempt_run x site), h]
  rfl

theorem onBot_after (x : BotM α) (site : Site) : (onBot x site).2 = { site with bot := (x site.bot).2 } := by
  rcases hx : x site.bot with ⟨fault | a, bot⟩
  · rw [onBot_of_error hx]
  · rw [onBot_of_ok hx]

theorem ok_of_onBot (h : onBot x site = (.ok a, site')) : x site.bot = (.ok a, site'.bot) := by
  rw [onBot_eq_orRefuse] at h
  exact ok_of_orRefuse h

theorem error_of_onBot (h : onBot x site = (.error failure, site')) :
    ∃ fault, x site.bot = (.error fault, site'.bot) := by
  rw [onBot_eq_orRefuse] at h
  exact error_of_orRefuse h

end

theorem leaves_attempt (hx : Leaves view x) : SiteM.Leaves view (attempt x) := fun site => hx site.bot

theorem leaves_onBot (hx : Leaves view x) : SiteM.Leaves view (onBot x) := by
  refine (leaves_attempt hx).bind fun result => ?_
  split <;> simp

theorem leaves_read {o : Database.Operation α} {read : Database → α} (h : ∀ db, o.run db = .ok (read db, db)) :
    SiteM.Leaves view (perform o) := leaves_onBot (Bot.leaves_read h)

theorem leaves_refuse (status : Nat) (detail : String) : SiteM.Leaves view (refuse status detail : SiteM α) :=
  leaves_throw _

theorem leaves_now : SiteM.Leaves view now := leaves_get.returns

theorem leaves_goTo (path : String) : SiteM.Leaves view (goTo path) :=
  leaves_get.returns.returns

/-! ### Values in a request -/

theorem leaves_field (r : Request) (name : String) : SiteM.Leaves view (r.field name) := by
  refine Leaves.bind ?_ fun value => ?_
  · unfold Request.field?
    split <;> simp
  · split <;> simp

theorem leaves_file (r : Request) (name : String) : SiteM.Leaves view (r.file name) := by
  unfold Request.file
  split <;> simp

theorem leaves_integer (text : String) : SiteM.Leaves view (integer text) := by
  unfold integer
  split <;> simp

theorem get?_of_field {r : Request} {name value : String} (h : r.field name site = (.ok value, site')) :
    Dict.get? r.form name = some value := by
  unfold Request.field Request.field? at h
  cases hfile : Dict.has r.files name with
  | true =>
    rw [hfile] at h
    cases h
  | false =>
    rw [hfile] at h
    cases hvalue : (Dict.get? r.form name).filter (!·.isEmpty) with
    | none =>
      rw [hvalue] at h
      cases h
    | some _ =>
      rw [hvalue] at h
      cases h
      exact (Option.filter_eq_some_iff.1 hvalue).1

/-! ### Visitors and pages -/

theorem leaves_visitor? (r : Request) : SiteM.Leaves view (visitor? r) := by
  refine leaves_get.bind fun site => ?_
  dsimp only
  split
  · exact leaves_pure _
  · refine (leaves_attempt (Bot.leaves_read fun _ => rfl)).bind fun result => ?_
    split
    · exact leaves_pure _
    · split <;> simp

theorem leaves_requireVisitor (visitor : Option Visitor) : SiteM.Leaves view (requireVisitor visitor) := by
  unfold requireVisitor
  split
  · exact leaves_pure _
  · exact leaves_refuse _ _

theorem eq_some_of_requireVisitor {v : Visitor} (h : requireVisitor visitor site = (.ok v, site'))
    : visitor = some v := by
  cases visitor with
  | none => cases h
  | some _ =>
    cases h
    rfl

theorem leaves_shownNotifications (visitor : Option Visitor) : SiteM.Leaves view (shownNotifications visitor) := by
  unfold shownNotifications
  split
  · exact leaves_pure _
  · exact leaves_read fun _ => rfl

theorem shown_of_shownVisitor {shown : Option Visitor × Option String}
    (h : shownVisitor visitor site = (.ok shown, site')) : ∀ v ∈ shown.1, v ∈ visitor := by
  cases visitor with
  | none =>
    cases h
    exact fun _ hv => hv
  | some v =>
    obtain ⟨result, between, -, hshown⟩ := run_ok_of_bind h
    split at hshown
    · cases hshown
      exact fun _ hv => hv
    · split at hshown
      · cases hshown
        exact fun _ hv => absurd hv (Option.not_mem_none _)
      · cases hshown
    · cases hshown

section

variable {users : Set String} (h : Bot.Discreet users view) {userId : String}

include h

theorem leaves_isBroadcaster (huser : userId ∈ users) : SiteM.Leaves view (isBroadcaster userId) := by
  refine leaves_get.bind fun site => leaves_now.bind fun time => ?_
  split
  · exact leaves_pure _
  · refine (leaves_attempt ((Bot.leaves_speakFor h huser).bind fun _ =>
      (Bot.leaves_ownBroadcasterId h).returns)).bind fun result => ?_
    exact leaves_now.bind fun time => Leaves.returns (leaves_modify fun _ => rfl)

theorem leaves_requireBroadcaster (hvisitor : ∀ v ∈ visitor, v.id ∈ users) :
    SiteM.Leaves view (requireBroadcaster visitor) := by
  refine fun site => SiteM.view_bind (leaves_requireVisitor visitor site) fun v t hrun => ?_
  refine (leaves_isBroadcaster h (hvisitor v (eq_some_of_requireVisitor hrun))).bind (fun answer => ?_) t
  split
  · exact leaves_refuse _ _
  · exact leaves_pure _

theorem leaves_profileImage? (huser : userId ∈ users) : SiteM.Leaves view (profileImage? userId) := by
  refine leaves_get.bind fun site => leaves_now.bind fun time => ?_
  split
  · exact leaves_pure _
  · refine (leaves_attempt ((Bot.leaves_speakFor h huser).bind fun _ =>
      Bot.leaves_usersById h _)).bind fun result => ?_
    split
    · exact leaves_pure _
    · exact leaves_pure _
    · exact leaves_now.bind fun time => Leaves.returns (leaves_modify fun _ => rfl)

theorem leaves_shownVisitor (hvisitor : ∀ v ∈ visitor, v.id ∈ users) : SiteM.Leaves view (shownVisitor visitor) := by
  unfold shownVisitor
  split
  · exact leaves_pure _
  · refine (leaves_profileImage? h (hvisitor _ rfl)).bind fun result => ?_
    split
    · exact leaves_pure _
    · split
      · exact leaves_pure _
      · exact leaves_throw _
    · exact leaves_throw _

theorem leaves_isShownBroadcaster (hvisitor : ∀ v ∈ visitor, v.id ∈ users) :
    SiteM.Leaves view (isShownBroadcaster visitor) := by
  unfold isShownBroadcaster
  split
  · exact leaves_pure _
  · exact leaves_isBroadcaster h (hvisitor _ rfl)

theorem leaves_frame (hvisitor : ∀ v ∈ visitor, v.id ∈ users) : SiteM.Leaves view (frame visitor) := by
  refine fun site => SiteM.view_bind (leaves_shownVisitor h hvisitor site) fun shown t hshown => ?_
  have hvisitor' : ∀ v ∈ shown.1, v.id ∈ users := fun v hv => hvisitor v (shown_of_shownVisitor hshown v hv)
  refine (leaves_isShownBroadcaster h hvisitor').bind (fun broadcaster => ?_) t
  refine (leaves_read fun _ => rfl).bind fun pending => ?_
  refine (leaves_shownNotifications shown.1).bind fun notifications => ?_
  refine (leaves_onBot (Bot.leaves_settingOr _ _)).bind fun botName => ?_
  exact (leaves_onBot (Bot.leaves_settingOr _ _)).bind fun authorName => leaves_get.bind fun site => leaves_pure _

theorem leaves_errorPage (r : Request) (status : Nat) (detail : String)
    (hvisitor : ∀ v t, visitor? r site = (.ok (some v), t) → v.id ∈ users) :
    view (errorPage r status detail site).2.bot = view site.bot := by
  refine SiteM.view_bind (leaves_visitor? r site) fun visitor t hrun => ?_
  exact (leaves_frame h fun v hv => hvisitor v t (hv ▸ hrun)).returns t

end

end StreamBot.Web
