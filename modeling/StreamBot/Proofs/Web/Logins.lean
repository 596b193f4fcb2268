import Mathlib
import StreamBot.Proofs.Web.Keeping

/-! # Logins that requests share

A browser may come back more than once with the same state, and requests are served while others wait for the platform.
Here requests go through the parts of `loginReturn` in any order, with anything else happening in between (`Move`).  One
request alone goes the way of `loginReturn` (`alone_loginReturn`).

What one request leaves behind in its login is said for each point that it may have reached (`Visit.Fits`).  Main
statements: in every run a code is handed in at most once for a login, and only sessions that came of it are given to anybody
(`one_exchange`); and followers need not wait any longer once the owner is gone, if and only if the owner came with the right
cookie (`released_iff_matches`).
-/

namespace StreamBot.Web

open List Logins

variable {α : Type} {token : String} {result : Except Failure Reply} {credentials : String × String} {i : Nat}

/-! ### Requests that come back -/

structure Party where
  request : Request
  state : String
  code : String
  login : Nat
  owner : Bool

def Party.Matches (p : Party) : Prop := Dict.get? p.request.cookies stateCookie = some p.state

inductive Progress where
  | entered
  /-- The owner came with the right cookie. -/
  | cleared
  | redeemed (access refresh : String)
  | adopted (access refresh token : String)
  | exchanged (result : Except Failure String)
  | left (result : Except Failure Reply)

structure Visit extends Party where
  progress : Progress := .entered
  /-- How often the platform was handed the code. -/
  redemptions : Nat := 0
  outcome : Option (Except Failure String) := none

/-- A computation of the site, of whose result something is made. -/
def concluding {α β : Type} (x : SiteM α) (f : Except Failure α → β) (site : Site) : β × Site := (f (x site).1, (x site).2)

namespace Visit

def gets (v : Visit) (result : Except Failure String) : Visit :=
  { v with progress := .exchanged result, outcome := some result }

def leaves (v : Visit) (result : Except Failure Reply) : Visit := { v with progress := .left result }

def checked (v : Visit) : Except Failure Unit → Visit
  | .ok _ => { v with progress := .cleared }
  | .error failure => v.leaves (.error failure)

/-- A part of the exchange is over, and with it the exchange if it failed. -/
def proceeds {α : Type} (v : Visit) (progress : α → Progress) : Except Failure α → Visit
  | .ok a => { v with progress := progress a }
  | .error failure => v.gets (.error failure)

/-- What a request does until it waits again, and the site afterwards; none if it has to wait or is over. -/
def next (v : Visit) (site : Site) : Option (Visit × Site) :=
  match v.progress with
  | .entered =>
    if v.owner then some (concluding (requireStateCookie v.request v.login v.state) v.checked site)
    else ((site.logins.get? v.login).bind (followLogin site.bot.config)).map fun result => (v.leaves result, site)
  | .cleared =>
    let v := { v with redemptions := v.redemptions + 1 }
    some (concluding (redeem v.code) (v.proceeds fun tokens => .redeemed tokens.1 tokens.2) site)
  | .redeemed access refresh => some (concluding (adopt access) (v.proceeds (.adopted access refresh)) site)
  | .adopted access refresh token => some (concluding (welcome access refresh token) v.gets site)
  | .exchanged result => some (concluding (settleLogin v.login result) v.leaves site)
  | .left _ => none

/-- The reply to the request gives its user a session. -/
def HasSession (v : Visit) (token : String) : Prop :=
  ∃ reply age path secure, v.progress = .left (.ok reply) ∧ .set sessionCookie token age path secure ∈ reply.cookies

end Visit

/-- The site and the requests that have come back to it. -/
structure Arrivals where
  site : Site
  visits : List Visit := []

inductive Move where
  | arrive (r : Request)
  | go (i : Nat)
  /-- Anything else, which has nothing to do with logins: time passes, other requests are served, the platform changes. -/
  | other (f : Site → Site)

namespace Arrivals

/-- A request comes back; without a state and a code it is refused at once. -/
def arrive (a : Arrivals) (r : Request) : Arrivals :=
  match r.credentials? with
  | none => a
  | some (state, code) =>
    match enterLogin state a.site with
    | (.ok (n, owner), site) => ⟨site, a.visits ++ [{ toParty := ⟨r, state, code, n, owner⟩ }]⟩
    | (.error _, site) => { a with site }

/-- A request goes on, unless it has to wait or is over. -/
def go (a : Arrivals) (i : Nat) : Arrivals :=
  match a.visits[i]?.bind (·.next a.site) with
  | some (v, site) => ⟨site, a.visits.set i v⟩
  | none => a

def step (a : Arrivals) : Move → Arrivals
  | .arrive r => a.arrive r
  | .go i => a.go i
  | .other f => { a with site := { f a.site with logins := a.site.logins } }

/-- The site and the requests after a run, which began without logins. -/
def run (site : Site) (moves : List Move) : Arrivals := moves.foldl step ⟨{ site with logins := {} }, []⟩

end Arrivals

/-! ### What the parts of a login do to it -/

section Parts

variable {site : Site} {r : Request} {n : Nat} {state : String}

theorem requireStateCookie_of_eq (h : Dict.get? r.cookies stateCookie = some state) :
    requireStateCookie r n state site = (.ok (), site) := by
  rw [requireStateCookie, if_neg (not_not.2 h)]
  rfl

theorem requireStateCookie_of_ne (h : Dict.get? r.cookies stateCookie ≠ some state) :
    requireStateCookie r n state site = (.error (.refused 400 "OAuth state mismatch or missing code"),
      { site with logins := site.logins.refuse n }) := by
  rw [requireStateCookie, if_pos h]
  rfl

theorem settleLogin_ok (token : String) : settleLogin n (.ok token) site =
    (.ok (sessionReply site.bot.config token), { site with logins := site.logins.succeed n token }) := rfl

theorem settleLogin_error (failure : Failure) : settleLogin n (.error failure) site =
    (.error failure, { site with logins := site.logins.fail n failure.text }) := rfl

theorem enterLogin_run (state : String) (site : Site) :
    enterLogin state site = (.ok (site.logins.enter site.bot.clock.monotonic state).1,
      { site with logins := (site.logins.enter site.bot.clock.monotonic state).2 }) := rfl

theorem leaves_logins_onBot (x : BotM α) : Leaves Site.logins (onBot x) := by
  intro site
  rw [onBot_after]

theorem leaves_redeem (code : String) : Leaves Site.logins (redeem code) := by
  refine (leaves_logins_onBot _).bind fun _ => leaves_get.bind fun site => ?_
  split
  · exact leaves_pure _
  · exact leaves_throw _

theorem leaves_adopt (access : String) : Leaves Site.logins (adopt access) :=
  (leaves_logins_onBot _).returns

theorem leaves_welcome (access refresh token : String) : Leaves Site.logins (welcome access refresh token) := by
  refine (leaves_logins_onBot _).bind fun user => ?_
  split
  · exact leaves_throw _
  · exact leaves_get.bind fun _ => (leaves_logins_onBot _).returns

theorem Logins.get?_change_self {ls : Logins} {l : Login} (h : ls.get? n = some l) (f : Login → Login) :
    (ls.change n f).get? n = some (f l) := by
  rw [get?] at h
  simp [get?, Logins.change, h]

theorem Logins.get?_change_of_ne {m : Nat} (ls : Logins) (h : n ≠ m) (f : Login → Login) :
    (ls.change n f).get? m = ls.get? m := by
  simp [get?, Logins.change, h]

theorem Logins.change_id (ls : Logins) (n : Nat) : ls.change n id = ls := by
  rw [Logins.change, modify_id]

theorem Logins.enter_cases (ls : Logins) (now : Float) (state : String) :
    ∃ current ⊆ ls.current, (∃ n, (state, n) ∈ ls.current ∧ ls.enter now state = ((n, false), { ls with current })) ∨
      ls.enter now state = ((ls.records.length, true),
        ⟨ls.records ++ [{ expires := now + lifetime }], Dict.set current state ls.records.length⟩) := by
  refine ⟨ls.current.filter fun p => ls.isCurrent now p.2, filter_subset_self _, ?_⟩
  cases hget : Dict.get? (ls.current.filter fun p => ls.isCurrent now p.2) state with
  | some n =>
    refine .inl ⟨n, mem_of_mem_filter (Dict.mem_of_get? hget), ?_⟩
    simp only [enter, hget]
  | none =>
    refine .inr ?_
    simp only [enter, hget]

end Parts

/-! ### What a request and its login have to do with each other -/

/-- The owner of a login has left nothing for the followers. -/
def Login.Fresh (l : Login) : Prop := l.done = false ∧ l.token = none

/-- The only session that a reply may give is that of the login. -/
def Login.Allows (l : Login) (result : Except Failure Reply) : Prop :=
  ∀ reply, result = .ok reply → ∃ config token, l.token = some token ∧ reply = sessionReply config token

namespace Visit

def Idle (v : Visit) : Prop := v.redemptions = 0 ∧ v.outcome = none

def Leads (v : Visit) (l : Login) : Progress → Prop
  | .entered => l.Fresh ∧ v.Idle
  | .cleared => v.Matches ∧ l.Fresh ∧ v.Idle
  | .redeemed _ _ | .adopted _ _ _ => v.Matches ∧ l.Fresh ∧ v.redemptions = 1 ∧ v.outcome = none
  | .exchanged result => v.Matches ∧ l.Fresh ∧ v.redemptions = 1 ∧ v.outcome = some result
  | .left result =>
    ¬v.Matches ∧ l.Fresh ∧ v.Idle ∧ l.Allows result ∨ v.Matches ∧ l.done ∧ v.redemptions = 1 ∧ l.Allows result ∧
        ∃ exchange, v.outcome = some exchange ∧ l.token = exchange.toOption

def Trails (v : Visit) (l : Login) : Progress → Prop
  | .entered => v.Idle
  | .left result => v.Idle ∧ l.done ∧ l.Allows result
  | _ => False

/-- What a request and its login have to do with each other. -/
def Fits (v : Visit) (l : Login) : Prop :=
  (v.owner → v.Leads l v.progress) ∧ (v.owner = false → v.Trails l v.progress)

variable {v v' w : Visit} {l : Login} {site site' : Site}

theorem Leads.fits (howner : v.owner) (h : v.Leads l v.progress) : v.Fits l :=
  ⟨fun _ => h, fun hfollower => absurd (howner.symm.trans hfollower) nofun⟩

theorem Trails.fits (howner : v.owner = false) (h : v.Trails l v.progress) : v.Fits l :=
  ⟨fun hleader => absurd (howner.symm.trans hleader) nofun, fun _ => h⟩

theorem Fits.of_fresh (h : w.Fits l) (howner : w.owner = false) (hfresh : l.Fresh) (l' : Login) : w.Fits l' := by
  have htrails := h.2 howner
  obtain ⟨party, progress, redemptions, outcome⟩ := w
  refine Trails.fits howner ?_
  cases progress with
  | entered => exact htrails
  | left result => exact absurd (htrails.2.1.symm.trans hfresh.1) nofun
  | _ => exact htrails.elim

/-- What a request does to its login: nothing, unless it is the owner and has left nothing so far. -/
structure Moves (p : Party) (site : Site) (l : Login) (v : Visit) (site' : Site) : Prop where
  party : v.toParty = p
  login : ∃ f, site'.logins = site.logins.change p.login f ∧ v.Fits (f l) ∧ (f l = l ∨ p.owner ∧ l.Fresh)

theorem moves_of_logins (hparty : v'.toParty = v.toParty) (hsame : site'.logins = site.logins) (hfits : v'.Fits l) :
    Moves v.toParty site l v' site' :=
  ⟨hparty, id, hsame.trans (site.logins.change_id _).symm, hfits, .inl rfl⟩

theorem allows_error (failure : Failure) : l.Allows (.error failure) := nofun

theorem allows_sessionReply (h : l.token = some token) (config : Config) : l.Allows (.ok (sessionReply config token)) := by
  rintro reply hreply
  cases hreply
  exact ⟨config, token, h, rfl⟩

theorem moves_checked (howner : v.owner) (hfresh : l.Fresh) (hidle : v.Idle) :
    Moves v.toParty site l (v.checked (requireStateCookie v.request v.login v.state site).1)
      (requireStateCookie v.request v.login v.state site).2 := by
  by_cases hmatch : v.Matches
  · rw [requireStateCookie_of_eq hmatch]
    exact moves_of_logins rfl rfl (Leads.fits howner ⟨hmatch, hfresh, hidle⟩)
  · rw [requireStateCookie_of_ne hmatch]
    refine ⟨rfl, _, rfl, ?_, .inr ⟨howner, hfresh⟩⟩
    exact Leads.fits howner (.inl ⟨hmatch, hfresh, hidle, allows_error _⟩)

theorem moves_followed (howner : v.owner = false) (hidle : v.Idle) {config : Config}
    (h : followLogin config l = some result) : Moves v.toParty site l (v.leaves result) site := by
  refine moves_of_logins rfl rfl (Trails.fits howner ?_)
  unfold followLogin at h
  split at h
  · cases h
  · next hdone =>
    have hdone : l.done := by simpa using hdone
    split at h
    · next token htoken =>
      cases h
      exact ⟨hidle, hdone, allows_sessionReply htoken config⟩
    · cases h
      exact ⟨hidle, hdone, allows_error _⟩

theorem moves_proceeds {x : SiteM α} {progress : α → Progress} (hleaves : Leaves Site.logins x) (howner : v.owner)
    (hmatch : v.Matches) (hfresh : l.Fresh) (hredeemed : v.redemptions = 1)
    (hprogress : ∀ a, ({ v with progress := progress a } : Visit).Leads l (progress a)) :
    Moves v.toParty site l (v.proceeds progress (x site).1) (x site).2 := by
  cases (x site).1 with
  | ok a => exact moves_of_logins rfl (hleaves site) (Leads.fits howner (hprogress a))
  | error failure => exact moves_of_logins rfl (hleaves site) (Leads.fits howner ⟨hmatch, hfresh, hredeemed, rfl⟩)

theorem moves_settled {result : Except Failure String} (howner : v.owner) (h : v.Leads l (.exchanged result)) :
    Moves v.toParty site l (v.leaves (settleLogin v.login result site).1) (settleLogin v.login result site).2 := by
  obtain ⟨hmatch, hfresh, hredeemed, houtcome⟩ := h
  cases result with
  | ok token =>
    refine ⟨rfl, _, rfl, Leads.fits howner (.inr ⟨hmatch, rfl, hredeemed, ?_, _, houtcome, rfl⟩), .inr ⟨howner, hfresh⟩⟩
    exact allows_sessionReply rfl _
  | error failure =>
    refine ⟨rfl, _, rfl, Leads.fits howner (.inr ⟨hmatch, rfl, hredeemed, ?_, _, houtcome, hfresh.2⟩), .inr ⟨howner, hfresh⟩⟩
    exact allows_error _

theorem owner_of_leads (h : v.owner = false → False) : v.owner := by
  cases howner : v.owner with
  | true => rfl
  | false => exact (h howner).elim

theorem moves_next (h : v.next site = some (v', site')) (hl : site.logins.get? v.login = some l) (hfits : v.Fits l) :
    Moves v.toParty site l v' site' := by
  obtain ⟨hleads, htrails⟩ := hfits
  obtain ⟨party, progress, redemptions, outcome⟩ := v
  cases progress with
  | entered =>
    unfold next at h
    cases howner : party.owner with
    | true =>
      rw [howner] at h
      cases h
      exact moves_checked howner (hleads howner).1 (hleads howner).2
    | false =>
      rw [howner, hl] at h
      obtain ⟨result, hfollow, hnext⟩ := Option.map_eq_some_iff.1 h
      cases hnext
      exact moves_followed howner (htrails howner) hfollow
  | left result => cases h
  | cleared =>
    cases h
    have howner := owner_of_leads htrails
    obtain ⟨hmatch, hfresh, rfl, hnone⟩ := hleads howner
    exact moves_proceeds (v := ⟨party, .cleared, 1, outcome⟩) (leaves_redeem _) howner hmatch hfresh rfl
      fun _ => ⟨hmatch, hfresh, rfl, hnone⟩
  | redeemed access refresh =>
    cases h
    have howner := owner_of_leads htrails
    obtain ⟨hmatch, hfresh, hredeemed, hnone⟩ := hleads howner
    exact moves_proceeds (leaves_adopt _) howner hmatch hfresh hredeemed fun _ => ⟨hmatch, hfresh, hredeemed, hnone⟩
  | adopted access refresh token =>
    cases h
    have howner := owner_of_leads htrails
    obtain ⟨hmatch, hfresh, hredeemed, hnone⟩ := hleads howner
    exact moves_of_logins rfl (leaves_welcome _ _ _ site) (Leads.fits howner ⟨hmatch, hfresh, hredeemed, rfl⟩)
  | exchanged result =>
    cases h
    have howner := owner_of_leads htrails
    exact moves_settled howner (hleads howner)

theorem next_follower (howner : v.owner = false) (h : v.progress = .entered) : v.next site =
    ((site.logins.get? v.login).bind (followLogin site.bot.config)).map fun result => (v.leaves result, site) := by
  rw [Visit.next, h, howner]
  rfl

theorem Fits.redeemed (h : v.Fits l) : v.redemptions = 0 ∨ v.redemptions = 1 ∧ v.owner ∧ v.Matches := by
  obtain ⟨hleads, htrails⟩ := h
  obtain ⟨party, progress, redemptions, outcome⟩ := v
  cases howner : party.owner with
  | true =>
    replace hleads := hleads howner
    cases progress with
    | entered => exact .inl hleads.2.1
    | cleared => exact .inl hleads.2.2.1
    | left result =>
      obtain ⟨-, -, hidle, -⟩ | ⟨hmatch, -, hredeemed, -⟩ := hleads
      · exact .inl hidle.1
      · exact .inr ⟨hredeemed, rfl, hmatch⟩
    | _ => exact .inr ⟨hleads.2.2.1, rfl, hleads.1⟩
  | false =>
    replace htrails := htrails howner
    cases progress with
    | entered => exact .inl htrails.1
    | left result => exact .inl htrails.1.1
    | _ => exact htrails.elim

theorem Fits.allows (h : v.Fits l) (hprogress : v.progress = .left result) : l.Allows result := by
  obtain ⟨hleads, htrails⟩ := h
  rw [hprogress] at hleads htrails
  cases howner : v.owner with
  | true =>
    obtain ⟨-, -, -, hallows⟩ | ⟨-, -, -, hallows, -⟩ := hleads howner <;> exact hallows
  | false => exact (htrails howner).2.2

theorem Fits.session (h : v.Fits l) (hsession : v.HasSession token) : l.token = some token := by
  obtain ⟨reply, age, path, secure, hprogress, hcookie⟩ := hsession
  obtain ⟨config, token', htoken, rfl⟩ := h.allows hprogress reply rfl
  rcases mem_cons.1 hcookie with hdelete | hset
  · cases hdelete
  · cases mem_singleton.1 hset
    exact htoken

theorem Fits.exchange (h : v.Fits l) (howner : v.owner) (htoken : l.token = some token) :
    v.Matches ∧ v.outcome = some (.ok token) := by
  have hleads := h.1 howner
  have hused : ¬l.Fresh := fun hfresh => absurd (hfresh.2.symm.trans htoken) nofun
  obtain ⟨party, progress, redemptions, outcome⟩ := v
  cases progress with
  | entered => exact absurd hleads.1 hused
  | left result =>
    obtain ⟨-, hfresh, -⟩ | ⟨hmatch, -, -, -, exchange, houtcome, hexchange⟩ := hleads
    · exact absurd hfresh hused
    · cases exchange with
      | error failure => exact absurd (hexchange.symm.trans htoken) nofun
      | ok token' =>
        obtain rfl := Option.some.inj (hexchange.symm.trans htoken)
        exact ⟨hmatch, houtcome⟩
  | _ => exact absurd hleads.2.1 hused

end Visit

/-! ### What holds in every run -/

/-- A login began with a request that came back with the state. -/
def Began (parties : List Party) (state : String) (n : Nat) : Prop :=
  ∃ o ∈ parties, o.owner ∧ o.login = n ∧ o.state = state

/-- Every login has one owner, and all who take part in it came back with the owner's state. -/
structure Shared (parties : List Party) (ls : Logins) : Prop where
  owners : (parties.filter (·.owner)).map (·.login) = range ls.records.length
  joined : ∀ p ∈ parties, Began parties p.state p.login
  current : ∀ p ∈ ls.current, Began parties p.1 p.2

section Shared

variable {parties : List Party} {ls : Logins} {p o : Party} {n : Nat} {state : String}

theorem Began.concat (h : Began parties state n) (p : Party) : Began (parties ++ [p]) state n := by
  obtain ⟨o, ho, howner⟩ := h
  exact ⟨o, mem_append_left _ ho, howner⟩

theorem Shared.lt (h : Shared parties ls) (hbegan : Began parties state n) : n < ls.records.length := by
  obtain ⟨o, ho, howner, rfl, -⟩ := hbegan
  rw [← mem_range, ← h.owners]
  exact mem_map_of_mem (mem_filter.2 ⟨ho, howner⟩)

theorem Shared.nodup (h : Shared parties ls) : ((parties.filter (·.owner)).map (·.login)).Nodup := by
  rw [h.owners]
  exact nodup_range

theorem Shared.owner_unique (h : Shared parties ls) (hp : p ∈ parties) (howner : p.owner) (ho : o ∈ parties)
    (howner' : o.owner) (hlogin : p.login = o.login) : p = o :=
  inj_on_of_nodup_map h.nodup (mem_filter.2 ⟨hp, howner⟩) (mem_filter.2 ⟨ho, howner'⟩) hlogin

theorem Shared.pairwise (h : Shared parties ls) :
    parties.Pairwise fun p q => p.login = q.login → p.owner → q.owner = false := by
  have hpairs := pairwise_filter.1 (pairwise_map.1 h.nodup)
  refine hpairs.imp fun {p q} hne hlogin hp => ?_
  rw [← Bool.not_eq_true]
  exact fun hq => hne hp hq hlogin

theorem Shared.change (h : Shared parties ls) (n : Nat) (f : Login → Login) : Shared parties (ls.change n f) :=
  ⟨h.owners.trans (by rw [Logins.change, length_modify]), h.joined, h.current⟩

theorem Shared.enter (h : Shared parties ls) (now : Float) (r : Request) (state code : String) :
    Shared (parties ++ [⟨r, state, code, (ls.enter now state).1.1, (ls.enter now state).1.2⟩]) (ls.enter now state).2 := by
  obtain ⟨current, hsub, ⟨n, hn, henter⟩ | henter⟩ := ls.enter_cases now state
  · rw [henter]
    have hbegan := h.current _ hn
    refine ⟨?_, ?_, fun p hp => (h.current p (hsub hp)).concat _⟩
    · rw [filter_append, filter_cons_of_neg (by simp), filter_nil, append_nil]
      exact h.owners
    · exact forall_mem_append.2
        ⟨fun p hp => (h.joined p hp).concat _, forall_mem_singleton.2 (hbegan.concat _)⟩
  · rw [henter]
    have hself : Began (parties ++ [⟨r, state, code, ls.records.length, true⟩]) state ls.records.length :=
      ⟨_, mem_append_right _ mem_cons_self, rfl, rfl, rfl⟩
    refine ⟨?_, ?_, fun p hp => ?_⟩
    · rw [filter_append, map_append, h.owners, length_append, length_singleton, range_succ]
      rfl
    · exact forall_mem_append.2 ⟨fun p hp => (h.joined p hp).concat _, forall_mem_singleton.2 hself⟩
    · rcases Dict.mem_set hp with hp | rfl
      · exact (h.current p (hsub hp)).concat _
      · exact hself

end Shared

namespace Arrivals

structure Orderly (a : Arrivals) : Prop where
  shared : Shared (a.visits.map (·.toParty)) a.site.logins
  fits : ∀ v ∈ a.visits, ∃ l, a.site.logins.get? v.login = some l ∧ v.Fits l

variable {a : Arrivals} {v o v' : Visit} {r : Request} {site : Site}

theorem arrive_of_some (h : r.credentials? = some credentials) : a.arrive r =
      ⟨{ a.site with logins := (a.site.logins.enter a.site.bot.clock.monotonic credentials.1).2 }, a.visits ++
        [{ toParty := ⟨r, credentials.1, credentials.2, (a.site.logins.enter a.site.bot.clock.monotonic credentials.1).1.1,
          (a.site.logins.enter a.site.bot.clock.monotonic credentials.1).1.2⟩ }]⟩ := by
  rw [arrive, h]
  rfl

theorem go_of_some (hv : a.visits[i]? = some v) (hnext : v.next a.site = some (v', site))
    : a.go i = ⟨site, a.visits.set i v'⟩ := by
  rw [go, hv, Option.bind_some, hnext]

theorem Orderly.entered (h : a.Orderly) (r : Request) (state code : String) (now : Float) :
    Orderly ⟨{ a.site with logins := (a.site.logins.enter now state).2 }, a.visits ++
      [{ toParty := ⟨r, state, code, (a.site.logins.enter now state).1.1, (a.site.logins.enter now state).1.2⟩ }]⟩ := by
  refine ⟨?_, ?_⟩
  · rw [map_append]
    exact h.shared.enter now r state code
  obtain ⟨current, -, ⟨n, hn, henter⟩ | henter⟩ := a.site.logins.enter_cases now state
  · rw [henter]
    refine forall_mem_append.2 ⟨h.fits, forall_mem_singleton.2 ?_⟩
    have hlt := h.shared.lt (h.shared.current _ hn)
    exact ⟨_, getElem?_eq_getElem hlt, Visit.Trails.fits rfl ⟨rfl, rfl⟩⟩
  · rw [henter]
    refine forall_mem_append.2 ⟨fun v hv => ?_, forall_mem_singleton.2 ?_⟩
    · obtain ⟨l, hl, hfits⟩ := h.fits v hv
      exact ⟨l, (List.getElem?_append_left (List.getElem?_eq_some_iff.1 hl).1).trans hl, hfits⟩
    · exact ⟨_, List.getElem?_concat_length, Visit.Leads.fits rfl ⟨⟨rfl, rfl⟩, rfl, rfl⟩⟩

theorem Orderly.follower {j : Nat} {w : Visit} (h : a.Orderly) (hv : a.visits[i]? = some v) (hw : a.visits[j]? = some w)
    (hne : i ≠ j) (hlogin : w.login = v.login) (howner : v.owner) : w.owner = false := by
  have hpairs := pairwise_iff_getElem.1 (pairwise_map.1 h.shared.pairwise)
  obtain ⟨hi, rfl⟩ := List.getElem?_eq_some_iff.1 hv
  obtain ⟨hj, rfl⟩ := List.getElem?_eq_some_iff.1 hw
  rcases Nat.lt_or_gt_of_ne hne with hlt | hlt
  · exact hpairs i j hi hj hlt hlogin.symm howner
  · rw [← Bool.not_eq_true]
    exact fun hleader => absurd (howner.symm.trans (hpairs j i hj hi hlt hlogin hleader)) nofun

theorem Orderly.advanced (h : a.Orderly) (hv : a.visits[i]? = some v)
    (hnext : v.next a.site = some (v', site)) : Orderly ⟨site, a.visits.set i v'⟩ := by
  obtain ⟨l, hl, hfits⟩ := h.fits v (mem_of_getElem? hv)
  obtain ⟨hparty, f, hlogins, hfits', hfresh⟩ := Visit.moves_next hnext hl hfits
  have hparties : (a.visits.set i v').map (·.toParty) = a.visits.map (·.toParty) := by
    obtain ⟨hi, rfl⟩ := List.getElem?_eq_some_iff.1 hv
    rw [List.map_set, hparty, ← List.map_set, List.set_getElem_self]
  refine ⟨?_, fun w hw => ?_⟩
  · rw [hparties, hlogins]
    exact h.shared.change v.login f
  obtain ⟨j, hj⟩ := mem_iff_getElem?.1 hw
  rw [hlogins]
  by_cases hij : i = j
  · subst hij
    obtain ⟨hi, rfl⟩ := List.getElem?_eq_some_iff.1 hj
    rw [List.getElem_set_self, hparty]
    exact ⟨f l, get?_change_self hl f, hfits'⟩
  rw [getElem?_set_ne hij] at hj
  obtain ⟨m, hm, hfitsm⟩ := h.fits w (mem_of_getElem? hj)
  by_cases hlogin : w.login = v.login
  · rw [hlogin] at hm ⊢
    obtain rfl := Option.some.inj (hl.symm.trans hm)
    refine ⟨f l, get?_change_self hl f, ?_⟩
    rcases hfresh with hsame | ⟨howner, hfresh⟩
    · rwa [hsame]
    · exact hfitsm.of_fresh (h.follower hv hj hij hlogin howner) hfresh (f l)
  · exact ⟨m, (a.site.logins.get?_change_of_ne (Ne.symm hlogin) f).trans hm, hfitsm⟩

theorem Orderly.step (h : a.Orderly) (move : Move) : (a.step move).Orderly := by
  cases move with
  | arrive r =>
    cases hcredentials : r.credentials? with
    | none =>
      rw [Arrivals.step, arrive, hcredentials]
      exact h
    | some credentials =>
      rw [Arrivals.step, arrive_of_some hcredentials]
      exact h.entered r _ _ _
  | go i =>
    cases hnext : a.visits[i]?.bind (·.next a.site) with
    | none =>
      rw [Arrivals.step, Arrivals.go, hnext]
      exact h
    | some result =>
      obtain ⟨v, hv, hnext⟩ := Option.bind_eq_some_iff.1 hnext
      rw [Arrivals.step, go_of_some hv hnext]
      exact h.advanced hv hnext
  | other f => exact ⟨h.shared, h.fits⟩

theorem orderly_run (site : Site) (moves : List Move) : (run site moves).Orderly := by
  refine foldlRecOn moves step ?_ fun a h move _ => h.step move
  exact ⟨⟨rfl, forall_mem_nil _, forall_mem_nil _⟩, forall_mem_nil _⟩

/-! ### One request alone -/

/-- A request that nothing interferes with leaves with a result. -/
def Ends (visits : List Visit) (v : Visit) (site : Site) (final : Except Failure Reply × Site) : Prop :=
  ∃ k v', (replicate k (.go visits.length)).foldl step ⟨site, visits ++ [v]⟩ = ⟨final.2, visits ++ [v']⟩ ∧
    v'.progress = .left final.1

section Alone

variable {visits : List Visit} {v v' : Visit} {site site' : Site} {final : Except Failure Reply × Site}

theorem ends_left (h : v.progress = .left result) : Ends visits v site (result, site) :=
  ⟨0, v, rfl, h⟩

theorem Ends.after (h : Ends visits v' site' final) (hnext : v.next site = some (v', site')) : Ends visits v site final := by
  obtain ⟨k, w, hrun, hleft⟩ := h
  have hgo : step ⟨site, visits ++ [v]⟩ (.go visits.length) = ⟨site', visits ++ [v']⟩ := by
    rw [step, go_of_some List.getElem?_concat_length hnext, set_append_right _ _ (Nat.le_refl _), Nat.sub_self]
    rfl
  refine ⟨k + 1, w, ?_, hleft⟩
  rw [replicate_succ, foldl_cons, hgo, hrun]

theorem ends_exchanged {result : Except Failure String} (h : v.progress = .exchanged result) :
    Ends visits v site (settleLogin v.login result site) := by
  have hnext : v.next site = some (concluding (settleLogin v.login result) v.leaves site) := by rw [Visit.next, h]
  exact Ends.after (ends_left rfl) hnext

theorem ends_adopted {access refresh : String} (h : v.progress = .adopted access refresh token) :
    Ends visits v site (settleLogin v.login (welcome access refresh token site).1 (welcome access refresh token site).2) := by
  have hnext : v.next site = some (concluding (welcome access refresh token) v.gets site) := by rw [Visit.next, h]
  exact Ends.after (ends_exchanged (v := v.gets _) rfl) hnext

theorem ends_proceeds {x : SiteM α} {k : α → SiteM String} (w : Visit) (progress : α → Progress)
    (hnext : v.next site = some (concluding x (w.proceeds progress) site))
    (hgoes : ∀ a t, Ends visits { w with progress := progress a } t (settleLogin w.login (k a t).1 (k a t).2)) :
    Ends visits v site (settleLogin w.login ((x >>= k) site).1 ((x >>= k) site).2) := by
  obtain ⟨a, t, hrun, hbind⟩ | ⟨failure, t, hrun, hbind⟩ := run_bind x k site
  · rw [concluding, hrun] at hnext
    rw [hbind]
    exact (hgoes a t).after hnext
  · rw [concluding, hrun] at hnext
    rw [hbind]
    exact (ends_exchanged (v := w.gets (.error failure)) rfl).after hnext

theorem ends_cleared (h : v.progress = .cleared) :
    Ends visits v site (settleLogin v.login (exchange v.code site).1 (exchange v.code site).2) := by
  refine ends_proceeds { v with redemptions := v.redemptions + 1 } _ (by rw [Visit.next, h]) fun tokens t => ?_
  exact ends_proceeds { v with redemptions := v.redemptions + 1 } (.adopted tokens.1 tokens.2) rfl
    fun token t => ends_adopted rfl

theorem ends_owner (howner : v.owner) (h : v.progress = .entered) : Ends visits v site ((do
    requireStateCookie v.request v.login v.state
    settleLogin v.login (← outcome (exchange v.code))) site) := by
  have hnext : v.next site = some (concluding (requireStateCookie v.request v.login v.state) v.checked site) := by
    rw [Visit.next, h, howner]
    rfl
  rw [concluding] at hnext
  by_cases hmatch : v.Matches
  · rw [requireStateCookie_of_eq hmatch] at hnext
    rw [run_bind_of_ok (requireStateCookie_of_eq hmatch)]
    exact (ends_cleared (v := { v with progress := .cleared }) rfl).after hnext
  · rw [requireStateCookie_of_ne hmatch] at hnext
    rw [run_bind_of_error (requireStateCookie_of_ne hmatch)]
    exact (ends_left rfl).after hnext

theorem ends_follower (howner : v.owner = false) (h : v.progress = .entered)
    (hfollow : (site.logins.get? v.login).bind (followLogin site.bot.config) = some result) :
    Ends visits v site (result, site) :=
  (ends_left rfl).after ((Visit.next_follower howner h).trans (congrArg _ hfollow))

end Alone

/-- A request that comes back and that nothing interferes with goes the way of `loginReturn`, if it need not wait. -/
theorem alone_loginReturn (h : r.credentials? = some credentials) :
    ∃ v, a.arrive r = ⟨(a.arrive r).site, a.visits ++ [v]⟩ ∧ (Ends a.visits v (a.arrive r).site (loginReturn r a.site) ∨
        v.next (a.arrive r).site = none ∧ loginReturn r a.site = (.error .waits, (a.arrive r).site)) := by
  obtain ⟨state, code⟩ := credentials
  rw [arrive_of_some h, loginReturn, h]
  dsimp only
  rw [run_bind_of_ok (enterLogin_run state a.site)]
  refine ⟨_, rfl, ?_⟩
  generalize { a.site with logins := (a.site.logins.enter a.site.bot.clock.monotonic state).2 } = site
  obtain ⟨n, owner⟩ := (a.site.logins.enter a.site.bot.clock.monotonic state).1
  cases owner with
  | true => exact .inl (ends_owner rfl rfl)
  | false =>
    rw [if_neg Bool.false_ne_true, run_get_bind]
    cases hfollow : (site.logins.get? n).bind (followLogin site.bot.config) with
    | none => exact .inr ⟨(Visit.next_follower rfl rfl).trans (congrArg _ hfollow), rfl⟩
    | some result =>
      refine .inl ?_
      cases result with
      | ok | error => exact ends_follower rfl rfl hfollow

/-! ### One exchange for all who share a login -/

theorem sum_le_one {f : α → Nat} {xs : List α} (hle : ∀ x ∈ xs, f x ≤ 1) (hpairs : xs.Pairwise fun x y => f x = 0 ∨ f y = 0)
    : (xs.map f).sum ≤ 1 := by
  induction xs with
  | nil => exact Nat.zero_le 1
  | cons x xs ih =>
    obtain ⟨hx, hxs⟩ := pairwise_cons.1 hpairs
    rw [map_cons, sum_cons]
    by_cases hzero : f x = 0
    · rw [hzero, Nat.zero_add]
      exact ih (fun y hy => hle y (mem_cons_of_mem _ hy)) hxs
    · have hrest : (xs.map f).sum = 0 := sum_eq_zero (forall_mem_map.2 fun y hy => (hx y hy).resolve_left hzero)
      rw [hrest]
      exact hle x mem_cons_self

/-- For all who share a login with its owner there is one exchange, and nobody is given a session but the one that came
of it. -/
structure Single (visits : List Visit) (o : Visit) : Prop where
  redemptions : ((visits.filter (·.login == o.login)).map (·.redemptions)).sum ≤ 1
  cookies : ∀ v ∈ visits, v.login = o.login → 0 < v.redemptions → Dict.get? v.request.cookies stateCookie = some o.state
  sessions : ∀ v ∈ visits, v.login = o.login → ∀ token, v.HasSession token → o.outcome = some (.ok token)
  failed : (∃ failure, o.outcome = some (.error failure)) ∨ Dict.get? o.request.cookies stateCookie ≠ some o.state →
    ∀ v ∈ visits, v.login = o.login → ∀ token, ¬v.HasSession token

theorem Orderly.redemptions_le (h : a.Orderly) (n : Nat) :
    ((a.visits.filter (·.login == n)).map (·.redemptions)).sum ≤ 1 := by
  have hredeemed : ∀ v ∈ a.visits, v.redemptions = 0 ∨ v.redemptions = 1 ∧ v.owner ∧ v.Matches := fun v hv => by
    obtain ⟨l, -, hfits⟩ := h.fits v hv
    exact hfits.redeemed
  refine sum_le_one (fun v hv => ?_) ?_
  · rcases hredeemed v (mem_of_mem_filter hv) with hzero | ⟨hone, -⟩
    · exact hzero ▸ Nat.zero_le 1
    · exact hone.le
  · have hpairs := (pairwise_map.1 h.shared.pairwise).filter (·.login == n)
    refine hpairs.imp_of_mem fun {v w} hv hw hfollower => ?_
    obtain ⟨hv, hvlogin⟩ := mem_filter.1 hv
    obtain ⟨hw, hwlogin⟩ := mem_filter.1 hw
    have hlogin : v.login = w.login := (beq_iff_eq.1 hvlogin).trans (beq_iff_eq.1 hwlogin).symm
    rcases hredeemed v hv with hzero | ⟨-, howner, -⟩
    · exact .inl hzero
    rcases hredeemed w hw with hzero | ⟨-, howner', -⟩
    · exact .inr hzero
    · exact absurd (howner'.symm.trans (hfollower hlogin howner)) nofun

theorem Orderly.state_eq (h : a.Orderly) (ho : o ∈ a.visits) (howner : o.owner) (hv : v ∈ a.visits)
    (hlogin : v.login = o.login) : v.state = o.state := by
  obtain ⟨p, hp, hpowner, hplogin, hstate⟩ := h.shared.joined _ (mem_map_of_mem hv)
  rw [h.shared.owner_unique hp hpowner (mem_map_of_mem ho) howner (hplogin.trans hlogin)] at hstate
  exact hstate.symm

theorem Orderly.exchange (h : a.Orderly) (ho : o ∈ a.visits) (howner : o.owner) (hv : v ∈ a.visits)
    (hlogin : v.login = o.login) (hsession : v.HasSession token) : o.Matches ∧ o.outcome = some (.ok token) := by
  obtain ⟨l, hl, hfits⟩ := h.fits v hv
  obtain ⟨m, hm, hfitso⟩ := h.fits o ho
  rw [hlogin] at hl
  obtain rfl := Option.some.inj (hl.symm.trans hm)
  exact hfitso.exchange howner (hfits.session hsession)

theorem Orderly.single (h : a.Orderly) (ho : o ∈ a.visits) (howner : o.owner) : Single a.visits o where
  redemptions := h.redemptions_le o.login
  cookies v hv hlogin hpos := by
    obtain ⟨l, -, hfits⟩ := h.fits v hv
    obtain ⟨-, -, hmatch⟩ := hfits.redeemed.resolve_left hpos.ne'
    rw [← h.state_eq ho howner hv hlogin]
    exact hmatch
  sessions v hv hlogin token hsession := (h.exchange ho howner hv hlogin hsession).2
  failed hfailed v hv hlogin token hsession := by
    obtain ⟨hmatch, houtcome⟩ := h.exchange ho howner hv hlogin hsession
    rcases hfailed with ⟨failure, hfailure⟩ | hcookie
    · exact absurd (hfailure.symm.trans houtcome) nofun
    · exact hcookie hmatch

/-- In every run every login has one owner, with whom all others share the login and the state, and there is one exchange for
them. -/
theorem one_exchange (site : Site) (moves : List Move) :
    ((run site moves).visits.filter (·.owner)).map (·.login) = List.range (run site moves).site.logins.records.length ∧
      ∀ v ∈ (run site moves).visits, ∃ o ∈ (run site moves).visits, o.owner = true ∧ o.login = v.login ∧
        o.state = v.state ∧ Single (run site moves).visits o := by
  have h := orderly_run site moves
  refine ⟨?_, fun v hv => ?_⟩
  · rw [← h.shared.owners, List.filter_map, List.map_map]
    rfl
  · obtain ⟨p, hp, howner, hlogin, hstate⟩ := h.shared.joined _ (List.mem_map_of_mem hv)
    obtain ⟨o, ho, rfl⟩ := List.mem_map.1 hp
    exact ⟨o, ho, howner, hlogin, hstate, h.single ho howner⟩

/-! ### When followers need not wait any longer -/

theorem Orderly.waits {l : Login} (h : a.Orderly) (hv : v ∈ a.visits) (howner : v.owner = false)
    (hl : a.site.logins.get? v.login = some l) (hfresh : l.Fresh) : v.progress = .entered ∧ v.next a.site = none := by
  obtain ⟨m, hm, hfits⟩ := h.fits v hv
  obtain rfl := Option.some.inj (hl.symm.trans hm)
  have htrails := hfits.2 howner
  have hentered : v.progress = .entered := by
    obtain ⟨party, progress, redemptions, outcome⟩ := v
    cases progress with
    | entered => rfl
    | left result => exact absurd (htrails.2.1.symm.trans hfresh.1) nofun
    | _ => exact htrails.elim
  refine ⟨hentered, ?_⟩
  rw [Visit.next_follower howner hentered, hl, Option.bind_some, followLogin, hfresh.1]
  rfl

/-- Once the owner of a login is gone, followers need not wait any longer if and only if the owner came with the right
cookie.  Otherwise all of them wait for ever. -/
theorem released_iff_matches (site : Site) (moves : List Move) (o : Visit) (ho : o ∈ (run site moves).visits)
    (howner : o.owner = true) (result : Except Failure Reply) (hleft : o.progress = .left result) :
    ∃ l, (run site moves).site.logins.get? o.login = some l ∧
      (l.done = true ↔ Dict.get? o.request.cookies stateCookie = some o.state) ∧
      (l.done = false → ∀ v ∈ (run site moves).visits, v.login = o.login → v.owner = false →
        v.progress = .entered ∧ v.next (run site moves).site = none) := by
  have h := orderly_run site moves
  obtain ⟨l, hl, hfits⟩ := h.fits o ho
  have hleads := hfits.1 howner
  rw [hleft] at hleads
  refine ⟨l, hl, ?_⟩
  obtain ⟨hmismatch, hfresh, -⟩ | ⟨hmatch, hdone, -⟩ := hleads
  · refine ⟨iff_of_false (fun hdone => absurd (hdone.symm.trans hfresh.1) nofun) hmismatch, fun _ v hv hlogin hfollower => ?_⟩
    exact h.waits hv hfollower (hlogin ▸ hl) hfresh
  · exact ⟨iff_of_true hdone hmatch, fun hwaits => absurd (hdone.symm.trans hwaits) nofun⟩

def porch : Site where
  bot := Bot.blank
  address := ""
  zones := []

def comeback (cookies : Dict String String) : Request where
  method := .get
  path := "/auth/twitch/callback"
  query := [("state", "s"), ("code", "c")]
  cookies := cookies

/-- An owner whose code the platform does not know leaves, and followers need not wait. -/
theorem released_iff_matches_porch :
    ∃ o ∈ (run porch [.arrive (comeback [(stateCookie, "s")]), .go 0, .go 0, .go 0]).visits, o.owner = true ∧
      ∃ l, (run porch [.arrive (comeback [(stateCookie, "s")]), .go 0, .go 0, .go 0]).site.logins.get? o.login = some l ∧
        l.done = true := by
  refine ⟨_, List.mem_singleton_self _, rfl, ?_⟩
  obtain ⟨l, hl, hiff, -⟩ := released_iff_matches porch [.arrive (comeback [(stateCookie, "s")]), .go 0, .go 0, .go 0] _
    (List.mem_singleton_self _) rfl _ rfl
  exact ⟨l, hl, hiff.2 rfl⟩

/-- An owner without the cookie leaves, and the login is not released. -/
theorem exists_unreleased :
    ∃ site moves, ∃ o ∈ (run site moves).visits, o.owner = true ∧ (∃ result, o.progress = .left result) ∧
      ∃ l, (run site moves).site.logins.get? o.login = some l ∧ l.done = false :=
  ⟨porch, [.arrive (comeback []), .go 0], _, List.mem_singleton_self _, rfl, ⟨_, rfl⟩, _, rfl, rfl⟩

end Arrivals

end StreamBot.Web
