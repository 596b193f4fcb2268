import StreamBot.Bot.Management
import StreamBot.Proofs.Bot.Computation
import StreamBot.Proofs.Database.ScriptStores
import StreamBot.Proofs.Json.RoundTrip
import StreamBot.Proofs.Script.StoreTyping

/-! # How scripts are added

The first values of the stores of a new script are those with which it would start if nothing was kept
(`Prepares`), and finding them leaves the bot alone.  Main statement: where a script is added, it was taken
from the text that was given, or from the page behind it if that is no script, and its row and the rows of
its stores are the only ones that are new (`ok_of_addScript`).
-/

namespace StreamBot.Bot

open List Script Database Dict
open Script (Act Expr Frame Host Store StoreKey Value)

variable {bot bot' : Bot} {name source : String}
variable {values known : Dict StoreKey Value} {text : String} {prepared : PreparedScript} {script : Script}
variable {stores : List Store} {p : Trigger.Pattern} {argument owner : String}

/-! ### First values -/

instance : Chained (@Eq Bot) := ⟨Eq.refl, Eq.trans⟩

theorem storeHost_keeps (bot : Bot) : Host.Keeps Eq bot.storeHost := by
  exact hostWithin_keeps (R := Eq) (fun _ => rfl) (fun _ _ _ _ _ => rfl) _

theorem eval_storeHost_run (e : Expr) (f : Frame) (bot : Bot) : ∃ r, e.eval bot.storeHost f bot = (r, bot) :=
  ⟨_, Prod.ext rfl (Act.Sim.along (fun start => eval_sim ((storeHost_keeps bot).toCallsKeep.sim start) e f) bot).symm⟩

def renderings (values : Dict StoreKey Value) : Dict StoreKey String :=
  values.map fun p => (p.1, p.2.toJson.render)

theorem keys_renderings (values : Dict StoreKey Value) : Dict.keys (renderings values) = Dict.keys values := by
  simp [Dict.keys, renderings]

theorem get?_renderings (values : Dict StoreKey Value) (key : StoreKey) :
    get? (renderings values) key = (get? values key).map fun v => v.toJson.render :=
  get?_map (fun v : Value => v.toJson.render) values key

/-- Rows and values are found together, or there is a fault. -/
theorem prepareStores_cases {prepared : List NewStore} (hnodup : (stores.map (·.name)).Nodup)
    (hfresh : ∀ store ∈ stores, ⟨owner, store.name⟩ ∉ keys known) (htexts : newTexts owner prepared = renderings known)
    (bot : Bot) :
    (∃ message fault, prepareStores owner known prepared stores bot = (.ok (.error message), bot) ∧
      initialStores bot.storeHost owner known stores bot = (.error fault, bot)) ∨
    ∃ rows values, prepareStores owner known prepared stores bot = (.ok (.ok rows), bot) ∧
      initialStores bot.storeHost owner known stores bot = (.ok values, bot) ∧ newTexts owner rows = renderings values := by
  -- rows and values grow together, so the induction is over all of them that agree
  induction stores generalizing known prepared with
  | nil => exact .inr ⟨prepared, known, rfl, rfl, htexts⟩
  | cons store rest ih =>
    rw [map_cons, nodup_cons] at hnodup
    obtain ⟨hnew, hfresh⟩ := forall_mem_cons.mp hfresh
    rw [prepareStores, run_get_bind, initialStores, Act.bind_run]
    dsimp only [StateT.run]
    obtain ⟨fault | ⟨v, g⟩, hv⟩ := eval_storeHost_run store.value { callStack := [owner], stores := known } bot
    · rw [hv]
      exact .inl ⟨_, fault, rfl, rfl⟩
    · rw [hv]
      have hnext : newTexts owner (prepared ++ [⟨store.name, store.toJson.render, v.toJson.render⟩]) =
          renderings (set known ⟨owner, store.name⟩ v) := by
        rw [set_of_not_mem v hnew, newTexts, map_append, renderings, map_append]
        exact congrArg (· ++ _) htexts
      exact ih hnodup.2 (fresh_set hnew hfresh hnodup.1 v) hnext

/-- A text is a script under a name, and its stores have first values. -/
structure Prepares (bot : Bot) (name text : String) (script : Script) (values : Dict StoreKey Value) :
    Prop where
  read : ofSource name text = .ok script
  first : initialStores bot.storeHost name [] script.stores bot = (.ok values, bot)

namespace Prepares

variable (h : bot.Prepares name text script values)
include h

theorem name_eq : script.name = name :=
  (acceptedScript_of_ofSource h.read).1

theorem accepted : AcceptedScript script :=
  (acceptedScript_of_ofSource h.read).2

theorem keys : keys values = script.storeKeys := by
  have hfirst := initialStores_first _ h.accepted.stores.value h.accepted.stores.nodup
    (fun _ _ => not_mem_nil) (fun _ hmem => absurd hmem not_mem_nil) h.first
  rw [hfirst.keys, storeKeys, h.name_eq]
  rfl

theorem nodup : (Dict.keys values).Nodup :=
  h.keys ▸ h.accepted.nodup_storeKeys

end Prepares

/-- What is put into the tables when a text is a script. -/
structure Readies (bot : Bot) (name text : String) (prepared : PreparedScript) (script : Script)
    (values : Dict StoreKey Value) : Prop extends bot.Prepares name text script values where
  json : prepared.json = script.toJson.render
  texts : newTexts name prepared.stores = renderings values

theorem prepareScript_cases (name text : String) (bot : Bot) :
    (∃ message, prepareScript name text bot = (.ok (.error message), bot) ∧
      ∀ script values, ¬ bot.Prepares name text script values) ∨
    ∃ prepared script values, prepareScript name text bot = (.ok (.ok prepared), bot) ∧
      bot.Readies name text prepared script values := by
  rw [prepareScript]
  cases hsource : ofSource name text with
  | error fault => exact .inl ⟨_, rfl, fun script values h => by cases hsource.symm.trans h.read⟩
  | ok script =>
    obtain ⟨rfl, haccepted⟩ := acceptedScript_of_ofSource hsource
    obtain ⟨message, fault, hrun, hfails⟩ | ⟨rows, values, hrun, hfirst, htexts⟩ :=
      @prepareStores_cases [] script.stores _ [] haccepted.stores.nodup (fun _ _ => not_mem_nil) rfl bot
    · refine .inl ⟨_, run_bind_of_ok hrun _, fun script' values h => ?_⟩
      cases hsource.symm.trans h.read
      cases hfails.symm.trans h.first
    · exact .inr ⟨⟨_, rows⟩, script, values, run_bind_of_ok hrun _, ⟨hsource, hfirst⟩, rfl, htexts⟩

/-! ### Where scripts come from -/

/-- The text of the script that a source means, and the bot when it has got the text: the source itself if
it is a script, and otherwise the page of which it is the address. -/
inductive TakesFrom (bot : Bot) (name source : String) : Bot → String → Prop where
  | itself {script : Script} {values : Dict StoreKey Value}
      (prepares : bot.Prepares name source script values) : TakesFrom bot name source bot source
  | page {content : String} (fails : ∀ script values, ¬ bot.Prepares name source script values)
      (found : get? bot.services.pages source = some (.text content)) :
      TakesFrom bot name source { bot with journal := bot.journal ++ [.page source] } content

theorem TakesFrom.eq {before : Bot} (h : bot.TakesFrom name source before text) :
    before = { bot with journal := before.journal } := by
  cases h <;> rfl

theorem fetch_run (source : String) (bot : Bot) :
    ∃ r, fetch source bot = (.ok r, { bot with journal := bot.journal ++ [.page source] }) ∧
      ∀ text, r = .ok text → get? bot.services.pages source = some (.text text) ∨ text = "" := by
  have hpage : page? source bot =
    (.ok (get? bot.services.pages source), { bot with journal := bot.journal ++ [.page source] }) := rfl
  unfold fetch
  rw [run_bind_of_ok hpage]
  rcases get? bot.services.pages source with _ | content | _
  · exact ⟨_, rfl, nofun⟩
  · exact ⟨_, rfl, fun text htext => .inl (by cases htext; rfl)⟩
  · exact ⟨_, rfl, fun text htext => .inr (by cases htext; rfl)⟩

theorem ofSource_empty (name : String) : (ofSource name "").isOk = false := by cbv

theorem findScript_cases (name source : String) (bot : Bot) :
    ∃ r before, findScript name source bot = (.ok r, before) ∧ before = { bot with journal := before.journal } ∧
      ∀ prepared, r = .ok prepared → ∃ text script values, bot.TakesFrom name source before text ∧
        before.Readies name text prepared script values := by
  unfold findScript
  obtain ⟨message, hrun, hfails⟩ | ⟨prepared, script, values, hrun, hreadies⟩ := prepareScript_cases name source bot
  · obtain ⟨page, hpage, hfound⟩ := fetch_run source bot
    rw [run_bind_of_ok hrun]
    dsimp only
    rw [run_bind_of_ok hpage]
    cases page with
    | error text => exact ⟨_, _, rfl, rfl, nofun⟩
    | ok content =>
      obtain ⟨message, hrun, -⟩ | ⟨prepared, script, values, hrun, hreadies⟩ :=
        prepareScript_cases name content { bot with journal := bot.journal ++ [.page source] }
      · exact ⟨_, _, hrun, rfl, nofun⟩
      · refine ⟨_, _, hrun, rfl, fun _ heq => ?_⟩
        cases heq
        obtain hcontent | rfl := hfound content rfl
        · exact ⟨content, script, values, .page hfails hcontent, hreadies⟩
        · have hempty := ofSource_empty name
          rw [hreadies.read] at hempty
          cases hempty
  · rw [run_bind_of_ok hrun]
    refine ⟨_, bot, rfl, rfl, fun _ heq => ?_⟩
    cases heq
    exact ⟨source, script, values, .itself hreadies.toPrepares, hreadies⟩

/-! ### Adding scripts -/

theorem patternOf_of_ok (h : Trigger.ofName name = .ok p) : patternOf name bot = (.ok p, bot) := by
  rw [patternOf, h]
  rfl

theorem patternOf_of_error {fault : Trigger.PatternFault} (h : Trigger.ofName name = .error fault) :
    patternOf name bot = (.error (.pattern fault), bot) := by
  rw [patternOf, h]
  rfl

theorem ok_of_patternOf (h : patternOf name bot = (.ok p, bot')) : Trigger.ofName name = .ok p ∧ bot' = bot := by
  cases hname : Trigger.ofName name with
  | ok found =>
    cases h.symm.trans (patternOf_of_ok hname)
    exact ⟨rfl, rfl⟩
  | error fault => cases h.symm.trans (patternOf_of_error hname)

/-- What has happened when a script is added: it was taken from a text, its stores have first values, and
the tables have rows for it and for them. -/
structure Added (bot : Bot) (name source : String) (script : Script) (values : Dict StoreKey Value)
    (bot' : Bot) : Prop where
  taken : ∃ before text, bot.TakesFrom name source before text ∧ before.Prepares name text script values
  fresh : ∀ row ∈ bot.database.scripts, row.command ≠ name
  stored : ∃ journal stores, newTexts name stores = renderings values ∧
    bot' = { bot with journal, database := bot.database.withScript ⟨name, source, script.toJson.render⟩ stores }

theorem ok_of_addScript {outcome : Outcome}
    (h : addScript argument source bot = (.ok outcome, bot')) (hchanged : outcome.changed) :
    (∃ p, Trigger.ofName (nameArgument argument) = .ok p ∧
      bot.handlers.any (fun other => Trigger.overlap p other.pattern) = false) ∧
    ∃ script values, bot.Added (nameArgument argument) source script values bot' := by
  obtain ⟨pattern, between, hpattern, hrest⟩ := run_ok_of_bind h
  obtain ⟨hname, rfl⟩ := ok_of_patternOf hpattern
  obtain ⟨overlaps, _, hoverlaps, hrest⟩ := run_ok_of_bind hrest
  cases hoverlaps
  split at hrest
  · cases hrest
    cases hchanged
  · rename_i hfree
    obtain ⟨found, before, hfind, -, hfound⟩ := findScript_cases (nameArgument argument) source between
    rw [run_bind_of_ok hfind] at hrest
    cases found with
    | error text =>
      cases hrest
      cases hchanged
    | ok prepared =>
      obtain ⟨row, after, hperform, hrest⟩ := run_ok_of_bind hrest
      cases hrest
      obtain ⟨text, script, values, htakes, hreadies⟩ := hfound prepared rfl
      obtain ⟨db, hadd, hafter⟩ := ok_of_perform hperform
      obtain ⟨hfresh, rfl, rfl⟩ := ok_of_addScript hadd
      have hbefore := htakes.eq
      refine ⟨⟨pattern, hname, by simpa using hfree⟩, script, values, ⟨before, text, htakes, hreadies.toPrepares⟩, ?_,
        before.journal, prepared.stores, hreadies.texts, ?_⟩
      · rw [hbefore] at hfresh
        exact hfresh
      · rw [hreadies.json, hbefore] at hafter
        exact hafter

theorem Added.eq_of_prepares {script' : Script} {values' : Dict StoreKey Value}
    (h : bot.Added name source script values bot') (hprepares : bot.Prepares name source script' values') :
    script = script' ∧ values = values' := by
  obtain ⟨before, text, htakes, hbefore⟩ := h.taken
  cases htakes with
  | itself =>
    have hread := hbefore.read.symm.trans hprepares.read
    cases hread
    have hfirst := hbefore.first.symm.trans hprepares.first
    cases hfirst
    exact ⟨rfl, rfl⟩
  | page fails => exact absurd hprepares (fails _ _)

theorem Prepares.addScript {argument : String} {script : Script} {values : Dict StoreKey Value}
    {pattern : Trigger.Pattern} (h : bot.Prepares (nameArgument argument) source script values)
    (hpattern : Trigger.ofName (nameArgument argument) = .ok pattern)
    (hoverlap : bot.handlers.any (fun other => Trigger.overlap pattern other.pattern) = false)
    (hworking : bot.Working "add_script") (hfresh : ∀ row ∈ bot.database.scripts, row.command ≠ nameArgument argument) :
    ∃ outcome bot', addScript argument source bot = (.ok outcome, bot') ∧ outcome.changed := by
  obtain ⟨_, -, hfails⟩ | ⟨prepared, script', values', hprepare, hreadies⟩ :=
    prepareScript_cases (nameArgument argument) source bot
  · exact absurd h (hfails _ _)
  have hnames : (prepared.stores.map (·.name)).Nodup := by
    have hkeys : (prepared.stores.map (·.name)).map (StoreKey.mk (nameArgument argument)) = Dict.keys values' := by
      rw [← keys_renderings, ← hreadies.texts]
      simp [newTexts, Dict.keys]
    exact List.Nodup.of_map _ (hkeys ▸ hreadies.nodup)
  have hfind : findScript (nameArgument argument) source bot = (.ok (.ok prepared), bot) := by
    rw [findScript, run_bind_of_ok hprepare]
    rfl
  have hadd := perform_of_ok hworking (addScript_run ⟨nameArgument argument, source, prepared.json⟩ hfresh hnames)
  have hoverlaps : handlerOverlaps pattern bot = (.ok false, bot) := by
    rw [← hoverlap]
    rfl
  rw [Bot.addScript, run_bind_of_ok (patternOf_of_ok hpattern), run_bind_of_ok hoverlaps, if_neg (by decide),
    run_bind_of_ok hfind]
  dsimp only
  rw [run_bind_of_ok hadd]
  exact ⟨_, _, rfl, rfl⟩

end StreamBot.Bot
