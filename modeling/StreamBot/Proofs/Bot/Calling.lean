import StreamBot.Bot.Processing
import StreamBot.Proofs.Bot.Managing
import StreamBot.Proofs.Bot.Persistence
import StreamBot.Proofs.Chat.Quoting

/-! # Scripts are called by their names

Three searches have to agree on the name of a script: the chat looks for a handler whose pattern fits the name in lower case,
other scripts look for a row that has exactly this lower case, and the row has the name as it was given.  They agree where
the name is in lower case already (`Speakable`).

Main statement: a script that was added under such a name is what the chat and other scripts execute when they call it
(`script_called_by_name`).  With a capital letter in its name, no script can call it (`not_called_by_capital`).
-/

namespace StreamBot.Bot

open List Trigger Text StoredCommand
open Chat (Handler Message)
open Script (Act Builtin Eval Expr Frame Host Value)

variable {bot now later : Bot} {name source : String} {p : Pattern} {row : Database.StoredScript} {outcome : Outcome}
variable {c : StoredCommand} {script : Script} {word : String}

/-! ### Names in lower case -/

/-- A name of small letters, digits and underscores. -/
structure Speakable (name : String) : Prop where
  nonempty : name ≠ ""
  plain : ∀ c ∈ name.toList, c ∈ "abcdefghijklmnopqrstuvwxyz0123456789_".toList

namespace Speakable

theorem char_spec (h : Speakable name) : ∀ c ∈ name.toList,
    c.toNat < 128 ∧ c.toLower = c ∧ c ≠ '!' ∧ Parser.special.contains c = false ∧ c ∈ Words.safe := by
  have hall : ("abcdefghijklmnopqrstuvwxyz0123456789_".toList.all fun c => decide (c.toNat < 128) && c.toLower == c &&
      c != '!' && !Parser.special.contains c && Words.safe.contains c) := by decide +kernel
  intro c hc
  simpa [and_assoc] using all_eq_true.1 hall c (h.plain c hc)

theorem lower_eq (h : Speakable name) : lower name = name := by
  have hascii : IsAscii name := fun c hc => (h.char_spec c hc).1
  have hsame : name.toList.map Char.toLower = name.toList :=
    (map_congr_left fun c hc => (h.char_spec c hc).2.1).trans (map_id _)
  rw [hascii.lower, lowerAscii, hsame, String.ofList_toList]

theorem dropPrefix_eq (h : Speakable name) : dropPrefix name "!" = name := by
  have hstart : startsWith name "!" = false := by
    refine Bool.eq_false_iff.2 fun hprefix => ?_
    obtain ⟨rest, hrest⟩ := isPrefixOf_iff_prefix.1 hprefix
    exact (h.char_spec '!' (by simp [← hrest])).2.2.1 rfl
  simp [dropPrefix, hstart]

theorem nameArgument_eq (h : Speakable name) : nameArgument name = name := by
  have hkept : name.toList.dropWhile (· == '!') = name.toList := by
    cases hcs : name.toList with
    | nil => rfl
    | cons c cs => exact dropWhile_cons_of_neg (by simpa using (h.char_spec c (hcs ▸ mem_cons_self)).2.2.1)
  rw [nameArgument, dropLeading, hkept, String.ofList_toList]

theorem ofName_eq (h : Speakable name) : ofName name = .ok (.literal name) := by
  have hplain : name.toList.any Parser.special.contains = false :=
    any_eq_false.2 fun c hc => by simpa using (h.char_spec c hc).2.2.2.1
  rw [ofName, h.lower_eq, Pattern.parse, hplain]
  rfl

theorem ofMessage?_eq (h : Speakable name) : Chat.Command.ofMessage? ("!" ++ name) = some ⟨name, []⟩ := by
  have hsafe : ∀ c ∈ '!' :: name.toList, isBlank c = false ∧ Words.IsPlain c := by
    refine forall_mem_cons.2 ⟨⟨by decide +kernel, by decide, by decide, by decide, by decide⟩, fun c hc => ?_⟩
    exact Words.isPlain_of_mem_safe c (h.char_spec c hc).2.2.2.2
  have htext : ("!" ++ name).toList = '!' :: name.toList := by simp
  have hne : name.toList ≠ [] := by simpa using h.nonempty
  refine @Chat.ofMessage?_eq _ name [] ?_ (by rw [htext]; rfl) ?_ ?_
  · rw [htext]
    exact trimmed_of_forall (cons_ne_nil _ _) fun c hc => (hsafe c hc).1
  · exact trimmed_of_forall hne fun c hc => (hsafe c (mem_cons_of_mem _ hc)).1
  · rw [htext]
    exact Words.read_glue (Words.spells_plain (cons_ne_nil _ _) fun c hc => (hsafe c hc).2) []

/-- A handler that is called by the name overlaps with it. -/
theorem overlap_of_calledBy (h : Speakable name) {other : Handler} (hmade : other.Made) (hcalled : other.CalledBy name) :
    overlap (.literal name) other.pattern := by
  have hplain : (Pattern.literal name).PlainAs name.toList := Pattern.plainAs_ofChars _
  refine (overlap_iff_shares h.ofName_eq hmade.named ?_).2
    ⟨name.toList.map Char.toNat, hplain.mem_language.2 rfl, hcalled.fits⟩
  rcases hcalled with ⟨hvaried, -⟩ | ⟨-, hother⟩
  · exact .inr (.inl hvaried)
  · exact .inr (.inr ⟨⟨_, hplain⟩, ⟨_, hother⟩⟩)

end Speakable

/-! ### The chat -/

theorem made_of_handler {handler : Handler} (h : c.handler = .ok handler) : handler.Made := by
  obtain ⟨pattern, action, hname, -, rfl⟩ := handler_eq_ok.1 h
  exact ⟨hname, rfl⟩

theorem made_builtin : ∀ b ∈ Handler.builtins, b.Made := by
  intro b hb
  refine ⟨ofName_builtin b hb, ?_⟩
  revert b
  decide +kernel

/-- A new command whose name overlaps with no other is the one that the name calls. -/
theorem lookup?_added {handler : Handler} {own : List Handler} (hstep : bot.InStep)
    (hname : Speakable c.name) (hfree : bot.handlers.any (fun other => overlap (.literal c.name) other.pattern) = false)
    (hperm : (storedCommands now.database).Perm (c :: storedCommands bot.database)) (hhandler : c.handler = .ok handler)
    (hown : Handled (storedCommands now.database) own) (hhandlers : now.handlers = own ++ Handler.builtins) :
    Handler.lookup? now.handlers c.name = some handler := by
  obtain ⟨old, hold, hbefore⟩ := hstep.handled
  have hspoken : Handler.spoken c.name = c.name := by rw [Handler.spoken, hname.dropPrefix_eq, hname.lower_eq]
  have hmade : ∀ h ∈ now.handlers, h.Made := by
    rw [hhandlers]
    refine forall_mem_append.2 ⟨fun h hh => ?_, made_builtin⟩
    obtain ⟨d, -, hd⟩ := exists_left_of_forall₂ hown hh
    exact made_of_handler hd
  have hcalled : handler.CalledBy c.name := by
    obtain ⟨pattern, action, hpattern, -, rfl⟩ := handler_eq_ok.1 hhandler
    cases hname.ofName_eq.symm.trans hpattern
    have hplain := Pattern.plainAs_ofChars c.name.toList
    exact .inr ⟨Pattern.Plain.not_varied ⟨_, hplain⟩, hplain⟩
  have hmem : handler ∈ now.handlers := by
    obtain ⟨other, hother, hsame⟩ := exists_right_of_forall₂ hown (hperm.mem_iff.2 mem_cons_self)
    cases hhandler.symm.trans hsame
    exact hhandlers ▸ mem_append_left _ hother
  -- every handler but the new one was there before, and does not overlap
  have honly : ∀ h ∈ now.handlers, h.CalledBy c.name → h = handler := by
    intro h hh hcalls
    have hnew : h = handler ∨ h ∈ bot.handlers := by
      rw [hhandlers] at hh
      rcases mem_append.1 hh with hh | hh
      · obtain ⟨d, hd, hdh⟩ := exists_left_of_forall₂ hown hh
        rcases mem_cons.1 (hperm.mem_iff.1 hd) with rfl | hd
        · cases hhandler.symm.trans hdh
          exact .inl rfl
        · obtain ⟨other, hother, hsame⟩ := exists_right_of_forall₂ hold hd
          cases hdh.symm.trans hsame
          exact .inr (hbefore ▸ mem_append_left _ hother)
      · exact .inr (hbefore ▸ mem_append_right _ hh)
    refine hnew.resolve_right fun hbot => ?_
    have hno := any_eq_false.1 hfree h hbot
    exact hno (hname.overlap_of_calledBy (hmade h hh) hcalls)
  cases hl : Handler.lookup? now.handlers c.name with
  | none =>
    have hnone := (Handler.lookup?_eq_none_iff hmade).1 hl handler hmem
    rw [hspoken] at hnone
    exact absurd hcalled hnone
  | some h =>
    obtain ⟨before, behind, hsplit, hcalls, -⟩ := (Handler.lookup?_eq_some_iff hmade).1 hl
    rw [hspoken] at hcalls
    rw [honly h (hsplit ▸ by simp) hcalls]

/-! ### Other scripts -/

/-- The output of a script that is called, which has to have one. -/
def outputOf (name : String) (x : Act Bot (Option String)) : Act Bot String := do
  match ← x with
  | some output => return output
  | none => throw (.host s!"Script '{name}' did not return any output.")

theorem callScript_run (hname : Speakable name) (hworking : bot.outages = [])
    (hrow : bot.database.scripts.find? (·.command == name) = some row) (hscript : storedScript row = .ok script)
    (host : Host Bot) (arguments : List String) :
    callScript host name arguments bot = outputOf name (script.execute host storeKeeper arguments) bot := by
  have hget : onBehalf (perform (Database.getScript name)) bot = (.ok (some row), bot) :=
    onBehalf_of_ok (perform_of_ok (working_of_outages hworking _) (by rw [← hrow]; rfl))
  have hread : onBehalf (storedScript row) bot = (.ok script, bot) := by
    rw [hscript]
    rfl
  rw [callScript, hname.dropPrefix_eq, hname.lower_eq, Act.bind_run, hget]
  dsimp only
  rw [Act.bind_run, hread]
  rfl

theorem eval_call_run (hbuiltin : Builtin.ofName? name = none) {host inner : Host Bot} (hcall : host.call = callScript inner)
    {arguments : List Expr} {frame behind : Frame} {values : List Value}
    (harguments : (do Eval.enter name; Expr.evalAll host arguments : Eval Bot (List Value)) frame bot =
      (.ok (values, behind), later)) :
    (Expr.call (.stringLiteral name) arguments).eval host frame bot = (do
        let output ← callScript inner name (values.map (·.text))
        return (.string output, { behind with callStack := behind.callStack.tail }) : Act Bot (Value × Frame)) later := by
  have hcallee : (Expr.stringLiteral name).eval host frame bot = (.ok (.string name, frame), bot) := rfl
  refine (Eval.bind_of_ok hcallee _).trans ?_
  dsimp only
  rw [hbuiltin]
  dsimp only
  rw [← bind_assoc, Eval.bind_of_ok harguments, Eval.bind_run, Eval.lift_run, Act.bind_run, hcall]
  rcases hrun : callScript inner name (values.map (·.text)) later with ⟨fault | output, t⟩
  · rw [hrun]
  · rw [hrun]
    rfl

/-! ### Both -/

/-- The chat and the scripts that call a name execute the script.  A script that calls another one first evaluates the
arguments in its own frame. -/
structure Executes (bot : Bot) (name : String) (script : Script) : Prop where
  message : ∀ (message : Message) arguments, Chat.Command.ofMessage? message.text = some ⟨name, arguments⟩ →
    ∃ handler, bot.call? message = some (handler, arguments) ∧
      handle handler message arguments = runScript name script arguments
  call : ∀ (host inner : Host Bot) (start : Bot) (arguments : List Expr) (frame behind : Frame) (values : List Value),
    host.call = callScript inner →
    (do Eval.enter name; Expr.evalAll host arguments : Eval Bot (List Value)) frame start = (.ok (values, behind), bot) →
      (Expr.call (.stringLiteral name) arguments).eval host frame start = (do
        let output ← outputOf name (script.execute inner storeKeeper (values.map (·.text)))
        return (.string output, { behind with callStack := behind.callStack.tail }) : Act Bot (Value × Frame)) bot

theorem executes_of_found {handler : Handler} (hname : Speakable name)
    (hbuiltin : Builtin.ofName? name = none) (hworking : bot.outages = [])
    (hlookup : Handler.lookup? bot.handlers name = some handler) (hcalled : handler.name = name)
    (haction : handler.action = .execute script) (hrow : bot.database.scripts.find? (·.command == name) = some row)
    (hscript : storedScript row = .ok script) : bot.Executes name script where
  message message arguments hmessage := by
    have hlevel : message.level.covers handler.level := by
      rw [Handler.level, haction]
      cases message.level <;> rfl
    refine ⟨handler, ?_, ?_⟩
    · rw [call?, hmessage, Option.bind_some, calledHandler?, hlookup, Option.filter_some, if_pos hlevel]
      rfl
    · rw [handle, haction, ← hcalled]
  call host inner start arguments frame behind values hcall harguments := by
    rw [eval_call_run hbuiltin hcall harguments, Act.bind_run, Act.bind_run, callScript_run hname hworking hrow hscript]

theorem manage_addScript (hword : lower word = "add-script") (name source : String) (rest : List String) :
    manage (word :: name :: source :: rest) = some <$> addScript name source := by
  have hother {text : String} (heq : lower word = text) (hne : "add-script" ≠ text) : False :=
    hne (hword.symm.trans heq)
  rw [manage.eq_def]
  dsimp only
  split
  case h_1 heq _ => exact (hother heq (by decide)).elim
  case h_2 heq => cases heq; rfl
  case h_3 heq _ => exact (hother heq (by decide)).elim
  case h_4 heq _ => exact (hother heq (by decide)).elim
  case h_5 hno _ _ => exact (hno _ _ _ hword rfl).elim

/-- Adding a script through the chat adds it and reads the commands again. -/
theorem added_of_manageCommands {rest : List String} {answer : Option (List String)}
    (hword : lower word = "add-script") (hchanged : outcome.changed)
    (hmanage : (manage (word :: name :: source :: rest) bot).1 = .ok (some outcome))
    (hanswer : manageCommands (word :: name :: source :: rest) bot = (.ok answer, now)) :
    ∃ after, addScript name source bot = (.ok outcome, after) ∧ reloadHandlers after = (.ok (), now) := by
  rcases hrun : manage (word :: name :: source :: rest) bot with ⟨result, after⟩
  rw [hrun] at hmanage
  obtain rfl : result = .ok (some outcome) := hmanage
  rw [manageCommands, run_bind_of_ok hrun] at hanswer
  dsimp only at hanswer
  rw [if_pos hchanged] at hanswer
  obtain ⟨_, _, hreload, hrest⟩ := run_ok_of_bind hanswer
  cases hrest
  rw [manage_addScript hword, map_eq_pure_bind] at hrun
  obtain ⟨added, _, hadd, hadded⟩ := run_ok_of_bind hrun
  cases hadded
  exact ⟨after, hadd, hreload⟩

/-- **Scripts are called by the names that they were added with.**  Once a name has been given to a text, or to the page with
this address, and the commands have been read again, the name calls the script of this text, in the chat and from other
scripts, for as long as the handlers and the scripts stay as they are.  What is read again is the script itself, unless it
has numbers that are not finite. -/
theorem script_called_by_name (hstep : bot.InStep) {word response : String} {rest : List String}
    {answer : Option (List String)} (hname : Speakable name) (hbuiltin : Builtin.ofName? name = none)
    (hword : lower word = "add-script")
    (hadded : (manage (word :: name :: source :: rest) bot).1 = .ok (some ⟨true, response⟩))
    (hanswer : manageCommands (word :: name :: source :: rest) bot = (.ok answer, now)) :
    Chat.Command.ofMessage? ("!" ++ name) = some ⟨name, []⟩ ∧
    ∃ text script stored, (text = source ∨ Dict.get? bot.services.pages source = some (.text text)) ∧
      Script.ofSource name text = .ok script ∧ (script.Finite → stored = script) ∧
      ∀ later : Bot, later.handlers = now.handlers → later.database.scripts = now.database.scripts → later.outages = [] →
        later.Executes name stored := by
  obtain ⟨after, hadd, hreload⟩ := added_of_manageCommands hword rfl hadded hanswer
  obtain ⟨⟨p, hp, hfree⟩, script, values, hadds⟩ := ok_of_addScript hadd rfl
  rw [hname.nameArgument_eq] at hp hadds
  cases hname.ofName_eq.symm.trans hp
  obtain ⟨before, text, htakes, hprepares⟩ := hadds.taken
  obtain ⟨journal, stores, -, hafter⟩ := hadds.stored
  have hworking : after.outages = [] := by rw [hafter]; exact hstep.working
  have hloadable : Loadable after.database := by
    by_contra hno
    obtain ⟨fault, hfails⟩ := reloadHandlers_of_not_loadable hworking hno
    cases hreload.symm.trans hfails
  obtain ⟨own, hown, hreloaded⟩ := reloadHandlers_of_loadable hworking hloadable
  obtain ⟨-, hnow⟩ := Prod.mk.inj (hreload.symm.trans hreloaded)
  have hperm := @storedCommands_withScript bot.database ⟨name, source, script.toJson.render⟩ stores
  have hdatabase : after.database = bot.database.withScript ⟨name, source, script.toJson.render⟩ stores := by rw [hafter]
  rw [← hdatabase] at hperm
  obtain ⟨handler, hhandler⟩ := hloadable.handled _ (hperm.mem_iff.2 mem_cons_self)
  obtain ⟨pattern, action, -, haction, hmade⟩ := StoredCommand.handler_eq_ok.1 hhandler
  obtain ⟨stored, hstored, hexecute⟩ := ok_of_ofScript haction
  refine ⟨hname.ofMessage?_eq, text, script, stored, htakes.text_eq, hprepares.read, fun hfinite => ?_,
    fun later hhandlers hscripts houtages => ?_⟩
  · rw [storedScript, hfinite.read?_render hprepares.accepted.notEmpty] at hstored
    cases hstored
    rfl
  · have hkept : after.database = now.database := by rw [hnow]
    have hnew : now.handlers = own ++ Handler.builtins := by rw [hnow]
    rw [hkept] at hperm hown
    have hlookup : Handler.lookup? now.handlers name = some handler :=
      @lookup?_added bot now (.ofScript ⟨name, source, script.toJson.render⟩) _ _ hstep hname hfree hperm hhandler hown hnew
    rw [← hhandlers] at hlookup
    have hnone : bot.database.scripts.find? (·.command == name) = none :=
      find?_eq_none.2 fun row hrow => by simpa using hadds.fresh row hrow
    have hrows : later.database.scripts = bot.database.scripts ++ [⟨name, source, script.toJson.render⟩] := by
      rw [hscripts, hnow, hafter, Database.withScript]
    have hrow : later.database.scripts.find? (·.command == name) = some ⟨name, source, script.toJson.render⟩ := by
      rw [hrows, find?_append, hnone, Option.none_or]
      exact find?_cons_of_pos (beq_self_eq_true name)
    subst hmade
    exact executes_of_found hname hbuiltin houtages hlookup rfl hexecute hrow hstored

/-! ### A script that greets -/

def greeter (name : String) : Script := ⟨name, [], [], [.print (.stringLiteral "hi")]⟩

theorem finite_greeter : (greeter name).Finite := by
  rintro x (⟨s, hs, -⟩ | ⟨s, hs, d, hd, h⟩)
  · cases hs
  · obtain rfl := mem_singleton.1 hs
    obtain rfl := mem_singleton.1 hd
    cases h with
    | inside hpart => cases hpart

def attentive : Bot := { blank with handlers := Handler.builtins }

theorem prepares_greeter (name : String) : attentive.Prepares name "PRINT 'hi';" (greeter name) [] := ⟨by cbv, rfl⟩

theorem manageable_attentive : attentive.Manageable where
  nodup := nodup_nil
  unreserved _ hc := absurd hc not_mem_nil
  handled := ⟨[], .nil, rfl⟩
  tidy := ⟨fun _ hp => absurd hp not_mem_nil, by decide +kernel⟩
  working := rfl

theorem acceptable_greeter : attentive.Acceptable ["add-script", "hello", "PRINT 'hi';"] where
  ascii _ h := by cases h; decide +kernel
  finite _ _ _ _ heq _ text htext script hread := by
    cases heq
    rcases htext with rfl | hpage
    · cases hread.symm.trans (prepares_greeter _).read
      exact finite_greeter
    · cases hpage

theorem script_called_by_name_hello :
    attentive.InStep ∧ Speakable "hello" ∧ Builtin.ofName? "hello" = none ∧ ∃ response now,
      (manage ["add-script", "hello", "PRINT 'hi';"] attentive).1 = .ok (some ⟨true, response⟩) ∧
      manageCommands ["add-script", "hello", "PRINT 'hi';"] attentive = (.ok (some [response]), now) ∧
      now.Executes "hello" (greeter "hello") := by
  have hstep : attentive.InStep := ⟨rfl, manageable_attentive.steady.loadHandlers, [], .nil, rfl⟩
  have hname : Speakable "hello" := ⟨by decide, by simp⟩
  obtain ⟨⟨_, response⟩, after, hadd, rfl⟩ :=
    @Prepares.addScript attentive _ "hello" _ _ _ (prepares_greeter _) rfl (by decide +kernel) rfl (by decide)
  have hmanage : (manage ["add-script", "hello", "PRINT 'hi';"] attentive).1 = .ok (some ⟨true, response⟩) := by
    rw [manage_addScript (by decide +kernel), BotM.map_run, hadd]
    rfl
  obtain ⟨hsettles, -⟩ := manageCommands_manageable manageable_attentive acceptable_greeter
  obtain ⟨hanswer, -⟩ := hsettles.changed response hmanage
  obtain ⟨-, text, script, stored, htext, hread, hsame, hexecutes⟩ :=
    script_called_by_name hstep hname (by decide) (by decide +kernel) hmanage (Prod.ext hanswer rfl)
  have htext : text = "PRINT 'hi';" := htext.resolve_right fun h => by cases h
  subst htext
  cases hread.symm.trans (prepares_greeter _).read
  have hgreeter := hsame finite_greeter
  subst hgreeter
  exact ⟨hstep, hname, by decide, response, _, hmanage, Prod.ext hanswer rfl,
    hexecutes _ rfl rfl hsettles.steady.working⟩

/-- A script with a capital letter in its name is not found by its name, since the name is put in lower case. -/
theorem not_called_by_capital : ∃ outcome now, addScript "Hello" "PRINT 'hi';" attentive = (.ok outcome, now) ∧
    outcome.changed = true ∧ ∀ (host : Host Bot) arguments,
      callScript host "Hello" arguments now = (.error (.host "Script 'hello' not found."), now) := by
  obtain ⟨outcome, now, hadd, hchanged⟩ :=
    @Prepares.addScript attentive _ "Hello" _ _ _ (prepares_greeter _) rfl (by decide +kernel) rfl (by decide)
  obtain ⟨-, script, values, hadded⟩ := ok_of_addScript hadd hchanged
  obtain ⟨journal, stores, -, rfl⟩ := hadded.stored
  exact ⟨outcome, _, hadd, hchanged, fun host arguments => rfl⟩

end StreamBot.Bot
