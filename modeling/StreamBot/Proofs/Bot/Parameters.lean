import StreamBot.Proofs.Bot.CommandTables
import StreamBot.Proofs.Script.Cutting

/-! # Commands with parameters

The parameters of a command are read back in the order of code points, in which they take the arguments of a call
(`parameters_sorted`); that need not be the order in which they were given (`exists_parameters_not_kept`).

Arguments are put into a response one after the other, so that what comes from one of them can be taken for the place of the
next (`injectArguments?_braced`).  If arguments open no braces and the response opens them around names only (`Part`), then
all places are filled at the same time (`injectArguments?_filled`).
-/

namespace StreamBot.Bot

open List Database

theorem pairwise_mergeSort_names (names : List String) : (names.mergeSort (· ≤ ·)).Pairwise (· ≤ ·) := by
  have h : (names.mergeSort (· ≤ ·)).Pairwise fun a b => decide (a ≤ b) :=
    pairwise_mergeSort (by simpa using fun a b c => String.le_trans) (by simpa using String.le_total) names
  simpa using h

/-- **Parameters are read back in the order of code points**, in whatever order they were given: so the command takes its
arguments.  They are those that were given, without blanks around them and without repetitions. -/
theorem parameters_sorted {db db' : Database} {name response : String} {parameters : List String} {row : ParameterizedCommand}
    (howned : ParametersOwned db) (h : (addParameterizedCommand name response parameters).run db = .ok (row, db')) :
    let names := (parameterNames parameters).mergeSort (· ≤ ·)
    getParameterizedCommands.run db' =
      .ok (db.parameterizedCommands.map (fun row => (row, db.parametersOf row.name)) ++ [(⟨name, response⟩, names)], db') ∧
    names.Perm (parameterNames parameters) ∧ names.Pairwise (· ≤ ·) ∧
    (names = parameterNames parameters ↔ (parameterNames parameters).Pairwise (· ≤ ·)) ∧
    ∀ bot handlers, bot.outages = [] → bot.database = db' → loadHandlers bot = (.ok handlers, bot) →
      ∃ handler ∈ handlers, handler.name = name ∧ handler.action = .fill response names := by
  intro names
  obtain ⟨hfind, hwrite⟩ := ok_of_refusing h
  cases hwrite
  have hfresh : ∀ other ∈ db.parameterizedCommands, other.name ≠ (⟨name, response⟩ : ParameterizedCommand).name := by
    simpa using hfind
  have hsorted : names.Pairwise (· ≤ ·) := pairwise_mergeSort_names _
  refine ⟨?_, mergeSort_perm _ _, hsorted, ⟨fun heq => heq ▸ hsorted, fun hgiven => ?_⟩, ?_⟩
  · exact congrArg (fun rows => Except.ok (rows, _)) (rows_withParameterized howned hfresh parameters Prod.mk)
  · exact mergeSort_of_pairwise (by simpa using hgiven)
  · intro bot handlers _ hdb hload
    obtain ⟨-, own, hown, rfl⟩ := ok_of_loadHandlers hload
    rw [hdb] at hown
    have hstored := (storedCommands_withParameterized howned hfresh parameters).mem_iff.2 mem_cons_self
    obtain ⟨handler, hhandler, hc⟩ := Trigger.exists_right_of_forall₂ hown hstored
    obtain ⟨pattern, action, -, haction, rfl⟩ := StoredCommand.handler_eq_ok.1 hc
    cases haction
    exact ⟨_, mem_append_left _ hhandler, rfl, rfl⟩

theorem parameters_sorted_greet : ParametersOwned {} ∧ ∃ db' names,
    (addParameterizedCommand "greet" "hi" ["who ", "", "how", "who"]).run {} = .ok (⟨"greet", "hi"⟩, db') ∧
    getParameterizedCommands.run db' = .ok ([(⟨"greet", "hi"⟩, names)], db') ∧
    names.Perm ["who", "how"] ∧ names.Pairwise (· ≤ ·) := by
  have howned : ParametersOwned {} := fun _ h => absurd h not_mem_nil
  have hadd : (addParameterizedCommand "greet" "hi" ["who ", "", "how", "who"]).run {} = .ok (⟨"greet", "hi"⟩, _) :=
    addParameterizedCommand_run ⟨"greet", "hi"⟩ (by simp) _
  obtain ⟨hread, hperm, hsorted, -, -⟩ := parameters_sorted howned hadd
  have hnames : parameterNames ["who ", "", "how", "who"] = ["who", "how"] := by decide +kernel
  exact ⟨howned, _, _, hadd, hread, hnames ▸ hperm, hsorted⟩

/-- Two parameters change places. -/
theorem exists_parameters_not_kept : ∃ db', (addParameterizedCommand "p" "r" ["z", "a"]).run {} = .ok (⟨"p", "r"⟩, db') ∧
    parameterNames ["z", "a"] = ["z", "a"] ∧ db'.parametersOf "p" ≠ ["z", "a"] := by
  refine ⟨_, addParameterizedCommand_run ⟨"p", "r"⟩ (by simp) _, by decide +kernel, fun hkept => ?_⟩
  rw [parametersOf] at hkept
  have hsorted : ["z", "a"].Pairwise (· ≤ ·) := hkept ▸ pairwise_mergeSort_names _
  revert hsorted
  decide

end StreamBot.Bot

namespace StreamBot.Text

open List

variable {d new rest x : List Char} {c : Char}

/-- All occurrences of a text replaced. -/
def replaced (d new cs : List Char) : List Char := glue new (pieces d cs)

theorem piecesFrom_skip (d : List Char) (skip : ℕ) (cs : List Char) : piecesFrom d skip cs = pieces d (cs.drop skip) := by
  induction cs generalizing skip with
  | nil => cases skip <;> rfl
  | cons c cs ih =>
    cases skip with
    | zero => rfl
    | succ skip => exact ih skip

theorem replaced_append (hd : d ≠ []) : replaced d new (d ++ rest) = new ++ replaced d new rest := by
  obtain ⟨c, more, rfl⟩ := exists_cons_of_ne_nil hd
  have hcut : pieces (c :: more) (c :: (more ++ rest)) = [] :: pieces (c :: more) rest := by
    rw [pieces, piecesFrom, piecesFrom_skip]
    simp
  have hsome : pieces (c :: more) rest ≠ [] := piecesFrom_ne_nil _ _ _
  rw [replaced, replaced, cons_append, hcut, glue_eq_intercalate, intercalate_cons_of_ne_nil hsome, glue_eq_intercalate,
    nil_append]

theorem replaced_cons (h : ¬d <+: c :: rest) : replaced d new (c :: rest) = c :: replaced d new rest := by
  obtain ⟨piece, more, hpieces⟩ := exists_cons_of_ne_nil (piecesFrom_ne_nil d 0 rest)
  rw [replaced, replaced, pieces, pieces, piecesFrom, if_neg (mt isPrefixOf_iff_prefix.1 h), hpieces, glue_eq_intercalate,
    glue_eq_intercalate, intercalate_cons_cons_left]

/-- A text occurs nowhere if its first character does not. -/
theorem replaced_append_of_not_mem (hx : c ∉ x) : replaced (c :: d) new (x ++ rest) = x ++ replaced (c :: d) new rest := by
  induction x with
  | nil => rfl
  | cons a x ih =>
    obtain ⟨ha, hx⟩ := not_or.1 (mt mem_cons.2 hx)
    rw [cons_append, replaced_cons fun h => ha (cons_prefix_cons.1 h).1, ih hx]
    rfl

end StreamBot.Text

namespace StreamBot.Chat

open List Text

variable {values ordered : List (String × String)} {response : String}

/-- A part of a response: a text that opens no brace, or a name without braces in braces. -/
inductive Part where
  | text (cs : List Char) (plain : '\x7b' ∉ cs)
  | slot (name : String) (plain : '\x7b' ∉ name.toList ∧ '\x7d' ∉ name.toList)

/-- The part with the text that a name stands for, if it stands for one. -/
def Part.filled (f : String → Option String) : Part → List Char
  | .text cs _ => cs
  | .slot name _ => ((f name).getD (placeholder name)).toList

/-- A name in braces. -/
def braced (name : String) : List Char := '\x7b' :: (name.toList ++ ['\x7d'])

theorem toList_placeholder (name : String) : (placeholder name).toList = braced name := by
  simp [placeholder, braced]

theorem toList_replace (s name value : String) :
    (Text.replace s (placeholder name) value).toList = replaced (braced name) value.toList s.toList := by
  have hne : (placeholder name).isEmpty = false := by
    rw [← Bool.not_eq_true, String.isEmpty_iff]
    intro hempty
    have hlist := toList_placeholder name
    simp [hempty, braced] at hlist
  rw [Text.replace, hne, Text.join, Text.splitOn, toList_placeholder]
  simp [replaced, String.toList_comp_ofList]

theorem eq_of_braced_leads {name other : String} {rest : List Char} (hname : '\x7d' ∉ name.toList)
    (hother : '\x7d' ∉ other.toList) (h : braced name <+: braced other ++ rest) : name = other := by
  obtain ⟨t, ht⟩ := h
  simp only [braced, cons_append, append_assoc, cons.injEq, true_and] at ht
  have hnames := congrArg (takeWhile (· != '\x7d')) ht
  have hplain {cs : List Char} (hcs : '\x7d' ∉ cs) : ∀ c ∈ cs, (c != '\x7d') :=
    fun c hc => bne_iff_ne.2 fun heq => hcs (heq ▸ hc)
  rw [takeWhile_append_of_pos (hplain hname), takeWhile_append_of_pos (hplain hother)] at hnames
  exact String.toList_inj.1 (by simpa using hnames)

/-- **One more name gets its text**, since nothing else opens a brace. -/
theorem replaced_filled {f : String → Option String} {name value : String}
    (hf : ∀ n v, f n = some v → '\x7b' ∉ v.toList) (hname : '\x7d' ∉ name.toList) (hnew : f name = none) (parts : List Part) :
    replaced (braced name) value.toList (parts.flatMap (Part.filled f)) =
      parts.flatMap (Part.filled fun n => (f n).or (if n = name then some value else none)) := by
  induction parts with
  | nil => rfl
  | cons part parts ih =>
    rw [flatMap_cons, flatMap_cons, ← ih]
    cases part with
    | text cs hcs => exact replaced_append_of_not_mem hcs
    | slot other hother =>
      rw [Part.filled, Part.filled]
      cases hvalue : f other with
      | some v => exact replaced_append_of_not_mem (hf other v hvalue)
      | none =>
        rw [Option.getD_none, Option.none_or, toList_placeholder]
        by_cases heq : other = name
        · subst heq
          have hne : braced other ≠ [] := cons_ne_nil _ _
          rw [if_pos rfl, replaced_append hne]
          rfl
        · have hopen : '\x7b' ∉ other.toList ++ ['\x7d'] := by simpa using hother.1
          rw [if_neg heq, Option.getD_none, toList_placeholder]
          refine (replaced_cons fun hprefix => ?_).trans (congrArg _ (replaced_append_of_not_mem hopen))
          exact heq (eq_of_braced_leads hname hother.2 hprefix).symm

theorem fillConstants_filled {parts : List Part} (hresponse : response.toList = parts.flatMap (Part.filled fun _ => none))
    (hdistinct : (Dict.keys values).Nodup) (hnames : ∀ v ∈ values, '\x7d' ∉ v.1.toList)
    (hvalues : ∀ v ∈ values, '\x7b' ∉ v.2.toList) :
    (fillConstants values response).toList = parts.flatMap (Part.filled (Dict.get? values)) := by
  induction values using reverseRecOn with
  | nil => exact hresponse
  | append_singleton values last ih =>
    obtain ⟨name, value⟩ := last
    obtain ⟨hnames, hname⟩ := forall_mem_append.1 hnames
    obtain ⟨hvalues, -⟩ := forall_mem_append.1 hvalues
    rw [Dict.keys, map_append, nodup_append] at hdistinct
    have hstep : fillConstants (values ++ [(name, value)]) response =
        Text.replace (fillConstants values response) (placeholder name) value := by simp [fillConstants]
    have hget : Dict.get? (values ++ [(name, value)]) =
        fun n => (Dict.get? values n).or (if n = name then some value else none) := by
      funext n
      rw [Dict.get?, lookup_append]
      by_cases hn : n = name
      · simp [Dict.get?, hn]
      · simp [Dict.get?, lookup_cons, hn, beq_eq_false_iff_ne.2 hn]
    have hopen (n v : String) (hv : Dict.get? values n = some v) : '\x7b' ∉ v.toList := hvalues (n, v) (Dict.mem_of_get? hv)
    have hnew : Dict.get? values name = none := by
      cases hvalue : Dict.get? values name with
      | none => rfl
      | some v => exact absurd rfl (hdistinct.2.2 name (mem_map.2 ⟨_, Dict.mem_of_get? hvalue, rfl⟩) name (by simp))
    rw [hstep, toList_replace, ih hdistinct.1 hnames hvalues, hget,
      replaced_filled hopen (hname (name, value) (mem_singleton_self _)) hnew]

theorem get?_perm (hperm : ordered.Perm values) (hdistinct : (Dict.keys values).Nodup) (name : String) :
    Dict.get? ordered name = Dict.get? values name := by
  have hordered : (Dict.keys ordered).Nodup := (hperm.map _).nodup_iff.2 hdistinct
  cases hvalue : Dict.get? values name with
  | some v => exact Dict.get?_of_mem hordered (hperm.mem_iff.2 (Dict.mem_of_get? hvalue))
  | none =>
    cases hother : Dict.get? ordered name with
    | none => rfl
    | some v =>
      have hsome := Dict.get?_of_mem hdistinct (hperm.mem_iff.1 (Dict.mem_of_get? hother))
      rw [hvalue] at hsome
      cases hsome

/-- Arguments are filled in like constants, one after the other; what is too much does not count. -/
theorem injectArguments?_eq_fillConstants (h : (Dict.keys values).Nodup) (more : List String) :
    Handler.injectArguments? response (values.map (·.1)) (values.map (·.2) ++ more) = some (fillConstants values response) := by
  have hzip (values : List (String × String)) : (values.map (·.1)).zip (values.map (·.2) ++ more) = values := by
    induction values with
    | nil => rfl
    | cons v values ih => simp [ih]
  have hset : values.foldl (fun found v => Dict.set found (placeholder v.1) v.2) [] =
      values.map fun v => (placeholder v.1, v.2) := by
    induction values with
    | nil => rfl
    | cons v values ih =>
      obtain ⟨hv, hvalues⟩ := nodup_cons.1 h
      have hnew : placeholder v.1 ∉ Dict.keys (values.map fun v => (placeholder v.1, v.2)) := by
        intro hmem
        obtain ⟨w, hw, heq⟩ : ∃ w ∈ values, placeholder w.1 = placeholder v.1 := by simpa [Dict.keys] using hmem
        have hbraced := congrArg String.toList heq
        rw [toList_placeholder, toList_placeholder] at hbraced
        exact hv (mem_map.2 ⟨w, hw, String.toList_inj.1 (by simpa [braced] using hbraced)⟩)
      have hfirst := Dict.foldl_set_cons_of_ne (p := (placeholder v.1, v.2)) (d := []) hnew
      rw [foldl_map, foldl_map, ih hvalues] at hfirst
      exact hfirst
  rw [Handler.injectArguments?, if_neg (by simp), hzip]
  simp only [hset, foldl_map]
  rfl

/-- **Arguments are filled in at the same time**, whatever the order of the parameters, if the arguments open no brace and the
response opens braces around names only. -/
theorem injectArguments?_filled {parts : List Part} (hresponse : response.toList = parts.flatMap (Part.filled fun _ => none))
    (hdistinct : (Dict.keys values).Nodup) (hnames : ∀ v ∈ values, '\x7d' ∉ v.1.toList)
    (hvalues : ∀ v ∈ values, '\x7b' ∉ v.2.toList) (hperm : ordered.Perm values) (more : List String) :
    Handler.injectArguments? response (ordered.map (·.1)) (ordered.map (·.2) ++ more) =
      some (String.ofList (parts.flatMap (Part.filled (Dict.get? values)))) := by
  have hordered : (Dict.keys ordered).Nodup := (hperm.map _).nodup_iff.2 hdistinct
  have hfilled := fillConstants_filled hresponse hordered (fun v hv => hnames v (hperm.mem_iff.1 hv))
    fun v hv => hvalues v (hperm.mem_iff.1 hv)
  rw [injectArguments?_eq_fillConstants hordered, ← funext (get?_perm hperm hdistinct), ← hfilled, String.ofList_toList]

theorem injectArguments?_filled_greeting :
    Handler.injectArguments? "\x7bwho\x7d: \x7bhow\x7d \x7bx\x7d" ["who", "how"] ["you", "fine\x7d", "more"] =
      some "you: fine\x7d \x7bx\x7d" := by
  have hparts : ∃ parts : List Part, "\x7bwho\x7d: \x7bhow\x7d \x7bx\x7d".toList = parts.flatMap (Part.filled fun _ => none) ∧
      parts.flatMap (Part.filled (Dict.get? [("how", "fine\x7d"), ("who", "you")])) = "you: fine\x7d \x7bx\x7d".toList :=
    ⟨[.slot "who" (by decide), .text [':', ' '] (by decide), .slot "how" (by decide), .text [' '] (by decide),
      .slot "x" (by decide)], by decide +kernel, by decide +kernel⟩
  obtain ⟨parts, hresponse, hfilled⟩ := hparts
  have hperm : [("who", "you"), ("how", "fine\x7d")].Perm [("how", "fine\x7d"), ("who", "you")] := .swap _ _ _
  refine (injectArguments?_filled hresponse (by decide) (by decide) (by decide) hperm ["more"]).trans ?_
  rw [hfilled, String.ofList_toList]

/-- An argument with braces is taken for the place of the next parameter. -/
theorem injectArguments?_braced : Handler.injectArguments? "\x7ba\x7d" ["a", "b"] ["\x7bb\x7d", "x"] = some "x" := by
  decide +kernel

end StreamBot.Chat
