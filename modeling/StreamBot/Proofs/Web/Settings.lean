import StreamBot.Bot.Scripts
import StreamBot.Proofs.Text.Trimming
import StreamBot.Proofs.Web.Keeping

/-! # Settings that were accepted

Numbers among the settings are read with a sign, with blanks around them and in the digits of any script, and stored in
plain digits, so that they are read again as what they were (`integer?_toString`).  A limit of zero is accepted all the same,
though no limit is read from it.

Main statement: `settings_readable`.
-/

namespace StreamBot.Text

open List

/-- What is to be known of a plain digit. -/
theorem digit_laws {c : Char} (h : c.isDigit) :
    isDigit c ∧ isBlank c = false ∧ decimalValue? c = some (c.toNat - '0'.toNat) ∧ c ∉ ['-', '+', '_'] := by
  have hrange : 48 ≤ c.toNat ∧ c.toNat ≤ 57 := by simpa [Char.isDigit, Char.le_def, UInt32.le_iff_toNat_le] using h
  obtain ⟨d, hd, rfl⟩ : ∃ d < 10, Char.ofNat (48 + d) = c :=
    ⟨c.toNat - 48, by omega, by rw [Nat.add_sub_cancel' hrange.1, Char.ofNat_toNat]⟩
  clear h hrange
  revert d
  decide +kernel

theorem moreDigits?_of_digits {ds : List Char} (h : ∀ c ∈ ds, c.isDigit) :
    moreDigits? ds = some (ds.map fun c => c.toNat - '0'.toNat) := by
  induction ds with
  | nil => rfl
  | cons c ds ih =>
    obtain ⟨hc, hds⟩ := forall_mem_cons.1 h
    obtain ⟨-, -, hvalue, hmarks⟩ := digit_laws hc
    rw [moreDigits?, hvalue, ih hds]
    · rfl
    · rintro _ _ rfl
      simp at hmarks

theorem toString_laws (n : ℕ) : (toString n).toList ≠ [] ∧ (∀ c ∈ (toString n).toList, c.isDigit) ∧
    Nat.ofDigitChars 10 (toString n).toList 0 = n := by
  rw [show (toString n).toList = Nat.toDigits 10 n from Nat.toList_repr]
  exact ⟨Nat.toDigits_ne_nil, fun _ => Nat.isDigit_of_mem_toDigits (by decide) (by decide),
    Nat.ofDigitChars_toDigits (by decide) (by decide)⟩

theorem isDigits_toString (n : ℕ) : isDigits (toString n) := by
  obtain ⟨-, hdigits, -⟩ := toString_laws n
  have hempty : (toString n).isEmpty = false := by simp
  rw [isDigits, hempty, Bool.not_false, Bool.true_and, all_eq_true]
  exact fun c hc => (digit_laws (hdigits c hc)).1

theorem integer?_toString (n : ℕ) : integer? (toString n) = some (n : Int) := by
  obtain ⟨hne, hdigits, hvalue⟩ := toString_laws n
  rw [integer?]
  generalize (toString n).toList = ds at *
  have hblank (c : Char) (hc : c ∈ ds) : ¬ isBlank c := by simp [(digit_laws (hdigits c hc)).2.1]
  have htrim : trim ds = ds :=
    Ends.stripped_eq ⟨fun c hc => hblank c (mem_of_mem_head? hc), fun c hc => hblank c (mem_of_mem_getLast? hc)⟩
  have hread : digits? ds = some (ds.map fun c => c.toNat - '0'.toNat) := by
    cases ds with
    | nil => contradiction
    | cons c ds =>
      obtain ⟨hc, hds⟩ := forall_mem_cons.1 hdigits
      rw [digits?, (digit_laws hc).2.2.1, moreDigits?_of_digits hds]
      rfl
  have hdigitsValue : ofDigits (ds.map fun c => c.toNat - '0'.toNat) = n := by
    rw [ofDigits, foldl_map, ← hvalue, Nat.ofDigitChars]
    simp only [Nat.mul_comm]
  rw [htrim]
  split
  · exact absurd (hdigits '-' mem_cons_self) (by decide)
  · exact absurd (hdigits '+' mem_cons_self) (by decide)
  · rw [hread, Option.map_some, hdigitsValue]

end StreamBot.Text

namespace StreamBot.Web

open List Database

variable {site after saved : Site} {r : Request} {reply : Reply}

/-- The number that a form enters in a field, whatever blanks are around it. -/
def Request.number? (r : Request) (name : String) : Option Int :=
  (Dict.get? r.form name).bind fun text => Text.integer? (Text.strip text)

theorem integer?_of_requireAtLeast {least n : Int} {text complaint : String}
    (h : requireAtLeast least text complaint site = (.ok n, after)) :
    Text.integer? (Text.strip text) = some n ∧ least ≤ n := by
  unfold requireAtLeast at h
  cases hn : Text.integer? (Text.strip text) with
  | none =>
    rw [hn] at h
    cases h
  | some m =>
    rw [hn] at h
    dsimp only at h
    split at h
    · cases h
    · next hleast =>
      cases h
      exact ⟨rfl, not_lt.1 hleast⟩

theorem settings_of_store {values : List (SettingKind × String)} {u : PUnit}
    (h : values.forM (fun p => perform (storeConfigurationSetting p.1 p.2)) site = (.ok u, after)) :
    after.bot.database.settings = values.foldl (fun d p => Dict.set d p.1 p.2) site.bot.database.settings := by
  induction values generalizing site with
  | nil =>
    cases h
    rfl
  | cons p values ih =>
    obtain ⟨_, between, hfirst, hrest⟩ := run_ok_of_bind h
    obtain ⟨db, hrun, hbot⟩ := Bot.ok_of_perform (ok_of_onBot hfirst)
    cases hrun
    rw [ih hrest, hbot]
    rfl

/-- What was stored for a setting is read as a number again. -/
theorem limitOf_toString (site : Site) {n : Int} (h : 0 ≤ n) : limitOf (some (toString n)) site =
    (if 0 < n then .ok n else .error (.refused 500
      "Soundboard configuration is invalid. Please contact the administrator."), site) := by
  obtain ⟨m, rfl⟩ := Int.eq_ofNat_of_zero_le h
  have hpositive : positive? (toString (m : Int)) site = (.ok (if (m : Int) < 1 then none else some (m : Int)), site) := by
    unfold positive? digitsValue
    rw [show toString (m : Int) = toString m from rfl, Text.isDigits_toString, Text.integer?_toString]
    rfl
  unfold limitOf
  dsimp only
  rw [run_bind_of_ok hpositive]
  by_cases hm : 0 < (m : Int)
  · rw [if_pos hm, if_neg (by omega)]
    rfl
  · rw [if_neg hm, if_pos (by omega)]
    rfl

theorem setting?_run (h : site.bot.Working "retrieve_configuration_setting") (kind : SettingKind) :
    setting? kind site = (.ok (Dict.get? site.bot.database.settings kind), site) :=
  onBot_of_ok (Bot.perform_of_ok h rfl)

/-- **Settings that were accepted can be read.**  The script timeout is the number that the form entered, and so are the two
limits if they are positive.  A limit of zero is accepted as well, and the limits are refused whenever they are read. -/
theorem settings_readable (haccepted : saveSettings r site = (.ok reply, saved))
    (hworking : saved.bot.Working "retrieve_configuration_setting") :
    ∃ total perUser timeout, r.number? "max_pending_soundboard_clips" = some total ∧
      r.number? "max_pending_soundboard_clips_per_user" = some perUser ∧
      r.number? "script_execution_timeout" = some timeout ∧ 0 ≤ total ∧ 0 ≤ perUser ∧ 1 ≤ timeout ∧
      clipLimits saved = (if 0 < total ∧ 0 < perUser then .ok ⟨total, perUser⟩ else .error (.refused 500
        "Soundboard configuration is invalid. Please contact the administrator."), saved) ∧
      Bot.scriptTimeout saved.bot = (.ok timeout, saved.bot) := by
  -- the texts of the form, what they have to be, and the numbers among them
  obtain ⟨_, _, -, h⟩ := run_ok_of_bind haccepted
  iterate 3 obtain ⟨_, _, -, h⟩ := run_ok_of_bind h
  obtain ⟨totalText, _, htotalText, h⟩ := run_ok_of_bind h
  obtain ⟨perUserText, _, hperUserText, h⟩ := run_ok_of_bind h
  obtain ⟨timeoutText, _, htimeoutText, h⟩ := run_ok_of_bind h
  iterate 5 obtain ⟨_, _, -, h⟩ := run_ok_of_bind h
  obtain ⟨total, _, htotal, h⟩ := run_ok_of_bind h
  obtain ⟨perUser, _, hperUser, h⟩ := run_ok_of_bind h
  obtain ⟨timeout, _, htimeout, h⟩ := run_ok_of_bind h
  obtain ⟨_, stored, hstore, h⟩ := run_ok_of_bind h
  cases h
  obtain ⟨htotal, hleast⟩ := integer?_of_requireAtLeast htotal
  obtain ⟨hperUser, hleast'⟩ := integer?_of_requireAtLeast hperUser
  obtain ⟨htimeout, hpositive⟩ := integer?_of_requireAtLeast htimeout
  have hsettings := settings_of_store hstore
  have htotalSetting : Dict.get? saved.bot.database.settings .maxPendingClips = some (toString total) := by
    rw [hsettings]
    simp [Dict.get?_set_of_ne]
  have hperUserSetting : Dict.get? saved.bot.database.settings .maxPendingClipsPerUser = some (toString perUser) := by
    rw [hsettings]
    simp [Dict.get?_set_of_ne]
  have htimeoutSetting : Dict.get? saved.bot.database.settings .scriptTimeout = some (toString timeout) := by
    rw [hsettings]
    simp
  refine ⟨total, perUser, timeout, ?_, ?_, ?_, hleast, hleast', hpositive, ?_, ?_⟩
  · rw [Request.number?, get?_of_field htotalText, Option.bind_some, htotal]
  · rw [Request.number?, get?_of_field hperUserText, Option.bind_some, hperUser]
  · rw [Request.number?, get?_of_field htimeoutText, Option.bind_some, htimeout]
  · rw [clipLimits, run_bind_of_ok (setting?_run hworking _), run_bind_of_ok (setting?_run hworking _), htotalSetting,
      hperUserSetting]
    have hfirst := limitOf_toString saved hleast
    have hsecond := limitOf_toString saved hleast'
    by_cases hone : 0 < total
    · rw [if_pos hone] at hfirst
      rw [run_bind_of_ok hfirst]
      by_cases htwo : 0 < perUser
      · rw [if_pos htwo] at hsecond
        rw [run_bind_of_ok hsecond, if_pos ⟨hone, htwo⟩]
        rfl
      · rw [if_neg htwo] at hsecond
        rw [run_bind_of_error hsecond, if_neg fun h => htwo h.2]
    · rw [if_neg hone] at hfirst
      rw [run_bind_of_error hfirst, if_neg fun h => hone h.1]
  · have hrun := Bot.perform_of_ok (o := retrieveConfigurationSetting .scriptTimeout) hworking rfl
    obtain ⟨n, rfl⟩ := Int.eq_ofNat_of_zero_le (by omega : 0 ≤ timeout)
    rw [Bot.scriptTimeout, run_bind_of_ok hrun, htimeoutSetting]
    dsimp only
    rw [show toString (n : Int) = toString n from rfl, Text.isDigits_toString, Text.integer?_toString]
    rfl

/-- A form that enters the limits as they are given. -/
def settingsForm (total perUser : String) : Request where
  method := .post
  path := "/admin/"
  form := [("bot_name", "Bot"), ("author_name", "Ann"), ("timezone", "UTC"), ("locale", "en_US"),
    ("max_pending_soundboard_clips", total), ("max_pending_soundboard_clips_per_user", perUser),
    ("script_execution_timeout", "30")]

def office : Site where
  bot := Bot.blank
  address := ""
  zones := []

theorem settings_readable_signed :
    let saved := (saveSettings (settingsForm " +1_0 " "2") office).2
    clipLimits saved = (.ok ⟨10, 2⟩, saved) ∧ Bot.scriptTimeout saved.bot = (.ok 30, saved.bot) := by
  have haccepted : (saveSettings (settingsForm " +1_0 " "2") office).1.isOk := by decide +kernel
  have houtages : (saveSettings (settingsForm " +1_0 " "2") office).2.bot.outages.isEmpty := by decide +kernel
  rcases hrun : saveSettings (settingsForm " +1_0 " "2") office with ⟨failure | reply, saved⟩
  · rw [hrun] at haccepted
    cases haccepted
  · rw [hrun] at houtages
    obtain ⟨total, perUser, timeout, htotal, hperUser, htimeout, -, -, -, hlimits, hread⟩ :=
      settings_readable hrun (Bot.working_of_outages (isEmpty_iff.1 houtages) _)
    cases (htotal.symm.trans (by decide +kernel) : some total = some 10)
    cases (hperUser.symm.trans (by decide +kernel) : some perUser = some 2)
    cases (htimeout.symm.trans (by decide +kernel) : some timeout = some 30)
    exact ⟨hlimits, hread⟩

/-- No clip at all may wait for approval: this is accepted, and then no limits are read. -/
theorem exists_accepted_not_readable : (saveSettings (settingsForm "0" "0") office).1.isOk ∧
    (clipLimits (saveSettings (settingsForm "0" "0") office).2).1.isOk = false := by decide +kernel

end StreamBot.Web
