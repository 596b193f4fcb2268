import Mathlib
import StreamBot.Database.Users

/-! # Whose tokens are kept

The tokens of a user are stored in the row whose number the user's identifier is, if there is such a row, and in a new row
otherwise.  A row stays with the user for whom it was made, so tokens may come to belong to somebody else (`keeper`).

Main statement: `found_after_store`.  Users find what was stored for them last, unless the identifier is the number of
somebody else's row (`exists_tokens_astray`) or tokens that were stored before do not expire earlier.
-/

namespace StreamBot.Database

open List

variable (db : Database)

/-! ### Histories -/

/-- The tables after an operation; one that is refused leaves them as they are. -/
def Operation.after {α : Type} (o : Operation α) (db : Database) : Database :=
  match o.run db with
  | .ok (_, db') => db'
  | .error _ => db

inductive TokenCall where
  | store (userId accessToken refreshToken : String) (expiresAt : Int)
  | lookUp (userId : String)
  | delete (userId : String)

def TokenCall.after (db : Database) : TokenCall → Database
  | store userId access refresh expiresAt => (addOrUpdateTwitchTokenSet userId access refresh expiresAt).after db
  | lookUp userId => (getTwitchTokenSet userId).after db
  | delete userId => (deleteTwitchTokenSet userId).after db

def afterCalls (calls : List TokenCall) : Database := calls.foldl TokenCall.after {}

def found (db : Database) (userId : String) : Option TokenSet :=
  (db.tokenSets.filter (·.userId == userId)).foldl laterTokenSet none

theorem getTwitchTokenSet_run (userId : String) : (getTwitchTokenSet userId).run db = .ok (db.found userId, db) := rfl

/-! ### Rows and their numbers -/

def numbered (db : Database) (userId : String) : Option TokenSet :=
  db.tokenSets.find? fun row => keyNumber? userId == some row.id

/-- The user to whom tokens belong that are stored for a user. -/
def keeper (db : Database) (userId : String) : String := (db.numbered userId).elim userId (·.userId)

def withTokens (db : Database) (userId access refresh : String) (expiresAt : Int) : Database := { db with
  tokenSets := db.tokenSets ++ [⟨nextId (·.id) db.tokenSets, userId, access, refresh, expiresAt⟩] }

def TokenSet.renewed (row : TokenSet) (access refresh : String) (expiresAt : Int) : TokenSet :=
  { row with accessToken := access, refreshToken := refresh, expiresAt := expiresAt }

/-- The tables with other tokens in the row with a number. -/
def withTokensAt (db : Database) (id : Int) (access refresh : String) (expiresAt : Int) : Database := { db with
  tokenSets := change (·.id == id) (·.renewed access refresh expiresAt) db.tokenSets }

variable {db : Database} {userId access refresh v : String} {expiresAt : Int} {row : TokenSet} {α : Type}

theorem after_store (userId access refresh : String) (expiresAt : Int) :
    (addOrUpdateTwitchTokenSet userId access refresh expiresAt).after db = (db.numbered userId).elim
      (db.withTokens userId access refresh expiresAt) fun row => db.withTokensAt row.id access refresh expiresAt := by
  have hrun : (addOrUpdateTwitchTokenSet userId access refresh expiresAt).run db = .ok (_, _) := rfl
  rw [Operation.after, hrun]
  dsimp only
  cases hrow : db.numbered userId <;> (unfold numbered at hrow; rw [hrow]) <;> rfl

def TokensNumbered (db : Database) : Prop := (db.tokenSets.map (·.id)).Nodup

theorem lt_nextId (id : α → Int) {rows : List α} {row : α} (h : row ∈ rows) : id row < nextId id rows := by
  have hmax : (0 :: rows.map id).max? = some (rows.foldl (fun n row => max n (id row)) 0) := by
    rw [max?_cons', foldl_map]
  exact Int.lt_add_one_iff.2 ((max?_eq_some_iff.1 hmax).2 _ (mem_cons_of_mem 0 (mem_map_of_mem h)))

theorem TokensNumbered.withTokens (h : db.TokensNumbered) (userId access refresh : String) (expiresAt : Int) :
    (db.withTokens userId access refresh expiresAt).TokensNumbered := by
  unfold TokensNumbered Database.withTokens
  rw [map_append, nodup_append]
  refine ⟨h, nodup_singleton _, ?_⟩
  rintro n hn m hm rfl
  obtain ⟨row, hrow, rfl⟩ := mem_map.1 hn
  exact (lt_nextId TokenSet.id hrow).ne (mem_singleton.1 hm)

theorem TokensNumbered.withTokensAt (h : db.TokensNumbered) (id : Int) (access refresh : String) (expiresAt : Int) :
    (db.withTokensAt id access refresh expiresAt).TokensNumbered := by
  have hids : (db.withTokensAt id access refresh expiresAt).tokenSets.map (·.id) = db.tokenSets.map (·.id) := by
    rw [Database.withTokensAt, change, map_map]
    refine map_congr_left fun row _ => ?_
    rw [Function.comp_apply]
    split <;> rfl
  rw [TokensNumbered, hids]
  exact h

theorem TokensNumbered.after (h : db.TokensNumbered) (call : TokenCall) : (call.after db).TokensNumbered := by
  cases call with
  | store userId access refresh expiresAt =>
    rw [TokenCall.after, after_store]
    cases db.numbered userId with
    | none => exact h.withTokens ..
    | some row => exact h.withTokensAt ..
  | lookUp userId => exact h
  | delete userId => exact (filter_sublist.map _).nodup h

theorem tokensNumbered_afterCalls (calls : List TokenCall) : (afterCalls calls).TokensNumbered := by
  suffices h : ∀ db : Database, db.TokensNumbered → (calls.foldl TokenCall.after db).TokensNumbered from
    h {} nodup_nil
  induction calls with
  | nil => exact fun _ h => h
  | cons call calls ih => exact fun db h => ih _ (h.after call)

/-! ### The tokens that expire last -/

theorem found_eq_argmax (v : String) : db.found v = (db.tokenSets.filter (·.userId == v)).argmax (·.expiresAt) := by
  have hlater : laterTokenSet = argAux fun row best => best.expiresAt < row.expiresAt := by
    funext best row
    cases best <;> rfl
  rw [found, hlater]
  rfl

theorem found_of_lt (hrow : row ∈ db.tokenSets)
    (hlast : ∀ other ∈ db.tokenSets, other.userId = row.userId → other ≠ row → other.expiresAt < row.expiresAt) :
    db.found row.userId = some row := by
  have hlt : ∀ other ∈ db.tokenSets.filter (·.userId == row.userId), other ≠ row → other.expiresAt < row.expiresAt := by
    intro other hother
    obtain ⟨hmem, huser⟩ := mem_filter.1 hother
    exact hlast other hmem (beq_iff_eq.1 huser)
  rw [found_eq_argmax, argmax_eq_some_iff]
  refine ⟨mem_filter.2 ⟨hrow, beq_self_eq_true _⟩, fun other hother => ?_, fun other hother hle => ?_⟩
  · by_cases heq : other = row
    · rw [heq]
    · exact (hlt other hother heq).le
  · by_cases heq : other = row
    · rw [heq]
    · exact absurd (hlt other hother heq) hle.not_gt

/-! ### What is found after tokens were stored -/

theorem found_withTokens_of_ne (h : v ≠ userId) :
    (db.withTokens userId access refresh expiresAt).found v = db.found v := by
  rw [found, withTokens, filter_append, filter_singleton, beq_eq_false_iff_ne.2 h.symm, cond_false, append_nil]
  rfl

theorem found_withTokens_of_lt (h : ∀ row ∈ db.tokenSets, row.userId = userId → row.expiresAt < expiresAt) :
    (db.withTokens userId access refresh expiresAt).found userId =
      some ⟨nextId (·.id) db.tokenSets, userId, access, refresh, expiresAt⟩ := by
  have hnew : ⟨nextId (·.id) db.tokenSets, userId, access, refresh, expiresAt⟩ ∈
      (db.withTokens userId access refresh expiresAt).tokenSets := mem_append_right _ (mem_singleton_self _)
  refine found_of_lt hnew fun other hother huser hne => ?_
  rcases mem_append.1 hother with hother | hother
  · exact h other hother huser
  · exact absurd (mem_singleton.1 hother) hne

theorem found_withTokens_of_le (hrow : row ∈ db.tokenSets) (huser : row.userId = userId) (hle : expiresAt ≤ row.expiresAt) :
    (db.withTokens userId access refresh expiresAt).found userId = db.found userId := by
  have hown : row ∈ db.tokenSets.filter (·.userId == userId) := mem_filter.2 ⟨hrow, beq_iff_eq.2 huser⟩
  rw [found_eq_argmax, found_eq_argmax, withTokens, filter_append, filter_singleton, beq_self_eq_true, cond_true,
    argmax_concat]
  cases hlast : (db.tokenSets.filter (·.userId == userId)).argmax (·.expiresAt) with
  | none => exact absurd hown (argmax_eq_none.1 hlast ▸ not_mem_nil)
  | some last => exact if_neg (hle.trans (le_of_mem_argmax hown hlast)).not_gt

theorem found_withTokensAt_of_ne (hnumbered : db.TokensNumbered) (hrow : row ∈ db.tokenSets)
    (h : v ≠ row.userId) : (db.withTokensAt row.id access refresh expiresAt).found v = db.found v := by
  have hfilter : (db.withTokensAt row.id access refresh expiresAt).tokenSets.filter (·.userId == v) =
      change (·.id == row.id) (·.renewed access refresh expiresAt) (db.tokenSets.filter (·.userId == v)) := by
    rw [withTokensAt, change, filter_map]
    congr 2
    funext other
    rw [Function.comp_apply]
    split <;> rfl
  rw [found, hfilter, found]
  congr 1
  refine (map_congr_left fun other hother => if_neg fun hid => ?_).trans (map_id _)
  obtain ⟨hother, hv⟩ := mem_filter.1 hother
  rw [inj_on_of_nodup_map hnumbered hother hrow (beq_iff_eq.1 hid)] at hv
  exact h (beq_iff_eq.1 hv).symm

theorem found_withTokensAt (hnumbered : db.TokensNumbered) (hrow : row ∈ db.tokenSets)
    (hlast : ∀ other ∈ db.tokenSets, other.userId = row.userId → other.id ≠ row.id → other.expiresAt < expiresAt) :
    (db.withTokensAt row.id access refresh expiresAt).found row.userId = some (row.renewed access refresh expiresAt) := by
  have hrenewed : row.renewed access refresh expiresAt ∈ (db.withTokensAt row.id access refresh expiresAt).tokenSets :=
    mem_map.2 ⟨row, hrow, if_pos (beq_self_eq_true _)⟩
  refine found_of_lt hrenewed fun other hother huser hne => ?_
  obtain ⟨former, hformer, rfl⟩ := mem_map.1 hother
  by_cases hid : former.id = row.id
  · rw [if_pos (beq_iff_eq.2 hid), inj_on_of_nodup_map hnumbered hformer hrow hid] at hne
    exact absurd rfl hne
  · rw [if_neg (hid ∘ beq_iff_eq.1)] at huser ⊢
    exact hlast former hformer huser hid

theorem numbered_spec (h : db.numbered userId = some row) : row ∈ db.tokenSets ∧ keyNumber? userId = some row.id :=
  ⟨mem_of_find?_eq_some h, by simpa using find?_some h⟩

/-- Storing tokens for a user is seen by their keeper, and by nobody else.  The keeper is the user, unless somebody else's
row has the user's identifier for a number.  The keeper finds the new tokens if all others expire earlier; a user without
such a row who has tokens that do not expire earlier still finds what was found before. -/
theorem found_after_store (calls : List TokenCall) (userId access refresh : String) (expiresAt : Int) :
    let db := afterCalls calls
    let stored := (addOrUpdateTwitchTokenSet userId access refresh expiresAt).after db
    (db.keeper userId = userId ∨
      ∃ row ∈ db.tokenSets, row.userId = db.keeper userId ∧ keyNumber? userId = some row.id) ∧
    (∀ v, v ≠ db.keeper userId → ∃ tokens,
      (getTwitchTokenSet v).run db = .ok (tokens, db) ∧ (getTwitchTokenSet v).run stored = .ok (tokens, stored)) ∧
    ((∀ row ∈ db.tokenSets, row.userId = db.keeper userId → keyNumber? userId ≠ some row.id → row.expiresAt < expiresAt) →
      ∃ id, (getTwitchTokenSet (db.keeper userId)).run stored =
        .ok (some ⟨id, db.keeper userId, access, refresh, expiresAt⟩, stored)) ∧
    (db.numbered userId = none → (∃ row ∈ db.tokenSets, row.userId = userId ∧ expiresAt ≤ row.expiresAt) → ∃ tokens,
      (getTwitchTokenSet userId).run db = .ok (tokens, db) ∧
        (getTwitchTokenSet userId).run stored = .ok (tokens, stored)) := by
  have hnumbered := tokensNumbered_afterCalls calls
  generalize afterCalls calls = db at hnumbered
  dsimp only
  rw [after_store, keeper]
  simp only [getTwitchTokenSet_run]
  cases hrow : db.numbered userId with
  | none =>
    dsimp only [Option.elim]
    refine ⟨.inl rfl, fun v hv => ⟨_, rfl, ?_⟩, fun hlast => ⟨nextId (·.id) db.tokenSets, ?_⟩,
      fun _ ⟨row, hmem, huser, hle⟩ => ⟨_, rfl, ?_⟩⟩
    · rw [found_withTokens_of_ne hv]
    · rw [found_withTokens_of_lt]
      intro row hmem huser
      refine hlast row hmem huser fun hkey => ?_
      simpa [hkey] using find?_eq_none.1 hrow row hmem
    · rw [found_withTokens_of_le hmem huser hle]
  | some row =>
    obtain ⟨hmem, hid⟩ := numbered_spec hrow
    dsimp only [Option.elim]
    refine ⟨.inr ⟨row, hmem, rfl, hid⟩, fun v hv => ⟨_, rfl, ?_⟩, fun hlast => ⟨row.id, ?_⟩, fun hnone => ?_⟩
    · rw [found_withTokensAt_of_ne hnumbered hmem hv]
    · rw [found_withTokensAt hnumbered hmem]
      · rfl
      · intro other hother huser hne
        refine hlast other hother huser fun hkey => hne ?_
        rw [hid] at hkey
        exact (Option.some.inj hkey).symm
    · cases hnone

theorem found_after_store_second : let db := afterCalls [.store "7" "a" "r" 10, .store "8" "b" "s" 20]
    let stored := (addOrUpdateTwitchTokenSet "8" "c" "t" 30).after db
    (∀ row ∈ db.tokenSets, row.userId = db.keeper "8" → keyNumber? "8" ≠ some row.id → row.expiresAt < 30) ∧
      db.keeper "8" = "8" ∧ ∃ id, (getTwitchTokenSet "8").run stored = .ok (some ⟨id, "8", "c", "t", 30⟩, stored) := by
  have hlast : ∀ row ∈ (afterCalls [.store "7" "a" "r" 10, .store "8" "b" "s" 20]).tokenSets,
      row.userId = (afterCalls [.store "7" "a" "r" 10, .store "8" "b" "s" 20]).keeper "8" → keyNumber? "8" ≠ some row.id →
        row.expiresAt < 30 := by decide
  exact ⟨hlast, rfl, (found_after_store [.store "7" "a" "r" 10, .store "8" "b" "s" 20] "8" "c" "t" 30).2.2.1 hlast⟩

/-- Two users log in, the first of them has row 1, and the second one has the identifier 1: the second user finds nothing, and
the first one finds the tokens of the second. -/
theorem exists_tokens_astray : ∃ (calls : List TokenCall) (userId v : String), v ≠ userId ∧ let db := afterCalls calls
    let stored := (addOrUpdateTwitchTokenSet userId "their access" "their refresh" 20).after db
    (getTwitchTokenSet userId).run stored = .ok (none, stored) ∧
      (getTwitchTokenSet v).run db = .ok (some ⟨1, v, "access", "refresh", 10⟩, db) ∧
      (getTwitchTokenSet v).run stored = .ok (some ⟨1, v, "their access", "their refresh", 20⟩, stored) := by
  refine ⟨[.store "7" "access" "refresh" 10], "1", "7", by decide, ?_, ?_, ?_⟩ <;> rfl

end StreamBot.Database
