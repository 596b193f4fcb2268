import Mathlib
import StreamBot.Proofs.Script.Rendering

/-! # Scripts can be written and read again

`render` writes a script as tokens: its stores, its parameters and its statements in their order, definitions with
their types.  Reading the tokens of a script that was read before gives the same script (`parse_render`), with
whatever numerals its numbers are written.
-/

namespace StreamBot.Script

open List Script.Parser

variable {e : Expr} {rest : List Token} {stores : List Store}

namespace Parser

/-! ### Statements and scripts as tokens -/

def renderType : DataType → List Token
  | .string => [word .stringWord "string"]
  | .number => [word .numberWord "number"]
  | .bool => [word .boolWord "bool"]
  | .list element => word .listWord "list" :: word .lessThan "<" :: (renderType element ++ [word .greaterThan ">"])

section RenderScript

variable (numeral : Float → String)

/-- A statement as tokens.  A definition is written with its type. -/
def renderStatement : Statement → List Token
  | .print e => word .printWord "PRINT" :: (renderExpr numeral e ++ [word .semicolon ";"])
  | .assign target e =>
    renderExpr numeral target.read ++ word .equals "=" :: (renderExpr numeral e ++ [word .semicolon ";"])
  | .define name type e =>
    word .letWord "LET" :: word .identifier name :: word .colon ":" :: (renderType type ++
      word .equals "=" :: (renderExpr numeral e ++ [word .semicolon ";"]))

def renderStore (store : Store) : List Token :=
  word .storeWord "STORE" :: word .identifier store.name :: word .equals "=" ::
    (renderExpr numeral store.value ++ [word .semicolon ";"])

def renderNames (names : List String) : List Token := separated (names.map fun name => [word .identifier name])

def renderParameters (parameters : List String) : List Token :=
  if parameters.isEmpty then []
  else word .paramsWord "PARAMS" :: (renderNames parameters ++ [word .semicolon ";"])

/-- A script as tokens, where `numeral` writes the numbers. -/
def render (script : Script) : List Token :=
  script.stores.flatMap (renderStore numeral) ++ (renderParameters script.parameters ++
    script.statements.flatMap (renderStatement numeral))

end RenderScript

theorem dataType_reads (type : DataType) {n : Nat} (hn : (renderType type).length ≤ n) (rest : List Token) :
    Reads (dataType n) (renderType type ++ rest) type rest := by
  induction type generalizing n rest with
  | list element ih =>
    simp only [renderType, length_cons, length_append, length_nil] at hn
    obtain ⟨n, rfl⟩ : ∃ m, n = m + 1 := ⟨n - 1, by omega⟩
    simp only [renderType, cons_append, append_assoc, nil_append]
    refine .bind (.currentKind _ _) (.bind (.advance (by decide)) (.past rfl rfl ?_))
    refine .bind (ih (by omega) _) (.past rfl rfl ?_)
    exact .pure _ rest
  | _ =>
    simp only [renderType, length_cons, length_nil] at hn
    obtain ⟨n, rfl⟩ : ∃ m, n = m + 1 := ⟨n - 1, by omega⟩
    exact .bind (.currentKind _ _) (.bind (.advance (by decide)) (.pure _ rest))

theorem annotation_reads (type : DataType) (rest : List Token) :
    Reads annotation (word .colon ":" :: (renderType type ++ rest)) (some type) rest := by
  refine .bind (.accept rfl rfl) (.bind (.get _) (.bind (dataType_reads type ?_ rest) (.pure _ rest)))
  simp only [length_append]
  omega

theorem frontKind_renderStatement (numeral : Float → String) (s : Statement) (rest : List Token) :
    frontKind (renderStatement numeral s ++ rest) ≠ .endOfInput ∧
      frontKind (renderStatement numeral s ++ rest) ≠ .storeWord ∧
      frontKind (renderStatement numeral s ++ rest) ≠ .paramsWord := by
  cases s with
  | print e | define name type e => exact ⟨by simp [renderStatement, word], by simp [renderStatement, word],
      by simp [renderStatement, word]⟩
  | assign target e =>
    have hfront : frontKind (renderStatement numeral (.assign target e) ++ rest) = .identifier := by
      cases target <;> rfl
    rw [hfront]
    decide

/-! ### Scripts are read back -/

section Statements

variable {numeral : Float → String} {scope behind : Scope} {value : Expr} {type : DataType} {name : String}

theorem assignment_reads {target : Target} (hname : scope.resolve name = .ok target)
    (hvalue : ReadsBack numeral scope value) (h : Settled target.dataType value e) (rest : List Token) :
    Reads (assignment scope) (word .identifier name :: word .equals "=" ::
      (renderExpr numeral value ++ word .semicolon ";" :: rest)) (.assign target e) (word .semicolon ";" :: rest) := by
  refine .bind (.expect rfl rfl _) (.bind (.lift hname _) ?_)
  refine .past rfl rfl (.bind (hvalue _ rfl) ?_)
  generalize target.dataType = type at h
  cases h with
  | has typed filled =>
    split
    · next literal => exact absurd rfl (filled literal)
    · exact .bind (.typeOf typed _) (.guard (by simp) (.pure _ _))
  | takes reified => exact .bind (.lift reified _) (.pure _ _)

theorem definition_reads (hname : scope.checkFresh name = .ok ())
    (hvalue : ReadsBack numeral scope value) (h : Settled type value e) (rest : List Token) :
    Reads (definition scope) (word .letWord "LET" :: word .identifier name :: word .colon ":" :: (renderType type ++
      word .equals "=" :: (renderExpr numeral value ++ word .semicolon ";" :: rest))) (name, type, e)
      (word .semicolon ";" :: rest) := by
  refine .past rfl rfl (.bind (.freshName rfl hname _) ?_)
  refine .bind (annotation_reads _ _) (.past rfl rfl (.bind (hvalue _ rfl) ?_))
  cases h with
  | has typed filled =>
    split
    · next literal => exact absurd rfl (filled literal)
    · exact .bind (.typeOf typed _) (.guard (by simp) (.pure _ _))
  | takes reified => exact .bind (.lift reified _) (.pure _ _)

theorem Stated.readsBack {s : Statement} (h : Stated (ReadsBack numeral) scope s behind) (rest : List Token) :
    Reads (statement scope) (renderStatement numeral s ++ rest) (s, behind) rest := by
  have hend : Reads (do discard <| expect .semicolon "';' after statement"; return (s, behind))
      (word .semicolon ";" :: rest) (s, behind) rest := .past rfl rfl (.pure _ rest)
  cases h with
  | print part typed =>
    simp only [renderStatement, cons_append, append_assoc, nil_append]
    refine .bind (.currentKind _ _) (.bind (.past rfl rfl (.bind (part _ rfl) ?_)) (.bind (.pure _ _) hend))
    rw [typed]
    exact .pure _ _
  | assign resolved part settled =>
    simp only [renderStatement, render_resolve numeral resolved, settled.render, cons_append, append_assoc, nil_append]
    exact .bind (.currentKind _ _) (.bind (assignment_reads resolved part settled rest) (.bind (.pure _ _) hend))
  | define fresh part settled =>
    simp only [renderStatement, settled.render, cons_append, append_assoc, nil_append]
    exact .bind (.currentKind _ _) (.bind (definition_reads fresh part settled rest) (.bind (.pure _ _) hend))

theorem StatedAll.readsBack {body : List Statement} (h : StatedAll (ReadsBack numeral) scope body)
    (hend : frontKind rest = .endOfInput) {m : Nat} (hm : body.length < m) :
    Reads (statements scope m) (body.flatMap (renderStatement numeral) ++ rest) body rest := by
  induction h generalizing m with
  | none =>
    obtain ⟨m, rfl⟩ : ∃ k, m = k + 1 := ⟨m - 1, by omega⟩
    refine .bind (.frontKind rest) ?_
    rw [if_pos hend]
    exact .pure [] rest
  | @next _ _ s _ first _ ih =>
    obtain ⟨m, rfl⟩ : ∃ k, m = k + 1 := ⟨m - 1, by omega⟩
    rw [flatMap_cons, append_assoc]
    refine .bind (.frontKind _) ?_
    rw [if_neg (frontKind_renderStatement numeral s _).1]
    exact .bind (first.readsBack _) (.bind (ih (by simpa using hm)) (.pure _ rest))

end Statements

section Declarations

variable {numeral : Float → String} {parameters : List String}

theorem Declared.readsBack {all : List Store} (h : Declared (ReadsBack numeral) stores all) :
    ∃ new, all = stores ++ new ∧ ∀ rest m, frontKind rest ≠ .storeWord → new.length < m →
      Reads (storeDeclarations stores m) (new.flatMap (renderStore numeral) ++ rest) all rest := by
  induction h with
  | none =>
    refine ⟨[], by simp, fun rest m hfront hm => ?_⟩
    obtain ⟨m, rfl⟩ : ∃ k, m = k + 1 := ⟨m - 1, by omega⟩
    exact .bind (.refuse_front hfront) (.pure _ rest)
  | @next stores _ store fresh part _ ih =>
    obtain ⟨new, hall, hnew⟩ := ih
    refine ⟨store :: new, by simp [hall], fun rest m hfront hm => ?_⟩
    obtain ⟨m, rfl⟩ : ∃ k, m = k + 1 := ⟨m - 1, by omega⟩
    simp only [flatMap_cons, renderStore, cons_append, append_assoc, nil_append]
    refine .bind (.accept rfl rfl) (.bind ?_ (hnew rest m hfront (by simpa using hm)))
    refine .bind (.expect rfl rfl _) (.guard fresh (.past rfl rfl ?_))
    exact .bind (part _ rfl) (.past rfl rfl (.pure _ _))

theorem Named.readsBack {all : List String} (h : Named stores parameters all) :
    ∃ first others, all = parameters ++ first :: others ∧ ∀ rest m, others.length < m →
      Reads (parameterNames stores parameters m) (renderNames (first :: others) ++ word .semicolon ";" :: rest) all
        (word .semicolon ";" :: rest) := by
  induction h with
  | @last _ name unused =>
    refine ⟨name, [], rfl, fun rest m hm => ?_⟩
    obtain ⟨m, rfl⟩ : ∃ k, m = k + 1 := ⟨m - 1, by omega⟩
    refine .bind (.expect rfl rfl _) (.guard unused.1 (.guard unused.2 ?_))
    exact .bind (.refuse (by decide)) (.pure _ _)
  | @next _ _ name unused _ ih =>
    obtain ⟨first, others, hall, hnew⟩ := ih
    refine ⟨name, first :: others, by simp [hall], fun rest m hm => ?_⟩
    obtain ⟨m, rfl⟩ : ∃ k, m = k + 1 := ⟨m - 1, by omega⟩
    have htokens : renderNames (name :: first :: others) = word .identifier name :: word .comma "," ::
        renderNames (first :: others) := rfl
    have hfront : frontKind (renderNames (first :: others) ++ word .semicolon ";" :: rest) ≠ .semicolon := by
      cases others <;> simp [renderNames, separated, word]
    rw [htokens, cons_append, cons_append]
    refine .bind (.expect rfl rfl _) (.guard unused.1 (.guard unused.2 ?_))
    refine .bind (.accept rfl rfl) (.bind (.frontKind _) ?_)
    rw [if_neg hfront]
    exact hnew rest m (by simpa using hm)

theorem parameterDeclaration_reads
    (h : parameters = [] ∨ Named stores [] parameters) (hfront : frontKind rest ≠ .paramsWord) :
    Reads (parameterDeclaration stores) (renderParameters parameters ++ rest) parameters rest := by
  rcases h with rfl | h
  · exact .bind (.refuse_front hfront) (.pure [] rest)
  · obtain ⟨first, others, rfl, hread⟩ := h.readsBack
    have htokens : renderParameters ([] ++ first :: others) ++ rest = word .paramsWord "PARAMS" ::
        (renderNames (first :: others) ++ word .semicolon ";" :: rest) := by
      simp [renderParameters]
    rw [htokens]
    refine .bind (.accept rfl rfl) (.bind (.get _) (.bind (hread rest _ ?_) ?_))
    · have := length_le_separated ((first :: others).map fun name => [word .identifier name])
      simp only [renderNames, length_map, length_cons, length_append] at this ⊢
      omega
    · exact .past rfl rfl (.pure _ rest)

end Declarations

theorem length_le_flatMap {α : Type} (f : α → List Token) (hf : ∀ a, f a ≠ []) (as : List α) :
    as.length ≤ (as.flatMap f).length := by
  induction as with
  | nil => exact Nat.zero_le _
  | cons a as ih =>
    have := length_pos_iff.mpr (hf a)
    simp only [flatMap_cons, length_append, length_cons]
    omega

/-- **The rendering of a script is read as this script.** -/
theorem Composed.readsBack {numeral : Float → String} {s : Script} (h : Composed (ReadsBack numeral) s)
    (hend : frontKind rest = .endOfInput) : Reads (script s.name) (render numeral s ++ rest) s rest := by
  obtain ⟨name, stores, parameters, body⟩ := s
  obtain ⟨hstores, hparameters, hbody, hempty⟩ := h
  obtain ⟨_, rfl, hstores⟩ := hstores.readsBack
  -- Behind the declarations stands a statement, which begins with none of their words.
  obtain ⟨hstore, hparams⟩ : frontKind (body.flatMap (renderStatement numeral) ++ rest) ≠ .storeWord ∧
      frontKind (body.flatMap (renderStatement numeral) ++ rest) ≠ .paramsWord := by
    cases body with
    | nil => exact absurd rfl hempty
    | cons first others =>
      rw [flatMap_cons, append_assoc]
      exact (frontKind_renderStatement numeral first _).2
  have hfront : frontKind (renderParameters parameters ++ (body.flatMap (renderStatement numeral) ++ rest))
      ≠ .storeWord := by
    unfold renderParameters
    split
    · exact hstore
    · simp [word]
  simp only [render, append_assoc]
  refine .bind (.get _) (.bind (hstores _ _ hfront ?_) (.bind (parameterDeclaration_reads hparameters hparams)
    (.bind (.get _) ?_)))
  · have := length_le_flatMap (renderStore numeral) (by simp [renderStore]) stores
    simp only [length_append]
    omega
  refine .bind (hbody.readsBack hend ?_) ?_
  · have hsome : ∀ s, renderStatement numeral s ≠ [] :=
      fun s hs => (frontKind_renderStatement numeral s []).1 (by rw [hs]; rfl)
    have := length_le_flatMap (renderStatement numeral) hsome body
    simp only [length_append]
    omega
  rw [if_neg fun h => hempty (isEmpty_iff.1 h)]
  exact .pure _ rest

/-! ### Numerals -/

section Congruence

variable {numeral other : Float → String}

theorem renderParts_congr {es : List Expr} (h : ∀ e ∈ es, renderExpr numeral e = renderExpr other e) :
    renderParts numeral es = renderParts other es := by
  induction es with
  | nil => rfl
  | cons e es ih =>
    rw [renderParts, renderParts, h e mem_cons_self, ih fun e he => h e (mem_cons_of_mem _ he)]

theorem renderOption_congr {before : Token} {o : Option Expr} (h : ∀ e ∈ o, renderExpr numeral e = renderExpr other e) :
    renderOption numeral before o = renderOption other before o := by
  cases o with
  | none => rfl
  | some e => rw [renderOption, renderOption, h e rfl]

theorem renderExpr_congr (h : ∀ x, (Expr.numberLiteral x).Occurs e → numeral x = other x) :
    renderExpr numeral e = renderExpr other e := by
  induction e using Expr.childInduction with
  | step e ih =>
    have hpart : ∀ part ∈ e.children, renderExpr numeral part = renderExpr other part :=
      fun part hmem => ih part hmem fun x hx => h x (.inside hmem hx)
    cases e with
    | numberLiteral x => rw [renderExpr, renderExpr, h x .here]
    | listLiteral _ es =>
      exact congrArg brackets (renderParts_congr hpart)
    | call c es =>
      rw [renderExpr, renderExpr, hpart c mem_cons_self, renderParts_congr fun e he => hpart e (mem_cons_of_mem _ he)]
    | comprehension i _ c b =>
      rw [renderExpr, renderExpr, hpart i mem_cons_self, hpart b (by simp [Expr.children]),
        renderOption_congr fun e he => hpart e (by simp [Expr.children, Option.mem_def.1 he])]
    | split l o | join l o | sort l _ _ o =>
      rw [renderExpr, renderExpr, hpart l mem_cons_self,
        renderOption_congr fun e he => hpart e (by simp [Expr.children, Option.mem_def.1 he])]
    | _ => simp_all [renderExpr, Expr.children]

end Congruence

end Parser

theorem Parser.render_congr {numeral other : Float → String} {script : Script}
    (h : ∀ x, script.Contains (.numberLiteral x) → numeral x = other x) :
    render numeral script = render other script := by
  have hstore : ∀ s ∈ script.stores, renderStore numeral s = renderStore other s := by
    intro s hs
    rw [renderStore, renderStore, renderExpr_congr fun x hx => h x (.inl ⟨s, hs, hx⟩)]
  have hstatement : ∀ s ∈ script.statements, renderStatement numeral s = renderStatement other s := by
    intro s hs
    have hpart : ∀ d ∈ s.expressions, renderExpr numeral d = renderExpr other d :=
      fun d hd => renderExpr_congr fun x hx => h x (.inr ⟨s, hs, d, hd, hx⟩)
    cases s with
    | print e => rw [renderStatement, renderStatement, hpart e (by simp [Statement.expressions])]
    | assign target e =>
      rw [renderStatement, renderStatement, hpart e (by simp [Statement.expressions]),
        hpart target.read (by simp [Statement.expressions])]
    | define name type e =>
      rw [renderStatement, renderStatement, hpart e (by simp [Statement.expressions])]
  rw [render, render, flatMap_congr hstore, flatMap_congr hstatement]

theorem Parser.exists_spells : ∃ numeral, ∀ x, Spells numeral x := by
  have hsome : ∀ x, ∃ text : String, ∀ lexeme, Decimal.read? lexeme = some x → Decimal.read? text.toList = some x := by
    intro x
    by_cases h : ∃ lexeme, Decimal.read? lexeme = some x
    · obtain ⟨lexeme, hread⟩ := h
      exact ⟨String.ofList lexeme, fun _ _ => by rw [String.toList_ofList]; exact hread⟩
    · exact ⟨"", fun lexeme hread => absurd ⟨lexeme, hread⟩ h⟩
  exact ⟨fun x => (hsome x).choose, fun x => (hsome x).choose_spec⟩

/-- **Reading undoes writing.**  A script that was read from tokens is read again from its rendering, with whatever
numerals its numbers are written. -/
theorem parse_render {name : String} {tokens : List Token} {script : Script} (h : parse name tokens = .ok script)
    (numeral : Float → String) (hnumeral : ∀ x, script.Contains (.numberLiteral x) → Parser.Spells numeral x) :
    parse name (Parser.render numeral script ++ [Parser.word .endOfInput ""]) = .ok script := by
  classical
  -- The other numbers do not matter, so they may be written by their numerals as well.
  obtain ⟨spelling, hspelling⟩ := Parser.exists_spells
  let completed : Float → String := fun x => if script.Contains (.numberLiteral x) then numeral x else spelling x
  have hcompleted : ∀ x, Parser.Spells completed x := by
    intro x lexeme hread
    by_cases hx : script.Contains (.numberLiteral x)
    · simpa [completed, hx] using hnumeral x hx lexeme hread
    · simpa [completed, hx] using hspelling x lexeme hread
  have hsame : Parser.render numeral script = Parser.render completed script :=
    Parser.render_congr fun x hx => by simp [completed, hx]
  rw [hsame]
  unfold parse at h ⊢
  cases hread : Parser.script name tokens with
  | error fault =>
    rw [hread] at h
    cases h
  | ok r =>
    rw [hread] at h
    cases h
    obtain ⟨rfl, hcomposed⟩ := Parser.composed_of_script (Parser.rules_readsBack hcompleted) hread
    have hback : Parser.script r.1.name (Parser.render completed r.1 ++ [Parser.word .endOfInput ""])
        = .ok (r.1, [Parser.word .endOfInput ""]) := hcomposed.readsBack rfl
    rw [hback]
    rfl

/-- The tokens of a script whose lists take their types from a neighbour and from a target. -/
def Parser.borrowingTokens : List Token :=
  [word .storeWord "STORE", word .identifier "s", word .equals "=", word .leftSquareBracket "[",
    word .rightSquareBracket "]", word .semicolon ";", word .paramsWord "PARAMS", word .identifier "p",
    word .comma ",", word .semicolon ";", word .letWord "LET", word .identifier "x", word .equals "=",
    word .leftSquareBracket "[", word .leftSquareBracket "[", word .rightSquareBracket "]", word .comma ",",
    word .leftSquareBracket "[", word .numberLiteral "1.5", word .rightSquareBracket "]",
    word .rightSquareBracket "]", word .semicolon ";", word .identifier "x", word .equals "=",
    word .leftSquareBracket "[", word .leftSquareBracket "[", word .rightSquareBracket "]",
    word .rightSquareBracket "]", word .semicolon ";", word .printWord "PRINT", word .identifier "p",
    word .semicolon ";", word .endOfInput ""]

def Parser.borrowing : Script where
  name := "!a"
  stores := [⟨"s", .emptyLists (.nest [])⟩]
  parameters := ["p"]
  statements := [
    .define "x" (.list (.list .number)) (.listLiteral (.list .number)
      [.listLiteral .number [], .listLiteral .number [.numberLiteral 1.5]]),
    .assign (.var "x" (.list (.list .number))) (.listLiteral (.list .number) [.listLiteral .number []]),
    .print (.parameter "p")]

theorem parse_render_borrowing : parse "!a" Parser.borrowingTokens = .ok Parser.borrowing ∧
      parse "!a" (Parser.render (fun _ => "1.5") Parser.borrowing ++ [Parser.word .endOfInput ""])
        = .ok Parser.borrowing := by
  have hparse : parse "!a" Parser.borrowingTokens = .ok Parser.borrowing := by rfl
  have hleaf : ∀ x (e : Expr), e.children = [] → (Expr.numberLiteral x).Occurs e → e = .numberLiteral x := by
    rintro x e hnone (_ | ⟨member, _⟩)
    · rfl
    · rw [hnone] at member
      cases member
  have hlist : ∀ x type es, (Expr.numberLiteral x).Occurs (.listLiteral type es)
      ↔ ∃ e ∈ es, (Expr.numberLiteral x).Occurs e := by
    intro x type es
    constructor
    · rintro (_ | ⟨member, occurs⟩)
      exact ⟨_, member, occurs⟩
    · rintro ⟨e, member, occurs⟩
      exact .inside member occurs
  have hnumbers : ∀ x, Parser.borrowing.Contains (.numberLiteral x) → x = 1.5 := by
    intro x hx
    simp only [Script.Contains, Parser.borrowing, Statement.expressions, Target.read, hlist, mem_cons,
      not_mem_nil, or_false, false_or, false_and, exists_false, exists_eq_or_imp, exists_eq_left] at hx
    rcases hx with h | h | h | h
    · cases hleaf x _ rfl h
    · exact (Expr.numberLiteral.inj (hleaf x _ rfl h)).symm
    · cases hleaf x _ rfl h
    · cases hleaf x _ rfl h
  refine ⟨hparse, parse_render hparse _ fun x hx lexeme _ => ?_⟩
  rw [hnumbers x hx]
  rfl

end StreamBot.Script
