import StreamBot.Bot.Loading
import StreamBot.Proofs.Json.RoundTrip
import StreamBot.Proofs.Script.Parsing

/-! # Scripts survive being stored

A script is kept as the text of its JSON.  Writing leaves the JSON of an expression alone unless a number in
it is not finite (`Expr.written_toJson`), and reading an expression at the depth of its JSON gives it back
(`Expr.ofJson?_toJson`): both by induction on the expression, one case for each kind of node.

Main statement: `Script.read?_render_of_ofSource`.
-/

namespace StreamBot.Script

open List Json DataType Script.Expr
open Json (depthOfFields depthOfItems written writtenFields writtenItems)

variable {o : Option Expr} {n m : ℕ} {fields : List (String × Json)} {α : Type} {e : Expr}

/-! ### Writing -/

theorem EmptyLists.allToJson_eq (literals : List EmptyLists) :
    EmptyLists.allToJson literals = literals.map EmptyLists.toJson := by
  induction literals with
  | nil => rfl
  | cons l rest ih => rw [EmptyLists.allToJson, ih, map_cons]

theorem Expr.allToJson_eq (es : List Expr) : allToJson es = es.map toJson := by
  induction es with
  | nil => rfl
  | cons e rest ih => rw [allToJson, ih, map_cons]

theorem writtenItems_map {encode : α → Json} {xs : List α}
    (h : ∀ x ∈ xs, (encode x).written = encode x) : writtenItems (xs.map encode) = xs.map encode := by
  induction xs with
  | nil => rfl
  | cons x rest ih =>
    obtain ⟨hx, hrest⟩ := forall_mem_cons.mp h
    rw [map_cons, writtenItems, hx, ih hrest]

theorem DataType.written_toJson (type : DataType) : type.toJson.written = type.toJson := by
  induction type with
  | list element ih => simp [toJson, written, writtenFields, ih]
  | _ => rfl

theorem EmptyLists.written_toJson (literal : EmptyLists) : literal.toJson.written = literal.toJson := by
  induction literal using EmptyLists.memberInduction with
  | nest members ih =>
    simp [EmptyLists.toJson, EmptyLists.allToJson_eq, written, writtenFields, writtenItems_map ih]

theorem Expr.written_optionToJson (h : ∀ e ∈ o.toList, e.toJson.written = e.toJson) :
    (optionToJson o).written = optionToJson o := by
  cases o with
  | none => rfl
  | some e => exact h e (mem_singleton_self e)

theorem written_ofText? (name : Option String) : (ofText? name).written = ofText? name := by
  cases name <;> rfl

theorem Expr.written_toJson (h : ∀ x, (numberLiteral x).Occurs e → x.isFinite) : e.toJson.written = e.toJson := by
  induction e using childInduction with
  | step e ih =>
    have hparts (part : Expr) (hmem : part ∈ e.children) : part.toJson.written = part.toJson :=
      ih part hmem fun x hx => h x (.inside hmem hx)
    cases e with
    | numberLiteral x => simp [toJson, node, written, writtenFields, h x .here]
    | emptyLists literal => exact literal.written_toJson
    | listLiteral element elements =>
      have helements : writtenItems (elements.map toJson) = elements.map toJson :=
        writtenItems_map hparts
      simp [toJson, node, written, writtenFields, allToJson_eq, element.written_toJson, helements]
    | call callee arguments =>
      obtain ⟨hcallee, harguments⟩ := forall_mem_cons.mp hparts
      simp [toJson, node, written, writtenFields, allToJson_eq, hcallee, writtenItems_map harguments]
    | comprehension iterable element condition body =>
      obtain ⟨hiterable, hrest⟩ := forall_mem_cons.mp hparts
      obtain ⟨hcondition, hbody⟩ := forall_mem_append.mp hrest
      simp [toJson, node, written, writtenFields, hiterable, hbody, written_optionToJson hcondition]
    | split text delimiter | join list delimiter =>
      obtain ⟨hlist, hdelimiter⟩ := forall_mem_cons.mp hparts
      simp [toJson, node, written, writtenFields, hlist, written_optionToJson hdelimiter]
    | sort list left right comparison =>
      obtain ⟨hlist, hcomparison⟩ := forall_mem_cons.mp hparts
      simp [toJson, node, written, writtenFields, hlist, written_optionToJson hcomparison, written_ofText?]
    | _ =>
      simp only [children, forall_mem_cons] at hparts
      simp [toJson, node, written, writtenFields, hparts, DataType.written_toJson]

/-! ### Reading -/

theorem DataType.ofJson?_toJson (type : DataType) (hn : type.toJson.depth ≤ n) : ofJson? n type.toJson = some type := by
  induction type generalizing n with
  | list element ih =>
    simp only [toJson, Json.depth, depthOfFields] at hn ⊢
    obtain ⟨m, rfl⟩ : ∃ m, n = m + 1 := ⟨n - 1, by omega⟩
    have helement := ih (n := m) (by omega)
    simp [ofJson?, Json.get?, List.lookup, text?, helement]
  | _ =>
    simp only [toJson, Json.depth, depthOfFields] at hn ⊢
    obtain ⟨m, rfl⟩ : ∃ m, n = m + 1 := ⟨n - 1, by omega⟩
    simp [ofJson?, Json.get?, List.lookup, text?]

theorem mapM_map {encode : α → Json} {decode : ℕ → Json → Option α} {xs : List α}
    (h : ∀ x ∈ xs, ∀ {n}, (encode x).depth ≤ n → decode n (encode x) = some x) (hn : depthOfItems (xs.map encode) ≤ n)
    : (xs.map encode).mapM (decode n) = some xs := by
  induction xs with
  | nil => rfl
  | cons x rest ih =>
    obtain ⟨hx, hrest⟩ := forall_mem_cons.mp h
    simp only [map_cons, depthOfItems] at hn
    simp [mapM_cons, hx (n := n) (by omega), ih hrest (by omega)]

theorem EmptyLists.ofJson?_toJson (literal : EmptyLists) (hn : literal.toJson.depth ≤ n) :
    EmptyLists.ofJson? n literal.toJson = some literal := by
  induction literal using EmptyLists.memberInduction generalizing n with
  | nest members ih =>
    simp only [EmptyLists.toJson, EmptyLists.allToJson_eq, Json.depth, depthOfFields] at hn ⊢
    obtain ⟨m, rfl⟩ : ∃ m, n = m + 1 := ⟨n - 1, by omega⟩
    have hmembers := mapM_map (n := m) ih (by omega)
    simp [EmptyLists.ofJson?, Json.get?, Json.items?, hmembers]

theorem UnaryOp.ofText?_text (op : UnaryOp) : UnaryOp.ofText? op.text = some op := by
  cases op <;> decide

theorem BinaryOp.ofText?_text (op : BinaryOp) : BinaryOp.ofText? op.text = some op := by
  cases op <;> decide

theorem optional?_ofText? (name : Option String) : optional? text? (ofText? name) = some name := by
  cases name <;> rfl

theorem Expr.exists_toJson (e : Expr) : ∃ fields, e.toJson = .obj fields := by
  cases e with
  | emptyLists literal => 
    cases literal
    exact ⟨_, rfl⟩
  | _ => exact ⟨_, rfl⟩

theorem Expr.optional?_optionToJson {read : Json → Option Expr} (h : ∀ e ∈ o.toList, read e.toJson = some e)
    : optional? read (optionToJson o) = some o := by
  cases o with
  | none => rfl
  | some e =>
    have hread : read e.toJson = some e := h e (mem_singleton_self e)
    obtain ⟨fields, hfields⟩ := e.exists_toJson
    rw [hfields] at hread
    simp [optionToJson, hfields, optional?, hread]

theorem depth_obj_le : (obj fields).depth ≤ m + 1 ↔ depthOfFields fields ≤ m := by
  rw [Json.depth]
  omega

theorem depthOfFields_cons_le {k : String} {j : Json} :
    depthOfFields ((k, j) :: fields) ≤ m ↔ j.depth ≤ m ∧ depthOfFields fields ≤ m := by
  rw [depthOfFields]
  omega

theorem depthOfItems_le {items : List Json} (h : (arr items).depth ≤ m) : depthOfItems items ≤ m := by
  rw [Json.depth] at h
  omega

theorem Expr.depth_le_of_mem_toList (hmem : e ∈ o.toList) (h : (optionToJson o).depth ≤ m) : e.toJson.depth ≤ m := by
  obtain rfl := Option.mem_toList.mp hmem
  exact h

theorem Expr.ofJson?_toJson (e : Expr) (hn : e.toJson.depth ≤ n) : ofJson? n e.toJson = some e := by
  induction e using childInduction generalizing n with
  | step e ih =>
    obtain ⟨m, rfl⟩ : ∃ m, n = m + 1 := by
      obtain ⟨fields, hfields⟩ := e.exists_toJson
      rw [hfields, Json.depth] at hn
      exact ⟨n - 1, by omega⟩
    have hparts (part : Expr) (hmem : part ∈ e.children) := @ih part hmem m
    cases e with
    | emptyLists literal =>
      have hliteral := literal.ofJson?_toJson hn
      obtain ⟨members⟩ := literal
      rw [ofJson?]
      simp only [toJson, EmptyLists.toJson] at hliteral ⊢
      simp [Json.get?, List.lookup, text?, hliteral]
    | listLiteral element elements =>
      simp only [toJson, allToJson_eq, node, depth_obj_le, depthOfFields_cons_le] at hn ⊢
      have helements : (elements.map toJson).mapM (ofJson? m) = some elements :=
        mapM_map ih (depthOfItems_le hn.2.1)
      rw [ofJson?]
      simp [Json.get?, List.lookup, text?, Json.items?, helements, element.ofJson?_toJson hn.2.2.1]
    | call callee arguments =>
      simp only [toJson, allToJson_eq, node, depth_obj_le, depthOfFields_cons_le] at hn ⊢
      obtain ⟨hcallee, -⟩ := forall_mem_cons.mp hparts
      have harguments :=
        mapM_map (fun e he => ih e (mem_cons_of_mem callee he)) (depthOfItems_le hn.2.2.1)
      rw [ofJson?]
      simp [Json.get?, List.lookup, text?, Json.items?, harguments, hcallee hn.2.1]
    | comprehension iterable element condition body =>
      simp only [toJson, node, depth_obj_le, depthOfFields_cons_le] at hn ⊢
      obtain ⟨-, hiterable, -, hcondition, hbody, -⟩ := hn
      obtain ⟨hreadIterable, hrest⟩ := forall_mem_cons.mp hparts
      obtain ⟨hreadCondition, hreadBody⟩ := forall_mem_append.mp hrest
      have hoptional := optional?_optionToJson fun e he =>
        hreadCondition e he (depth_le_of_mem_toList he hcondition)
      rw [ofJson?]
      simp [Json.get?, List.lookup, text?, hreadIterable hiterable, hoptional,
        hreadBody body (mem_singleton_self body) hbody]
    | split text delimiter | join list delimiter =>
      simp only [toJson, node, depth_obj_le, depthOfFields_cons_le] at hn ⊢
      obtain ⟨-, hlist, hdelimiter, -⟩ := hn
      obtain ⟨hreadList, hreadDelimiter⟩ := forall_mem_cons.mp hparts
      have hoptional := optional?_optionToJson fun e he =>
        hreadDelimiter e he (depth_le_of_mem_toList he hdelimiter)
      rw [ofJson?]
      simp [Json.get?, List.lookup, text?, hreadList hlist, hoptional]
    | sort list left right comparison =>
      simp only [toJson, node, depth_obj_le, depthOfFields_cons_le] at hn ⊢
      obtain ⟨-, hlist, -, -, hcomparison, -⟩ := hn
      obtain ⟨hreadList, hreadComparison⟩ := forall_mem_cons.mp hparts
      have hoptional := optional?_optionToJson fun e he =>
        hreadComparison e he (depth_le_of_mem_toList he hcomparison)
      rw [ofJson?]
      simp [Json.get?, List.lookup, text?, hreadList hlist, hoptional, optional?_ofText?]
    | _ =>
      simp only [children, forall_mem_cons] at hparts
      simp only [toJson, node, depth_obj_le, depthOfFields_cons_le] at hn ⊢
      rw [ofJson?]
      simp [Json.get?, List.lookup, text?, bool?, number?, hparts, hn, ofJson?_toJson,
        UnaryOp.ofText?_text, BinaryOp.ofText?_text]

/-! ### Statements and scripts -/

theorem Expr.read?_toJson (e : Expr) : read? e.toJson = some e := e.ofJson?_toJson le_rfl

theorem Target.read?_toJson (target : Target) : Target.read? target.toJson = some target := by
  rw [Target.read?, Target.toJson, Expr.read?_toJson]
  cases target <;> rfl

theorem Statement.read?_toJson (s : Statement) : Statement.read? s.toJson = some s := by
  cases s with
  | print argument =>
    simp [Statement.read?, Statement.toJson, Json.get?, List.lookup, text?, argument.read?_toJson]
  | assign target value =>
    simp [Statement.read?, Statement.toJson, Json.get?, List.lookup, text?, target.read?_toJson, value.read?_toJson]
  | define name type value =>
    have htype : DataType.read? type.toJson = some type := type.ofJson?_toJson le_rfl
    simp [Statement.read?, Statement.toJson, Json.get?, List.lookup, text?, htype, value.read?_toJson]

open Statement

theorem Store.read?_toJson (store : Store) : Store.read? store.toJson = some store := by
  simp [Store.read?, Store.toJson, Json.get?, List.lookup, text?, store.value.read?_toJson]

theorem Statement.written_toJson {s : Statement}
    (h : ∀ e ∈ s.expressions, e.toJson.written = e.toJson) : s.toJson.written = s.toJson := by
  cases s with
  | print argument =>
    simp only [expressions, forall_mem_cons] at h
    simp [toJson, written, writtenFields, h]
  | assign target value =>
    simp only [expressions, forall_mem_cons] at h
    simp [toJson, Target.toJson, written, writtenFields, h]
  | define name type value =>
    simp only [expressions, forall_mem_cons] at h
    simp [toJson, written, writtenFields, h, type.written_toJson]

end StreamBot.Script

namespace StreamBot

open List Json Script
open Script (Expr Statement Store AcceptedScript)

variable {script : Script}

def Script.Finite (script : Script) : Prop :=
  ∀ x, script.Contains (.numberLiteral x) → x.isFinite

theorem Script.Finite.written_toJson (h : script.Finite) : script.toJson.written = script.toJson := by
  have hstores : ∀ s ∈ script.stores, s.toJson.written = s.toJson := by
    intro s hs
    have hvalue := Expr.written_toJson fun x hx => h x (.inl ⟨s, hs, hx⟩)
    simp [Store.toJson, written, writtenFields, hvalue]
  have hstatements : ∀ s ∈ script.statements, s.toJson.written = s.toJson := by
    intro s hs
    refine Statement.written_toJson fun e he => ?_
    exact Expr.written_toJson fun x hx => h x (.inr ⟨s, hs, e, he, hx⟩)
  have hparameters : ∀ name ∈ script.parameters,
      (obj [("name", .str name)]).written = .obj [("name", .str name)] := fun _ _ => rfl
  simp [toJson, written, writtenFields, writtenItems_map hstores,
    writtenItems_map hstatements, writtenItems_map hparameters]

theorem mapM_map_of_read {α : Type} {encode : α → Json} {read : Json → Option α}
    (h : ∀ x, read (encode x) = some x) (xs : List α) : (xs.map encode).mapM read = some xs :=
  mapM_map (fun x _ _ _ => h x) le_rfl

theorem Script.read?_toJson (h : script.statements ≠ []) : read? script.toJson = some script := by
  have hstores := mapM_map_of_read Store.read?_toJson script.stores
  have hstatements := mapM_map_of_read Statement.read?_toJson script.statements
  have hparameters : (script.parameters.map fun name => obj [("name", .str name)]).mapM
      (fun p => do (← p.get? "name").text?) = some script.parameters := by
    apply mapM_map_of_read
    intro name
    rfl
  have hname : script.toJson.get? "name" = some (.str script.name) := rfl
  have hstoresField : script.toJson.get? "stores" = some (.arr (script.stores.map (·.toJson))) := rfl
  have hparametersField : script.toJson.get? "parameters" =
    some (.arr (script.parameters.map fun name => .obj [("name", .str name)])) := rfl
  have hstatementsField : script.toJson.get? "statements" = some (.arr (script.statements.map (·.toJson))) := rfl
  have htext (s : String) : (str s).text? = some s := rfl
  simp only [read?, Json.getD, hname, hstoresField, hparametersField, hstatementsField,
    Option.getD_some, Json.items?, Option.bind_eq_bind, Option.bind_some, hstores, hstatements, htext]
  rw [if_neg (by simpa using h)]
  simp only [Option.bind_eq_bind] at hparameters
  simp [hparameters]

theorem Script.Finite.read?_render (h : script.Finite) (hsteps : script.statements ≠ []) :
    (parse? script.toJson.render).bind read? = some script := by
  rw [parse?_render, h.written_toJson]
  exact read?_toJson hsteps

theorem Script.ofSource_of_tokens {name source : String} {tokens : List Token}
    (hsource : tokenize source = .ok tokens) (h : parse name tokens = .ok script) :
    ofSource name source = .ok script := by
  rw [ofSource, hsource]
  dsimp only
  rw [h]
  rfl

namespace Script

/-- A script with a nested list, an optional part that is absent and one that is there. -/
def listing : Script where
  name := "!a"
  stores := [⟨"s", .listLiteral (.list .number)
    [.listLiteral .number [.numberLiteral (.ofScientific 15 true 1)], .listLiteral .number []]⟩]
  parameters := ["p"]
  statements := [.define "t" (.list .string) (.split (.parameter "p") none),
    .print (.ternary (.binary (.parameter "p") .equal (.stringLiteral "")) (.call (.stringLiteral "!b") [.unary .toText
        (.subscript (.subscript (.store "s" (.list (.list .number))) (.numberLiteral (.ofNat 0)) (.list .number))
          (.numberLiteral (.ofNat 0)) .number)])
      (.join (.var "t" (.list .string)) (some (.stringLiteral ","))) .string)]

def listingText : String :=
  "STORE s = [[1.5], []]; PARAMS p; LET t = split(p); PRINT p == '' ? '!b'(#s[0][0]) : join(t, ',');"

set_option maxRecDepth 4096 in
theorem ofSource_listing : ofSource "!a" listingText = .ok listing := by
  -- the words are found first, so that no number is computed
  apply ofSource_of_tokens
  · cbv
  · rfl

theorem Expr.exists_occurs_cons {d e : Expr} {es : List Expr} : (∃ part ∈ e :: es, d.Occurs part) ↔
      d = e ∨ (∃ part ∈ e.children, d.Occurs part) ∨ ∃ part ∈ es, d.Occurs part := by
  rw [exists_mem_cons_iff, ← or_assoc]
  refine or_congr_left ⟨fun h => ?_, ?_⟩
  · cases h with
    | here => exact .inl rfl
    | inside hpart hd => exact .inr ⟨_, hpart, hd⟩
  · rintro (rfl | ⟨part, hpart, hd⟩)
    · exact .here
    · exact .inside hpart hd

theorem finite_listing : listing.Finite := by
  intro x h
  have hparts : ∃ part ∈ listing.stores.map (·.value) ++ listing.statements.flatMap Statement.expressions,
      (Expr.numberLiteral x).Occurs part := by
    rcases h with ⟨s, hs, h⟩ | ⟨s, hs, d, hd, h⟩
    · exact ⟨_, mem_append_left _ (mem_map_of_mem hs), h⟩
    · exact ⟨d, mem_append_right _ (mem_flatMap.mpr ⟨s, hs, hd⟩), h⟩
  simp only [listing, map_cons, map_nil, flatMap_cons, flatMap_nil, Statement.expressions,
    cons_append, nil_append, append_nil, Expr.exists_occurs_cons, Expr.children, Option.toList,
    not_mem_nil, false_and, exists_false, Expr.numberLiteral.injEq, reduceCtorEq, or_false, false_or] at hparts
  rcases hparts with rfl | rfl | rfl <;> decide +kernel

end Script

end StreamBot
