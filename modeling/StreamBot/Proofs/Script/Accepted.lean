import StreamBot.Script.Scope

/-! # Trees with consistent annotations

The types that are written into a tree are trusted when it is evaluated.  `Accepted scope e` says what
makes them trustworthy: one rule for each kind of expression, with the types that its parts must have and
the scope in which they are read.  Operands of operators and arguments of calls need no type at all.

A loop introduces variables for its bodies.  `Expr.OccursUnder` says where an expression occurs in another
one and which variables the loops around it have introduced there.  The rules are closed under taking parts:
whatever occurs in an accepted tree, at any depth, is accepted in the scope with these variables
(`Accepted.of_occursUnder`).
-/

namespace StreamBot.Script

open List Expr

variable {scope : Scope}

/-! ### Parts of expressions -/

def Expr.children : Expr → List Expr
  | .numberLiteral _ | .stringLiteral _ | .boolLiteral _ => []
  | .store _ _ | .parameter _ | .var _ _ => []
  | .listLiteral _ elements => elements
  | .emptyLists literal => literal.members.map .emptyLists
  | .unary _ operand => [operand]
  | .binary left _ right => [left, right]
  | .ternary condition onTrue onFalse _ => [condition, onTrue, onFalse]
  | .call callee arguments => callee :: arguments
  | .subscript operand index _ => [operand, index]
  | .comprehension iterable _ condition body => iterable :: (condition.toList ++ [body])
  | .fold iterable start _ _ body => [iterable, start, body]
  | .split text delimiter => text :: delimiter.toList
  | .join list delimiter => list :: delimiter.toList
  | .sort list _ _ comparison => list :: comparison.toList

theorem EmptyLists.memberInduction {P : EmptyLists → Prop}
    (nest : ∀ members, (∀ l ∈ members, P l) → P (.nest members)) : (literal : EmptyLists) → P literal
  | .nest members => nest members fun l _ => EmptyLists.memberInduction nest l

theorem Expr.sizeOf_lt_of_mem_children {e part : Expr} (h : part ∈ e.children) : sizeOf part < sizeOf e := by
  have hlist {l : List Expr} (hmem : part ∈ l) : sizeOf part < sizeOf l := sizeOf_lt_of_mem hmem
  cases e with
  | emptyLists literal =>
    obtain ⟨members⟩ := literal
    obtain ⟨l, hl, rfl⟩ := mem_map.mp h
    have hsize := sizeOf_lt_of_mem hl
    simp only [EmptyLists.members, emptyLists.sizeOf_spec, EmptyLists.nest.sizeOf_spec] at hsize ⊢
    omega
  | _ => simp [children] at h <;> grind

theorem Expr.childInduction {P : Expr → Prop} (step : ∀ e, (∀ part ∈ e.children, P part) → P e) (e : Expr) : P e :=
  step e fun part h =>
    have := sizeOf_lt_of_mem_children h
    childInduction step part
termination_by e

/-- `d` occurs in an expression, at any depth. -/
inductive Expr.Occurs (d : Expr) : Expr → Prop where
  | here : Occurs d d
  | inside {part e : Expr} (member : part ∈ e.children) (occurs : Occurs d part) : Occurs d e

/-! ### Variables of loops -/

/-- The type of what a loop takes from an expression. -/
def Expr.itemType (e : Expr) : Option DataType := e.dataType.toOption.bind DataType.element?

/-- The variables that a loop introduces, with the types of what they are set to. -/
def Expr.binders : Expr → List (String × Option DataType)
  | .comprehension iterable element _ _ => [(element, iterable.itemType)]
  | .fold iterable start accumulator element _ =>
    [(accumulator, start.dataType.toOption), (element, iterable.itemType)]
  | .sort list left right _ => (left.toList ++ right.toList).map fun name => (name, list.itemType)
  | _ => []

/-- The children of a loop that are evaluated for each of its items, with its variables. -/
def Expr.bodies : Expr → List Expr
  | .comprehension _ _ condition body => condition.toList ++ [body]
  | .fold _ _ _ _ body => [body]
  | .sort _ _ _ comparison => comparison.toList
  | _ => []

def Expr.heads : Expr → List Expr
  | .comprehension iterable _ _ _ => [iterable]
  | .fold iterable start _ _ _ => [iterable, start]
  | .sort list _ _ _ => [list]
  | e => e.children

/-- `d` occurs in an expression, at any depth, and `bindings` are the variables of the loops around it, the
outermost first. -/
inductive Expr.OccursUnder (d : Expr) : List (String × Option DataType) → Expr → Prop where
  | here : OccursUnder d [] d
  | ahead {bindings : List (String × Option DataType)} {part e : Expr} (member : part ∈ e.heads)
      (occurs : OccursUnder d bindings part) : OccursUnder d bindings e
  | within {bindings : List (String × Option DataType)} {part e : Expr} (member : part ∈ e.bodies)
      (occurs : OccursUnder d bindings part) : OccursUnder d (e.binders ++ bindings) e

theorem Expr.mem_children {e part : Expr} : part ∈ e.children ↔ part ∈ e.heads ∨ part ∈ e.bodies := by
  cases e <;> simp [children, heads, bodies, or_assoc]

theorem Expr.occurs_iff {d e : Expr} : d.Occurs e ↔ ∃ bindings, d.OccursUnder bindings e := by
  constructor
  · intro h
    induction h with
    | here => exact ⟨[], .here⟩
    | inside member _ ih =>
      obtain ⟨bindings, hpart⟩ := ih
      rcases mem_children.mp member with hhead | hbody
      · exact ⟨_, .ahead hhead hpart⟩
      · exact ⟨_, .within hbody hpart⟩
  · rintro ⟨bindings, h⟩
    induction h with
    | here => exact .here
    | ahead member _ ih => exact .inside (mem_children.mpr (.inl member)) ih
    | within member _ ih => exact .inside (mem_children.mpr (.inr member)) ih

/-- The expressions that stand directly in a statement.  The target of an assignment is one of them. -/
def Statement.expressions : Statement → List Expr
  | .print e => [e]
  | .assign target e => [target.read, e]
  | .define _ _ e => [e]

end StreamBot.Script

namespace StreamBot

open List

/-- `e` occurs in a script, in the first value of a store or in a statement. -/
def Script.Contains (script : Script) (e : Script.Expr) : Prop :=
  (∃ s ∈ script.stores, e.Occurs s.value) ∨ ∃ s ∈ script.statements, ∃ d ∈ s.expressions, e.Occurs d

end StreamBot

namespace StreamBot.Script

open List Expr

/-! ### Accepted expressions -/

inductive Accepted : Scope → Expr → Prop where
  | numberLiteral {scope} (x : Float) : Accepted scope (.numberLiteral x)
  | stringLiteral {scope} (s : String) : Accepted scope (.stringLiteral s)
  | boolLiteral {scope} (b : Bool) : Accepted scope (.boolLiteral b)
  | name {scope name target} (resolved : scope.resolve name = .ok target) : Accepted scope target.read
  | listLiteral {scope element elements} (parts : ∀ e ∈ elements, Accepted scope e)
      (types : ∀ e ∈ elements, e.dataType = .ok element) :
      Accepted scope (.listLiteral element elements)
  | emptyLists {scope} (literal : EmptyLists) : Accepted scope (.emptyLists literal)
  | unary {scope operand} (op : UnaryOp) (part : Accepted scope operand) : Accepted scope (.unary op operand)
  | binary {scope left right} (op : BinaryOp) (onLeft : Accepted scope left)
      (onRight : Accepted scope right) : Accepted scope (.binary left op right)
  | ternary {scope condition onTrue onFalse type} (chooses : Accepted scope condition)
      (whenTrue : Accepted scope onTrue) (whenFalse : Accepted scope onFalse)
      (conditionType : condition.dataType = .ok .bool) (trueType : onTrue.dataType = .ok type)
      (falseType : onFalse.dataType = .ok type) :
      Accepted scope (.ternary condition onTrue onFalse type)
  | call {scope callee arguments} (called : Accepted scope callee)
      (parts : ∀ e ∈ arguments, Accepted scope e) (calleeType : callee.dataType = .ok .string) :
      Accepted scope (.call callee arguments)
  | subscript {scope operand index container type} (part : Accepted scope operand)
      (place : Accepted scope index) (operandType : operand.dataType = .ok container)
      (element : container.element? = some type) (indexType : index.dataType = .ok .number) :
      Accepted scope (.subscript operand index type)
  | comprehension {scope iterable container element name condition body}
      (source : Accepted scope iterable) (iterableType : iterable.dataType = .ok container)
      (items : container.element? = some element) (fresh : scope.checkFresh name = .ok ())
      (filter : ∀ c ∈ condition, Accepted (scope.bind name element) c)
      (conditionType : ∀ c ∈ condition, c.dataType = .ok .bool)
      (each : Accepted (scope.bind name element) body) :
      Accepted scope (.comprehension iterable name condition body)
  | fold {scope iterable container element start type accumulator name body}
      (source : Accepted scope iterable) (iterableType : iterable.dataType = .ok container)
      (items : container.element? = some element) (first : Accepted scope start)
      (startType : start.dataType = .ok type) (freshAccumulator : scope.checkFresh accumulator = .ok ())
      (fresh : scope.checkFresh name = .ok ())
      (each : Accepted ((scope.bind accumulator type).bind name element) body)
      (bodyType : body.dataType = .ok type) :
      Accepted scope (.fold iterable start accumulator name body)
  | split {scope text delimiter} (whole : Accepted scope text) (textType : text.dataType = .ok .string)
      (between : ∀ d ∈ delimiter, Accepted scope d)
      (delimiterType : ∀ d ∈ delimiter, d.dataType = .ok .string) :
      Accepted scope (.split text delimiter)
  | join {scope list delimiter} (parts : Accepted scope list)
      (listType : list.dataType = .ok (.list .string)) (between : ∀ d ∈ delimiter, Accepted scope d)
      (delimiterType : ∀ d ∈ delimiter, d.dataType = .ok .string) :
      Accepted scope (.join list delimiter)
  | sortNumbers {scope list} (part : Accepted scope list)
      (listType : list.dataType = .ok (.list .number)) : Accepted scope (.sort list none none none)
  | sort {scope list element left right comparison} (part : Accepted scope list)
      (listType : list.dataType = .ok (.list element)) (freshLeft : scope.checkFresh left = .ok ())
      (freshRight : scope.checkFresh right = .ok ())
      (order : Accepted ((scope.bind left element).bind right element) comparison)
      (comparisonType : comparison.dataType = .ok .bool) :
      Accepted scope (.sort list (some left) (some right) (some comparison))

def Scope.extend (scope : Scope) (bindings : List (String × DataType)) : Scope :=
  { scope with bindings := scope.bindings ++ bindings }

def typed (v : String × DataType) : String × Option DataType := (v.1, some v.2)

variable {d e part : Expr} {stores : List Store}

theorem Accepted.of_head (h : Accepted scope e) (hp : part ∈ e.heads) : Accepted scope part := by
  cases h with
  | numberLiteral | stringLiteral | boolLiteral => cases hp
  | @name _ _ target => cases target <;> cases hp
  | listLiteral parts => exact parts part hp
  | emptyLists literal =>
    obtain ⟨member, -, rfl⟩ := mem_map.mp hp
    exact .emptyLists member
  | unary op operand =>
    obtain rfl := mem_singleton.mp hp
    exact operand
  | binary op onLeft onRight =>
    simp only [heads, children, mem_cons, not_mem_nil, or_false] at hp
    obtain rfl | rfl := hp
    · exact onLeft
    · exact onRight
  | ternary chooses whenTrue whenFalse =>
    simp only [heads, children, mem_cons, not_mem_nil, or_false] at hp
    obtain rfl | rfl | rfl := hp
    · exact chooses
    · exact whenTrue
    · exact whenFalse
  | call called parts =>
    obtain rfl | hp := mem_cons.mp hp
    · exact called
    · exact parts part hp
  | subscript operand place =>
    simp only [heads, children, mem_cons, not_mem_nil, or_false] at hp
    obtain rfl | rfl := hp
    · exact operand
    · exact place
  | comprehension source | sortNumbers source | sort source =>
    obtain rfl := mem_singleton.mp hp
    exact source
  | fold source _ _ first =>
    simp only [heads, mem_cons, not_mem_nil, or_false] at hp
    obtain rfl | rfl := hp
    · exact source
    · exact first
  | split whole _ between | join whole _ between =>
    simp only [heads, children, mem_cons, Option.mem_toList] at hp
    obtain rfl | hp := hp
    · exact whole
    · exact between part hp

theorem Expr.itemType_eq {container element : DataType} (htype : e.dataType = .ok container)
    (helement : container.element? = some element) : e.itemType = some element := by
  rw [itemType, htype]
  exact helement

theorem Accepted.of_body (h : Accepted scope e) (hp : part ∈ e.bodies) : ∃ bindings, e.binders = bindings.map typed ∧
      Accepted (scope.extend bindings) part := by
  -- binding two variables one after the other is extending the scope by both
  have twice : ∀ (first second : String × DataType), (scope.bind first.1 first.2).bind second.1 second.2 =
      scope.extend [first, second] := by
    simp [Scope.bind, Scope.extend]
  cases h with
  | @comprehension _ iterable container element name _ _ _ iterableType items _ filter _ each =>
    refine ⟨[(name, element)], by simp [binders, typed, itemType_eq iterableType items], ?_⟩
    rcases mem_append.mp hp with hp | hp
    · exact filter part (Option.mem_toList.mp hp)
    · obtain rfl := mem_singleton.mp hp
      exact each
  | @fold _ iterable container element start type accumulator name _ _ iterableType items _ startType _ _
      each =>
    obtain rfl := mem_singleton.mp hp
    refine ⟨[(accumulator, type), (name, element)], ?_, twice (accumulator, type) (name, element) ▸ each⟩
    simp [binders, typed, itemType_eq iterableType items, startType, Except.toOption]
  | @sort _ list element left right _ _ listType _ _ order =>
    obtain rfl := mem_singleton.mp hp
    refine ⟨[(left, element), (right, element)], ?_, twice (left, element) (right, element) ▸ order⟩
    simp [binders, typed, itemType_eq listType rfl]
  | @name _ _ target => cases target <;> cases hp
  | _ => cases hp

/-- **Whatever occurs in an accepted expression is accepted**, in the scope with the variables of the loops
around it.  These have types, because what the loops are about has. -/
theorem Accepted.of_occursUnder {known : List (String × Option DataType)}
    (h : Accepted scope e) (ho : d.OccursUnder known e) :
    ∃ bindings, known = bindings.map typed ∧ Accepted (scope.extend bindings) d := by
  induction ho generalizing scope with
  | here => exact ⟨[], rfl, by simpa [Scope.extend] using h⟩
  | ahead member _ ih => exact ih (h.of_head member)
  | within member _ ih =>
    obtain ⟨outer, houter, hpart⟩ := h.of_body member
    obtain ⟨inner, hinner, hd⟩ := ih hpart
    refine ⟨outer ++ inner, by rw [houter, hinner, map_append], ?_⟩
    simpa [Scope.extend] using hd

theorem Accepted.of_occurs (h : Accepted scope e) (ho : d.Occurs e) : ∃ inner, Accepted inner d := by
  obtain ⟨known, hunder⟩ := occurs_iff.mp ho
  obtain ⟨bindings, -, hd⟩ := h.of_occursUnder hunder
  exact ⟨_, hd⟩

/-! ### Accepted scripts -/

/-- Declarations of stores in order: each may use those before it, and its name is new. -/
inductive AcceptedStores : List Store → Prop where
  | none : AcceptedStores []
  | declare {stores : List Store} {store : Store} (before : AcceptedStores stores)
      (fresh : ∀ s ∈ stores, s.name ≠ store.name) (value : Accepted { stores } store.value) :
      AcceptedStores (stores ++ [store])

/-- A statement that can be read in a scope, and the scope behind it. -/
inductive AcceptedStatement : Scope → Statement → Scope → Prop where
  | print {scope e type} (part : Accepted scope e) (argumentType : e.dataType = .ok type) :
      AcceptedStatement scope (.print e) scope
  | assign {scope name target e} (resolved : scope.resolve name = .ok target)
      (part : Accepted scope e) (valueType : e.dataType = .ok target.dataType) :
      AcceptedStatement scope (.assign target e) scope
  | define {scope name type e} (fresh : scope.checkFresh name = .ok ()) (part : Accepted scope e)
      (valueType : e.dataType = .ok type) :
      AcceptedStatement scope (.define name type e) (scope.bind name type)

inductive AcceptedStatements : Scope → List Statement → Prop where
  | none {scope} : AcceptedStatements scope []
  | next {scope behind statement rest} (first : AcceptedStatement scope statement behind)
      (others : AcceptedStatements behind rest) : AcceptedStatements scope (statement :: rest)

structure AcceptedScript (script : Script) : Prop where
  stores : AcceptedStores script.stores
  distinctParameters : script.parameters.Nodup
  parametersShadowNothing : ∀ name ∈ script.parameters, ∀ s ∈ script.stores, s.name ≠ name
  statements : AcceptedStatements { stores := script.stores, parameters := script.parameters }
    script.statements
  notEmpty : script.statements ≠ []

theorem AcceptedStores.value (h : AcceptedStores stores) : ∀ s ∈ stores, ∃ scope, Accepted scope s.value := by
  induction h with
  | none => intro s hs; cases hs
  | declare _ _ value ih =>
    intro s hs
    rcases mem_append.mp hs with hs | hs
    · exact ih s hs
    · obtain rfl := mem_singleton.mp hs
      exact ⟨_, value⟩

theorem AcceptedStores.nodup (h : AcceptedStores stores) : (stores.map (·.name)).Nodup := by
  induction h with
  | none => exact nodup_nil
  | declare _ fresh _ ih =>
    rw [map_append, nodup_append]
    refine ⟨ih, by simp, ?_⟩
    intro name hname other hother
    obtain ⟨s, hs, rfl⟩ := mem_map.mp hname
    rw [mem_singleton.mp hother]
    exact fresh s hs

theorem AcceptedStatement.expression {behind : Scope} {s : Statement}
    (h : AcceptedStatement scope s behind) : ∀ e ∈ s.expressions, Accepted scope e := by
  cases h with
  | print part | define _ part =>
    intro e he
    obtain rfl := mem_singleton.mp he
    exact part
  | assign resolved part =>
    intro e he
    simp only [Statement.expressions, mem_cons, not_mem_nil, or_false] at he
    obtain rfl | rfl := he
    · exact .name resolved
    · exact part

theorem AcceptedStatements.statement {statements : List Statement} (h : AcceptedStatements scope statements) :
    ∀ s ∈ statements, ∃ before behind, AcceptedStatement before s behind := by
  induction h with
  | none => intro s hs; cases hs
  | next first _ ih =>
    intro s hs
    rcases mem_cons.mp hs with rfl | hs
    · exact ⟨_, _, first⟩
    · exact ih s hs

/-- **Whatever occurs in an accepted script is accepted.** -/
theorem AcceptedScript.of_contains {script : Script} (h : AcceptedScript script)
    (he : script.Contains e) : ∃ scope, Accepted scope e := by
  rcases he with ⟨s, hs, ho⟩ | ⟨s, hs, d, hd, ho⟩
  · obtain ⟨scope, hvalue⟩ := h.stores.value s hs
    exact hvalue.of_occurs ho
  · obtain ⟨before, behind, hstatement⟩ := h.statements.statement s hs
    exact (hstatement.expression d hd).of_occurs ho

end StreamBot.Script
