import StreamBot.Proofs.Script.Grammar

/-! # Operators and their operands

Operands with binary operators between them are read as a tree.  `OperatorTree` is such a tree, and
`OperatorTree.Ordered` says where its operators may stand: the operator at the top of a left branch binds at least
as tightly as the one above it, the operator at the top of a right branch more tightly.  There is at most one such
tree for operands and operators in a given order (`OperatorTree.Ordered.unique`), because at its top stands the
last operator of those that bind least tightly.

`operators` reads this tree: the operators that bind more tightly than a given precedence make an ordered tree of
the tree to their left, and the first operator that does not is left where it is (`exists_climbed`).
-/

namespace StreamBot.Script

variable {left : OperatorTree} {least : Precedence} {op : BinaryOp}

/-! ### Ordered trees -/

/-- How tightly a binary operator binds: `or`, `and`, ranges, equality, comparisons, sums, products. -/
def BinaryOp.tightness : BinaryOp → Nat
  | .or => 0
  | .and => 1
  | .rangeInclusive | .rangeExclusive => 2
  | .equal | .notEqual => 3
  | .less | .lessEqual | .greater | .greaterEqual => 4
  | .add | .subtract => 5
  | .multiply | .divide | .modulo => 6

theorem BinaryOp.rank_precedence (op : BinaryOp) : op.precedence.rank = op.tightness + 2 := by
  cases op <;> rfl

theorem BinaryOp.precedence_le_unary (op : BinaryOp) : op.precedence.rank ≤ Precedence.unary.rank := by
  cases op <;> decide

theorem Precedence.isAbove_eq_true {p q : Precedence} : p.isAbove q ↔ q.rank < p.rank :=
  decide_eq_true_iff

theorem Precedence.isAbove_eq_false {p q : Precedence} : p.isAbove q = false ↔ p.rank ≤ q.rank :=
  decide_eq_false_iff_not.trans Nat.not_lt

/-- A primary operand with the operators before it. -/
structure Operand where
  operators : List UnaryOp
  primary : Expr

/-- Each operator before an operand applies to what stands behind it. -/
def Operand.expr (o : Operand) : Expr := o.operators.foldr .unary o.primary

inductive OperatorTree where
  | operand (o : Operand)
  | node (left : OperatorTree) (op : BinaryOp) (right : OperatorTree)

namespace OperatorTree

def expr : OperatorTree → Expr
  | operand o => o.expr
  | node left op right => .binary left.expr op right.expr

def first : OperatorTree → Operand
  | operand o => o
  | node left _ _ => left.first

/-- The operators from left to right, each with the operand behind it. -/
def following : OperatorTree → List (BinaryOp × Operand)
  | operand _ => []
  | node left op right => left.following ++ (op, right.first) :: right.following

def root? : OperatorTree → Option BinaryOp
  | operand _ => none
  | node _ op _ => some op

/-- To the left of each operator stand operators that bind at least as tightly, to the right of it operators that
bind more tightly. -/
def Ordered : OperatorTree → Prop
  | operand _ => True
  | node left op right =>
    left.Ordered ∧ right.Ordered ∧ (∀ above ∈ left.root?, op.tightness ≤ above.tightness)
      ∧ ∀ above ∈ right.root?, op.tightness < above.tightness

variable {tree other : OperatorTree}

theorem Ordered.bound_le (h : tree.Ordered) {bound : Nat} (hroot : ∀ root ∈ tree.root?, bound ≤ root.tightness) :
    ∀ item ∈ tree.following, bound ≤ item.1.tightness := by
  induction tree with
  | operand o => intro item hitem; cases hitem
  | node left op right ihLeft ihRight =>
    obtain ⟨hleft, hright, habove, hbelow⟩ := h
    have hop : bound ≤ op.tightness := hroot op rfl
    intro item hitem
    rcases List.mem_append.mp hitem with hmem | hmem
    · exact ihLeft hleft (fun root hr => Nat.le_trans hop (habove root hr)) item hmem
    · rcases List.mem_cons.mp hmem with rfl | hmem
      · exact hop
      · exact ihRight hright (fun root hr => Nat.le_trans hop (Nat.le_of_lt (hbelow root hr))) item hmem

/-- The operator at the top of an ordered tree does not stand to the left of the one at the top of another ordered
tree with the same operators in the same order. -/
theorem Ordered.split {right left' right' : OperatorTree} {op' : BinaryOp}
    (h : (node left op right).Ordered) (h' : (node left' op' right').Ordered)
    {between : List (BinaryOp × Operand)} (hleft : left'.following = left.following ++ between)
    (hright : (op, right.first) :: right.following = between ++ (op', right'.first) :: right'.following) :
    between = [] := by
  cases between with
  | nil => rfl
  | cons item between =>
    obtain ⟨rfl, hrest⟩ := List.cons.inj hright
    have hle : op'.tightness ≤ op.tightness :=
      h'.1.bound_le h'.2.2.1 (op, right.first) (by rw [hleft]; simp)
    have hlt : op.tightness < op'.tightness :=
      h.2.1.bound_le h.2.2.2 (op', right'.first) (by rw [hrest]; simp)
    omega

theorem Ordered.unique (h : tree.Ordered) (h' : other.Ordered) (hfirst : other.first = tree.first)
    (hfollowing : other.following = tree.following) : other = tree := by
  induction tree generalizing other with
  | operand o =>
    cases other with
    | operand o' => exact congrArg operand hfirst
    | node left' op' right' => simp [following] at hfollowing
  | node left op right ihLeft ihRight =>
    cases other with
    | operand o' => simp [following] at hfollowing
    | node left' op' right' =>
      have hnone : left'.following = left.following
          ∧ (op', right'.first) :: right'.following = (op, right.first) :: right.following := by
        rcases List.append_eq_append_iff.mp hfollowing with ⟨between, hl, hr⟩ | ⟨between, hl, hr⟩
        · obtain rfl := h'.split h hl hr
          exact ⟨by simpa using hl.symm, hr⟩
        · obtain rfl := h.split h' hl hr
          exact ⟨by simpa using hl, hr.symm⟩
      obtain ⟨hleft, hrest⟩ := hnone
      obtain ⟨hhead, hright⟩ := List.cons.inj hrest
      obtain ⟨rfl, hrightFirst⟩ := Prod.mk.inj hhead
      rw [ihLeft h.1 h'.1 hfirst hleft, ihRight h.2.1 h'.2.1 hrightFirst hright]

end OperatorTree

/-! ### Tokens of operands and operators -/

namespace Parser

/-- The tokens begin with a primary operand: a name in scope, a literal or an expression in parentheses. -/
inductive Primary (scope : Scope) : List Token → Expr → List Token → Prop
  | name {t : Token} {target : Target} {rest : List Token} (hkind : t.kind = .identifier)
      (hresolve : scope.resolve t.lexeme = .ok target) : Primary scope (t :: rest) target.read rest
  | number {t : Token} {x : Float} {rest : List Token} (hkind : t.kind = .numberLiteral)
      (hread : Decimal.read? t.lexeme.toList = some x) : Primary scope (t :: rest) (.numberLiteral x) rest
  | string {t : Token} {cs : List Char} {rest : List Token} (hkind : t.kind = .stringLiteral)
      (hread : stringOfLexeme? t.lexeme.toList = some cs) :
      Primary scope (t :: rest) (.stringLiteral (String.ofList cs)) rest
  | bool {t : Token} {b : Bool} {rest : List Token} (hkind : t.kind = .boolLiteral)
      (hread : t.lexeme = toString b) : Primary scope (t :: rest) (.boolLiteral b) rest
  | list {t : Token} {e : Expr} {tokens rest : List Token} (hkind : t.kind = .leftSquareBracket)
      (hread : Reads (listLiteral expression scope) (t :: tokens) e rest) : Primary scope (t :: tokens) e rest
  | group {t close : Token} {e : Expr} {tokens rest : List Token} (hkind : t.kind = .leftParenthesis)
      (hread : Reads (expression scope .unknown) tokens e (close :: rest))
      (hclose : close.kind = .rightParenthesis) : Primary scope (t :: tokens) e rest

/-- The tokens begin with a primary operand behind any number of operators. -/
inductive Operated (scope : Scope) : List Token → Operand → List Token → Prop
  | primary {e : Expr} {tokens rest : List Token} (h : Primary scope tokens e rest) : Operated scope tokens ⟨[], e⟩ rest
  | unary {t : Token} {op : UnaryOp} {o : Operand} {tokens rest : List Token} (hop : t.kind.unaryOp? = some op)
      (h : Operated scope tokens o rest) : Operated scope (t :: tokens) ⟨op :: o.operators, o.primary⟩ rest

/-- The tokens begin with binary operators, each with an operand behind it, up to a token that is no operator behind
an operand. -/
inductive Chain (scope : Scope) : List Token → List (BinaryOp × Operand) → List Token → Prop
  | done {rest : List Token} (hstop : (frontKind rest).afterOperand? = none) : Chain scope rest [] rest
  | more {t : Token} {op : BinaryOp} {o : Operand} {tokens middle rest : List Token}
      {items : List (BinaryOp × Operand)} (hop : t.kind.binaryOp? = some op) (h : Operated scope tokens o middle)
      (hmore : Chain scope middle items rest) : Chain scope (t :: tokens) ((op, o) :: items) rest

variable {scope : Scope} {tokens middle rest : List Token} {o : Operand} {items : List (BinaryOp × Operand)}

theorem Primary.reads {e : Expr} (h : Primary scope tokens e rest) : Reads (operand expression scope) tokens e rest := by
  cases h with
  | name hkind hresolve => exact .name hkind hresolve
  | number hkind hread => exact .number hkind hread
  | string hkind hread => exact .string hkind hread
  | bool hkind hread => exact .bool hkind hread
  | list hkind hread => exact .list hkind hread
  | group hkind hread hclose => exact .group hkind hread hclose

theorem afterOperand?_eq {kind : TokenKind} (h : kind.binaryOp? = some op) :
    kind.afterOperand? = some (.binary op) := by
  cases kind <;> first | exact congrArg (Option.map Infix.binary) h | cases h

theorem Chain.front (h : Chain scope tokens items rest) {op : Infix}
    (hop : op ∈ (frontKind tokens).afterOperand?) : ∃ item ∈ items.head?, op = .binary item.1 := by
  cases h with
  | done hstop => simp [hstop] at hop
  | more hbinary h hmore =>
    rw [frontKind_cons, afterOperand?_eq hbinary] at hop
    cases hop
    exact ⟨_, rfl, rfl⟩

theorem Operated.reads (h : Operated scope tokens o middle) (hmore : Chain scope middle items rest) :
    Reads (operand expression scope) tokens o.expr middle := by
  induction h with
  | primary h => exact h.reads
  | unary hop h ih =>
    refine .unary hop (.expression (ih hmore) fun after hafter => ?_)
    obtain ⟨item, _, rfl⟩ := hmore.front hafter
    exact Precedence.isAbove_eq_false.mpr item.1.precedence_le_unary

/-! ### Reading a chain -/

/-- What the operators of a chain that bind more tightly than `least` make of the tree to their left: an ordered
tree of it and of the first items, behind which the chain goes on with an operator that does not bind more
tightly. -/
structure Climbed (scope : Scope) (least : Precedence) (left : OperatorTree) (tokens : List Token)
    (items : List (BinaryOp × Operand)) (rest : List Token) (tree : OperatorTree) (middle : List Token)
    (remaining : List (BinaryOp × Operand)) : Prop where
  reads : Reads (operators expression scope least left.expr) tokens tree.expr middle
  chain : Chain scope middle remaining rest
  first : tree.first = left.first
  following : tree.following ++ remaining = left.following ++ items
  ordered : tree.Ordered
  above : ∀ root ∈ tree.root?, least.rank < root.precedence.rank
  below : ∀ item ∈ remaining.head?, item.1.precedence.rank ≤ least.rank
  shorter : remaining.length ≤ items.length

theorem Climbed.stop (hchain : Chain scope tokens items rest)
    (hordered : left.Ordered) (habove : ∀ root ∈ left.root?, least.rank < root.precedence.rank)
    (hbelow : ∀ item ∈ items.head?, item.1.precedence.rank ≤ least.rank) :
    Climbed scope least left tokens items rest left tokens items := by
  refine ⟨.operators_stop (fun op hop => ?_) left.expr, hchain, rfl, rfl, hordered, habove, hbelow, Nat.le_refl _⟩
  obtain ⟨item, hitem, rfl⟩ := hchain.front hop
  exact Precedence.isAbove_eq_false.mpr (hbelow item hitem)

/-- One operator of a chain: the tree to its right is made of the items that bind more tightly than it, and the
operators behind that tree take the whole as the tree to their left. -/
theorem Climbed.step {right tree : OperatorTree} {t : Token}
    {middle' middle'' : List Token} {remaining remaining' : List (BinaryOp × Operand)}
    (hop : t.kind.binaryOp? = some op) (habove : least.rank < op.precedence.rank)
    (ho : Operated scope tokens o middle) (hchain : Chain scope middle items rest)
    (hright : Climbed scope op.precedence (.operand o) middle items rest right middle' remaining)
    (hmore : Climbed scope least (.node left op right) middle' remaining rest tree middle'' remaining') :
    Climbed scope least left (t :: tokens) ((op, o) :: items) rest tree middle'' remaining' := by
  have hend : t.kind ≠ .endOfInput := by
    intro hend
    rw [hend] at hop
    cases hop
  have hoperand : Reads (expression scope op.precedence) tokens right.expr middle' := by
    rw [expression_eq]
    exact (ho.reads hchain).bind hright.reads
  have hoperation : Reads (infixOperation expression scope left.expr (.binary op)) (t :: tokens)
      (OperatorTree.node left op right).expr middle' :=
    (Reads.advance hend).bind (hoperand.bind (.pure _ middle'))
  refine ⟨?_, hmore.chain, hmore.first, ?_, hmore.ordered, hmore.above, hmore.below, ?_⟩
  · exact .operators_step (afterOperand?_eq hop) (Precedence.isAbove_eq_true.mpr habove) hoperation hmore.reads
  · have hitems : right.following ++ remaining = items := by
      simpa [OperatorTree.following] using hright.following
    calc tree.following ++ remaining'
      _ = (OperatorTree.node left op right).following ++ remaining := hmore.following
      _ = left.following ++ (op, right.first) :: (right.following ++ remaining) := by
        simp [OperatorTree.following]
      _ = left.following ++ (op, o) :: items := by rw [hitems, hright.first]; rfl
  · have := hright.shorter
    have := hmore.shorter
    simp only [List.length_cons]
    omega

/-- The operators of a chain that bind more tightly than `least` are read to the end, as one ordered tree. -/
theorem exists_climbed (hchain : Chain scope tokens items rest)
    (hordered : left.Ordered) (habove : ∀ root ∈ left.root?, least.rank < root.precedence.rank)
    (hnext : ∀ root ∈ left.root?, ∀ item ∈ items.head?, item.1.precedence.rank ≤ root.precedence.rank) :
    ∃ tree middle remaining, Climbed scope least left tokens items rest tree middle remaining := by
  -- Both the tree to the right of an operator and the operators behind it are made of fewer items.
  induction hn : items.length using Nat.strongRecOn generalizing tokens items least left with
  | ind n ih =>
    cases hchain with
    | done hstop => exact ⟨left, _, _, .stop (.done hstop) hordered habove (by simp)⟩
    | @more t op o tokens middle _ items hop ho hmore =>
      by_cases hrank : least.rank < op.precedence.rank
      · simp only [List.length_cons] at hn
        obtain ⟨right, middle', remaining, hright⟩ : ∃ right middle' remaining,
            Climbed scope op.precedence (.operand o) middle items rest right middle' remaining :=
          ih items.length (by omega) hmore trivial nofun nofun rfl
        have hnode : (OperatorTree.node left op right).Ordered := by
          refine ⟨hordered, hright.ordered, fun root hr => ?_, fun root hr => ?_⟩
          · simpa [BinaryOp.rank_precedence] using hnext root hr (op, o) rfl
          · simpa [BinaryOp.rank_precedence] using hright.above root hr
        have hlength := hright.shorter
        obtain ⟨tree, middle'', remaining', htree⟩ : ∃ tree middle'' remaining',
            Climbed scope least (.node left op right) middle' remaining rest tree middle'' remaining' :=
          ih remaining.length (by omega) hright.chain hnode (fun root hr => by cases hr; exact hrank)
            (fun root hr => by cases hr; exact hright.below) rfl
        exact ⟨tree, middle'', remaining', .step hop hrank ho hmore hright htree⟩
      · refine ⟨left, _, _, .stop (.more hop ho hmore) hordered habove fun item hitem => ?_⟩
        cases hitem
        exact Nat.not_lt.mp hrank

/-- Operands with any number of operators before them and binary operators between them, up to a token that is no
operator behind an operand, are read to the end as the one ordered tree of them. -/
theorem expression_ordered (hfirst : Operated scope tokens o middle) (hmore : Chain scope middle items rest) :
    ∃ tree : OperatorTree, Reads (expression scope .unknown) tokens tree.expr rest
      ∧ tree.first = o ∧ tree.following = items ∧ tree.Ordered
      ∧ ∀ other : OperatorTree, other.Ordered → other.first = o → other.following = items → other = tree := by
  obtain ⟨tree, last, remaining, h⟩ : ∃ tree last remaining,
      Climbed scope .unknown (.operand o) middle items rest tree last remaining :=
    exists_climbed hmore trivial nofun nofun
  -- Every binary operator binds more tightly than nothing, so none remains.
  have hnone : remaining = [] := by
    cases hremaining : remaining with
    | nil => rfl
    | cons item remaining =>
      have hle : item.1.precedence.rank ≤ 0 := h.below item (by rw [hremaining]; rfl)
      rw [BinaryOp.rank_precedence] at hle
      omega
  subst hnone
  have hlast : last = rest := by
    cases h.chain
    rfl
  subst hlast
  have hitems : tree.following = items := by simpa [OperatorTree.following] using h.following
  refine ⟨tree, ?_, h.first, hitems, h.ordered, fun other hother hotherFirst hotherItems => ?_⟩
  · rw [expression_eq]
    exact (hfirst.reads hmore).bind h.reads
  · exact h.ordered.unique hother (hotherFirst.trans h.first.symm) (hotherItems.trans hitems.symm)

def mixedScope : Scope := { parameters := ["a", "b", "c"] }

/-- The tokens of `- a + not ( b ) * true < c ;` behind the first operand. -/
def mixedChain : List Token :=
  [word .plus "+", word .notWord "not", word .leftParenthesis "(", word .identifier "b",
    word .rightParenthesis ")", word .asterisk "*", word .boolLiteral "true", word .lessThan "<", word .identifier "c", word .semicolon ";"]

/-- The operators and operands in `- a + not ( b ) * true < c ;` behind the first operand. -/
def mixedItems : List (BinaryOp × Operand) :=
  [(.add, ⟨[.not], .parameter "b"⟩), (.multiply, ⟨[], .boolLiteral true⟩), (.less, ⟨[], .parameter "c"⟩)]

/-- The tree of `- a + not ( b ) * true < c ;`. -/
def mixedTree : OperatorTree :=
  .node (.node (.operand ⟨[.negate], .parameter "a"⟩) .add
    (.node (.operand ⟨[.not], .parameter "b"⟩) .multiply (.operand ⟨[], .boolLiteral true⟩)))
    .less (.operand ⟨[], .parameter "c"⟩)

theorem expression_ordered_mixed : Operated mixedScope (word .minus "-" :: word .identifier "a" :: mixedChain)
        ⟨[.negate], .parameter "a"⟩ mixedChain
      ∧ Chain mixedScope mixedChain mixedItems [word .semicolon ";"]
      ∧ Reads (expression mixedScope .unknown) (word .minus "-" :: word .identifier "a" :: mixedChain)
        mixedTree.expr [word .semicolon ";"] := by
  have hfirst : Operated mixedScope (word .minus "-" :: word .identifier "a" :: mixedChain)
      ⟨[.negate], .parameter "a"⟩ mixedChain :=
    .unary (o := ⟨[], _⟩) rfl (.primary (@Primary.name _ _ (.parameter "a") _ rfl rfl))
  have hgroup : Operated mixedScope (mixedChain.drop 1) ⟨[.not], .parameter "b"⟩ (mixedChain.drop 5) :=
    .unary (o := ⟨[], _⟩) rfl (.primary (.group rfl
      (.expression (@Reads.name _ _ _ _ (.parameter "b") rfl rfl) nofun) rfl))
  have hmore : Chain mixedScope mixedChain mixedItems [word .semicolon ";"] :=
    .more rfl hgroup (.more rfl (.primary (.bool rfl rfl)) (.more rfl
      (.primary (@Primary.name _ _ (.parameter "c") _ rfl rfl)) (.done rfl)))
  refine ⟨hfirst, hmore, ?_⟩
  obtain ⟨tree, hreads, _, _, _, hunique⟩ := expression_ordered hfirst hmore
  have htree : mixedTree = tree := hunique mixedTree (by simp [mixedTree, OperatorTree.Ordered,
    OperatorTree.root?, BinaryOp.tightness]) rfl rfl
  rw [htree]
  exact hreads

end Parser

end StreamBot.Script
