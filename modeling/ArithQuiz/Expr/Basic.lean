/-!
# Expression trees

An expression is a leaf holding the text of a number, or a node holding an
operator, its children (two or more when built from text) and the text it
was built from. Operators come in tiers, loosest first: `-`, `+`, `*`, `/`.

* `Expr.render` writes a tree in prefix form: `(- 3 (+ 2 1))`.
* `Expr.preorder` lists the nodes, each parent before its children's subtrees.
-/

set_option autoImplicit false

namespace ArithQuiz

/-- The four arithmetic operators. -/
inductive Operator
  | add
  | sub
  | mul
  | div
deriving DecidableEq, Inhabited, Repr

namespace Operator

/-- The character that writes the operator. -/
def symbol : Operator → Char
  | add => '+'
  | sub => '-'
  | mul => '*'
  | div => '/'

/-- The operator a character writes, if any. -/
def ofSymbol? : Char → Option Operator
  | '+' => some add
  | '-' => some sub
  | '*' => some mul
  | '/' => some div
  | _ => none

/-- Whether a character writes an operator; the same as `(ofSymbol? c).isSome`. -/
def isSymbol (c : Char) : Bool := c == '+' || c == '-' || c == '*' || c == '/'

theorem isSymbol_eq_isSome (c : Char) : isSymbol c = (ofSymbol? c).isSome := by
  unfold isSymbol ofSymbol?
  split <;> simp_all

/-- The tier tried after this one; division is the tightest. -/
def next : Operator → Option Operator
  | sub => some add
  | add => some mul
  | mul => some div
  | div => none

/-- Position in the tier order, loosest first; `none` (no tier left) is last. -/
def rank : Option Operator → Nat
  | some sub => 0
  | some add => 1
  | some mul => 2
  | some div => 3
  | none => 4

theorem rank_next_gt (op : Operator) : rank op.next > rank (some op) := by
  cases op <;> decide

theorem rank_le_four (t : Option Operator) : rank t ≤ 4 := by
  rcases t with _ | ⟨_ | _ | _ | _⟩ <;> decide

theorem ofSymbol?_symbol (op : Operator) : ofSymbol? op.symbol = some op := by
  cases op <;> rfl

end Operator

/-- An expression tree. -/
inductive Expr
  /-- A number as written. -/
  | leaf (text : String)
  /-- An operator applied left to right over its children. -/
  | node (text : String) (op : Operator) (children : List Expr)
deriving Inhabited, Repr

namespace Expr

/-- The text the tree was built from. -/
def text : Expr → String
  | leaf t => t
  | node t _ _ => t

/-- The operator at the root, `none` for a leaf. -/
def operator? : Expr → Option Operator
  | leaf _ => none
  | node _ op _ => some op

/-- The children of the root, none for a leaf. -/
def children : Expr → List Expr
  | leaf _ => []
  | node _ _ cs => cs

/-- Whether the tree is a leaf. -/
def isLeaf : Expr → Bool
  | leaf _ => true
  | node .. => false

mutual
/-- The prefix form: a leaf is its text, a node is `(op child child …)`. -/
def render : Expr → String
  | leaf t => t
  | node _ op cs => "(" ++ op.symbol.toString ++ renderChildren cs ++ ")"

/-- Each child's prefix form after a blank. -/
def renderChildren : List Expr → String
  | [] => ""
  | c :: cs => " " ++ render c ++ renderChildren cs
end

/-- A node as listed by `preorder`: its text, operator and number of children. -/
structure Visit where
  /-- The node's text. -/
  text : String
  /-- The node's operator, `none` for a leaf. -/
  operator? : Option Operator
  /-- The number of children. -/
  arity : Nat

mutual
/-- All nodes, each parent before the subtrees of its children, left to right. -/
def preorder : Expr → List Visit
  | leaf t => [⟨t, none, 0⟩]
  | node t op cs => ⟨t, some op, cs.length⟩ :: preorderAll cs

/-- The preorder lists of several trees, one after another. -/
def preorderAll : List Expr → List Visit
  | [] => []
  | c :: cs => preorder c ++ preorderAll cs
end

end Expr

end ArithQuiz
