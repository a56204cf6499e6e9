import GapAudit.Text.Bytes

/-!
Syntax trees of source text. A parser gives them; what it puts into them is the grammar's affair.
-/

namespace GapAudit.Source

open Text

/-- The two dialects: plain TypeScript, where a leading angle bracket is a cast, and the one where
it opens an element. -/
inductive Dialect where
  | plain
  | markup
  deriving DecidableEq, Repr

/-- A node of a syntax tree. A node that is not named is a token which the grammar spells out. The
field says which part of its parent the node is, where the grammar has a word for it. The node
reaches from the byte `start` of the text up to the byte `stop`. -/
structure Tree where
  kind : String
  named : Bool
  field : Option String
  start : Nat
  stop : Nat
  children : List Tree
  deriving Repr

namespace Tree

def namedChildren (t : Tree) : List Tree :=
  t.children.filter (·.named)

/-- The child that is the given part of a node. -/
def child? (t : Tree) (field : String) : Option Tree :=
  t.children.find? fun child => child.field == some field

/-- The text of a node. A range that does not begin and end between characters has none. -/
def text (source : List Char) (t : Tree) : List Char :=
  if splitsAt t.start source && splitsAt t.stop source then
    takeBytes (t.stop - t.start) (dropBytes t.start source)
  else []

mutual

/-- A node and all nodes below it in the order of the text, a node before those below it. -/
def preorder : Tree → List Tree
  | t@⟨_, _, _, _, _, children⟩ => t :: allPreorder children

def allPreorder : List Tree → List Tree
  | [] => []
  | t :: ts => preorder t ++ allPreorder ts

end

mutual

/-- The number of nodes of a tree. -/
def size : Tree → Nat
  | ⟨_, _, _, _, _, children⟩ => sizeAll children + 1

def sizeAll : List Tree → Nat
  | [] => 0
  | t :: ts => size t + sizeAll ts

end

theorem allPreorder_append (xs ys : List Tree) :
    allPreorder (xs ++ ys) = allPreorder xs ++ allPreorder ys := by
  induction xs with
  | nil => rfl
  | cons x xs ih => simp [allPreorder, ih]

theorem preorder_eq (t : Tree) : t.preorder = t :: allPreorder t.children := by
  cases t
  rfl

mutual

theorem length_preorder : (t : Tree) → t.preorder.length = t.size
  | ⟨_, _, _, _, _, children⟩ => by simp [preorder, size, length_allPreorder children]

theorem length_allPreorder : (ts : List Tree) → (allPreorder ts).length = sizeAll ts
  | [] => rfl
  | t :: ts => by simp [allPreorder, sizeAll, length_preorder t, length_allPreorder ts]

end

end Tree

end GapAudit.Source
