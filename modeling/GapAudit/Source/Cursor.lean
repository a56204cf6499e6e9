import GapAudit.Source.Tree

/-!
A walk over syntax trees that keeps only its place: from a node it goes to its first child,
otherwise to the next node beside it, otherwise to the next one beside the innermost node around it
that has one. Main statement: the walk comes to every node once, in the order of the text
(`visited_eq_allPreorder`).
-/

namespace GapAudit.Source

/-- A place in trees: the node there, those that follow beside it, and those that follow beside each
of the nodes around it, the innermost first. -/
structure Cursor where
  node : Tree
  later : List Tree
  above : List (List Tree)

namespace Cursor

/-- The place of the first of several nodes or, if there are none, of the first that follows beside
the nodes around them. -/
def climb? : (later : List Tree) → (above : List (List Tree)) → Option Cursor
  | node :: later, above => some ⟨node, later, above⟩
  | [], [] => none
  | [], later :: above => climb? later above

/-- The next place. -/
def next? (c : Cursor) : Option Cursor :=
  match c.node.children with
  | node :: later => some ⟨node, later, c.later :: c.above⟩
  | [] => climb? c.later c.above

/-- The nodes at a place and at the places after it, at most `limit` of them. -/
def visitedWithin : (limit : Nat) → Cursor → List Tree
  | 0, _ => []
  | limit + 1, c => c.node :: c.next?.elim [] (visitedWithin limit)

/-- The nodes that a walk over several trees comes to, in its order. -/
def visited (trees : List Tree) : List Tree :=
  (climb? trees []).elim [] (visitedWithin (Tree.sizeAll trees))

/-- The nodes from a place on in the order of the text. -/
def ahead (c : Cursor) : List Tree :=
  c.node.preorder ++ Tree.allPreorder c.later ++ c.above.flatMap Tree.allPreorder

theorem ahead_climb? (later : List Tree) (above : List (List Tree)) :
    (climb? later above).elim [] ahead =
      Tree.allPreorder later ++ above.flatMap Tree.allPreorder := by
  fun_induction climb? later above with
  | case1 node later above => simp [ahead, Tree.allPreorder]
  | case2 => simp [Tree.allPreorder]
  | case3 later above ih => simp [ih, Tree.allPreorder]

theorem ahead_eq (c : Cursor) : c.ahead = c.node :: c.next?.elim [] ahead := by
  rw [ahead, Tree.preorder_eq, next?]
  split
  next node later children => simp [children, ahead, Tree.allPreorder]
  next children => simp [children, ahead_climb?, Tree.allPreorder]

theorem visitedWithin_eq_take (limit : Nat) (c : Cursor) :
    visitedWithin limit c = c.ahead.take limit := by
  induction limit generalizing c with
  | zero => rfl
  | succ limit ih =>
    rw [visitedWithin, ahead_eq, List.take_succ_cons]
    cases c.next? with
    | none => simp
    | some d => simp [ih]

/-- A walk over trees comes to each of their nodes once, in the order of the text. -/
theorem visited_eq_allPreorder (trees : List Tree) : visited trees = Tree.allPreorder trees := by
  have start := ahead_climb? trees []
  rw [visited, ← Tree.length_allPreorder]
  cases h : climb? trees [] with
  | none => simpa [h] using start
  | some c => simp_all [visitedWithin_eq_take]

end Cursor

end GapAudit.Source
