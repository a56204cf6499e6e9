import Mathlib
import GapAudit.Source.Facts

/-!
# Walks over syntax trees

The way to a node has a number for each step down: how many nodes stand before the one to go to.
Nodes in the order of the text have ways in lexicographic order, a way before those that go on from
it. A walk keeps no ways, but at each place it goes to the first way behind the one to this place
(`Cursor.StandsAt.rel_next?`, `Tree.leadsToLeast_after?`). So it ends, it comes to every node once,
and the elements it finds are those that are found by recursion (`Cursor.visited_exact`).
-/

namespace GapAudit.Source

/-- What is passed from a start on, where each step leads to the next one until there is none. -/
inductive Run {α : Type} (next? : α → Option α) : Option α → List α → Prop
  | stop : Run next? none []
  | step {a : α} {rest : List α} : Run next? (next? a) rest → Run next? (some a) (a :: rest)

namespace Run

section

variable {α β : Type} {f : α → Option α} {g : β → Option β} {R : α → β → Prop}

/-- Steps that keep two places together make a run of one kind go along with one of the other. -/
lemma exists_simulated (hstep : ∀ a b, R a b → Option.Rel R (f a) (g b)) {start : Option α}
    {passed : List α} (h : Run f start passed) {other : Option β}
    (hstart : Option.Rel R start other) :
    ∃ others, Run g other others ∧ List.Forall₂ R passed others := by
  induction h generalizing other with
  | stop =>
    cases hstart
    exact ⟨[], .stop, .nil⟩
  | @step a rest _ ih =>
    cases hstart with
    | @some _ b hab =>
      obtain ⟨others, hrun, hrest⟩ := ih (hstep a b hab)
      exact ⟨b :: others, .step hrun, .cons hab hrest⟩

end

section

variable {α : Type} [LinearOrder α] {next? : α → Option α} {valid : α → Prop}

/-- Whether each step leads to the least valid place behind, as long as there is one. -/
structure LeadsToLeast (next? : α → Option α) (valid : α → Prop) : Prop where
  valid_next : ∀ {a b : α}, next? a = some b → valid b
  lt_iff : ∀ {a b : α}, valid b → (a < b ↔ ∃ c, next? a = some c ∧ c ≤ b)

/-- What is passed from a place on is each valid place behind. -/
lemma mem_iff (hleast : LeadsToLeast next? valid) {a : α} {passed : List α}
    (h : Run next? (next? a) passed) {b : α} : b ∈ passed ↔ valid b ∧ a < b := by
  generalize hstart : next? a = start at h
  induction h generalizing a with
  | stop =>
    refine iff_of_false List.not_mem_nil fun ⟨hb, hlt⟩ => ?_
    obtain ⟨c, hc, -⟩ := (hleast.lt_iff hb).mp hlt
    rw [hstart] at hc
    cases hc
  | @step c rest _ ih =>
    have hbehind : valid b → (a < b ↔ c ≤ b) := by
      intro hb
      rw [hleast.lt_iff hb, hstart]
      exact ⟨fun ⟨_, heq, hle⟩ => Option.some.inj heq ▸ hle, fun hle => ⟨c, rfl, hle⟩⟩
    rw [List.mem_cons, ih rfl]
    constructor
    · rintro (rfl | ⟨hb, hlt⟩)
      · have hb := hleast.valid_next hstart
        exact ⟨hb, (hbehind hb).mpr le_rfl⟩
      · exact ⟨hb, (hbehind hb).mpr hlt.le⟩
    · rintro ⟨hb, hlt⟩
      rcases ((hbehind hb).mp hlt).eq_or_lt with heq | hlt
      · exact .inl heq.symm
      · exact .inr ⟨hb, hlt⟩

lemma pairwise_lt (hleast : LeadsToLeast next? valid) {start : Option α} {passed : List α}
    (h : Run next? start passed) : passed.Pairwise (· < ·) := by
  induction h with
  | stop => exact .nil
  | step hrest ih => exact .cons (fun b hb => ((hrest.mem_iff hleast).mp hb).2) ih

end

end Run

namespace Way

variable {way other : List ℕ}

lemma cons_le_cons_iff {a b : ℕ} : a :: way ≤ b :: other ↔ a < b ∨ a = b ∧ way ≤ other := by
  rw [← not_lt, ← not_lt, List.cons_lt_cons_iff]
  by_cases h : way ≤ other <;> grind

lemma lt_concat (way : List ℕ) (i : ℕ) : way < way ++ [i] := by
  have hlt : way ++ [] < way ++ [i] := List.append_left_lt (List.nil_lt_cons i [])
  rwa [List.append_nil] at hlt

lemma concat_zero_le_iff : way ++ [0] ≤ other ↔ way < other := by
  induction way generalizing other with
  | nil =>
    cases other with
    | nil => exact iff_of_false (not_le.mpr (List.nil_lt_cons 0 [])) (lt_irrefl _)
    | cons b other =>
      refine iff_of_true ?_ (List.nil_lt_cons b other)
      rw [List.nil_append, cons_le_cons_iff]
      rcases b.eq_zero_or_pos with rfl | hb
      · exact .inr ⟨rfl, not_lt.mp (List.not_lt_nil other)⟩
      · exact .inl hb
  | cons a way ih =>
    cases other with
    | nil => exact iff_of_false (not_le.mpr (List.nil_lt_cons a _)) (List.not_lt_nil _)
    | cons b other => rw [List.cons_append, cons_le_cons_iff, List.cons_lt_cons_iff, ih]

lemma concat_succ_le_iff {i : ℕ} :
    way ++ [i + 1] ≤ other ↔ way ++ [i] < other ∧ ¬way ++ [i] <+: other := by
  induction way generalizing other with
  | nil =>
    cases other with
    | nil => exact iff_of_false (not_le.mpr (List.nil_lt_cons _ _)) fun h => List.not_lt_nil _ h.1
    | cons b other =>
      rw [List.nil_append, List.nil_append, cons_le_cons_iff, List.cons_lt_cons_iff,
        List.cons_prefix_cons]
      have hleast : [] ≤ other := not_lt.mp (List.not_lt_nil other)
      have hpart : [] <+: other := List.nil_prefix
      grind
  | cons a way ih =>
    cases other with
    | nil => exact iff_of_false (not_le.mpr (List.nil_lt_cons _ _)) fun h => List.not_lt_nil _ h.1
    | cons b other =>
      rw [List.cons_append, List.cons_append, cons_le_cons_iff, List.cons_lt_cons_iff,
        List.cons_prefix_cons, ih]
      grind

/-- Behind a way that does not go on from another one, it stays behind all that do. -/
lemma append_lt_of_not_prefix (hlt : way < other) (hpart : ¬way <+: other) (more : List ℕ) :
    way ++ more < other := by
  rw [List.prefix_iff_eq_take] at hpart
  rcases List.lt_iff_exists.mp hlt with ⟨htake, -⟩ | ⟨i, hway, hother, hsame, hi⟩
  · exact absurd htake hpart
  · have hlength : i < (way ++ more).length := by
      rw [List.length_append]
      omega
    refine List.lt_iff_exists.mpr (.inr ⟨i, hlength, hother, fun j hj => ?_, ?_⟩)
    · rw [List.getElem_append_left (by omega)]
      exact hsame j hj
    · rwa [List.getElem_append_left hway]

end Way

namespace Tree

/-- The nodes right inside the one that a way leads to; all of them where there is no way to go. -/
def insideOf (nodes : List Tree) (way : List ℕ) : List Tree :=
  way.foldl (fun nodes i => nodes[i]?.elim [] children) nodes

/-- The node that a way leads to. -/
def at? (nodes : List Tree) (way : List ℕ) : Option Tree :=
  way.getLast?.bind fun i => (insideOf nodes way.dropLast)[i]?

/-- The way on from a node when all inside it are passed: to the next one beside it, otherwise from
the one around it. It goes back from the end of the way to the node. -/
def beyond? (nodes : List Tree) : (backwards : List ℕ) → Option (List ℕ)
  | [] => none
  | i :: around =>
    let beside := around.reverse ++ [i + 1]
    if (at? nodes beside).isSome then some beside else beyond? nodes around

/-- The way on from a node: to the first one inside it, otherwise beyond. -/
def after? (nodes : List Tree) (way : List ℕ) : Option (List ℕ) :=
  let first := way ++ [0]
  if (at? nodes first).isSome then some first else beyond? nodes way.reverse

variable {nodes : List Tree} {way other : List ℕ} {i : ℕ}

lemma insideOf_append (nodes : List Tree) (way more : List ℕ) :
    insideOf nodes (way ++ more) = insideOf (insideOf nodes way) more :=
  List.foldl_append

lemma insideOf_cons (nodes : List Tree) (i : ℕ) (way : List ℕ) :
    insideOf nodes (i :: way) = insideOf (nodes[i]?.elim [] children) way :=
  rfl

lemma insideOf_nil (way : List ℕ) : insideOf [] way = [] := by
  induction way with
  | nil => rfl
  | cons i way ih => rw [insideOf_cons, List.getElem?_nil, Option.elim_none, ih]

lemma at?_concat (nodes : List Tree) (way : List ℕ) (i : ℕ) :
    at? nodes (way ++ [i]) = (insideOf nodes way)[i]? := by
  rw [at?, List.getLast?_concat, List.dropLast_concat, Option.bind_some]

lemma isSome_at?_concat :
    (at? nodes (way ++ [i])).isSome = true ↔ i < (insideOf nodes way).length := by
  rw [at?_concat, Option.isSome_iff_ne_none, ne_eq, List.getElem?_eq_none_iff, not_le]

/-- A way to a node never leaves the nodes. -/
lemma lt_length_insideOf {more : List ℕ} (h : (at? nodes (way ++ i :: more)).isSome = true) :
    i < (insideOf nodes way).length := by
  rcases List.eq_nil_or_concat' more with rfl | ⟨more, j, rfl⟩
  · exact isSome_at?_concat.mp h
  · by_contra hlength
    have hnone : (insideOf nodes way)[i]? = none := List.getElem?_eq_none (not_lt.mp hlength)
    rw [← List.cons_append, ← List.append_assoc, isSome_at?_concat, insideOf_append, insideOf_cons,
      hnone, Option.elim_none, insideOf_nil] at h
    exact Nat.not_lt_zero j h

lemma exists_step_inside (hother : (at? nodes other).isSome = true) (hlt : way < other)
    (hpart : way <+: other) :
    ∃ j more, other = way ++ j :: more ∧ j < (insideOf nodes way).length := by
  obtain ⟨more, rfl⟩ := hpart
  cases more with
  | nil =>
    rw [List.append_nil] at hlt
    exact absurd hlt (lt_irrefl way)
  | cons j more => exact ⟨j, more, rfl, lt_length_insideOf hother⟩

lemma beyond?_concat (nodes : List Tree) (way : List ℕ) (i : ℕ) :
    beyond? nodes (way ++ [i]).reverse =
      if i + 1 < (insideOf nodes way).length then some (way ++ [i + 1])
      else beyond? nodes way.reverse := by
  rw [List.reverse_concat, beyond?, List.reverse_reverse]
  simp only [isSome_at?_concat]

/-- Beyond a node there is the least way that is behind the one to it and does not go on from it. -/
lemma lt_and_not_prefix_iff (hother : (at? nodes other).isSome = true) :
    way < other ∧ ¬way <+: other ↔
      ∃ next, beyond? nodes way.reverse = some next ∧ next ≤ other := by
  induction way using List.reverseRecOn with
  | nil => exact iff_of_false (fun h => h.2 List.nil_prefix) (by simp [beyond?])
  | append_singleton way i ih =>
    rw [beyond?_concat, ← Way.concat_succ_le_iff]
    split
    · simp
    · next hlast =>
      rw [← ih]
      -- No node stands beside the last one, so what is behind it is behind the one around it.
      constructor
      · intro hle
        have hlt : way < other := (Way.lt_concat way _).trans_le hle
        refine ⟨hlt, fun hpart => ?_⟩
        obtain ⟨j, more, rfl, hj⟩ := exists_step_inside hother hlt hpart
        have hback : way ++ j :: more < way ++ [i + 1] :=
          List.append_left_lt (List.cons_lt_cons_iff.mpr (.inl (by omega)))
        exact absurd hle (not_le.mpr hback)
      · rintro ⟨hlt, hpart⟩
        exact (Way.append_lt_of_not_prefix hlt hpart _).le

lemma lt_iff_after? (hother : (at? nodes other).isSome = true) :
    way < other ↔ ∃ next, after? nodes way = some next ∧ next ≤ other := by
  rw [after?]
  split
  · rw [← Way.concat_zero_le_iff]
    simp
  · next hfirst =>
    rw [← lt_and_not_prefix_iff hother, iff_self_and]
    intro hlt hpart
    obtain ⟨j, more, rfl, hj⟩ := exists_step_inside hother hlt hpart
    rw [isSome_at?_concat] at hfirst
    omega

lemma isSome_at?_of_beyond? {backwards next : List ℕ} (h : beyond? nodes backwards = some next) :
    (at? nodes next).isSome = true := by
  induction backwards with
  | nil => cases h
  | cons i around ih =>
    rw [beyond?] at h
    split at h
    · next hbeside => rwa [← Option.some.inj h]
    · exact ih h

lemma isSome_at?_of_after? {next : List ℕ} (h : after? nodes way = some next) :
    (at? nodes next).isSome = true := by
  rw [after?] at h
  split at h
  · next hfirst => rwa [← Option.some.inj h]
  · exact isSome_at?_of_beyond? h

/-- The way on leads to the least way behind that leads to a node. -/
theorem leadsToLeast_after? (nodes : List Tree) :
    Run.LeadsToLeast (after? nodes) fun way => (at? nodes way).isSome = true where
  valid_next := isSome_at?_of_after?
  lt_iff := lt_iff_after?

/-- Nothing follows beside the innermost node or beside the one around it, so the way on leads out
of both. -/
example : after? [⟨"a", true, none, 0, 9, [⟨"b", true, none, 0, 5, [⟨"c", true, none, 0, 5, []⟩]⟩]⟩,
    ⟨"d", true, none, 9, 10, []⟩] [0, 0, 0] = some [1] := by
  decide

variable (source : List Char)

mutual

/-- The elements of a tree, found by recursion: the node itself, if it is one, and then those below
it, child by child. -/
def elementsWithin : Tree → List Element
  | t@⟨_, _, _, _, _, children⟩ => (element? source t).toList ++ allElementsWithin children

def allElementsWithin : List Tree → List Element
  | [] => []
  | t :: ts => elementsWithin t ++ allElementsWithin ts

end

mutual

lemma filterMap_preorder :
    (t : Tree) → t.preorder.filterMap (element? source) = elementsWithin source t
  | ⟨kind, named, field, start, stop, children⟩ => by
    rw [preorder, List.filterMap_cons, elementsWithin, filterMap_allPreorder children]
    cases element? source ⟨kind, named, field, start, stop, children⟩ <;> rfl

lemma filterMap_allPreorder :
    (ts : List Tree) → (allPreorder ts).filterMap (element? source) = allElementsWithin source ts
  | [] => rfl
  | t :: ts => by
    rw [allPreorder, List.filterMap_append, allElementsWithin, filterMap_preorder t,
      filterMap_allPreorder ts]

end

/-- What an element or a fragment has around its children: its two tags, and its own place. -/
structure Tags where
  field : Option String
  start : ℕ
  stop : ℕ
  opening : Tree
  closing : Tree
  opens : opening.kind = "jsx_opening_element"
  closes : closing.kind = "jsx_closing_element"

def Tags.around (tags : Tags) (children : List Tree) : Tree :=
  ⟨"jsx_element", true, tags.field, tags.start, tags.stop,
    tags.opening :: children ++ [tags.closing]⟩

mutual

/-- Whether nodes of two texts are alike but for the places where they stand. -/
def isAlike (source other : List Char) : Tree → Tree → Bool
  | t@⟨kind, named, _, _, _, children⟩, t'@⟨kind', named', _, _, _, children'⟩ =>
    kind == kind' && named == named' && t.text source == t'.text other &&
      areAlike source other children children'

def areAlike (source other : List Char) : List Tree → List Tree → Bool
  | [], [] => true
  | t :: ts, t' :: ts' => isAlike source other t t' && areAlike source other ts ts'
  | _, _ => false

end

variable {source} {other : List Char}

lemma kind_eq_of_isAlike {t t' : Tree} (h : isAlike source other t t' = true) :
    t.kind = t'.kind ∧ t.named = t'.named := by
  cases t
  cases t'
  simp only [isAlike, Bool.and_eq_true, beq_iff_eq] at h
  exact h.1.1

lemma any_kind_ne_of_areAlike (kind : String) {ts ts' : List Tree}
    (h : areAlike source other ts ts' = true) :
    ((ts.filter (·.named)).any fun t => t.kind != kind) =
      (ts'.filter (·.named)).any fun t => t.kind != kind := by
  induction ts generalizing ts' with
  | nil =>
    cases ts' with
    | nil => rfl
    | cons t' ts' => simp [areAlike] at h
  | cons t ts ih =>
    cases ts' with
    | nil => simp [areAlike] at h
    | cons t' ts' =>
      rw [areAlike, Bool.and_eq_true] at h
      obtain ⟨hkind, hnamed⟩ := kind_eq_of_isAlike h.1
      have hrest := ih h.2
      rw [List.filter_cons, List.filter_cons, hnamed]
      split <;> simp [hrest, hkind]

mutual

lemma givesContent_of_isAlike : (t t' : Tree) → isAlike source other t t' = true →
    givesContent source t = givesContent other t'
  | ⟨kind, named, field, start, stop, children⟩, ⟨kind', named', field', start', stop', children'⟩,
    h => by
    simp only [isAlike, Bool.and_eq_true, beq_iff_eq] at h
    obtain ⟨⟨⟨rfl, -⟩, htext⟩, hchildren⟩ := h
    have hinner := any_kind_ne_of_areAlike "comment" hchildren
    have hcontent := anyGivesContent_of_areAlike children children' hchildren
    simp only [givesContent, htext, namedChildren, hinner, hcontent]

/-- What children give to the node around them does not depend on where they stand. -/
lemma anyGivesContent_of_areAlike : (ts ts' : List Tree) → areAlike source other ts ts' = true →
    anyGivesContent source ts = anyGivesContent other ts'
  | [], [], _ => rfl
  | [], _ :: _, h => by simp [areAlike] at h
  | _ :: _, [], h => by simp [areAlike] at h
  | t :: ts, t' :: ts', h => by
    rw [areAlike, Bool.and_eq_true] at h
    rw [anyGivesContent, anyGivesContent, (kind_eq_of_isAlike h.1).2,
      givesContent_of_isAlike t t' h.1, anyGivesContent_of_areAlike ts ts' h.2]

end

lemma anyGivesContent_append (source : List Char) (xs ys : List Tree) :
    anyGivesContent source (xs ++ ys) =
      (anyGivesContent source xs || anyGivesContent source ys) := by
  induction xs with
  | nil => rfl
  | cons x xs ih => rw [List.cons_append, anyGivesContent, ih, anyGivesContent, Bool.or_assoc]

lemma givesContent_eq_false {t : Tree}
    (h : t.kind = "jsx_opening_element" ∨ t.kind = "jsx_closing_element") :
    givesContent source t = false := by
  cases t
  rcases h with rfl | rfl <;> rfl

/-- Tags give no content to their element. -/
lemma hasContent_around (source : List Char) (tags : Tags) (children : List Tree) :
    hasContent source (tags.around children) = anyGivesContent source children := by
  have hopening : givesContent source tags.opening = false := givesContent_eq_false (.inl tags.opens)
  have hclosing : givesContent source tags.closing = false := givesContent_eq_false (.inr tags.closes)
  rw [hasContent, Tags.around, anyGivesContent_append]
  simp [anyGivesContent, hopening, hclosing]

/-- What children give to the node around them they give as well from within one more. -/
lemma anyGivesContent_wrapped (source : List Char) (tags : Tags) (children : List Tree) :
    anyGivesContent source [tags.around children] = anyGivesContent source children := by
  rw [anyGivesContent, anyGivesContent, Bool.or_false, ← hasContent_around source tags children]
  rfl

end Tree

namespace Cursor

open Source.Tree

/-- Whether a place is that of the node that a way leads to. -/
inductive StandsAt (nodes : List Tree) : Cursor → List ℕ → Prop
  | outermost {before later : List Tree} {node : Tree} (heq : nodes = before ++ node :: later) :
    StandsAt nodes ⟨node, later, []⟩ [before.length]
  | inside {c : Cursor} {way : List ℕ} {before later : List Tree} {node : Tree}
    (around : StandsAt nodes c way) (heq : c.node.children = before ++ node :: later) :
    StandsAt nodes ⟨node, later, c.later :: c.above⟩ (way ++ [before.length])

namespace StandsAt

variable {nodes : List Tree} {c : Cursor} {way : List ℕ}

lemma insideOf_eq (h : StandsAt nodes c way) : insideOf nodes way = c.node.children := by
  induction h with
  | @outermost before later node heq =>
    have hnode : nodes[before.length]? = some node := by simp [heq]
    rw [insideOf_cons, hnode]
    rfl
  | @inside c way before later node _ heq ih =>
    have hnode : (insideOf nodes way)[before.length]? = some node := by simp [ih, heq]
    rw [insideOf_append, insideOf_cons, hnode]
    rfl

lemma at?_eq (h : StandsAt nodes c way) : at? nodes way = some c.node := by
  cases h with
  | @outermost before later node heq =>
    have hnode : nodes[before.length]? = some node := by simp [heq]
    exact hnode
  | @inside c way before later node around heq =>
    rw [at?_concat, around.insideOf_eq, heq]
    simp

/-- When all inside a node is passed, a walk goes to the next one beside it, otherwise on from
outside. -/
lemma rel_beside {before later : List Tree} {node : Tree} {above : List (List Tree)}
    (hstands : ∀ before node later, insideOf nodes way = before ++ node :: later →
      StandsAt nodes ⟨node, later, above⟩ (way ++ [before.length]))
    (heq : insideOf nodes way = before ++ node :: later)
    (houtside : Option.Rel (StandsAt nodes) (climb? [] above) (beyond? nodes way.reverse)) :
    Option.Rel (StandsAt nodes) (climb? later above)
      (beyond? nodes (way ++ [before.length]).reverse) := by
  rw [beyond?_concat, heq]
  cases later with
  | nil =>
    rw [if_neg (by simp)]
    exact houtside
  | cons next later =>
    have hnext : insideOf nodes way = (before ++ [node]) ++ next :: later := by simp [heq]
    have hbeside := hstands _ _ _ hnext
    rw [List.length_append, List.length_singleton] at hbeside
    rw [if_pos (by simp), climb?]
    exact .some hbeside

lemma rel_climb? (h : StandsAt nodes c way) :
    Option.Rel (StandsAt nodes) (climb? c.later c.above) (beyond? nodes way.reverse) := by
  induction h with
  | @outermost before later node heq =>
    have hall : insideOf nodes [] = before ++ node :: later := heq
    exact rel_beside (fun _ _ _ => outermost) hall .none
  | inside around heq ih =>
    have hinside := around.insideOf_eq
    rw [← hinside] at heq
    exact rel_beside (fun _ _ _ hother => inside around (hinside ▸ hother)) heq ih

/-- A walk steps from a place to the one that the way on leads to. -/
theorem rel_next? (h : StandsAt nodes c way) :
    Option.Rel (StandsAt nodes) c.next? (after? nodes way) := by
  rw [next?, after?]
  simp only [isSome_at?_concat, h.insideOf_eq]
  cases hinside : c.node.children with
  | nil => exact h.rel_climb?
  | cons node later =>
    have hfirst : c.node.children = [] ++ node :: later := hinside
    exact .some (h.inside hfirst)

end StandsAt

lemma map_at?_eq {nodes : List Tree} {places : List Cursor} {ways : List (List ℕ)}
    (h : List.Forall₂ (StandsAt nodes) places ways) :
    ways.map (at? nodes) = (places.map (·.node)).map some := by
  induction h with
  | nil => rfl
  | cons hstands _ ih => rw [List.map_cons, ih, hstands.at?_eq, List.map_cons, List.map_cons]

/-- The way to the first place goes on from outside. -/
lemma rel_start (nodes : List Tree) :
    Option.Rel (StandsAt nodes) (climb? nodes []) (after? nodes []) := by
  rw [after?]
  cases nodes with
  | nil => exact .none
  | cons node later =>
    have hfirst : node :: later = [] ++ node :: later := rfl
    exact .some (.outermost hfirst)

/-- From each place a walk comes to an end, and it passes the nodes that lie ahead. -/
lemma exists_run (start : Option Cursor) :
    ∃ places, Run next? start places ∧ places.map (·.node) = start.elim [] ahead := by
  induction hlength : (start.elim [] ahead).length using Nat.strong_induction_on
    generalizing start with
  | _ length ih =>
    cases start with
    | none => exact ⟨[], .stop, rfl⟩
    | some c =>
      have hahead : c.ahead = c.node :: c.next?.elim [] ahead := ahead_eq c
      have hshorter : (c.next?.elim [] ahead).length < length := by
        rw [← hlength, Option.elim_some, hahead, List.length_cons]
        exact Nat.lt_succ_self _
      obtain ⟨places, hrun, hnodes⟩ := ih _ hshorter c.next? rfl
      refine ⟨c :: places, .step hrun, ?_⟩
      rw [List.map_cons, hnodes, Option.elim_some, hahead]

/-- How a walk over nodes goes. Without anything to stop it, it ends, and its places are those of
the ways that go on from one node to the next one; these are the ways to all nodes, in the order of
the text. -/
structure IsWalk (nodes : List Tree) (places : List Cursor) (ways : List (List ℕ)) : Prop where
  ends : Run next? (climb? nodes []) places
  steps : places.length = sizeAll nodes
  moves : Run (after? nodes) (after? nodes []) ways
  alongWays : List.Forall₂ (StandsAt nodes) places ways
  inOrder : ways.Pairwise (· < ·)
  everyNode : ∀ way, way ∈ ways ↔ (at? nodes way).isSome = true
  visits : visited nodes = places.map (·.node)
  nodesOfWays : (visited nodes).map some = ways.map (at? nodes)
  preorder : visited nodes = allPreorder nodes

lemma isWalk (nodes : List Tree) : ∃ places ways, IsWalk nodes places ways := by
  obtain ⟨places, hrun, hnodes⟩ := exists_run (climb? nodes [])
  obtain ⟨ways, hmoves, halong⟩ :=
    hrun.exists_simulated (fun _ _ h => h.rel_next?) (rel_start nodes)
  have hahead : places.map (·.node) = allPreorder nodes := by
    rw [hnodes, ahead_climb?, List.flatMap_nil, List.append_nil]
  have hvisits : visited nodes = places.map (·.node) := by
    rw [hahead, visited_eq_allPreorder]
  have hleast := leadsToLeast_after? nodes
  refine ⟨places, ways, ?_⟩
  constructor
  case ends => exact hrun
  case steps => rw [← length_allPreorder, ← hahead, List.length_map]
  case moves => exact hmoves
  case alongWays => exact halong
  case inOrder => exact hmoves.pairwise_lt hleast
  case everyNode =>
    intro way
    rw [hmoves.mem_iff hleast, and_iff_left_iff_imp]
    intro hway
    cases way with
    | nil => cases hway
    | cons i way => exact List.nil_lt_cons i way
  case visits => exact hvisits
  case nodesOfWays => rw [hvisits, map_at?_eq halong]
  case preorder => exact visited_eq_allPreorder nodes

/-- A walk over nodes ends and comes to every node once, in the order of the text. So the elements
it finds are those that a recursion over the nodes finds, which takes an element before those in its
tag and these before those among its children. An element has content just if it has some when all
its children, wherever they stand then, lie within one more element or fragment. -/
theorem visited_exact :
    (∀ (source : List Char) (nodes : List Tree), (∃ places ways, IsWalk nodes places ways) ∧
      (visited nodes).filterMap (element? source) = allElementsWithin source nodes) ∧
    (∀ (source : List Char) (tree : Tree),
      (Facts.ofTree source tree).elements = elementsWithin source tree) ∧
    ∀ (source other : List Char) (tags around outer : Tags) (children moved : List Tree),
      areAlike source other children moved = true →
        hasContent other (around.around [outer.around moved]) =
          hasContent source (tags.around children) := by
  have helements (source : List Char) (nodes : List Tree) :
      (visited nodes).filterMap (element? source) = allElementsWithin source nodes := by
    rw [visited_eq_allPreorder, filterMap_allPreorder]
  refine ⟨fun source nodes => ⟨isWalk nodes, helements source nodes⟩, ?_, ?_⟩
  · intro source tree
    have hwithin := helements source [tree]
    rwa [allElementsWithin, allElementsWithin, List.append_nil] at hwithin
  · intro source other tags around outer children moved halike
    rw [hasContent_around, anyGivesContent_wrapped, hasContent_around]
    exact (anyGivesContent_of_areAlike children moved halike).symm

/-- The text within one more element, which stands three bytes further on then. -/
theorem visited_wrapped :
    let source := "<a>x</a>".toList
    let other := "<a><b>x</b></a>".toList
    let tag (kind : String) (start stop : ℕ) : Tree := ⟨kind, true, none, start, stop, []⟩
    let opening := tag "jsx_opening_element"
    let closing := tag "jsx_closing_element"
    let tags : Tags := ⟨none, 0, 8, opening 0 3, closing 4 8, rfl, rfl⟩
    let around : Tags := ⟨none, 0, 15, opening 0 3, closing 11 15, rfl, rfl⟩
    let outer : Tags := ⟨none, 3, 11, opening 3 6, closing 7 11, rfl, rfl⟩
    let children := [tag "jsx_text" 3 4]
    let moved := [tag "jsx_text" 6 7]
    areAlike source other children moved = true ∧
      hasContent other (around.around [outer.around moved]) =
        hasContent source (tags.around children) :=
  ⟨by decide +kernel, visited_exact.2.2 _ _ _ _ _ _ _ (by decide +kernel)⟩

end Cursor

end GapAudit.Source
