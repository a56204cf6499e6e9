import Mathlib
import GapAudit.Components.Inspection
import GapAudit.Proofs.Source.Body
import GapAudit.Proofs.Text.Identifier

/-!
# Imports of components that are not used

A binding of an import from the folder of components counts as unused if its name occurs nowhere but
in the import itself. So it is listed just if it occurs as a whole neither in what is left of the
text without any import nor in another import (`Components.unusedImports_exact`). In particular the
specifier of another import keeps a binding from being listed (`Components.deck_hides_unused`).
-/

namespace GapAudit.Components

open Source Text

variable {source : List Char} {tree : Tree} {i : Import}

/-- Whether a name occurs in a text outside one of its imports: in what is left without any import,
or in another import. -/
def OccursOutside (source : List Char) (imports : List Import) (i : Import) (name : List Char) :
    Prop :=
  OccursWhole name (withoutImports source imports) ∨
    ∃ other ∈ imports, other ≠ i ∧ OccursWhole name (other.statement source)

lemma mem_unusedNames_iff (hsound : tree.IsSound source) (hi : i ∈ tree.imports source)
    {name : String} (hname : IsName name.toList) (hoverlap : OverlapsInside name.toList) :
    name ∈ unusedNames source i ↔ name ∈ i.names ∧ name ∉ exemptHooks ∧
      ¬OccursOutside source (tree.imports source) i name.toList := by
  rw [OccursOutside, ← occursWhole_withoutRange_iff hname hsound hi,
    ← identifierUsed_iff hname.ne_nil hoverlap, unusedNames, List.mem_filter]
  simp

lemma unusedImports_eq (project : Project) (path source : String) :
    (inspect project path source).unusedImports =
      ((project.facts path source.toList).imports.filter fun i =>
        (target? project path i.source).isSome).flatMap (unusedNames source.toList) := by
  rw [inspect, componentImports]
  induction (project.facts path source.toList).imports with
  | nil => rfl
  | cons i more ih =>
    rw [List.filterMap_cons, List.filter_cons]
    cases htarget : target? project path i.source with
    | none => exact ih
    | some target => exact congrArg (unusedNames source.toList i ++ ·) ih

/-- Of the imports that point into the folder of components, the bindings are listed that are no
exempt hooks and occur nowhere but in their import. The tree that the parser gives for the text is
sound. -/
theorem unusedImports_exact (project : Project) (path : String) {source : String} {tree : Tree}
    (hparse : project.tools.parse (.ofPath path) source.toList = some tree)
    (hsound : tree.IsSound source.toList) :
    let imports := (project.facts path source.toList).imports
    (inspect project path source).unusedImports =
        (imports.filter fun i => (target? project path i.source).isSome).flatMap
          (unusedNames source.toList) ∧
      ∀ i ∈ imports, (unusedNames source.toList i).Sublist i.names ∧
        ∀ name : String, IsName name.toList → OverlapsInside name.toList →
          (name ∈ unusedNames source.toList i ↔ name ∈ i.names ∧ name ∉ exemptHooks ∧
            ¬OccursOutside source.toList imports i name.toList) := by
  have himports : (project.facts path source.toList).imports = tree.imports source.toList := by
    rw [Project.facts, Facts.read, hparse]
    rfl
  refine ⟨unusedImports_eq project path source, fun i hi => ⟨List.filter_sublist, ?_⟩⟩
  intro name hname hoverlap
  rw [himports] at hi ⊢
  exact mem_unusedNames_iff hsound hi hname hoverlap

/-- A component that uses one of the two bindings that it imports. -/
def rowSource : String :=
  "import \x7b Chip, Card \x7d from './parts';\nexport const Row = Chip;\n"

/-- A project without files. -/
def rowProject : Project where
  tree := .folder []
  root := "/p"
  config := {}

theorem unusedImports_exact_row :
    let path := "/p/src/components/Row.tsx"
    (Reader.read .markup rowSource.toList).IsSound rowSource.toList ∧
      IsName "Card".toList ∧ OverlapsInside "Card".toList ∧
      (inspect rowProject path rowSource).unusedImports = ["Card"] ∧
      ¬OccursWhole "Card".toList
        (withoutImports rowSource.toList (rowProject.facts path rowSource.toList).imports) := by
  intro path
  have hsound : (Reader.read .markup rowSource.toList).IsSound rowSource.toList := by
    decide +kernel
  have himports : (rowProject.facts path rowSource.toList).imports =
      [⟨"./parts", ["Chip", "Card"], 0, 37⟩] := by
    decide +kernel
  have hname : IsName "Card".toList := ⟨by decide, List.all_eq_true.mp (by decide +kernel)⟩
  have hoverlap : OverlapsInside "Card".toList :=
    overlapsInside_of_all (List.all_eq_true.mp (by decide +kernel))
  have hdialect : Dialect.ofPath path = .markup := by decide
  have hparse : rowProject.tools.parse (.ofPath path) rowSource.toList =
      some (Reader.read .markup rowSource.toList) := by
    rw [hdialect]
    rfl
  obtain ⟨hunused, hnames⟩ := unusedImports_exact rowProject path hparse hsound
  have hlisted : unusedNames rowSource.toList ⟨"./parts", ["Chip", "Card"], 0, 37⟩ = ["Card"] := by
    decide +kernel
  have htarget : (target? rowProject path "./parts").isSome = true := by
    decide +kernel
  rw [himports] at hunused hnames ⊢
  obtain ⟨-, hexact⟩ := hnames _ List.mem_cons_self
  have hcard := (hexact "Card" hname hoverlap).mp (by rw [hlisted]; exact List.mem_cons_self)
  refine ⟨hsound, hname, hoverlap, ?_, fun hoccurs => hcard.2.2 (.inl hoccurs)⟩
  rw [hunused, List.filter_cons, htarget, if_pos rfl, List.filter_nil, List.flatMap_cons, hlisted]
  rfl

/-- A component with two imports of one file, and only the binding of the second is used. -/
def deckSource : String :=
  "import \x7b Card \x7d from './Card';\nimport \x7b Chip \x7d from './Card';\n" ++
    "export const Deck = Chip;\n"

/-- The specifier of the second import counts as a use of the binding of the first. -/
theorem deck_hides_unused :
    let path := "/p/src/components/Deck.tsx"
    let imports := (rowProject.facts path deckSource.toList).imports
    (Reader.read .markup deckSource.toList).IsSound deckSource.toList ∧
      imports = [⟨"./Card", ["Card"], 0, 30⟩, ⟨"./Card", ["Chip"], 31, 61⟩] ∧
      withoutImports deckSource.toList imports = "\n\n\n\nexport const Deck = Chip;\n".toList ∧
      target? rowProject path "./Card" = some ["p", "src", "components", "Card"] ∧
      "Card" ∉ exemptHooks ∧
      ¬OccursWhole "Card".toList (withoutImports deckSource.toList imports) ∧
      (inspect rowProject path deckSource).unusedImports = [] := by
  intro path imports
  have himports : imports = [⟨"./Card", ["Card"], 0, 30⟩, ⟨"./Card", ["Chip"], 31, 61⟩] := by
    decide +kernel
  have hbody : withoutImports deckSource.toList imports =
      "\n\n\n\nexport const Deck = Chip;\n".toList := by
    rw [himports]
    decide +kernel
  refine ⟨by decide +kernel, himports, hbody, by decide +kernel, by decide, ?_, by decide +kernel⟩
  have hoverlap : OverlapsInside "Card".toList :=
    overlapsInside_of_all (List.all_eq_true.mp (by decide +kernel))
  rw [hbody, ← identifierUsed_iff (by decide) hoverlap]
  decide +kernel

end GapAudit.Components
