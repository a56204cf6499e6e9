import Mathlib
import GapAudit.Proofs.Json.NumberText

/-!
# Legible values

What a value is read as when it is read from its own text (`asRead`), and the values that this
applies to (`Legible`).
-/

namespace GapAudit.Json

mutual

/-- What a value is read as from its text: doubles that are not finite become `null`. -/
def asRead : Json → Json
  | .null => .null
  | .bool b => .bool b
  | .number (.whole n) => .number (.whole n)
  | .number (.real x) => if x.isFinite then .number (.real x) else .null
  | .string s => .string s
  | .array items => .array (asReadItems items)
  | .object members => .object (asReadMembers members)

def asReadItems : List Json → List Json
  | [] => []
  | item :: items => asRead item :: asReadItems items

def asReadMembers : List (Option String × Json) → List (Option String × Json)
  | [] => []
  | (key, value) :: members => (key, asRead value) :: asReadMembers members

end

mutual

/-- A value whose texts are known, whose whole numbers have 64 bits and whose finite doubles are
read from their own texts. -/
def Legible : Json → Prop
  | .null => True
  | .bool _ => True
  | .number (.whole n) => -(signedLimit : Int) ≤ n ∧ n < wordLimit
  | .number (.real x) => x.isFinite = true → ReadsBack x
  | .string s => s.isSome = true
  | .array items => LegibleItems items
  | .object members => LegibleMembers members

/-- Items that are all legible. -/
def LegibleItems : List Json → Prop
  | [] => True
  | item :: items => Legible item ∧ LegibleItems items

/-- Members whose keys are known and whose values are legible. -/
def LegibleMembers : List (Option String × Json) → Prop
  | [] => True
  | (key, value) :: members => key.isSome = true ∧ Legible value ∧ LegibleMembers members

end

lemma asReadItems_eq_map (items : List Json) : asReadItems items = items.map asRead := by
  induction items with
  | nil => rfl
  | cons item items ih => rw [asReadItems, ih, List.map_cons]

lemma asReadMembers_eq_map (members : List (Option String × Json)) :
    asReadMembers members = members.map fun member => (member.1, asRead member.2) := by
  induction members with
  | nil => rfl
  | cons member members ih => rw [asReadMembers, ih, List.map_cons]

lemma legibleItems_iff (items : List Json) :
    LegibleItems items ↔ ∀ item ∈ items, Legible item := by
  induction items with
  | nil => simp [LegibleItems]
  | cons item items ih => rw [LegibleItems, ih, List.forall_mem_cons]

lemma legibleMembers_iff (members : List (Option String × Json)) :
    LegibleMembers members ↔
      ∀ member ∈ members, member.1.isSome = true ∧ Legible member.2 := by
  induction members with
  | nil => simp [LegibleMembers]
  | cons member members ih => rw [LegibleMembers, ih, List.forall_mem_cons, and_assoc]

end GapAudit.Json
