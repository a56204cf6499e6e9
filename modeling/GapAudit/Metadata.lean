import GapAudit.Keyed

/-!
The values that an analyzer reports beside its score and its gaps.
-/

namespace GapAudit

inductive MetadataValue where
  | bool (b : Bool)
  | int (n : Int)
  | float (x : Float)
  | text (s : String)
  | list (texts : List String)
  | map (numbers : Keyed Float)

def MetadataValue.kind : MetadataValue → String
  | .bool _ => "Bool"
  | .int _ => "Int"
  | .float _ => "Float"
  | .text _ => "Text"
  | .list _ => "List"
  | .map _ => "Map"

def MetadataValue.count (n : Nat) : MetadataValue :=
  .int n

end GapAudit
