import GapAudit.Source.Character
import GapAudit.Source.Cursor

/-!
The JSX of a syntax tree: its elements in the order of the text, each with its tag, its attributes
and whether something stands between its tags.
-/

namespace GapAudit

/-- An attribute of an element: its name, and its value unless it stands alone. A text value is kept
without its quotes, any other value as it is written. -/
structure Attribute where
  name : String
  value : Option String
  deriving DecidableEq, Repr

/-- An element as its opening or self-closing tag shows it. -/
structure Element where
  tag : String
  attributes : List Attribute
  selfClosing : Bool
  hasContent : Bool
  deriving DecidableEq, Repr

namespace Element

def hasAttribute (e : Element) (name : String) : Bool :=
  e.attributes.any fun a => a.name == name

/-- The value of the first attribute of the given name. -/
def attributeValue? (e : Element) (name : String) : Option String :=
  (e.attributes.find? fun a => a.name == name).bind (·.value)

end Element

namespace Source.Tree

variable (source : List Char)

/-- The value of an attribute: a text without its quotes, also one that is all there is in braces;
anything else as it is written. -/
def attributeValue (value : Tree) : List Char :=
  if value.kind == "string" then stripQuotes (value.text source)
  else if value.kind == "jsx_expression" then
    match value.namedChildren with
    | [only] =>
      if only.kind == "string" || only.kind == "template_string" then
        stripQuotes (only.text source)
      else value.text source
    | _ => value.text source
  else value.text source

/-- The attribute of a node: its first named part is the name and the next one the value, a comment
as well. -/
def attribute? (t : Tree) : Option Attribute :=
  match t.namedChildren with
  | [] => none
  | name :: rest =>
    some ⟨String.ofList (name.text source),
      rest.head?.map fun value => String.ofList (attributeValue source value)⟩

/-- Kinds of parts of a tag that cannot be its name. -/
def attributeKinds : List String :=
  ["jsx_attribute", "jsx_expression", "comment", "type_arguments"]

/-- The name of a tag, or else its first part that may be one. A fragment has none. -/
def tagName? (tag : Tree) : Option Tree :=
  (tag.child? "name").or (tag.namedChildren.find? fun child => !attributeKinds.contains child.kind)

def attributes (tag : Tree) : List Attribute :=
  (tag.namedChildren.filter fun child => child.kind == "jsx_attribute").filterMap
    (attribute? source)

/-- The element that an opening or self-closing tag shows. -/
def tagElement? (selfClosing hasContent : Bool) (tag : Tree) : Option Element :=
  (tagName? tag).map fun name =>
    ⟨String.ofList (name.text source), attributes source tag, selfClosing, hasContent⟩

def openingTag? (element : Tree) : Option Tree :=
  element.namedChildren.find? fun child => child.kind == "jsx_opening_element"

mutual

/-- Whether a child gives its parent content: text that is not blank, a character reference, braces
with something in them besides comments, or an element with content. -/
def givesContent : Tree → Bool
  | t@⟨kind, _, _, _, _, children⟩ =>
    if kind == "jsx_text" then !(Text.trim (t.text source)).isEmpty
    else if kind == "html_character_reference" then true
    else if kind == "jsx_expression" then t.namedChildren.any fun inner => inner.kind != "comment"
    else if kind == "jsx_element" then anyGivesContent children
    else false

def anyGivesContent : List Tree → Bool
  | [] => false
  | child :: children => (child.named && givesContent child) || anyGivesContent children

end

/-- Whether something stands between the tags of an element, perhaps within further elements. -/
def hasContent (element : Tree) : Bool :=
  anyGivesContent source element.children

/-- The element that a node is itself. A fragment is none. -/
def element? (t : Tree) : Option Element :=
  if t.kind == "jsx_element" then
    (openingTag? t).bind (tagElement? source false (hasContent source t))
  else if t.kind == "jsx_self_closing_element" then tagElement? source true false t
  else none

/-- The elements of a tree in the order in which a walk over it comes to them. -/
def elements (tree : Tree) : List Element :=
  (Cursor.visited [tree]).filterMap (element? source)

end Source.Tree

end GapAudit
