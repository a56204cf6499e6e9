import GapAudit.Source.Character
import GapAudit.Source.Tree

/-!
What the statements of a syntax tree declare: its imports, its exports, and the names of its
interfaces and type aliases.
-/

namespace GapAudit

/-- An import: the module, the local names it binds, and the bytes of its statement. -/
structure Import where
  source : String
  names : List String
  start : Nat
  stop : Nat
  deriving DecidableEq, Repr

namespace Source.Tree

variable (source : List Char)

/-- The text of a node that is a name. -/
def nameText (t : Tree) : String :=
  String.ofList (t.text source)

/-- The local name that a specifier between braces binds. -/
def specifierName? (specifier : Tree) : Option Tree :=
  (specifier.child? "alias").or (specifier.child? "name")

/-- The local names that a part of the clause of an import binds: a default, a module under one
name, or some of its names. -/
def bindingNames (binding : Tree) : List Tree :=
  if binding.kind == "identifier" then [binding]
  else if binding.kind == "namespace_import" then
    binding.namedChildren.filter fun child => child.kind == "identifier"
  else if binding.kind == "named_imports" then
    (binding.namedChildren.filter fun child => child.kind == "import_specifier").filterMap
      specifierName?
  else []

def clauseNames (clause : Tree) : List Tree :=
  clause.namedChildren.flatMap bindingNames

/-- The import that a statement is, unless it only gives a name to something. -/
def import? (statement : Tree) : Option Import :=
  (statement.child? "source").map fun origin => {
    source := String.ofList (stripQuotes (origin.text source))
    names := ((statement.namedChildren.filter fun child => child.kind == "import_clause").flatMap
      clauseNames).map (nameText source)
    start := statement.start
    stop := statement.stop }

/-- The statements of a file that are imports. -/
def importStatements (root : Tree) : List Tree :=
  root.namedChildren.filter fun statement => statement.kind == "import_statement"

def imports (root : Tree) : List Import :=
  root.importStatements.filterMap (import? source)

/-- The name of a declared variable, unless its value is taken apart by a pattern. -/
def declaratorName? (declarator : Tree) : Option Tree :=
  (declarator.child? "name").filter fun name => name.kind == "identifier"

def declaredNames (declaration : Tree) : List Tree :=
  if declaration.kind == "lexical_declaration" || declaration.kind == "variable_declaration" then
    (declaration.namedChildren.filter fun child =>
      child.kind == "variable_declarator").filterMap declaratorName?
  else (declaration.child? "name").toList

/-- The name under which a specifier between braces exports something. As the default, it keeps its
own name. -/
def exportedName? (specifier : Tree) : Option String :=
  (((specifier.child? "alias").map (nameText source)).filter (· != "default")).or
    ((specifier.child? "name").map (nameText source))

def clauseExports (clause : Tree) : List String :=
  (clause.namedChildren.filter fun child => child.kind == "export_specifier").filterMap
    (exportedName? source)

/-- The names that an exporting statement makes visible: those of a declaration, that of a default
value, or those between its braces. -/
def statementExports (statement : Tree) : List String :=
  match statement.child? "declaration" with
  | some declaration => (declaredNames declaration).map (nameText source)
  | none =>
    match statement.child? "value" with
    | some value => if value.kind == "identifier" then [nameText source value] else []
    | none =>
      (statement.namedChildren.filter fun child => child.kind == "export_clause").flatMap
        (clauseExports source)

def exports (root : Tree) : List String :=
  (root.namedChildren.filter fun statement => statement.kind == "export_statement").flatMap
    (statementExports source)

/-- Kinds of declarations of types. -/
def typeKinds : List String :=
  ["interface_declaration", "type_alias_declaration"]

/-- The name of a declared interface or type alias. -/
def typeName? (t : Tree) : Option Tree :=
  if typeKinds.contains t.kind then
    t.children.find? fun child => child.field == some "name" && child.kind == "type_identifier"
  else none

/-- The names of the interfaces and type aliases that are declared anywhere in a file. -/
def types (root : Tree) : List String :=
  ((root.preorder.filterMap typeName?).map (nameText source)).filter (· != "")

end Source.Tree

end GapAudit
