import GapAudit.Reader.Markup

/-!
Declarations and statements, and the grammar with all its levels.
-/

namespace GapAudit.Reader

open Source Reader.Parser Text

/-- The end of a statement. Where there is no semicolon, the end of what was read will do. -/
def semicolon : Parser Unit := do
  let _ ← maybe (symbol [';'])

/-- A declared variable; it has a name unless its value is taken apart by a pattern. -/
def declarator (g : Grammar) : Parser Tree :=
  node "variable_declarator" (do
    let target ← title "identifier" <|> field "name" (node "pattern" g.pattern)
    let _ ← maybe (symbol ['!'])
    annotation g
    return target :: (← initialValue g))

def declarators (g : Grammar) : Parser (List Tree) :=
  separatedBy [','] (declarator g)

def variableWord : Parser Unit := do
  let found ← wordOf [['v', 'a', 'r'], ['l', 'e', 't'], ['c', 'o', 'n', 's', 't']]
  nextChar fun c => isNameStart c || c == '\x7b' || c == '['
  ahead fun s =>
    found != ['c', 'o', 'n', 's', 't'] || ((word ['e', 'n', 'u', 'm']).run s).isNone

def variableDeclaration (g : Grammar) : Parser Tree :=
  node "lexical_declaration" (do
    variableWord
    let all ← declarators g
    semicolon
    return all)

def functionDeclaration (g : Grammar) : Parser Tree :=
  node "function_declaration" (do
    functionWord
    let (name, inside) ← functionAfterWord g
    semicolon
    return name.toList ++ inside)

def classDeclaration (g : Grammar) : Parser Tree :=
  node "class_declaration" (do
    let decoration ← decorators g
    let _ ← maybe (word ['a', 'b', 's', 't', 'r', 'a', 'c', 't'])
    word ['c', 'l', 'a', 's', 's']
    let (name, inside) ← classAfterWord g
    return decoration ++ name.toList ++ inside)

def interfaceDeclaration (g : Grammar) : Parser Tree :=
  node "interface_declaration" (do
    let start ← keyword "interface" ['i', 'n', 't', 'e', 'r', 'f', 'a', 'c', 'e']
    let before ← comments
    let name ← title "type_identifier"
    let _ ← maybe (bracketed '<')
    let _ ← maybe (do
      word ['e', 'x', 't', 'e', 'n', 'd', 's']
      separatedBy [','] g.typeExpression)
    bracketed '\x7b'
    semicolon
    return start :: before ++ [name])

def aliasDeclaration (g : Grammar) : Parser Tree :=
  node "type_alias_declaration" (do
    let start ← keyword "type" ['t', 'y', 'p', 'e']
    let before ← comments
    let name ← title "type_identifier"
    let _ ← maybe (bracketed '<')
    equals
    g.typeExpression
    semicolon
    return start :: before ++ [name])

def enumDeclaration (g : Grammar) : Parser Tree :=
  node "enum_declaration" (do
    let _ ← maybe (word ['c', 'o', 'n', 's', 't'])
    word ['e', 'n', 'u', 'm']
    let name ← title "identifier"
    return name :: (← objectLiteral g))

/-- A declaration of a namespace or a module, whose name may have points or be quoted. -/
def namespaceDeclaration (g : Grammar) : Parser Tree :=
  node "internal_module" (do
    let _ ← wordOf ["namespace".toList, "module".toList]
    let name ← field "name" (leaf "nested_identifier" (dottedName <|> string))
    let body ← maybe (block g)
    semicolon
    return name :: body.getD [])

/-- A declaration that an export may make visible. -/
def declaration (g : Grammar) : Parser Tree :=
  enumDeclaration g <|> variableDeclaration g <|> functionDeclaration g <|> classDeclaration g <|>
  interfaceDeclaration g <|> aliasDeclaration g <|> namespaceDeclaration g

/-- A declaration of something that exists elsewhere. -/
def ambientDeclaration (g : Grammar) : Parser Tree :=
  node "ambient_declaration" (do
    word "declare".toList
    (do word "global".toList; block g) <|> (do return [← declaration g]))

/-- An expression in parentheses. -/
def condition (g : Grammar) : Parser (List Tree) :=
  between '(' ')' (expressions g)

/-- What stands between the parentheses of a loop over a range or a condition. -/
def loopHeader (g : Grammar) : Parser (List Tree) := do
  let start ← (do variableWord; declarators g) <|> expressions g
  let range ← maybe (do
    let _ ← wordOf [['o', 'f'], ['i', 'n']]
    expressions g)
  match range with
  | some nodes => return start ++ nodes
  | none =>
    let more ← many (do symbol [';']; expressions g)
    return start ++ more.flatten

def caseClause (g : Grammar) : Parser (List Tree) := do
  let value ← (do word ['c', 'a', 's', 'e']; return (← separatedBy [','] (g.expression false))) <|>
    (do word "default".toList; return [])
  symbol [':']
  return value.flatten ++ (← many g.statement).flatten

/-- A statement that starts with a word of control. -/
def controlStatement (g : Grammar) : Parser (List Tree) := do
  let found ← name
  let keyword := String.ofList found
  if keyword == "if" then
    let test ← condition g
    let yes ← g.statement
    let no ← maybe (do word ['e', 'l', 's', 'e']; g.statement)
    return test ++ yes ++ no.getD []
  else if keyword == "for" then
    let _ ← maybe (word ['a', 'w', 'a', 'i', 't'])
    let header ← between '(' ')' (loopHeader g)
    return header ++ (← g.statement)
  else if keyword == "while" || keyword == "with" then
    let test ← condition g
    return test ++ (← g.statement)
  else if keyword == "do" then
    let body ← g.statement
    word "while".toList
    let test ← condition g
    semicolon
    return body ++ test
  else if keyword == "switch" then
    let value ← condition g
    let cases ← between '\x7b' '\x7d' (many (caseClause g))
    return value ++ cases.flatten
  else if keyword == "try" then
    let body ← block g
    let handler ← maybe (do
      word "catch".toList
      let _ ← maybe (between '(' ')' (do let p ← g.pattern; annotation g; return p))
      block g)
    let last ← maybe (do word "finally".toList; block g)
    return body ++ handler.getD [] ++ last.getD []
  else if keyword == "return" || keyword == "throw" then
    -- what stands on the next line is a statement of its own
    let value ← maybe (do sameLine; expressions g)
    semicolon
    return value.getD []
  else if keyword == "break" || keyword == "continue" || keyword == "debugger" then
    let _ ← maybe (do sameLine; name)
    semicolon
    return []
  else failure

def importAttributes (g : Grammar) : Parser Unit := do
  let _ ← maybe (do
    let _ ← wordOf [['w', 'i', 't', 'h'], ['a', 's', 's', 'e', 'r', 't']]
    objectLiteral g)

def origin : Parser Tree :=
  field "source" (leaf "string" string)

/-- The module after the word `from`. -/
def fromOrigin (g : Grammar) : Parser Tree := do
  word ['f', 'r', 'o', 'm']
  let source ← origin
  importAttributes g
  return source

/-- The names in the words of a specifier: the words are the name, after a modifier where there are
two or four, and another name after the word `as`. -/
def specifierNames : List Tree → List Tree
  | [n] => [{ n with field := some "name" }]
  | [_, n] => [{ n with field := some "name" }]
  | [n, _, a] => [{ n with field := some "name" }, { a with field := some "alias" }]
  | [_, n, _, a] => [{ n with field := some "name" }, { a with field := some "alias" }]
  | _ => []

/-- A specifier between braces. -/
def specifier (kind : String) : Parser Tree :=
  node kind (do
    let part := leaf "identifier" (discard name <|> string)
    let first ← part
    return specifierNames (first :: (← many part)))

def specifiers (kind specifierKind : String) : Parser Tree :=
  node kind (between '\x7b' '\x7d' (separatedBy [','] (specifier specifierKind)))

/-- One of the bindings of an import: all of a module, some of its names, or its default. -/
def importBinding : Parser Tree :=
  node "namespace_import" (do
    symbol ['*']
    word ['a', 's']
    return [← leaf "identifier" name]) <|>
  specifiers "named_imports" "import_specifier" <|>
  leaf "identifier" name

/-- The bindings of an import and the module they come from. -/
def boundImport (g : Grammar) : Parser (List Tree) := do
  let clause ← node "import_clause" (do
    let first ← importBinding
    let more ← maybe (do symbol [',']; importBinding)
    return first :: more.toList)
  return [clause, ← fromOrigin g]

/-- An import. One that only gives a name to something has no source. -/
def importStatement (g : Grammar) : Parser Tree :=
  node "import_statement" (do
    let start ← keyword "import" ['i', 'm', 'p', 'o', 'r', 't']
    let parts ←
      (do
        let source ← origin
        importAttributes g
        return [source]) <|>
      boundImport g <|>
      (do
        let _ ← wordOf [['t', 'y', 'p', 'e'], ['t', 'y', 'p', 'e', 'o', 'f']]
        boundImport g) <|>
      (do
        -- where no name follows, the word is the name
        let _ ← maybe (do word ['t', 'y', 'p', 'e']; nextChar isNameStart)
        let _ ← name
        equals
        g.operand)
    semicolon
    return start :: parts)

/-- Names that are values of the language itself. -/
def valueWords : List (List Char) :=
  ["undefined", "this", "super", "null", "true", "false"].map String.toList

/-- A value that is exported as the default. -/
def defaultValue (g : Grammar) : Parser Tree := fun s =>
  let s := trivia s
  ((expressions g).run s).map fun (inside, rest) =>
    let text := s.take (s.length - rest.length)
    let plain := text.all isNameChar && text.head?.any isNameStart && !valueWords.contains text
    (⟨if plain then "identifier" else "expression", true, some "value", byteSize s, byteSize rest,
      inside⟩, rest)

/-- Words that start a declaration only if its next part stands on the same line. Alone on a line
each of them is a statement. -/
def lineWords : List (List Char) :=
  ["type", "namespace", "module", "declare"].map String.toList

/-- Refuses a word that stands alone on a line. -/
def notAlone : Parser Unit :=
  ahead fun s =>
    match (wordOf lineWords).run s with
    | some (_, rest) => !breaksLine rest
    | none => true

/-- What is exported as the default. -/
def defaultExport (g : Grammar) : Parser Tree :=
  field "declaration" (do notAlone; declaration g) <|> (do
    let value ← defaultValue g
    semicolon
    return value)

/-- What an export makes visible, after the word. -/
def exported (g : Grammar) : Parser (List Tree) :=
  (do
    let _ ← maybe (word ['t', 'y', 'p', 'e'])
    symbol ['*']
    let _ ← maybe (do word ['a', 's']; discard name <|> string)
    let source ← fromOrigin g
    semicolon
    return [source]) <|>
  (do
    let _ ← maybe (word ['t', 'y', 'p', 'e'])
    let clause ← specifiers "export_clause" "export_specifier"
    let source ← maybe (fromOrigin g)
    semicolon
    return clause :: source.toList) <|>
  (do equals; let inside ← expressions g; semicolon; return inside) <|>
  (do
    word ['a', 's']
    word "namespace".toList
    let _ ← name
    semicolon
    return []) <|>
  (do return [← importStatement g]) <|>
  (do word "default".toList; return [← defaultExport g]) <|>
  (do return [← field "declaration" (ambientDeclaration g)]) <|>
  (do return [← field "declaration" (declaration g)])

def exportStatement (g : Grammar) : Parser Tree :=
  node "export_statement" (do
    let decoration ← decorators g
    let start ← keyword "export" ['e', 'x', 'p', 'o', 'r', 't']
    return decoration ++ start :: (← exported g))

def labelled (g : Grammar) : Parser (List Tree) := do
  let _ ← operandName
  symbol [':']
  g.statement

def statement (g : Grammar) : Parser (List Tree) := fun s =>
  match trivia s with
  | [] => none
  | c :: _ =>
    if c == '\x7d' then none
    else if c == '\x7b' then (block g).run s
    else if c == ';' then (do symbol [';']; return []).run s
    else
      -- Expressions come last: many of the words that start other statements are also names.
      ((do notAlone; return [← declaration g]) <|>
       controlStatement g <|>
       (do return [← exportStatement g]) <|>
       (do notAlone; return [← ambientDeclaration g]) <|>
       (do return [← importStatement g]) <|>
       labelled g <|>
       (do
        let first ← g.expression true
        let more ← maybe (do symbol [',']; expressions g)
        semicolon
        return first ++ more.getD [])).run s

/-- The grammar one level above another. -/
def Grammar.next (g : Grammar) : Grammar where
  dialect := g.dialect
  typeExpression := Reader.typeExpression g
  pattern := Reader.pattern g
  operand := Reader.operand g true
  expression := Reader.expression g
  markup := Reader.markup g
  statement := Reader.statement g

/-- The grammar with a number of levels of nesting. -/
def Grammar.ofDepth (dialect : Dialect) : (depth : Nat) → Grammar
  | 0 => .empty dialect
  | depth + 1 => (Grammar.ofDepth dialect depth).next

end GapAudit.Reader
