import GapAudit.Reader.Grammar

/-!
Types. Only their extent matters, for no element and no declaration stands inside a type.
-/

namespace GapAudit.Reader

open Source Reader.Parser Text

/-- Words that stand before a type and belong to it. -/
def typePrefixWords : List (List Char) :=
  ["keyof", "unique", "readonly", "infer", "asserts", "typeof", "abstract", "new"].map
    String.toList

/-- A character that a type may start with. -/
def startsType (c : Char) : Bool :=
  isNameChar c || isQuote c || ['(', '[', '\x7b', '<', '-', '|', '&'].contains c

def bracketed (opening : Char) : Parser Unit :=
  ofSkip (brackets? opening)

/-- A symbol that is not followed by another character of the same kind. -/
def single (c : Char) : Parser Unit := do
  symbol [c]
  ahead fun s => s.head? != some c

def dottedName : Parser Unit := do
  let _ ← name
  let _ ← many (do single '.'; name)

/-- A type reference with its arguments on the same line. -/
def typeReference : Parser Unit := do
  let imported ← maybe (do word "import".toList; bracketed '('; many (do symbol ['.']; name))
  if imported.isNone then dottedName
  let _ ← maybe (do sameLine; bracketed '<')

/-- Whether the text behind an opening parenthesis starts with parameters rather than with a type:
it closes at once, spreads something, or has a name or a pattern with the mark of a parameter
behind. -/
def startsParameters (s : List Char) : Bool :=
  let s := trivia s
  let marked (rest : List Char) : Bool :=
    (trivia rest).head?.any [':', ',', '?', '=', ')'].contains
  match s with
  | ')' :: _ => true
  | '.' :: _ => true
  | '[' :: _ => (brackets? '[' s).any marked
  | '\x7b' :: _ => (brackets? '\x7b' s).any marked
  | _ => (name? s).any fun (_, rest) => marked rest

/-- What a function type has after its parameters. -/
def resultType (g : Grammar) : Parser Unit := do
  symbol ['=', '>']
  g.typeExpression

/-- A type without the operators that may follow it. -/
def primaryType (g : Grammar) : Parser Unit := fun s =>
  let s := trivia s
  match s with
  | [] => none
  | c :: rest =>
    if c == '(' then
      (do
        bracketed '('
        let _ ← maybe (do guard (startsParameters rest); resultType g)).run s
    else if c == '<' then (do bracketed '<'; bracketed '('; resultType g).run s
    else if c == '[' || c == '\x7b' then (bracketed c).run s
    else if c == '"' || c == '\'' then (skipQuoted? c rest).map fun rest => ((), rest)
    else if c == '\x60' then (skipBracketed? .code [.template] rest).map fun rest => ((), rest)
    else if c == '-' then some ((), skipNumber false rest)
    else if isAsciiDigit c then some ((), skipNumber false s)
    else if isNameStart c then typeReference.run s
    else none

/-- What may follow a type and make it a part of a larger one. -/
def typeContinuation (g : Grammar) : Parser Unit :=
  (do single '|'; g.typeExpression) <|>
  (do single '&'; g.typeExpression) <|>
  (do
    word ['e', 'x', 't', 'e', 'n', 'd', 's']
    g.typeExpression
    let _ ← maybe (do symbol ['?']; g.typeExpression; symbol [':']; g.typeExpression)) <|>
  (do sameLine; word ['i', 's']; g.typeExpression)

def typeExpression (g : Grammar) : Parser Unit := do
  let _ ← maybe (single '|' <|> single '&')
  let _ ← many (do let _ ← wordOf typePrefixWords; nextChar startsType)
  primaryType g
  let _ ← many (do sameLine; bracketed '[')
  let _ ← maybe (typeContinuation g)

def typeArguments (g : Grammar) : Parser Unit := do
  let _ ← between '<' '>' (separatedBy [','] g.typeExpression)

/-- A type parameter with its bound and its default. -/
def typeParameter (g : Grammar) : Parser Unit := do
  let _ ← many (do
    let _ ← wordOf [['c', 'o', 'n', 's', 't'], ['i', 'n'], ['o', 'u', 't']]
    nextChar isNameStart)
  let _ ← name
  let _ ← maybe (do word ['e', 'x', 't', 'e', 'n', 'd', 's']; g.typeExpression)
  let _ ← maybe (do equals; g.typeExpression)

def typeParameters (g : Grammar) : Parser Unit := do
  let _ ← between '<' '>' (separatedBy [','] (typeParameter g))

/-- The annotation of a name or a result, if there is one. -/
def annotation (g : Grammar) : Parser Unit := do
  let _ ← maybe (do symbol [':']; g.typeExpression)

end GapAudit.Reader
