import GapAudit.Proofs.Source.Outline
import GapAudit.Proofs.Text.Lines

/-!
# Written imports

An import in its usual form: a default, all of a module under one name or some of its names, each
perhaps with another local name, or nothing but the module. Whatever tree follows the rules of such
a statement, the module and the local names are found in it (`ImportForm.exists_import`).
-/

namespace GapAudit

/-- What an import says, apart from where it stands. -/
structure ImportClause where
  source : String
  names : List String
  deriving DecidableEq

def Import.clause (i : Import) : ImportClause :=
  ⟨i.source, i.names⟩

namespace Source

open Text

/-- A name of letters, digits, `_` and `$` that begins with none of the digits. -/
structure Identifier where
  text : List Char
  start : text.head?.any startsName = true
  chars : ∀ c ∈ text, isPlainNameChar c = true

/-- A module between quotes. -/
structure QuotedModule where
  quote : Char
  text : List Char
  quote_eq : quote = '"' ∨ quote = '\''
  chars : ∀ c ∈ text, c ≠ quote ∧ c ≠ '\\' ∧ isLineEnd c = false
  /-- No quotes of any kind stand at its ends. -/
  bare : stripQuotes text = text

/-- What an import binds besides the default: a module under one name, or some of its names, each
perhaps under another one. -/
inductive Bindings where
  | whole (name : Identifier)
  | named (list : List (Identifier × Option Identifier))

/-- An import as a statement. -/
structure ImportForm where
  default? : Option Identifier
  bindings? : Option Bindings
  origin : QuotedModule

def QuotedModule.written (origin : QuotedModule) : List Char :=
  origin.quote :: (origin.text ++ [origin.quote])

/-- The words of a name between braces. -/
def specifierWords : Identifier × Option Identifier → List (List Char)
  | (name, none) => [name.text]
  | (name, some other) => [name.text, ['a', 's'], other.text]

/-- Words with a blank before each. -/
def writtenWords (words : List (List Char)) : List Char :=
  words.flatMap fun word => ' ' :: word

def Bindings.written : Bindings → List Char
  | .whole name => '*' :: writtenWords [['a', 's'], name.text]
  | .named list =>
    '\x7b' :: ([','].intercalate (list.map fun pair => writtenWords (specifierWords pair)) ++
      [' ', '\x7d'])

def Bindings.names : Bindings → List (List Char)
  | .whole name => [name.text]
  | .named list => list.map fun (name, other) => (other.getD name).text

namespace ImportForm

/-- What stands between the word `import` and the module. -/
def clause (form : ImportForm) : List Char :=
  match form.default?, form.bindings? with
  | none, none => []
  | some name, none => ' ' :: name.text ++ writtenWords [['f', 'r', 'o', 'm']]
  | none, some bindings => ' ' :: bindings.written ++ writtenWords [['f', 'r', 'o', 'm']]
  | some name, some bindings =>
    ' ' :: name.text ++ ',' :: ' ' :: bindings.written ++ writtenWords [['f', 'r', 'o', 'm']]

def written (form : ImportForm) : List Char :=
  importWord ++ form.clause ++ ' ' :: form.origin.written ++ [';']

/-- The module and the local names of an import. -/
def meaning (form : ImportForm) : ImportClause where
  source := String.ofList form.origin.text
  names := ((form.default?.map (·.text)).toList ++
    (form.bindings?.map Bindings.names).getD []).map String.ofList

def writtenLines (forms : List ImportForm) : List Char :=
  forms.flatMap fun form => form.written ++ ['\n']

end ImportForm

/-- The rule of a name between braces. -/
def specifierOutline : Identifier × Option Identifier → Outline
  | (name, none) => .node "import_specifier" none [.leaf "identifier" (some "name") name.text]
  | (name, some other) => .node "import_specifier" none
    [.leaf "identifier" (some "name") name.text, .token [' ', 'a', 's', ' '],
      .leaf "identifier" (some "alias") other.text]

/-- The rule of names between braces, each with a blank before it. -/
def specifierOutlines : List (Identifier × Option Identifier) → List Outline
  | [] => []
  | [pair] => [.token [' '], specifierOutline pair]
  | pair :: next :: more =>
    .token [' '] :: specifierOutline pair :: .token [','] :: specifierOutlines (next :: more)

def Bindings.outline : Bindings → Outline
  | .whole name => .node "namespace_import" none
    [.token ['*', ' ', 'a', 's', ' '], .leaf "identifier" none name.text]
  | .named list => .node "named_imports" none
    (.token ['\x7b'] :: (specifierOutlines list ++ [.token [' ', '\x7d']]))

namespace ImportForm

/-- The rules of what an import binds. -/
def boundOutlines (form : ImportForm) : List Outline :=
  match form.default?, form.bindings? with
  | none, none => []
  | some name, none => [.leaf "identifier" none name.text]
  | none, some bindings => [bindings.outline]
  | some name, some bindings =>
    [.leaf "identifier" none name.text, .token [',', ' '], bindings.outline]

/-- The rule of what stands between the word of an import and its module. -/
def clauseOutlines (form : ImportForm) : List Outline :=
  if form.boundOutlines.isEmpty then []
  else
    [.token [' '], .node "import_clause" none form.boundOutlines,
      .token [' ', 'f', 'r', 'o', 'm']]

/-- The rule of an import. -/
def outline (form : ImportForm) : Outline :=
  .node "import_statement" none
    (.token importWord :: (form.clauseOutlines ++
      [.token [' '], .leaf "string" (some "source") form.origin.written, .token [';']]))

/-- The rules of imports with a line end behind each. -/
def lineOutlines (forms : List ImportForm) : List Outline :=
  forms.flatMap fun form => [form.outline, .token ['\n']]

end ImportForm

namespace Outline

lemma written_specifierOutline (pair : Identifier × Option Identifier) :
    ' ' :: (specifierOutline pair).written = writtenWords (specifierWords pair) := by
  rcases pair with ⟨name, _ | other⟩
  · simp [specifierOutline, specifierWords, writtenWords, written, writtenAll]
  · simp [specifierOutline, specifierWords, writtenWords, written, writtenAll]

lemma writtenAll_specifierOutlines (list : List (Identifier × Option Identifier)) :
    writtenAll (specifierOutlines list) =
      [','].intercalate (list.map fun pair => writtenWords (specifierWords pair)) := by
  induction list with
  | nil => rfl
  | cons pair more ih =>
    cases more with
    | nil =>
      simp [specifierOutlines, writtenAll, written, ← written_specifierOutline]
    | cons next more =>
      rw [specifierOutlines, writtenAll, writtenAll, writtenAll, ih]
      simp [written, ← written_specifierOutline, List.intercalate]

lemma written_bindingsOutline (bindings : Bindings) :
    bindings.outline.written = bindings.written := by
  cases bindings with
  | whole name => simp [Bindings.outline, Bindings.written, writtenWords, written, writtenAll]
  | named list =>
    rw [Bindings.outline, written, writtenAll, writtenAll_append, writtenAll_specifierOutlines,
      Bindings.written]
    simp [written, writtenAll]

lemma isNode_bindingsOutline (bindings : Bindings) : bindings.outline.isNode = true := by
  cases bindings <;> rfl

lemma written_importOutline (form : ImportForm) : form.outline.written = form.written := by
  rcases form with ⟨_ | name, _ | bindings, origin⟩ <;>
    simp [ImportForm.outline, ImportForm.clauseOutlines, ImportForm.boundOutlines,
      ImportForm.written, ImportForm.clause, written, writtenAll, written_bindingsOutline,
      writtenWords, importWord]

end Outline

open Outline Source.Tree

section

variable {source before : List Char} {t : Tree} {ts : List Tree}

/-- The local name of what is read of a name between braces. -/
lemma specifierName?_of_isRead {pair : Identifier × Option Identifier}
    (h : IsRead source before (specifierOutline pair) t) :
    t.named = true ∧ t.kind = "import_specifier" ∧
      (specifierName? t).map (text source) = some (pair.2.getD pair.1).text := by
  rcases pair with ⟨name, _ | other⟩
  · obtain ⟨hnamed, hkind, -, htokens, hinside⟩ := h.of_node
    obtain ⟨first, rest, hchildren, hname, hrest⟩ := hinside.exists_cons rfl
    obtain rfl := hrest.eq_nil
    obtain ⟨-, -, hpart, htext, -⟩ := hname.of_leaf
    refine ⟨hnamed, hkind, ?_⟩
    rw [specifierName?, child?_eq htokens (by decide), child?_eq htokens (by decide), hchildren]
    simp [hpart, htext]
  · obtain ⟨hnamed, hkind, -, htokens, hinside⟩ := h.of_node
    obtain ⟨first, rest, hchildren, hname, hrest⟩ := hinside.exists_cons rfl
    obtain ⟨second, rest, rfl, halias, hrest⟩ := hrest.behind_token.exists_cons rfl
    obtain rfl := hrest.eq_nil
    obtain ⟨-, -, hpart, -, -⟩ := hname.of_leaf
    obtain ⟨-, -, hpart', htext', -⟩ := halias.of_leaf
    refine ⟨hnamed, hkind, ?_⟩
    rw [specifierName?, child?_eq htokens (by decide), child?_eq htokens (by decide), hchildren]
    simp [hpart, hpart', htext']

/-- The local names of nodes that are specifiers. -/
def specifierNames (source : List Char) (ts : List Tree) : List (List Char) :=
  ((ts.filter fun t => t.kind == "import_specifier").filterMap specifierName?).map (text source)

lemma specifierNames_cons {pair : Identifier × Option Identifier}
    (h : IsRead source before (specifierOutline pair) t) (ts : List Tree) :
    specifierNames source (t :: ts) = (pair.2.getD pair.1).text :: specifierNames source ts := by
  obtain ⟨-, hkind, hname⟩ := specifierName?_of_isRead h
  obtain ⟨name, hsome, htext⟩ := Option.map_eq_some_iff.mp hname
  simp [specifierNames, hkind, hsome, htext]

lemma isNode_specifierOutline (pair : Identifier × Option Identifier) :
    (specifierOutline pair).isNode = true := by
  rcases pair with ⟨name, _ | other⟩ <;> rfl

lemma specifierNames_of_areRead {list : List (Identifier × Option Identifier)}
    (h : AreRead source before (specifierOutlines list) ts) :
    specifierNames source ts = list.map fun pair => (pair.2.getD pair.1).text := by
  induction list generalizing before ts with
  | nil =>
    rw [h.eq_nil]
    rfl
  | cons pair more ih =>
    cases more with
    | nil =>
      obtain ⟨first, rest, rfl, hfirst, hrest⟩ :=
        h.behind_token.exists_cons (isNode_specifierOutline pair)
      rw [specifierNames_cons hfirst, hrest.eq_nil]
      rfl
    | cons next more =>
      obtain ⟨first, rest, rfl, hfirst, hrest⟩ :=
        h.behind_token.exists_cons (isNode_specifierOutline pair)
      rw [specifierNames_cons hfirst, ih hrest.behind_token]
      rfl

/-- The local names of what is read of bindings. -/
lemma bindingNames_of_isRead {bindings : Bindings} (h : IsRead source before bindings.outline t) :
    (bindingNames t).map (text source) = bindings.names := by
  cases bindings with
  | whole name =>
    obtain ⟨-, hkind, -, -, hinside⟩ := h.of_node
    obtain ⟨first, rest, hchildren, hname, hrest⟩ := hinside.behind_token.exists_cons rfl
    obtain rfl := hrest.eq_nil
    obtain ⟨-, hkind', -, htext, -⟩ := hname.of_leaf
    simp [bindingNames, hkind, hchildren, hkind', htext, Bindings.names]
  | named list =>
    obtain ⟨-, hkind, -, -, hinside⟩ := h.of_node
    obtain ⟨first, rest, hchildren, hnames, hrest⟩ := hinside.behind_token.exists_append
    obtain rfl := hrest.behind_token.eq_nil
    have hlist := specifierNames_of_areRead hnames
    rw [List.append_nil] at hchildren
    rw [bindingNames, hkind, hchildren]
    exact hlist

lemma bindingNames_of_isRead_name {name : Identifier}
    (h : IsRead source before (.leaf "identifier" none name.text) t) :
    (bindingNames t).map (text source) = [name.text] := by
  obtain ⟨-, hkind, -, htext, -⟩ := h.of_leaf
  simp [bindingNames, hkind, htext]

/-- All local names that an import binds. -/
def ImportForm.localNames (form : ImportForm) : List (List Char) :=
  (form.default?.map (·.text)).toList ++ (form.bindings?.map Bindings.names).getD []

/-- The local names of what is read of all that an import binds. -/
lemma boundNames_of_areRead {form : ImportForm} (h : AreRead source before form.boundOutlines ts) :
    (ts.flatMap bindingNames).map (text source) = form.localNames := by
  rcases form with ⟨_ | name, _ | bindings, origin⟩
  · rw [h.eq_nil]
    rfl
  · obtain ⟨first, rest, rfl, hfirst, hrest⟩ := h.exists_cons (isNode_bindingsOutline bindings)
    obtain rfl := hrest.eq_nil
    simpa [ImportForm.localNames] using bindingNames_of_isRead hfirst
  · obtain ⟨first, rest, rfl, hfirst, hrest⟩ := h.exists_cons rfl
    obtain rfl := hrest.eq_nil
    simpa [ImportForm.localNames] using bindingNames_of_isRead_name hfirst
  · obtain ⟨first, rest, rfl, hfirst, hrest⟩ := h.exists_cons rfl
    obtain ⟨second, rest, rfl, hsecond, hrest⟩ :=
      hrest.behind_token.exists_cons (isNode_bindingsOutline bindings)
    obtain rfl := hrest.eq_nil
    have hname := bindingNames_of_isRead_name hfirst
    have hbindings := bindingNames_of_isRead hsecond
    simp [ImportForm.localNames, hname, hbindings]

/-- The local names of the clauses among nodes. -/
def clausesNames (source : List Char) (ts : List Tree) : List (List Char) :=
  ((ts.filter fun child => child.kind == "import_clause").flatMap clauseNames).map (text source)

/-- Before the module of an import stands one clause or nothing, with the local names. -/
lemma clausesNames_of_areRead {form : ImportForm}
    (h : AreRead source before form.clauseOutlines ts) :
    clausesNames source ts = form.localNames ∧ ∀ t ∈ ts, t.part? = none := by
  rw [ImportForm.clauseOutlines] at h
  split at h
  · next hempty =>
    obtain rfl := h.eq_nil
    have hbound : AreRead source before form.boundOutlines [] := by
      rw [List.isEmpty_iff.mp hempty]
      exact h
    exact ⟨boundNames_of_areRead hbound, by simp⟩
  · obtain ⟨first, rest, rfl, hfirst, hrest⟩ := h.behind_token.exists_cons rfl
    obtain rfl := hrest.behind_token.eq_nil
    obtain ⟨-, hkind, hpart, -, hinside⟩ := hfirst.of_node
    have hnames := boundNames_of_areRead hinside
    refine ⟨?_, List.forall_mem_singleton.mpr hpart⟩
    rw [clausesNames, List.filter_singleton, hkind]
    simpa [clauseNames] using hnames

lemma QuotedModule.stripQuotes_written (origin : QuotedModule) :
    stripQuotes origin.written = origin.text := by
  have hquote : isQuote origin.quote = true := by
    rcases origin.quote_eq with h | h <;> rw [h] <;> decide
  rw [stripQuotes, QuotedModule.written, trimWhile_surround hquote hquote]
  exact origin.bare

/-- What is read of a written import is an import with its module and its local names. -/
theorem ImportForm.exists_import {form : ImportForm} (h : IsRead source before form.outline t) :
    t.named = true ∧ t.kind = "import_statement" ∧
      (import? source t).map Import.clause = some form.meaning := by
  obtain ⟨hnamed, hkind, -, htokens, hinside⟩ := h.of_node
  obtain ⟨clauses, rest, hchildren, hclauses, hrest⟩ := hinside.behind_token.exists_append
  obtain ⟨origin, rest, rfl, horigin, hrest⟩ := hrest.behind_token.exists_cons rfl
  obtain rfl := hrest.behind_token.eq_nil
  obtain ⟨hnames, hparts⟩ := clausesNames_of_areRead hclauses
  obtain ⟨-, hstring, hpart, htext, -⟩ := horigin.of_leaf
  have hsource : t.child? "source" = some origin := by
    rw [child?_eq htokens (by decide), hchildren, List.find?_append, List.find?_eq_none.mpr]
    · simp [hpart]
    · intro clause hclause
      simp [hparts clause hclause]
  have hlocal : clausesNames source t.namedChildren = form.localNames := by
    rw [← hnames, hchildren]
    simp [clausesNames, hstring]
  have hstrings : ((t.namedChildren.filter fun child => child.kind == "import_clause").flatMap
      clauseNames).map (nameText source) = form.localNames.map String.ofList := by
    rw [← hlocal, clausesNames, List.map_map]
    rfl
  refine ⟨hnamed, hkind, ?_⟩
  rw [import?, hsource, Option.map_some, Option.map_some, Import.clause, htext,
    form.origin.stripQuotes_written, hstrings]
  rfl

end

end Source

end GapAudit
