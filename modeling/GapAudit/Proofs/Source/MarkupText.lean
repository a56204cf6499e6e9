import GapAudit.Proofs.Source.Outline
import GapAudit.Proofs.Source.Traversal
import GapAudit.Proofs.Text.Lines
import GapAudit.Tools.Builtin

/-!
# Written markup

Elements, fragments and text nested in each other to any depth. Whatever tree follows the rules of
what is written (`MarkupForm.outline`), the elements found in it are those of the form in the order
of their opening tags, each with its attributes and with content just where a text in it is not
blank (`elements_exact`).
-/

namespace GapAudit

namespace Source

open Text

/-- The name of an element: ASCII letters and digits, of which the first is a letter. -/
structure TagName where
  text : List Char
  start : text.head?.any isAsciiLetter = true
  chars : ∀ c ∈ text, isAsciiAlphanumeric c = true

/-- The name of an attribute: ASCII letters. -/
structure AttributeName where
  text : List Char
  ne_nil : text ≠ []
  chars : ∀ c ∈ text, isAsciiLetter c = true

/-- A value between double quotes, without quotes of any kind, references and line ends. -/
structure AttributeText where
  text : List Char
  chars : ∀ c ∈ text, isQuote c = false ∧ c ≠ '&' ∧ isLineEnd c = false

/-- Text between tags. -/
structure PlainText where
  text : List Char
  chars : ∀ c ∈ text, c ∉ ['<', '>', '\x7b', '\x7d', '&']

structure AttributeForm where
  name : AttributeName
  value : Option AttributeText

mutual

/-- An element or a fragment. -/
inductive MarkupForm where
  | fragment (children : ChildForms)
  | closed (tag : TagName) (attributes : List AttributeForm)
  | element (tag : TagName) (attributes : List AttributeForm) (children : ChildForms)

/-- The children of an element or a fragment. -/
inductive ChildForms where
  | none
  | text (content : PlainText) (more : ChildForms)
  | nested (form : MarkupForm) (more : ChildForms)

end

def AttributeForm.written (a : AttributeForm) : List Char :=
  match a.value with
  | none => ' ' :: a.name.text
  | some value => ' ' :: (a.name.text ++ '=' :: '"' :: (value.text ++ ['"']))

mutual

def MarkupForm.written : MarkupForm → List Char
  | .fragment children => '<' :: '>' :: (children.written ++ ['<', '/', '>'])
  | .closed tag attributes =>
    '<' :: (tag.text ++ (attributes.flatMap AttributeForm.written ++ [' ', '/', '>']))
  | .element tag attributes children =>
    '<' :: (tag.text ++ (attributes.flatMap AttributeForm.written ++
      '>' :: (children.written ++ '<' :: '/' :: (tag.text ++ ['>']))))

def ChildForms.written : ChildForms → List Char
  | .none => []
  | .text content more => content.text ++ more.written
  | .nested form more => form.written ++ more.written

end

def AttributeForm.meaning (a : AttributeForm) : Attribute where
  name := String.ofList a.name.text
  value := a.value.map fun value => String.ofList value.text

mutual

/-- The texts in a form at any depth. -/
def MarkupForm.texts : MarkupForm → List (List Char)
  | .fragment children => children.texts
  | .closed _ _ => []
  | .element _ _ children => children.texts

def ChildForms.texts : ChildForms → List (List Char)
  | .none => []
  | .text content more => content.text :: more.texts
  | .nested form more => form.texts ++ more.texts

end

/-- Whether one of several texts has a character that is no blank. -/
def anyInk (texts : List (List Char)) : Bool :=
  texts.any fun text => text.any fun c => !isBlank c

mutual

def MarkupForm.elements : MarkupForm → List Element
  | .fragment children => children.elements
  | .closed tag attributes =>
    [⟨String.ofList tag.text, attributes.map AttributeForm.meaning, true, false⟩]
  | .element tag attributes children =>
    ⟨String.ofList tag.text, attributes.map AttributeForm.meaning, false, anyInk children.texts⟩ ::
      children.elements

def ChildForms.elements : ChildForms → List Element
  | .none => []
  | .text _ more => more.elements
  | .nested form more => form.elements ++ more.elements

end

namespace AttributeForm

/-- The rules of an attribute with a blank before it. -/
def outlines (a : AttributeForm) : List Outline :=
  let name := Outline.leaf "property_identifier" none a.name.text
  match a.value with
  | none => [.token [' '], .node "jsx_attribute" none [name]]
  | some value =>
    [.token [' '], .node "jsx_attribute" none
      [name, .token ['='], .leaf "string" none ('"' :: (value.text ++ ['"']))]]

end AttributeForm

/-- The rules of the name of an element and of its attributes. -/
def tagOutlines (tag : TagName) (attributes : List AttributeForm) : List Outline :=
  .leaf "identifier" (some "name") tag.text :: attributes.flatMap AttributeForm.outlines

mutual

/-- The rule of an element or a fragment. -/
def MarkupForm.outline : MarkupForm → Outline
  | .fragment children => .node "jsx_element" none
    (.node "jsx_opening_element" none [.token ['<', '>']] ::
      (children.outlines [] ++ [.node "jsx_closing_element" none [.token ['<', '/', '>']]]))
  | .closed tag attributes => .node "jsx_self_closing_element" none
    (.token ['<'] :: (tagOutlines tag attributes ++ [.token [' ', '/', '>']]))
  | .element tag attributes children => .node "jsx_element" none
    (.node "jsx_opening_element" none
        (.token ['<'] :: (tagOutlines tag attributes ++ [.token ['>']])) ::
      (children.outlines [] ++ [.node "jsx_closing_element" none
        [.token ['<', '/'], .leaf "identifier" (some "name") tag.text, .token ['>']]]))

/-- The rules of children behind a text that is not at its end. Texts side by side are one text. -/
def ChildForms.outlines : (pending : List Char) → ChildForms → List Outline
  | pending, .none => [.words pending]
  | pending, .text content more => more.outlines (pending ++ content.text)
  | pending, .nested form more => .words pending :: form.outline :: more.outlines []

end

/-- The rule of a file that is the declaration of a constant with an element or a fragment. -/
def MarkupForm.fileOutline (form : MarkupForm) : Outline :=
  .node "program" none [.node "lexical_declaration" none
    [.token "const ".toList, .node "variable_declarator" none
      [.leaf "identifier" (some "name") ['v'], .token " = ".toList, form.outline], .token [';']]]

open Outline

lemma AttributeForm.writtenAll_outlines (a : AttributeForm) : writtenAll a.outlines = a.written := by
  rcases a with ⟨name, _ | value⟩
  · simp [AttributeForm.outlines, AttributeForm.written, writtenAll, Outline.written]
  · simp [AttributeForm.outlines, AttributeForm.written, writtenAll, Outline.written]

lemma writtenAll_tagOutlines (tag : TagName) (attributes : List AttributeForm) :
    writtenAll (tagOutlines tag attributes) =
      tag.text ++ attributes.flatMap AttributeForm.written := by
  rw [tagOutlines, writtenAll, Outline.written]
  congr 1
  induction attributes with
  | nil => rfl
  | cons a attributes ih =>
    rw [List.flatMap_cons, List.flatMap_cons, writtenAll_append, ih, a.writtenAll_outlines]

mutual

lemma MarkupForm.written_outline : (form : MarkupForm) → form.outline.written = form.written
  | .fragment children => by
    have hchildren := children.writtenAll_outlines []
    simp [MarkupForm.outline, MarkupForm.written, Outline.written, writtenAll, writtenAll_append,
      hchildren]
  | .closed tag attributes => by
    simp [MarkupForm.outline, MarkupForm.written, Outline.written, writtenAll, writtenAll_append,
      writtenAll_tagOutlines]
  | .element tag attributes children => by
    have hchildren := children.writtenAll_outlines []
    simp [MarkupForm.outline, MarkupForm.written, Outline.written, writtenAll, writtenAll_append,
      writtenAll_tagOutlines, hchildren]

lemma ChildForms.writtenAll_outlines : (forms : ChildForms) → (pending : List Char) →
    writtenAll (forms.outlines pending) = pending ++ forms.written
  | .none, pending => rfl
  | .text content more, pending => by
    rw [ChildForms.outlines, more.writtenAll_outlines, List.append_assoc]
    rfl
  | .nested form more, pending => by
    rw [ChildForms.outlines, writtenAll, writtenAll, more.writtenAll_outlines, form.written_outline]
    rfl

end

lemma MarkupForm.isNode_outline (form : MarkupForm) : form.outline.isNode = true := by
  cases form <;> rfl

lemma MarkupForm.written_fileOutline (form : MarkupForm) :
    form.fileOutline.written = "const v = ".toList ++ form.written ++ [';'] := by
  simp [MarkupForm.fileOutline, Outline.written, writtenAll, form.written_outline]

open Source.Tree

section

variable {source before after text : List Char} {t : Tree} {ts us : List Tree}

lemma elementsWithin_eq (source : List Char) (t : Tree) :
    elementsWithin source t = (element? source t).toList ++ allElementsWithin source t.children := by
  cases t
  rfl

lemma allElementsWithin_append (source : List Char) (ts us : List Tree) :
    allElementsWithin source (ts ++ us) =
      allElementsWithin source ts ++ allElementsWithin source us := by
  rw [← filterMap_allPreorder, allPreorder_append, List.filterMap_append, filterMap_allPreorder,
    filterMap_allPreorder]

lemma element?_eq_none (h : t.kind ∉ elementKinds) : element? source t = none := by
  simp only [elementKinds, List.mem_cons, List.not_mem_nil, or_false, not_or] at h
  rw [element?, if_neg (by simp [h.1]), if_neg (by simp [h.2])]

lemma elementsWithin_of_isBare (h : t.isBare = true) : elementsWithin source t = [] := by
  rw [← filterMap_preorder, List.filterMap_eq_nil_iff]
  intro inner hinner
  have hkind := List.all_eq_true.mp h inner hinner
  apply element?_eq_none
  simpa using hkind

/-- The elements in a node are those in its named children. -/
lemma allElementsWithin_children (h : t.HasTokens) :
    allElementsWithin source t.children = allElementsWithin source t.namedChildren := by
  rw [namedChildren]
  unfold HasTokens at h
  generalize t.children = children at h
  induction children with
  | nil => rfl
  | cons child children ih =>
    obtain ⟨hchild, hchildren⟩ := List.forall_mem_cons.mp h
    rw [allElementsWithin, ih hchildren, List.filter_cons]
    split
    · rfl
    · next hnamed =>
      have hbare := (hchild.resolve_left hnamed).2
      rw [elementsWithin_of_isBare hbare, List.nil_append]

/-- A node that is no element holds the elements in its named children. -/
lemma elementsWithin_of_kind (hkind : t.kind ∉ elementKinds) (h : t.HasTokens) :
    elementsWithin source t = allElementsWithin source t.namedChildren := by
  rw [elementsWithin_eq, element?_eq_none hkind, allElementsWithin_children h, Option.toList_none,
    List.nil_append]

lemma anyGivesContent_children (source : List Char) (t : Tree) :
    anyGivesContent source t.children = anyGivesContent source t.namedChildren := by
  rw [namedChildren]
  induction t.children with
  | nil => rfl
  | cons child children ih =>
    rw [anyGivesContent, ih, List.filter_cons]
    split
    · rfl
    · next hnamed => simp [hnamed]

lemma givesContent_of_isText (h : t.isText = true) :
    givesContent source t = (t.text source).any fun c => !isBlank c := by
  have hkind : t.kind = "jsx_text" := beq_iff_eq.mp h
  have hcontent : givesContent source t = !(trim (t.text source)).isEmpty := by
    cases t
    simp only at hkind
    rw [givesContent, hkind]
    rfl
  rw [hcontent, ← List.not_all_eq_any_not, Bool.not_inj_iff, Bool.eq_iff_iff, List.isEmpty_iff,
    trim_eq_nil_iff]
  rfl

/-- Nodes of running text hold no elements, and give content if the text is not blank. -/
lemma anyGivesContent_of_cover (htexts : ∀ t ∈ ts, t.isText = true)
    (h : cover (byteSize before) text ts = true) (hsource : source = before ++ (text ++ after)) :
    allElementsWithin source ts = [] ∧
      anyGivesContent source ts = text.any fun c => !isBlank c := by
  induction ts generalizing before text with
  | nil =>
    refine ⟨rfl, ?_⟩
    rw [cover] at h
    rw [← List.not_all_eq_any_not, h]
    rfl
  | cons t ts ih =>
    obtain ⟨htext, htexts⟩ := List.forall_mem_cons.mp htexts
    simp only [cover, Bool.and_eq_true, decide_eq_true_eq] at h
    obtain ⟨⟨⟨⟨⟨⟨⟨hnamed, hbare⟩, hle⟩, hle'⟩, hstart⟩, hstop⟩, hblank⟩, hrest⟩ := h
    obtain ⟨gap, middle, rest, rfl, hgap, hmiddle⟩ := exists_stretch hstart hstop (by omega)
    have hbefore : t.start = byteSize (before ++ gap) := by
      rw [byteSize_append]
      omega
    have hbehind : t.stop = byteSize (before ++ gap ++ middle) := by
      rw [byteSize_append] at hmiddle
      rw [byteSize_append, byteSize_append]
      omega
    have hplace : source = before ++ gap ++ (middle ++ (rest ++ after)) := by
      rw [hsource]
      simp only [List.append_assoc]
    have hmiddleText : t.text source = middle := by
      rw [hplace]
      exact text_append hbefore hbehind
    rw [← hgap, takeBytes_append] at hblank
    rw [← hmiddle, ← List.append_assoc, dropBytes_append, hbehind] at hrest
    obtain ⟨hnone, hmore⟩ := ih htexts hrest (by rw [hplace, List.append_assoc _ middle])
    have hgapBlank : (gap.any fun c => !isBlank c) = false := by
      rw [← List.not_all_eq_any_not, hblank]
      rfl
    refine ⟨?_, ?_⟩
    · rw [allElementsWithin, elementsWithin_of_isBare hbare, hnone, List.nil_append]
    · rw [anyGivesContent, hnamed, givesContent_of_isText htext, hmiddleText, hmore,
        List.any_append, List.any_append, hgapBlank]
      rfl

lemma exists_of_words {more : List Outline} (h : AreRead source before (.words text :: more) ts) :
    ∃ first rest, ts = first ++ rest ∧ allElementsWithin source first = [] ∧
      (anyGivesContent source first = text.any fun c => !isBlank c) ∧
      AreRead source (before ++ text) more rest := by
  obtain ⟨first, rest, hts, htexts, hcover, hrest⟩ := h.exists_words
  obtain ⟨after, hsource⟩ := h.written
  rw [writtenAll, Outline.written, List.append_assoc] at hsource
  obtain ⟨hnone, hcontent⟩ := anyGivesContent_of_cover htexts hcover hsource
  exact ⟨first, rest, hts, hnone, hcontent, hrest⟩

lemma AttributeText.stripQuotes_quoted (value : AttributeText) :
    stripQuotes ('"' :: (value.text ++ ['"'])) = value.text := by
  rw [stripQuotes, trimWhile_surround (by decide) (by decide)]
  exact trimWhile_of_forall_not fun c hc => (value.chars c hc).1

/-- What is read of an attribute is one node with its name and its value, and without elements. -/
lemma AttributeForm.exists_of_areRead {a : AttributeForm} (h : AreRead source before a.outlines ts) :
    ∃ t, ts = [t] ∧ t.kind = "jsx_attribute" ∧ t.part? = none ∧
      attribute? source t = some a.meaning ∧ elementsWithin source t = [] := by
  rcases a with ⟨name, _ | value⟩
  · obtain ⟨t, rest, rfl, ht, hrest⟩ := h.behind_token.exists_cons rfl
    obtain rfl := hrest.eq_nil
    obtain ⟨-, hkind, hpart, htokens, hinside⟩ := ht.of_node
    obtain ⟨first, rest, hchildren, hname, hrest⟩ := hinside.exists_cons rfl
    obtain rfl := hrest.eq_nil
    obtain ⟨-, -, -, htext, hbare⟩ := hname.of_leaf
    refine ⟨t, rfl, hkind, hpart, ?_, ?_⟩
    · simp [attribute?, hchildren, htext, AttributeForm.meaning]
    · rw [elementsWithin_of_kind (by simp [hkind, elementKinds]) htokens, hchildren]
      simp [allElementsWithin, elementsWithin_of_isBare hbare]
  · obtain ⟨t, rest, rfl, ht, hrest⟩ := h.behind_token.exists_cons rfl
    obtain rfl := hrest.eq_nil
    obtain ⟨-, hkind, hpart, htokens, hinside⟩ := ht.of_node
    obtain ⟨first, rest, hchildren, hname, hrest⟩ := hinside.exists_cons rfl
    obtain ⟨second, rest, rfl, hvalue, hrest⟩ := hrest.behind_token.exists_cons rfl
    obtain rfl := hrest.eq_nil
    obtain ⟨-, -, -, htext, hbare⟩ := hname.of_leaf
    obtain ⟨-, hstring, -, htext', hbare'⟩ := hvalue.of_leaf
    refine ⟨t, rfl, hkind, hpart, ?_, ?_⟩
    · simp [attribute?, hchildren, htext, AttributeForm.meaning, attributeValue, hstring, htext',
        value.stripQuotes_quoted]
    · rw [elementsWithin_of_kind (by simp [hkind, elementKinds]) htokens, hchildren]
      simp [allElementsWithin, elementsWithin_of_isBare hbare, elementsWithin_of_isBare hbare']

/-- What is read of attributes. -/
lemma attributes_of_areRead {attributes : List AttributeForm}
    (h : AreRead source before (attributes.flatMap AttributeForm.outlines) ts) :
    (∀ t ∈ ts, t.kind = "jsx_attribute" ∧ t.part? = none) ∧
      ts.filterMap (attribute? source) = attributes.map AttributeForm.meaning ∧
      allElementsWithin source ts = [] := by
  induction attributes generalizing before ts with
  | nil =>
    rw [h.eq_nil]
    exact ⟨by simp, rfl, rfl⟩
  | cons a attributes ih =>
    obtain ⟨first, rest, rfl, hfirst, hrest⟩ := h.exists_append
    obtain ⟨t, rfl, hkind, hpart, hmeaning, hnone⟩ := a.exists_of_areRead hfirst
    obtain ⟨hkinds, hmore, hnones⟩ := ih hrest
    refine ⟨List.forall_mem_cons.mpr ⟨⟨hkind, hpart⟩, hkinds⟩, ?_, ?_⟩
    · rw [List.singleton_append, List.filterMap_cons_some hmeaning, hmore, List.map_cons]
    · rw [List.singleton_append, allElementsWithin, hnone, hnones, List.nil_append]

/-- A tag in which a name and attributes are read shows an element with them. -/
lemma tagElement?_of_areRead {tag : TagName} {attributes : List AttributeForm}
    (htokens : t.HasTokens) (h : AreRead source before (tagOutlines tag attributes) t.namedChildren)
    (selfClosing content : Bool) :
    tagElement? source selfClosing content t = some ⟨String.ofList tag.text,
        attributes.map AttributeForm.meaning, selfClosing, content⟩ ∧
      allElementsWithin source t.children = [] := by
  obtain ⟨name, rest, hchildren, hname, hrest⟩ := h.exists_cons rfl
  obtain ⟨-, hkind, hpart, htext, hbare⟩ := hname.of_leaf
  obtain ⟨hkinds, hmeanings, hnones⟩ := attributes_of_areRead hrest
  have hfound : tagName? t = some name := by
    rw [tagName?, child?_eq htokens (by decide), hchildren]
    simp [hpart]
  have hattributes : Tree.attributes source t = attributes.map AttributeForm.meaning := by
    have hall : rest.filter (fun child => child.kind == "jsx_attribute") = rest :=
      List.filter_eq_self.mpr fun child hchild => beq_iff_eq.mpr (hkinds child hchild).1
    rw [Tree.attributes, hchildren, List.filter_cons_of_neg (by simp [hkind]), hall, hmeanings]
  refine ⟨?_, ?_⟩
  · rw [tagElement?, hfound, Option.map_some, htext, hattributes]
  · rw [allElementsWithin_children htokens, hchildren, allElementsWithin,
      elementsWithin_of_isBare hbare, hnones, List.nil_append]

/-- What is found in a node that has an opening tag, children and a closing tag. -/
lemma elementsWithin_of_tags {opening closing : Tree} {children : List Tree}
    (hkind : t.kind = "jsx_element") (htokens : t.HasTokens)
    (hchildren : t.namedChildren = opening :: (children ++ [closing]))
    (hopening : opening.kind = "jsx_opening_element")
    (hclosing : closing.kind = "jsx_closing_element") :
    elementsWithin source t =
        (tagElement? source false (anyGivesContent source children) opening).toList ++
          (allElementsWithin source opening.children ++ (allElementsWithin source children ++
            allElementsWithin source closing.children)) ∧
      givesContent source t = anyGivesContent source children := by
  have hcontent : anyGivesContent source t.children = anyGivesContent source children := by
    rw [anyGivesContent_children, hchildren, anyGivesContent, anyGivesContent_append,
      anyGivesContent, anyGivesContent, givesContent_eq_false (.inl hopening),
      givesContent_eq_false (.inr hclosing)]
    simp
  have htag : openingTag? t = some opening := by
    rw [openingTag?, hchildren]
    simp [hopening]
  have helement : element? source t =
      tagElement? source false (anyGivesContent source children) opening := by
    rw [element?, if_pos (by simp [hkind]), htag, Option.bind_some, hasContent, hcontent]
  refine ⟨?_, ?_⟩
  · rw [elementsWithin_eq, helement, allElementsWithin_children htokens, hchildren,
      allElementsWithin, allElementsWithin_append, allElementsWithin, allElementsWithin,
      elementsWithin_eq source opening, elementsWithin_eq source closing,
      element?_eq_none (by simp [hopening, elementKinds]),
      element?_eq_none (by simp [hclosing, elementKinds])]
    simp
  · rw [← hcontent]
    cases t
    simp only at hkind
    rw [givesContent, hkind]
    rfl

mutual

/-- What is read of a form holds the elements of the form. -/
lemma MarkupForm.elements_of_isRead : (form : MarkupForm) → {before : List Char} → {t : Tree} →
    IsRead source before form.outline t → t.named = true ∧
      elementsWithin source t = form.elements ∧ givesContent source t = anyInk form.texts
  | .fragment children, before, t, h => by
    obtain ⟨hnamed, hkind, -, htokens, hinside⟩ := h.of_node
    obtain ⟨opening, rest, hchildren, hopening, hrest⟩ := hinside.exists_cons rfl
    obtain ⟨kids, rest, rfl, hkids, hrest⟩ := hrest.exists_append
    obtain ⟨closing, rest, rfl, hclosing, hrest⟩ := hrest.exists_cons rfl
    obtain rfl := hrest.eq_nil
    obtain ⟨-, hopens, -, htokens', hname⟩ := hopening.of_node
    obtain ⟨-, hcloses, -, htokens'', hname'⟩ := hclosing.of_node
    have hnone : opening.namedChildren = [] := hname.behind_token.eq_nil
    have hnone' : closing.namedChildren = [] := hname'.behind_token.eq_nil
    obtain ⟨helements, hcontent⟩ := children.elements_of_areRead hkids
    obtain ⟨hwithin, hgives⟩ := elementsWithin_of_tags hkind htokens hchildren hopens hcloses
    have htag : tagName? opening = none := by
      rw [tagName?, child?_eq htokens' (by decide), hnone]
      rfl
    refine ⟨hnamed, ?_, hgives.trans hcontent⟩
    rw [hwithin, tagElement?, htag, allElementsWithin_children htokens', hnone,
      allElementsWithin_children htokens'', hnone', helements]
    simp [allElementsWithin, MarkupForm.elements]
  | .closed tag attributes, before, t, h => by
    obtain ⟨hnamed, hkind, -, htokens, hinside⟩ := h.of_node
    obtain ⟨parts, rest, hchildren, hparts, hrest⟩ := hinside.behind_token.exists_append
    obtain rfl := hrest.behind_token.eq_nil
    rw [List.append_nil] at hchildren
    rw [← hchildren] at hparts
    obtain ⟨helement, hnone⟩ := tagElement?_of_areRead htokens hparts true false
    refine ⟨hnamed, ?_, ?_⟩
    · rw [elementsWithin_eq, hnone, element?, if_neg (by simp [hkind]), if_pos (by simp [hkind]),
        helement]
      rfl
    · cases t
      simp only at hkind
      rw [givesContent, hkind]
      rfl
  | .element tag attributes children, before, t, h => by
    obtain ⟨hnamed, hkind, -, htokens, hinside⟩ := h.of_node
    obtain ⟨opening, rest, hchildren, hopening, hrest⟩ := hinside.exists_cons rfl
    obtain ⟨kids, rest, rfl, hkids, hrest⟩ := hrest.exists_append
    obtain ⟨closing, rest, rfl, hclosing, hrest⟩ := hrest.exists_cons rfl
    obtain rfl := hrest.eq_nil
    obtain ⟨-, hopens, -, htokens', hparts⟩ := hopening.of_node
    obtain ⟨-, hcloses, -, htokens'', hname⟩ := hclosing.of_node
    obtain ⟨parts, rest, hopeningChildren, hparts, hrest⟩ := hparts.behind_token.exists_append
    obtain rfl := hrest.behind_token.eq_nil
    rw [List.append_nil] at hopeningChildren
    rw [← hopeningChildren] at hparts
    obtain ⟨name, rest, hclosingChildren, hname, hrest⟩ := hname.behind_token.exists_cons rfl
    obtain rfl := hrest.behind_token.eq_nil
    obtain ⟨-, -, -, -, hbare⟩ := hname.of_leaf
    obtain ⟨helements, hcontent⟩ := children.elements_of_areRead hkids
    obtain ⟨hwithin, hgives⟩ := elementsWithin_of_tags hkind htokens hchildren hopens hcloses
    obtain ⟨helement, hnone⟩ :=
      tagElement?_of_areRead htokens' hparts false (anyGivesContent source kids)
    refine ⟨hnamed, ?_, hgives.trans hcontent⟩
    rw [hwithin, helement, hnone, allElementsWithin_children htokens'', hclosingChildren, helements,
      hcontent]
    simp [allElementsWithin, elementsWithin_of_isBare hbare, MarkupForm.elements]

/-- What is read of children holds their elements, and gives content if one of their texts, or the
text before them, is not blank. -/
lemma ChildForms.elements_of_areRead : (forms : ChildForms) → {pending before : List Char} →
    {ts : List Tree} → AreRead source before (forms.outlines pending) ts →
    allElementsWithin source ts = forms.elements ∧
      anyGivesContent source ts = (pending.any (fun c => !isBlank c) || anyInk forms.texts)
  | .none, pending, before, ts, h => by
    obtain ⟨texts, rest, rfl, hnone, hcontent, hrest⟩ := exists_of_words h
    obtain rfl := hrest.eq_nil
    rw [List.append_nil, hnone, hcontent]
    exact ⟨rfl, (Bool.or_false _).symm⟩
  | .text content more, pending, before, ts, h => by
    obtain ⟨helements, hcontent⟩ := more.elements_of_areRead h
    refine ⟨helements, ?_⟩
    rw [hcontent, List.any_append, Bool.or_assoc]
    rfl
  | .nested form more, pending, before, ts, h => by
    obtain ⟨texts, rest, rfl, hnone, hcontent, hrest⟩ := exists_of_words h
    obtain ⟨t, rest, rfl, ht, hrest⟩ := hrest.exists_cons form.isNode_outline
    obtain ⟨hnamed, helements, hgives⟩ := form.elements_of_isRead ht
    obtain ⟨hmore, hmoreContent⟩ := more.elements_of_areRead hrest
    refine ⟨?_, ?_⟩
    · rw [allElementsWithin_append, hnone, allElementsWithin, helements, hmore]
      rfl
    · rw [anyGivesContent_append, hcontent, anyGivesContent, hnamed, hgives, hmoreContent,
        ChildForms.texts, anyInk, anyInk, anyInk, List.any_append]
      rfl

end

end

/-- The elements in a file that declares a constant with an element or a fragment. -/
lemma MarkupForm.elements_of_file {form : MarkupForm} {source : List Char} {tree : Tree}
    (h : IsRead source [] form.fileOutline tree) : tree.elements source = form.elements := by
  have hwithin : tree.elements source = elementsWithin source tree := by
    rw [Tree.elements, Cursor.visited_eq_allPreorder, filterMap_allPreorder, allElementsWithin,
      allElementsWithin, List.append_nil]
  obtain ⟨-, hkind, -, htokens, hinside⟩ := h.of_node
  obtain ⟨declaration, rest, hchildren, hdeclaration, hrest⟩ := hinside.exists_cons rfl
  obtain rfl := hrest.eq_nil
  obtain ⟨-, hkind', -, htokens', hinside'⟩ := hdeclaration.of_node
  obtain ⟨declarator, rest, hchildren', hdeclarator, hrest⟩ := hinside'.behind_token.exists_cons rfl
  obtain rfl := hrest.behind_token.eq_nil
  obtain ⟨-, hkind'', -, htokens'', hinside''⟩ := hdeclarator.of_node
  obtain ⟨name, rest, hchildren'', hname, hrest⟩ := hinside''.exists_cons rfl
  obtain ⟨value, rest, rfl, hvalue, hrest⟩ := hrest.behind_token.exists_cons form.isNode_outline
  obtain rfl := hrest.eq_nil
  obtain ⟨-, -, -, -, hbare⟩ := hname.of_leaf
  obtain ⟨-, helements, -⟩ := form.elements_of_isRead hvalue
  have hdeclared : elementsWithin source declarator = form.elements := by
    rw [elementsWithin_of_kind (by simp [hkind'', elementKinds]) htokens'', hchildren'']
    simp [allElementsWithin, elementsWithin_of_isBare hbare, helements]
  have hdeclaration : elementsWithin source declaration = form.elements := by
    rw [elementsWithin_of_kind (by simp [hkind', elementKinds]) htokens', hchildren']
    simp [allElementsWithin, hdeclared]
  rw [hwithin, elementsWithin_of_kind (by simp [hkind, elementKinds]) htokens, hchildren]
  simp [allElementsWithin, hdeclaration]

/-- If the tree that a parser gives follows the rules of an element or a fragment that is written as
the value of a constant, the elements found in it are those of the form: each before those inside
it, with their attributes in order, and with content if a text in them is not blank. -/
theorem elements_exact (tools : Tools) (form : MarkupForm) {tree : Tree}
    (hparse : tools.parse .markup ("const v = ".toList ++ form.written ++ [';']) = some tree)
    (hfits : form.fileOutline.fits 0 tree = true) :
    (Facts.read (tools.parse .markup) ("const v = ".toList ++ form.written ++ [';'])).elements =
      form.elements := by
  rw [Facts.read, hparse]
  apply form.elements_of_file
  refine ⟨hfits, [], ?_⟩
  rw [form.written_fileOutline, List.append_nil, List.nil_append]

/-- A list in a fragment, with blank text around an entry whose text stands in two pieces. -/
def listForm : MarkupForm :=
  let tag (text : List Char) (start : text.head?.any isAsciiLetter = true)
    (chars : text.all isAsciiAlphanumeric = true) : TagName :=
  ⟨text, start, List.all_eq_true.mp chars⟩
  .fragment (.nested (.element (tag ['u', 'l'] rfl rfl)
    [⟨⟨['i', 'd'], by decide, List.all_eq_true.mp rfl⟩,
      some ⟨['m', 'e', 'n', 'u'], List.all_iff_forall_prop.mp (by decide)⟩⟩]
    (.text ⟨['\n', ' '], List.all_iff_forall_prop.mp (by decide)⟩
      (.nested (.element (tag ['l', 'i'] rfl rfl)
        [⟨⟨['h', 'i', 'd', 'd', 'e', 'n'], by decide, List.all_eq_true.mp rfl⟩, none⟩]
        (.text ⟨['a', ' '], List.all_iff_forall_prop.mp (by decide)⟩
          (.text ⟨['§'], List.all_iff_forall_prop.mp (by decide)⟩ .none)))
      (.nested (.closed (tag ['h', 'r'] rfl rfl) []) .none)))) .none)

theorem elements_exact_list :
    let source := "const v = <><ul id=\"menu\">\n <li hidden>a §</li><hr /></ul></>;".toList
    source = "const v = ".toList ++ listForm.written ++ [';'] ∧
      listForm.fileOutline.fits 0 (Reader.read .markup source) = true ∧
      (Facts.ofText .markup source).elements =
        [⟨"ul", [⟨"id", some "menu"⟩], false, true⟩, ⟨"li", [⟨"hidden", none⟩], false, true⟩,
          ⟨"hr", [], true, false⟩] := by
  intro source
  have hsource : source = "const v = ".toList ++ listForm.written ++ [';'] := by decide +kernel
  have hfits : listForm.fileOutline.fits 0 (Reader.read .markup source) = true := by decide +kernel
  have hparse : Tools.builtin.parse .markup ("const v = ".toList ++ listForm.written ++ [';']) =
      some (Reader.read .markup source) := by
    rw [← hsource]
    rfl
  have helements := elements_exact .builtin listForm hparse hfits
  rw [← hsource] at helements
  exact ⟨hsource, hfits, helements.trans (by decide +kernel)⟩

end Source

end GapAudit
