import GapAudit.Score
import GapAudit.Tools.Builtin

/-!
Accessibility of rendered elements: counts of what is wrong and of what helps, and a score.
-/

namespace GapAudit

open Arithmetic

/-- Counts of accessibility findings in one file: four kinds of issues and two of good signs. -/
structure Accessibility where
  unlabelledControls : Nat := 0
  imagesWithoutAlt : Nat := 0
  clicksWithoutKeyboard : Nat := 0
  hiddenControls : Nat := 0
  headings : Nat := 0
  labelledFields : Nat := 0
  deriving DecidableEq, Repr

namespace Accessibility

/-- Elements that need a name which assistive technology can read. -/
def controlTags : List String :=
  ["button", "input", "select", "textarea"]

/-- Controls that a label can point at. -/
def fieldTags : List String :=
  ["input", "select", "textarea"]

/-- Elements that should not react to clicks alone. -/
def clickableTags : List String :=
  ["div", "span", "li", "p", "section", "article", "td", "tr", "img"]

def headingTags : List String :=
  ["h1", "h2", "h3", "h4", "h5", "h6"]

def keyHandlers : List String :=
  ["onKeyDown", "onKeyUp", "onKeyPress"]

/-- Whether an element says that it is hidden: the value `true`, in braces or not. -/
def isHidden (e : Element) : Bool :=
  (e.attributeValue? "aria-hidden").any fun value =>
    let inner := Text.dropEndWhile (· == '\x7d') (value.toList.dropWhile (· == '\x7b'))
    Text.trim inner == ['t', 'r', 'u', 'e']

/-- Whether a control has a name. -/
def isLabelled (e : Element) : Bool :=
  e.hasAttribute "aria-label" || e.hasAttribute "aria-labelledby" ||
    (if e.tag == "button" then e.hasContent else e.hasAttribute "id")

def isUnlabelledControl (e : Element) : Bool :=
  controlTags.contains e.tag && !isLabelled e

def isImageWithoutAlt (e : Element) : Bool :=
  e.tag == "img" && !e.hasAttribute "alt"

/-- Whether an element reacts to clicks but neither to keys nor by its role. -/
def isClickWithoutKeyboard (e : Element) : Bool :=
  clickableTags.contains e.tag && e.hasAttribute "onClick" && !e.hasAttribute "role" &&
    !keyHandlers.any e.hasAttribute

def isHiddenControl (e : Element) : Bool :=
  controlTags.contains e.tag && isHidden e

def fieldIds (elements : List Element) : List String :=
  (elements.filter fun e => fieldTags.contains e.tag).filterMap fun e => e.attributeValue? "id"

/-- Whether an element is a label for one of the fields with the given identifiers. -/
def labelsField (ids : List String) (e : Element) : Bool :=
  e.tag == "label" && (e.attributeValue? "htmlFor").any ids.contains

def assess (elements : List Element) : Accessibility where
  unlabelledControls := elements.countP isUnlabelledControl
  imagesWithoutAlt := elements.countP isImageWithoutAlt
  clicksWithoutKeyboard := elements.countP isClickWithoutKeyboard
  hiddenControls := elements.countP isHiddenControl
  headings := elements.countP fun e => headingTags.contains e.tag
  labelledFields := elements.countP (labelsField (fieldIds elements))

/-- The findings about a source text that may hold elements. -/
def scan (source : String) (tools : Tools := .builtin) : Accessibility :=
  assess (Facts.read (tools.parse .markup) source.toList).elements

def issueCount (a : Accessibility) : Nat :=
  a.unlabelledControls + a.imagesWithoutAlt + a.clicksWithoutKeyboard + a.hiddenControls

/-- The score: each issue takes points off, and headings and labels give a few back. -/
def score {α : Type} [Arithmetic α] (a : Accessibility) : α :=
  Score.clamp
    (100 - ofNat a.unlabelledControls * 35 - ofNat a.imagesWithoutAlt * 20 -
      ofNat a.clicksWithoutKeyboard * 15 - ofNat a.hiddenControls * 40 +
      lesser (ofNat a.headings * 2) 10 + lesser (ofNat a.labelledFields * 2) 10)

/-- What is wrong, kind by kind. -/
def describe (a : Accessibility) : List String :=
  let line (count : Nat) (text : String) : List String :=
    if 0 < count then [s!"{count} {text}"] else []
  line a.unlabelledControls "unlabelled interactive element(s)" ++
    line a.imagesWithoutAlt "image(s) without alt text" ++
    line a.clicksWithoutKeyboard
      "click handler(s) on non-interactive elements without role or keyboard support" ++
    line a.hiddenControls "interactive element(s) hidden from assistive technology"

end Accessibility

end GapAudit
