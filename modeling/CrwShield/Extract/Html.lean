import CrwShield.Base.Markup
import CrwShield.Base.Str

/-!
# HTML trees

Crate `extract`, `src/crates/extract/src/content.rs:264–473`: the nodes that the third-party parser
produces, and how an element, a text and a doctype are written back.
-/

open CrwShield.Base CrwShield.Base.Str CrwShield.Base.Markup

namespace CrwShield.Extract

/-- An element: its local name and its attributes. -/
structure Element where
  name : Str
  attrs : List (Str × Str)
  deriving DecidableEq

/-- A node without children. -/
inductive Leaf where
  | text (t : Str)
  | comment (t : Str)
  | doctype (name : Str)
  | processingInstruction (target data : Str)
  deriving DecidableEq

/-- The nodes of a fragment. -/
abbrev Html := Forest Element Leaf

/-- `Html::parse_fragment`; one `html` element holds everything it produces. -/
structure HtmlParser where
  parseFragment : Str → Html
  root : ∀ html, ∃ attrs children, parseFragment html = .element ⟨"html", attrs⟩ children .nil
  parseFragment_nil : parseFragment [] = .element ⟨"html", []⟩ .nil .nil

/-- A parser that knows the nodes of some pages, and takes every other for text. -/
def HtmlParser.knowing (pages : List Str) (children : Html) : HtmlParser where
  parseFragment s :=
    .element ⟨"html", []⟩
      (if s = [] then .nil else if s ∈ pages then children else .leaf (.text s) .nil) .nil
  root _ := ⟨_, _, rfl⟩
  parseFragment_nil := by simp

theorem HtmlParser.parseFragment_knowing {html : Str} {pages : List Str} (children : Html)
    (hne : html ≠ []) (hmem : html ∈ pages) :
    (HtmlParser.knowing pages children).parseFragment html =
      .element ⟨"html", []⟩ children .nil := by
  show Forest.element _ (if html = [] then _ else if html ∈ pages then _ else _) _ = _
  rw [if_neg hne, if_pos hmem]

namespace Element

/-- Value of an attribute. -/
def attr (el : Element) (name : Str) : Option Str := el.attrs.lookup name

/-- Names of headings; `content.rs:283` and `content.rs:1126`. -/
def headingNames : List Str := ["h1", "h2", "h3", "h4", "h5", "h6"]

/-- A character of an attribute value; `content.rs:463–471`. -/
def escapedChar (c : Char) : Str :=
  if c = '&' then "&amp;"
  else if c = '"' then "&quot;"
  else if c = '<' then "&lt;"
  else if c = '>' then "&gt;"
  else [c]

/-- An attribute, unless it is an inline style; `content.rs:443–454`. -/
def attrText (attr : Str × Str) : Str :=
  if eqIgnoreAsciiCase attr.1 "style" then []
  else ' ' :: attr.1 ++
    if attr.2.isEmpty then [] else ("=\"" : Str) ++ attr.2.flatMap escapedChar ++ ['"']

/-- The start tag; `content.rs:439–460`. -/
def serialiseOpen (el : Element) : Str :=
  '<' :: el.name ++ el.attrs.flatMap attrText ++
    if el.name ∈ (["br", "img", "hr", "meta", "link", "input"] : List Str) then (" />" : Str)
    else ['>']

/-- The end tag; `content.rs:418–422`. -/
def serialiseClose (el : Element) : Str := ("</" : Str) ++ el.name ++ ['>']

theorem serialiseOpen_ne_nil (el : Element) : el.serialiseOpen ≠ [] := List.cons_ne_nil _ _

end Element

/-- What a serialiser writes at a stop; comments are left out; `content.rs:424–435`. -/
def markup (s : Stop Element Leaf) : Str :=
  match s.visit with
  | .enter el _ => el.serialiseOpen
  | .leave el => el.serialiseClose
  | .leaf (.text t) => t
  | .leaf (.doctype name) => ("<!DOCTYPE " : Str) ++ name ++ ['>']
  | .leaf _ => []

/-- The stop is at an element or at a text. -/
def IsNode (s : Stop Element Leaf) : Prop :=
  match s.visit with
  | .leaf (.text _) => True
  | .leaf _ => False
  | _ => True

instance (s : Stop Element Leaf) : Decidable (IsNode s) := by
  unfold IsNode
  split <;> infer_instance

/-- `<nav><a href="/x">x</a></nav>` as parsed. -/
def navLink : Html :=
  .element ⟨"html", []⟩
    (.element ⟨"nav", []⟩
      (.element ⟨"a", [("href", "/x")]⟩ (.leaf (.text "x") .nil) .nil) .nil) .nil

end CrwShield.Extract
