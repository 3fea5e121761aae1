import CrwShield.Base.Digits
import CrwShield.Base.Markup

/-!
# XML documents

A document as a tree and as a text: what may stand before and after the root element, and the
content of the root, a forest of elements with character data, CDATA sections, comments and
processing instructions at the leaves. The value of content is its character data with references
decoded and line ends normalized.
-/

open CrwShield.Base.Markup CrwShield.Base.Str

namespace CrwShield.Base.Xml

/-- White space of XML. -/
def isSpace (c : Char) : Bool := c = ' ' || c = '\t' || c = '\n' || c = '\r'

theorem isWhitespace_of_isSpace {c : Char} (h : isSpace c = true) : isWhitespace c = true := by
  simp only [isSpace, Bool.or_eq_true, decide_eq_true_eq] at h
  obtain ((rfl | rfl) | rfl) | rfl := h <;> decide

/-- A text without the white space around it. -/
def trimSpace (s : Str) : Str := (s.dropWhile isSpace).rdropWhile isSpace

/-- The character of a code point. -/
def charOf (n : Nat) : Option Str := if n.isValidChar then some [Char.ofNat n] else none

section Values

variable (entities : Str → Option Str)

/-- What a reference stands for: a code point, a predefined entity or one that the document type
declares. -/
def decodeReference (name : Str) : Option Str :=
  match name with
  | '#' :: 'x' :: digits => (parseHex digits).bind charOf
  | '#' :: digits => (parseDigits digits).bind charOf
  | _ =>
    if name = "lt" then some "<"
    else if name = "gt" then some ">"
    else if name = "amp" then some "&"
    else if name = "apos" then some "'"
    else if name = "quot" then some "\""
    else entities name

/-- Character data: a character, or a reference with its name. -/
inductive CharData where
  | char (c : Char)
  | reference (name : Str)
  deriving DecidableEq

/-- Character data as written. -/
def CharData.raw : CharData → Str
  | .char c => [c]
  | .reference name => "&" ++ name ++ ";"

/-- What character data stands for; a reference to nothing stands for itself. -/
def CharData.value : CharData → Str
  | .char c => [c]
  | .reference name => (decodeReference entities name).getD ("&" ++ name ++ ";")

/-- Line ends written as line feeds. -/
def normalizeLineEnds : List CharData → List CharData
  | .char '\r' :: .char '\n' :: data => .char '\n' :: normalizeLineEnds data
  | .char '\r' :: data => .char '\n' :: normalizeLineEnds data
  | d :: data => d :: normalizeLineEnds data
  | [] => []

/-- What a run of character data stands for. -/
def valueOf (data : List CharData) : Str := (normalizeLineEnds data).flatMap (·.value entities)

/-- A start tag, or the tag of an empty element; its attributes as written, white space included. -/
structure Tag where
  name : Str
  attributes : Str
  spaced : attributes.head?.all isSpace = true
  deriving DecidableEq

/-- A tag without attributes. -/
def Tag.plain (name : Str) : Tag := ⟨name, [], rfl⟩

/-- What stands between the tags of elements. -/
inductive Leaf where
  | text (data : List CharData)
  | cdata (s : Str)
  | emptyElement (tag : Tag)
  | comment (s : Str)
  | instruction (s : Str)
  deriving DecidableEq

/-- The text that a leaf contributes to the element around it. -/
def Leaf.value : Leaf → Str
  | .text data => valueOf entities data
  | .cdata s => valueOf entities (s.map .char)
  | .emptyElement _ | .comment _ | .instruction _ => []

section Literal

/-- Whether character data is white space as written. -/
def CharData.isSpace : CharData → Bool
  | .char c => Xml.isSpace c
  | .reference _ => false

/-- Whether a leaf is white space to the element around it. -/
def Leaf.isBlank : Leaf → Bool
  | .text data => data.all CharData.isSpace
  | .cdata s => s.all Xml.isSpace
  | .emptyElement _ | .comment _ | .instruction _ => true

/-- Whether character data stands for what is written, white space around it apart: it has no
reference, and no carriage return between other characters. -/
def isLiteral (data : List CharData) : Bool :=
  data.all (fun | .char _ => true | .reference _ => false) &&
    decide ('\r' ∉ trimSpace (data.flatMap CharData.raw))

theorem flatMap_raw_char (s : Str) : (s.map CharData.char).flatMap CharData.raw = s := by
  rw [List.flatMap_map]
  exact List.flatMap_singleton' s

theorem dropWhile_isSpace_char (s : Str) :
    (s.map CharData.char).dropWhile CharData.isSpace = (s.dropWhile Xml.isSpace).map .char :=
  List.dropWhile_map

theorem exists_chars_of_isLiteral {data : List CharData} (h : isLiteral data = true) :
    ∃ s : Str, data = s.map .char ∧ '\r' ∉ trimSpace s := by
  obtain ⟨hall, hreturn⟩ := Bool.and_eq_true_iff.mp h
  have hchars : ∃ s : Str, data = s.map .char := by
    clear h hreturn
    induction data with
    | nil => exact ⟨[], rfl⟩
    | cons d data ih =>
      obtain ⟨hd, hdata⟩ := Bool.and_eq_true_iff.mp hall
      obtain ⟨s, rfl⟩ := ih hdata
      cases d with
      | char c => exact ⟨c :: s, rfl⟩
      | reference name => exact absurd hd Bool.false_ne_true
  obtain ⟨s, rfl⟩ := hchars
  rw [flatMap_raw_char] at hreturn
  exact ⟨s, rfl, of_decide_eq_true hreturn⟩

theorem rdropWhile_append_of_all {after : Str} (hafter : after.all Xml.isSpace = true) (s : Str) :
    (s ++ after).rdropWhile Xml.isSpace = s.rdropWhile Xml.isSpace := by
  unfold List.rdropWhile
  rw [List.reverse_append, List.dropWhile_append_of_pos fun c hc ↦
    List.all_eq_true.mp hafter c (List.mem_reverse.mp hc)]

/-- Nothing is left of character data that is white space as written, and of no other. -/
theorem trimSpace_raw_eq_nil_iff {data : List CharData} :
    trimSpace (data.flatMap CharData.raw) = [] ↔ data.all CharData.isSpace = true := by
  have htrim (s : Str) : trimSpace s = [] ↔ ∀ c ∈ s, Xml.isSpace c = true := by
    unfold trimSpace
    rw [List.rdropWhile_eq_nil_iff]
    constructor
    · intro h c hc
      rw [← List.takeWhile_append_dropWhile (p := Xml.isSpace) (l := s)] at hc
      rcases List.mem_append.mp hc with hc | hc
      · exact List.mem_takeWhile_imp hc
      · exact h c hc
    · exact fun h c hc ↦ h c ((List.dropWhile_suffix _).subset hc)
  rw [htrim, List.all_eq_true]
  constructor
  · intro h d hd
    cases d with
    | char c => exact h c (List.mem_flatMap.mpr ⟨_, hd, .head _⟩)
    | reference name => exact absurd (h '&' (List.mem_flatMap.mpr ⟨_, hd, .head _⟩)) (by decide)
  · intro h c hc
    obtain ⟨d, hd, hcd⟩ := List.mem_flatMap.mp hc
    have hspace := h d hd
    cases d with
    | char c' => exact List.mem_singleton.mp hcd ▸ hspace
    | reference name => exact absurd hspace Bool.false_ne_true

/-- White space beside a text goes with the white space of the text. -/
theorem trimSpace_between {before after : Str} (hbefore : before.all isSpace = true)
    (hafter : after.all isSpace = true) (s : Str) :
    trimSpace (before ++ (s ++ after)) = trimSpace s := by
  have hfront : (before ++ (s ++ after)).dropWhile isSpace = (s ++ after).dropWhile isSpace :=
    List.dropWhile_append_of_pos (List.all_eq_true.mp hbefore)
  unfold trimSpace
  rw [hfront, List.dropWhile_append]
  split
  next hempty =>
    rw [List.isEmpty_iff.mp hempty, List.dropWhile_eq_nil_iff.mpr (List.all_eq_true.mp hafter)]
  next => exact rdropWhile_append_of_all hafter _

variable {entities : Str → Option Str}

theorem valueOf_char_cons {c : Char} (hc : c ≠ '\r') (data : List CharData) :
    valueOf entities (.char c :: data) = c :: valueOf entities data := by
  unfold valueOf
  rw [normalizeLineEnds]
  · rfl
  · rintro data h -
    exact hc (CharData.char.inj h)
  · exact fun h ↦ hc (CharData.char.inj h)

theorem valueOf_chars_append {s : Str} (h : '\r' ∉ s) (data : List CharData) :
    valueOf entities (s.map .char ++ data) = s ++ valueOf entities data := by
  induction s with
  | nil => rfl
  | cons c s ih =>
    obtain ⟨hc, hs⟩ := not_or.mp (List.mem_cons.not.mp h)
    rw [List.map_cons, List.cons_append, valueOf_char_cons (Ne.symm hc), ih hs, List.cons_append]

/-- Line ends are white space before they are normalized as well as after. -/
theorem dropWhile_valueOf {data : List CharData} (h : ∀ d ∈ data, ∃ c, d = .char c) :
    (valueOf entities data).dropWhile isSpace =
      valueOf entities (data.dropWhile CharData.isSpace) := by
  induction data using normalizeLineEnds.induct with
  | case1 data ih =>
    rw [List.forall_mem_cons, List.forall_mem_cons] at h
    rw [List.dropWhile_cons_of_pos rfl, List.dropWhile_cons_of_pos rfl, ← ih h.2.2]
    rfl
  | case2 data hnext ih =>
    have hvalue : valueOf entities (.char '\r' :: data) = '\n' :: valueOf entities data := by
      unfold valueOf
      rw [normalizeLineEnds]
      · rfl
      · exact hnext
    rw [hvalue, List.dropWhile_cons_of_pos rfl, List.dropWhile_cons_of_pos rfl,
      ih (List.forall_mem_cons.mp h).2]
  | case3 d data hpair hreturn ih =>
    obtain ⟨⟨c, rfl⟩, hdata⟩ := List.forall_mem_cons.mp h
    have hc : c ≠ '\r' := fun hc ↦ hreturn (congrArg CharData.char hc)
    cases hspace : isSpace c with
    | true =>
      have hdata' : (CharData.char c).isSpace = true := hspace
      rw [valueOf_char_cons hc, List.dropWhile_cons_of_pos hspace,
        List.dropWhile_cons_of_pos hdata', ih hdata]
    | false =>
      have hstays : ¬ isSpace c = true := by simp [hspace]
      have hdata' : ¬ (CharData.char c).isSpace = true := hstays
      rw [valueOf_char_cons hc, List.dropWhile_cons_of_neg hstays,
        List.dropWhile_cons_of_neg hdata', valueOf_char_cons hc]
  | case4 => rfl

theorem all_isSpace_valueOf {data : List CharData} (h : data.all CharData.isSpace = true) :
    (valueOf entities data).all isSpace = true := by
  have hchars : ∀ d ∈ data, ∃ c, d = .char c := by
    intro d hd
    have hspace := List.all_eq_true.mp h d hd
    cases d with
    | char c => exact ⟨c, rfl⟩
    | reference name => exact absurd hspace Bool.false_ne_true
  have hdrop := @dropWhile_valueOf entities data hchars
  rw [List.dropWhile_eq_nil_iff.mpr (List.all_eq_true.mp h)] at hdrop
  exact List.all_eq_true.mpr (List.dropWhile_eq_nil_iff.mp hdrop)

/-- A literal text stands for itself. -/
theorem trimSpace_valueOf {data : List CharData} (h : isLiteral data = true) :
    trimSpace (valueOf entities data) = trimSpace (data.flatMap CharData.raw) := by
  obtain ⟨s, rfl, hreturn⟩ := exists_chars_of_isLiteral h
  have hchars : ∀ d ∈ s.map CharData.char, ∃ c, d = .char c := by
    rintro d hd
    obtain ⟨c, -, rfl⟩ := List.mem_map.mp hd
    exact ⟨c, rfl⟩
  have hafter : (((s.dropWhile isSpace).rtakeWhile isSpace).map CharData.char).all
      CharData.isSpace = true := by
    rw [List.all_map]
    exact List.all_eq_true.mpr fun c hc ↦ List.mem_rtakeWhile_imp hc
  have hsplit : s.dropWhile isSpace =
      trimSpace s ++ (s.dropWhile isSpace).rtakeWhile isSpace :=
    List.rdropWhile_append_rtakeWhile.symm
  rw [flatMap_raw_char]
  calc trimSpace (valueOf entities (s.map .char))
      = (valueOf entities ((s.dropWhile isSpace).map .char)).rdropWhile isSpace := by
        unfold trimSpace
        rw [dropWhile_valueOf hchars, dropWhile_isSpace_char]
    _ = (trimSpace s ++ valueOf entities
          (((s.dropWhile isSpace).rtakeWhile isSpace).map .char)).rdropWhile isSpace := by
        rw [hsplit, List.map_append, valueOf_chars_append hreturn, ← hsplit]
    _ = trimSpace s := by
        rw [rdropWhile_append_of_all (all_isSpace_valueOf hafter)]
        exact List.rdropWhile_idempotent _ _

theorem all_isSpace_value {leaves : List Leaf} (h : leaves.all Leaf.isBlank = true) :
    (leaves.flatMap (Leaf.value entities)).all isSpace = true := by
  rw [List.all_flatMap, List.all_eq_true]
  intro l hl
  have hblank := List.all_eq_true.mp h l hl
  cases l with
  | text data => exact all_isSpace_valueOf hblank
  | cdata s =>
    refine all_isSpace_valueOf (List.all_eq_true.mpr fun d hd ↦ ?_)
    obtain ⟨c, hc, rfl⟩ := List.mem_map.mp hd
    exact List.all_eq_true.mp hblank c hc
  | emptyElement tag | comment s | instruction s => rfl

end Literal

/-- The content of an element. -/
abbrev Content : Type := Forest Tag Leaf

/-- The value of content: the character data in it. -/
def Content.value (content : Content) : Str :=
  (Forest.leaves content).flatMap (Leaf.value entities)

end Values

/-- The elements among siblings, each with its content. -/
def Content.children : Content → List (Str × Content)
  | .nil => []
  | .element tag content rest => (tag.name, content) :: Content.children rest
  | .leaf (.emptyElement tag) rest => (tag.name, .nil) :: Content.children rest
  | .leaf _ rest => Content.children rest

/-- What stands outside the root element. -/
inductive Misc where
  | space (s : Str) (hspace : s.all isSpace = true)
  | comment (s : Str)
  | instruction (s : Str)
  | doctype (s : Str)

/-- A document. The XML declaration is the instruction that comes first. -/
structure Document where
  byteOrderMark : Bool
  prolog : List Misc
  root : Tag
  content : Option Content
  epilog : List Misc
  /-- Replacement texts of the entities that the document type declares. -/
  entities : Str → Option Str

/-- A leaf as written. -/
def Leaf.markup : Leaf → Str
  | .text data => data.flatMap CharData.raw
  | .cdata s => "<![CDATA[" ++ s ++ "]]>"
  | .emptyElement tag => '<' :: (tag.name ++ (tag.attributes ++ ['/', '>']))
  | .comment s => "<!--" ++ s ++ "-->"
  | .instruction s => "<?" ++ s ++ "?>"

/-- What is written where the walk through content stops. -/
def markupAt (stop : Stop Tag Leaf) : Str :=
  match stop.visit with
  | .enter tag _ => '<' :: (tag.name ++ (tag.attributes ++ ['>']))
  | .leave tag => '<' :: '/' :: (tag.name ++ ['>'])
  | .leaf l => l.markup

def Misc.markup : Misc → Str
  | .space s _ => s
  | .comment s => "<!--" ++ s ++ "-->"
  | .instruction s => "<?" ++ s ++ "?>"
  | .doctype s => "<!DOCTYPE" ++ s ++ ">"

namespace Document

variable (doc : Document)

/-- The root element as content. -/
def body : Content :=
  match doc.content with
  | none => .leaf (.emptyElement doc.root) .nil
  | some content => .element doc.root content .nil

/-- The document as a text. -/
def text : Str :=
  (if doc.byteOrderMark then [Char.ofNat 0xFEFF] else []) ++ doc.prolog.flatMap Misc.markup ++
    (Forest.stops [] doc.body).flatMap markupAt ++ doc.epilog.flatMap Misc.markup

/-- The elements of a name right below the root. -/
def entries (element : Str) : List Content :=
  ((Content.children (doc.content.getD .nil)).filter (·.1 = element)).map Prod.snd

/-- The root element is written first, but for white space. -/
def Bare : Prop := doc.byteOrderMark = false ∧ ∀ misc ∈ doc.prolog, ∃ s h, misc = .space s h

/-- What follows the name of the root. -/
theorem exists_text_body :
    ∃ rest, (Forest.stops [] doc.body).flatMap markupAt = '<' :: (doc.root.name ++ rest) ∧
      ∃ c after, rest = c :: after ∧ (isSpace c = true ∨ c = '>' ∨ c = '/') := by
  have hattributes : ∀ after : Str, (∃ c tail, after = c :: tail ∧ (c = '>' ∨ c = '/')) →
      ∃ c tail, doc.root.attributes ++ after = c :: tail ∧
        (isSpace c = true ∨ c = '>' ∨ c = '/') := by
    rintro after ⟨c, tail, rfl, hc⟩
    have hspaced := doc.root.spaced
    cases hattr : doc.root.attributes with
    | nil => exact ⟨c, tail, rfl, .inr hc⟩
    | cons d attributes =>
      rw [hattr] at hspaced
      exact ⟨d, _, rfl, .inl (by simpa using hspaced)⟩
  unfold body
  cases doc.content with
  | none => exact ⟨_, List.append_nil _, hattributes _ ⟨'/', ['>'], rfl, .inr rfl⟩⟩
  | some content =>
    rw [Forest.stops_element, List.cons_append, List.flatMap_cons]
    generalize (Forest.stops [doc.root] content ++ _).flatMap markupAt = inner
    refine ⟨doc.root.attributes ++ '>' :: inner, ?_, hattributes _ ⟨'>', inner, rfl, .inl rfl⟩⟩
    simp only [markupAt, List.cons_append, List.append_assoc, List.nil_append]

/-- What is left of a text that begins with what stands before a root: the root's text if that is
white space, and otherwise a markup that is no tag. -/
theorem trimStart_prolog (miscs : List Misc) (after : Str) :
    ((∀ misc ∈ miscs, ∃ s h, misc = Misc.space s h) ∧
        trimStart (miscs.flatMap Misc.markup ++ after) = trimStart after) ∨
      (¬ (∀ misc ∈ miscs, ∃ s h, misc = Misc.space s h) ∧
        ∃ c rest, trimStart (miscs.flatMap Misc.markup ++ after) = '<' :: c :: rest ∧
          (c = '!' ∨ c = '?')) := by
  induction miscs with
  | nil => exact .inl ⟨by simp, rfl⟩
  | cons misc miscs ih =>
    have hmarkup : ∀ c rest, misc.markup = '<' :: c :: rest → (c = '!' ∨ c = '?') →
        (∀ s h, misc ≠ Misc.space s h) →
        ¬ (∀ m ∈ misc :: miscs, ∃ s h, m = Misc.space s h) ∧
          ∃ c rest, trimStart ((misc :: miscs).flatMap Misc.markup ++ after) = '<' :: c :: rest ∧
            (c = '!' ∨ c = '?') := by
      intro c rest hm hc hspace
      refine ⟨fun h ↦ ?_, c, rest ++ (miscs.flatMap Misc.markup ++ after), ?_, hc⟩
      · obtain ⟨s, hs, rfl⟩ := h misc List.mem_cons_self
        exact hspace s hs rfl
      · rw [List.flatMap_cons, hm, List.append_assoc]
        exact List.dropWhile_cons_of_neg (by decide)
    cases misc with
    | space s hspace =>
      have hdrop : trimStart ((Misc.space s hspace :: miscs).flatMap Misc.markup ++ after) =
          trimStart (miscs.flatMap Misc.markup ++ after) := by
        rw [List.flatMap_cons, List.append_assoc]
        exact List.dropWhile_append_of_pos fun c hc ↦
          isWhitespace_of_isSpace (List.all_eq_true.mp hspace c hc)
      rw [hdrop, List.forall_mem_cons]
      rcases ih with ⟨hall, h⟩ | ⟨hnot, h⟩
      · exact .inl ⟨⟨⟨s, hspace, rfl⟩, hall⟩, h⟩
      · exact .inr ⟨fun hall ↦ hnot hall.2, h⟩
    | comment s => exact .inr (hmarkup '!' _ rfl (.inl rfl) (by simp))
    | instruction s => exact .inr (hmarkup '?' _ rfl (.inr rfl) (by simp))
    | doctype s => exact .inr (hmarkup '!' _ rfl (.inl rfl) (by simp))

/-- How the text of a document begins. -/
inductive Opening : Str → Prop
  | mark (after : Str) : doc.byteOrderMark = true → Opening (Char.ofNat 0xFEFF :: after)
  | markup (c : Char) (after : Str) : doc.byteOrderMark = false → ¬ doc.Bare →
      c = '!' ∨ c = '?' → Opening ('<' :: c :: after)
  | root (c : Char) (after : Str) : doc.Bare → isSpace c = true ∨ c = '>' ∨ c = '/' →
      Opening ('<' :: (doc.root.name ++ c :: after))

theorem opening_trimStart_text : doc.Opening (trimStart doc.text) := by
  obtain ⟨rest, hbody, c, after, rfl, hc⟩ := doc.exists_text_body
  unfold text
  rw [hbody]
  cases hmark : doc.byteOrderMark with
  | true => exact .mark _ hmark
  | false =>
    rw [if_neg Bool.false_ne_true, List.nil_append, List.append_assoc]
    rcases trimStart_prolog doc.prolog _ with ⟨hall, h⟩ | ⟨hnot, d, tail, h, hd⟩
    · rw [h, List.cons_append, List.append_assoc, List.cons_append]
      exact .root c _ ⟨hmark, hall⟩ hc
    · rw [h]
      exact .markup d tail hmark (fun hbare ↦ hnot hbare.2) hd

/-- A document begins with a tag or other markup, unless a byte-order mark comes first. -/
theorem startsWith_trimStart_text :
    startsWith "<" (trimStart doc.text) = !doc.byteOrderMark := by
  have hopening := doc.opening_trimStart_text
  revert hopening
  generalize trimStart doc.text = s
  rintro (⟨after, hmark⟩ | ⟨c, after, hmark, -, -⟩ | ⟨c, after, hbare, -⟩)
  · rw [hmark]
    rfl
  · rw [hmark]
    rfl
  · rw [hbare.1]
    rfl

end Document
end CrwShield.Base.Xml
