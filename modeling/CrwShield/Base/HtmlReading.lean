import CrwShield.Base.HtmlTokens

/-!
# Reading HTML back

The tokenizer of `HtmlTokens` with what it reports besides tags: the texts of attribute values, and
the characters of text. A page written in pieces, start tags, end tags, texts and declarations, is
read back piece by piece.
-/

namespace CrwShield.Base.HtmlTokens

/-- A tag with the texts of its attribute values, in the order of the names, or a character of text.
No reference has been replaced. -/
inductive Token where
  | tag (t : Tag) (values : List Str)
  | char (c : Char)
  deriving DecidableEq

/-- A tokenizer in the middle of a page: its mode, the values of the attributes so far, and the
characters that are text unless they open a tag. -/
structure Reading where
  mode : Mode
  values : List Str
  held : Str
  deriving DecidableEq

/-- Add a character to the value under way. -/
def extendLast (values : List Str) (c : Char) : List Str :=
  values.dropLast ++ [values.getLast?.getD [] ++ [c]]

/-- The values behind a character; the name of an attribute ends with an empty value. -/
def nextValues : Mode → Char → List Str → List Str
  | .tagOpen, _, _ => []
  | .endTagOpen, _, _ => []
  | .rawEnd _ _, _, _ => []
  | .attrName _ _, c, values =>
    if isBlank c || c = '/' || c = '>' || c = '=' then values ++ [[]] else values
  | .beforeAttrValue _, c, values =>
    if isBlank c || c = '"' || c = '\'' || c = '>' then values else extendLast values c
  | .quoted quote _, c, values => if c = quote then values else extendLast values c
  | .unquoted _, c, values => if isBlank c || c = '>' then values else extendLast values c
  | _, _, values => values

/-- A character outside tags is text unless it may open one. -/
def plainText (c : Char) : Str := if c = '<' then [] else [c]

/-- The characters held back behind one that is read outside tags. -/
def plainHeld (c : Char) : Str := if c = '<' then [c] else []

/-- The end tag of a text that ends only at its own is complete but for its attributes. -/
def endsRaw (name seen : Str) (c : Char) : Bool :=
  seen = name && (isBlank c || c = '/' || c = '>')

/-- The characters that turn out to be text. -/
def nextText : Mode → Char → Str → Str
  | .data, c, _ => plainText c
  | .rawText _, c, _ => plainText c
  | .plaintext, c, _ => [c]
  | .tagOpen, c, held =>
    if c = '!' || c = '/' || c.isAlpha || c = '?' then [] else held ++ plainText c
  | .rawLess _, c, held => if c = '/' then [] else held ++ plainText c
  | .rawEnd name seen, c, held =>
    if c.isAlpha || endsRaw name seen c then [] else held ++ plainText c
  | _, _, _ => []

/-- The characters held back. -/
def nextHeld : Mode → Char → Str → Str
  | .data, c, _ => plainHeld c
  | .rawText _, c, _ => plainHeld c
  | .tagOpen, c, held => if c = '/' then held ++ [c] else plainHeld c
  | .rawLess _, c, held => if c = '/' then held ++ [c] else plainHeld c
  | .rawEnd name seen, c, held =>
    if c.isAlpha then held ++ [c] else if endsRaw name seen c then [] else plainHeld c
  | _, _, _ => []

/-- One character, and what it completes. -/
def read (r : Reading) (c : Char) : Reading × List Token :=
  let values := nextValues r.mode c r.values
  (⟨(step r.mode c).1, values, nextHeld r.mode c r.held⟩,
    (nextText r.mode c r.held).map .char ++ (step r.mode c).2.map (.tag · values))

/-- A text, and what is complete at its end. -/
def readFrom (r : Reading) : Str → Reading × List Token
  | [] => (r, [])
  | c :: s =>
    let first := read r c
    let rest := readFrom first.1 s
    (rest.1, first.2 ++ rest.2)

/-- A page; what is held back at its end is text. -/
def readPage (page : Str) : List Token :=
  let out := readFrom ⟨.data, [], []⟩ page
  out.2 ++ out.1.held.map .char

/-- A text takes a tokenizer from one reading to another, and completes these tokens. -/
def Reads (r : Reading) (s : Str) (r' : Reading) (ts : List Token) : Prop := readFrom r s = (r', ts)

section Compose

variable {r r' r'' : Reading} {s t : Str} {ts us : List Token} {c : Char}

@[simp] theorem Reads.nil : Reads r [] r [] := rfl

theorem Reads.cons (h : read r c = (r', ts)) (hs : Reads r' s r'' us) :
    Reads r (c :: s) r'' (ts ++ us) := by
  unfold Reads at hs ⊢
  rw [readFrom, h]
  show ((readFrom r' s).1, ts ++ (readFrom r' s).2) = _
  rw [hs]

theorem Reads.append (h : Reads r s r' ts) (ht : Reads r' t r'' us) :
    Reads r (s ++ t) r'' (ts ++ us) := by
  induction s generalizing r ts with
  | nil =>
    obtain ⟨rfl, rfl⟩ := Prod.mk.inj h
    exact ht
  | cons c s ih =>
    obtain ⟨hmode, rfl⟩ := Prod.mk.inj h
    have hrest : Reads (read r c).1 s r' (readFrom (read r c).1 s).2 := by
      rw [← hmode]
      rfl
    rw [List.cons_append, List.append_assoc]
    exact .cons rfl (ih hrest)

/-- A text after which nothing is held back is a page on its own. -/
theorem Reads.readPage_eq {m : Mode} {values : List Str}
    (h : Reads ⟨.data, [], []⟩ s ⟨m, values, []⟩ ts) : readPage s = ts := by
  unfold readPage
  rw [h]
  exact List.append_nil ts

end Compose

/-- A character of the name of a tag, read as it is. -/
def isTagChar (c : Char) : Bool := !isBlank c && c ≠ '/' && c ≠ '>' && c.toLower = c

/-- A character of the name of an attribute, read as it is. -/
def isAttrChar (c : Char) : Bool := isTagChar c && c ≠ '='

/-- The name of a tag, read as it is. -/
def isTagName : Str → Bool
  | [] => false
  | c :: name => c.isAlpha && (c :: name).all isTagChar

/-- The name of an attribute, read as it is. -/
def isAttrName (name : Str) : Bool := !name.isEmpty && name.all isAttrChar

/-- An attribute as it is written; an empty value is left out. -/
def writtenAttr (attr : Str × Str) : Str :=
  ' ' :: attr.1 ++ if attr.2.isEmpty then [] else ("=\"" : Str) ++ attr.2 ++ ['"']

/-- A piece of a page. -/
inductive Piece where
  | start (name : Str) (attrs : List (Str × Str)) (slash : Bool)
  | stop (name : Str)
  | text (s : Str)
  | declaration (s : Str)

namespace Piece

/-- The piece as it is written. -/
def render : Piece → Str
  | start name attrs slash =>
    '<' :: name ++ attrs.flatMap writtenAttr ++ if slash then (" />" : Str) else ['>']
  | stop name => ("</" : Str) ++ name ++ ['>']
  | text s => s
  | declaration s => ("<!" : Str) ++ s ++ ['>']

/-- What a tokenizer is to report of the piece. -/
def tokens : Piece → List Token
  | start name attrs _ => [.tag ⟨false, name, attrs.map Prod.fst⟩ (attrs.map Prod.snd)]
  | stop name => [.tag ⟨true, name, []⟩ []]
  | text s => s.map .char
  | declaration _ => []

/-- Names are read as they are, no value has a quote in it, and no text an angle bracket. -/
def isProper : Piece → Bool
  | start name attrs _ =>
    isTagName name && attrs.all fun attr ↦ isAttrName attr.1 && attr.2.all (· ≠ '"')
  | stop name => isTagName name
  | text s => s.all (· ≠ '<')
  | declaration s => s.head?.any (· ≠ '-') && s.all (· ≠ '>')

/-- The mode behind the piece, where it is read as it is meant. -/
def next : Mode → Piece → Option Mode
  | .data, start name _ _ => some (emit ⟨false, name, []⟩).1
  | .data, _ => some .data
  | .rawText name, text _ => some (.rawText name)
  | .rawText name, stop name' => if name' = name ∧ name.all Char.isAlpha then some .data else none
  | _, _ => none

end Piece

section Names

variable {r : Reading} {t : Tag} {values : List Str} {c : Char} {s name : Str}

theorem isTagChar_iff :
    isTagChar c = true ↔ isBlank c = false ∧ c ≠ '/' ∧ c ≠ '>' ∧ c.toLower = c := by
  simp [isTagChar, and_assoc]

theorem isAttrChar_iff :
    isAttrChar c = true ↔ (isBlank c = false ∧ c ≠ '/' ∧ c ≠ '>' ∧ c.toLower = c) ∧ c ≠ '=' := by
  simp [isAttrChar, isTagChar_iff]

/-- The characters of a name after its first. -/
theorem reads_tagName (h : s.all isTagChar = true) :
    Reads ⟨.tagName t, values, []⟩ s ⟨.tagName { t with name := t.name ++ s }, values, []⟩ [] := by
  induction s generalizing t with
  | nil =>
    rw [List.append_nil]
    exact .nil
  | cons c s ih =>
    rw [List.all_cons, Bool.and_eq_true] at h
    obtain ⟨hblank, hslash, hclose, hlower⟩ := isTagChar_iff.mp h.1
    have hread : read ⟨.tagName t, values, []⟩ c =
        (⟨.tagName { t with name := t.name ++ [c] }, values, []⟩, []) := by
      simp [read, step, nextValues, nextHeld, nextText, hblank, hslash, hclose, hlower]
    have hrest := ih (t := { t with name := t.name ++ [c] }) h.2
    rw [List.append_assoc, List.singleton_append] at hrest
    exact .cons hread hrest

/-- A start tag up to its attributes. -/
theorem reads_open (h : isTagName name = true) :
    Reads ⟨.data, values, []⟩ ('<' :: name) ⟨.tagName ⟨false, name, []⟩, [], []⟩ [] := by
  cases name with
  | nil => exact absurd h Bool.false_ne_true
  | cons c name =>
    rw [isTagName, List.all_cons, Bool.and_eq_true, Bool.and_eq_true] at h
    obtain ⟨halpha, hc, hname⟩ := h
    have hbang : c ≠ '!' := fun heq ↦ absurd (heq ▸ halpha) (by decide)
    have hquery : c ≠ '?' := fun heq ↦ absurd (heq ▸ halpha) (by decide)
    obtain ⟨-, hslash, -, hlower⟩ := isTagChar_iff.mp hc
    have hangle : c ≠ '<' := fun heq ↦ absurd (heq ▸ halpha) (by decide)
    have hopen : read ⟨.data, values, []⟩ '<' = (⟨.tagOpen, values, ['<']⟩, []) := rfl
    have hfirst : read ⟨.tagOpen, values, ['<']⟩ c =
        (⟨.tagName ⟨false, [c], []⟩, [], []⟩, []) := by
      simp [read, step, nextValues, nextHeld, nextText, plainHeld, hbang, hslash, halpha, hlower,
        hangle]
    exact .cons hopen (.cons hfirst (reads_tagName hname))

/-- An end tag up to its bracket. -/
theorem reads_close (h : isTagName name = true) :
    Reads ⟨.data, values, []⟩ (("</" : Str) ++ name) ⟨.tagName ⟨true, name, []⟩, [], []⟩ [] := by
  cases name with
  | nil => exact absurd h Bool.false_ne_true
  | cons c name =>
    rw [isTagName, List.all_cons, Bool.and_eq_true, Bool.and_eq_true] at h
    obtain ⟨halpha, hc, hname⟩ := h
    obtain ⟨-, -, -, hlower⟩ := isTagChar_iff.mp hc
    have hopen : read ⟨.data, values, []⟩ '<' = (⟨.tagOpen, values, ['<']⟩, []) := rfl
    have hslash : read ⟨.tagOpen, values, ['<']⟩ '/' =
        (⟨.endTagOpen, [], ['<', '/']⟩, []) := rfl
    have hfirst : read ⟨.endTagOpen, [], ['<', '/']⟩ c =
        (⟨.tagName ⟨true, [c], []⟩, [], []⟩, []) := by
      simp [read, step, nextValues, nextHeld, nextText, halpha, hlower]
    exact .cons hopen (.cons hslash (.cons hfirst (reads_tagName hname)))

end Names

/-- Inside a start tag, where an attribute or the end of the tag may come: the tag so far, and the
values of its attributes. -/
inductive Between : Reading → Tag → List Str → Prop
  | name (t : Tag) (values : List Str) : Between ⟨.tagName t, values, []⟩ t values
  | value (t : Tag) (values : List Str) : Between ⟨.afterQuoted t, values, []⟩ t values
  | bare (t : Tag) (name : Str) (values : List Str) :
      Between ⟨.attrName t name, values, []⟩ { t with attrs := t.attrs ++ [name] } (values ++ [[]])

/-- Behind white space in a start tag. -/
inductive Spaced : Reading → Tag → List Str → Prop
  | before (t : Tag) (values : List Str) : Spaced ⟨.beforeAttrName t, values, []⟩ t values
  | after (t : Tag) (values : List Str) : Spaced ⟨.afterAttrName t, values, []⟩ t values

section Attributes

variable {r : Reading} {t : Tag} {values : List Str} {c : Char} {s : Str}

theorem Between.space (h : Between r t values) :
    ∃ r', read r ' ' = (r', []) ∧ Spaced r' t values := by
  cases h with
  | name => exact ⟨_, rfl, .before t values⟩
  | value => exact ⟨_, rfl, .before t values⟩
  | bare t name values => exact ⟨_, rfl, .after _ _⟩

/-- The bracket completes the tag. -/
theorem Between.bracket (h : Between r t values) :
    read r '>' = (⟨(emit t).1, values, []⟩, [.tag t values]) := by
  cases h <;> rfl

theorem Spaced.slash (h : Spaced r t values) :
    Reads r ("/>" : Str) ⟨(emit t).1, values, []⟩ [.tag t values] := by
  cases h <;> rfl

/-- The first character of the name of an attribute. -/
theorem Spaced.attr (h : Spaced r t values) (hc : isAttrChar c = true) :
    read r c = (⟨.attrName t [c], values, []⟩, []) := by
  obtain ⟨⟨hblank, hslash, hclose, hlower⟩, heq⟩ := isAttrChar_iff.mp hc
  cases h with
  | before =>
    simp [read, step, beforeAttr, nextValues, nextHeld, nextText, hblank, hslash, hclose, hlower]
  | after =>
    simp [read, step, afterAttr, nextValues, nextHeld, nextText, hblank, hslash, hclose, hlower,
      heq]

theorem reads_attrName {name : Str} (h : s.all isAttrChar = true) :
    Reads ⟨.attrName t name, values, []⟩ s ⟨.attrName t (name ++ s), values, []⟩ [] := by
  induction s generalizing name with
  | nil =>
    rw [List.append_nil]
    exact .nil
  | cons c s ih =>
    rw [List.all_cons, Bool.and_eq_true] at h
    obtain ⟨⟨hblank, hslash, hclose, hlower⟩, heq⟩ := isAttrChar_iff.mp h.1
    have hread : read ⟨.attrName t name, values, []⟩ c =
        (⟨.attrName t (name ++ [c]), values, []⟩, []) := by
      simp [read, step, nextValues, nextHeld, nextText, hblank, hslash, hclose, hlower, heq]
    have hrest : Reads ⟨.attrName t (name ++ [c]), values, []⟩ s
        ⟨.attrName t (name ++ [c] ++ s), values, []⟩ [] := ih h.2
    rw [List.append_assoc, List.singleton_append] at hrest
    exact .cons hread hrest

theorem extendLast_concat (values : List Str) (v : Str) (c : Char) :
    extendLast (values ++ [v]) c = values ++ [v ++ [c]] := by
  simp [extendLast]

/-- A value between its quotes. -/
theorem reads_quoted {v : Str} (h : s.all (· ≠ '"') = true) :
    Reads ⟨.quoted '"' t, values ++ [v], []⟩ s ⟨.quoted '"' t, values ++ [v ++ s], []⟩ [] := by
  induction s generalizing v with
  | nil =>
    rw [List.append_nil]
    exact .nil
  | cons c s ih =>
    rw [List.all_cons, Bool.and_eq_true, decide_eq_true_eq] at h
    have hread : read ⟨.quoted '"' t, values ++ [v], []⟩ c =
        (⟨.quoted '"' t, values ++ [v ++ [c]], []⟩, []) := by
      simp [read, step, nextValues, nextHeld, nextText, h.1, extendLast_concat]
    have hrest := ih (v := v ++ [c]) h.2
    rw [List.append_assoc, List.singleton_append] at hrest
    exact .cons hread hrest

/-- A value with its quotes, behind the name of its attribute. -/
theorem reads_value {name : Str} (h : s.all (· ≠ '"') = true) :
    Reads ⟨.attrName t name, values, []⟩ (("=\"" : Str) ++ s ++ ['"'])
      ⟨.afterQuoted { t with attrs := t.attrs ++ [name] }, values ++ [s], []⟩ [] := by
  have hequals : read ⟨.attrName t name, values, []⟩ '=' =
      (⟨.beforeAttrValue { t with attrs := t.attrs ++ [name] }, values ++ [[]], []⟩, []) := rfl
  have hopen : read ⟨.beforeAttrValue { t with attrs := t.attrs ++ [name] }, values ++ [[]], []⟩
      '"' = (⟨.quoted '"' { t with attrs := t.attrs ++ [name] }, values ++ [[]], []⟩, []) := rfl
  have hvalue : Reads ⟨.quoted '"' { t with attrs := t.attrs ++ [name] }, values ++ [[]], []⟩ s
      ⟨.quoted '"' { t with attrs := t.attrs ++ [name] }, values ++ [[] ++ s], []⟩ [] :=
    reads_quoted h
  have hend : read ⟨.quoted '"' { t with attrs := t.attrs ++ [name] }, values ++ [[] ++ s], []⟩
      '"' = (⟨.afterQuoted { t with attrs := t.attrs ++ [name] }, values ++ [s], []⟩, []) := rfl
  exact .cons hequals (.cons hopen (hvalue.append (.cons hend .nil)))

/-- An attribute as it is written. -/
theorem Between.attr {attr : Str × Str} (h : Between r t values) (hname : isAttrName attr.1 = true)
    (hvalue : attr.2.all (· ≠ '"') = true) :
    ∃ r', Reads r (writtenAttr attr) r' [] ∧
      Between r' { t with attrs := t.attrs ++ [attr.1] } (values ++ [attr.2]) := by
  obtain ⟨name, value⟩ := attr
  cases name with
  | nil => exact absurd hname Bool.false_ne_true
  | cons c name =>
    rw [isAttrName, List.all_cons, Bool.and_eq_true, Bool.and_eq_true] at hname
    obtain ⟨-, hc, hrest⟩ := hname
    obtain ⟨r', hspace, hspaced⟩ := h.space
    have hfull : Reads r (' ' :: c :: name) ⟨.attrName t (c :: name), values, []⟩ [] :=
      .cons hspace (.cons (hspaced.attr hc) (reads_attrName hrest))
    by_cases hempty : value = []
    · subst hempty
      refine ⟨_, ?_, .bare t (c :: name) values⟩
      have hwritten : writtenAttr (c :: name, []) = ' ' :: c :: name := by simp [writtenAttr]
      rw [hwritten]
      exact hfull
    · refine ⟨_, ?_, .value _ _⟩
      have hwritten : writtenAttr (c :: name, value) =
          (' ' :: c :: name) ++ (("=\"" : Str) ++ value ++ ['"']) := by
        simp [writtenAttr, hempty]
      rw [hwritten]
      exact hfull.append (reads_value hvalue)

/-- The attributes of a start tag. -/
theorem Between.attrs {attrs : List (Str × Str)} (h : Between r t values)
    (hattrs : attrs.all (fun attr ↦ isAttrName attr.1 && attr.2.all (· ≠ '"')) = true) :
    ∃ r', Reads r (attrs.flatMap writtenAttr) r' [] ∧
      Between r' { t with attrs := t.attrs ++ attrs.map Prod.fst }
        (values ++ attrs.map Prod.snd) := by
  induction attrs generalizing r t values with
  | nil => exact ⟨r, .nil, by simpa using h⟩
  | cons attr attrs ih =>
    rw [List.all_cons, Bool.and_eq_true, Bool.and_eq_true] at hattrs
    obtain ⟨r₁, hfirst, hbetween⟩ := h.attr hattrs.1.1 hattrs.1.2
    obtain ⟨r', hrest, hlast⟩ := ih hbetween hattrs.2
    refine ⟨r', hfirst.append hrest, ?_⟩
    simpa using hlast

end Attributes

section Pieces

variable {m m' : Mode} {values : List Str} {p : Piece} {ps : List Piece}

/-- Behind the start tag of such an element its text begins. -/
theorem emit_raw {name : Str} (h : name ∈ rawElements) :
    (emit ⟨false, name, []⟩).1 = .rawText name := by
  show (if false then Mode.data else if name ∈ rawElements then _ else _) = _
  rw [if_neg Bool.false_ne_true, if_pos h]

theorem emit_data {name : Str} (h : name ∉ rawElements) (hplain : name ≠ "plaintext") :
    (emit ⟨false, name, []⟩).1 = .data := by
  show (if false then Mode.data else if name ∈ rawElements then _ else if name = "plaintext" then _
    else _) = _
  rw [if_neg Bool.false_ne_true, if_neg h, if_neg hplain]

theorem reads_start {name : Str} {attrs : List (Str × Str)} {slash : Bool}
    (h : (Piece.start name attrs slash).isProper = true) :
    ∃ values', Reads ⟨.data, values, []⟩ (Piece.start name attrs slash).render
      ⟨(emit ⟨false, name, []⟩).1, values', []⟩ (Piece.start name attrs slash).tokens := by
  rw [Piece.isProper, Bool.and_eq_true] at h
  obtain ⟨r, hattrs, hbetween⟩ := (Between.name ⟨false, name, []⟩ []).attrs h.2
  have hopen : Reads ⟨.data, values, []⟩ ('<' :: name) ⟨.tagName ⟨false, name, []⟩, [], []⟩ [] :=
    reads_open h.1
  refine ⟨attrs.map Prod.snd, ?_⟩
  have hend : Reads r (if slash then (" />" : Str) else ['>'])
      ⟨(emit ⟨false, name, []⟩).1, attrs.map Prod.snd, []⟩
      (Piece.start name attrs slash).tokens := by
    cases slash with
    | true =>
      obtain ⟨r', hspace, hspaced⟩ := hbetween.space
      exact .cons hspace hspaced.slash
    | false => exact .cons hbetween.bracket .nil
  exact (hopen.append hattrs).append hend

theorem reads_stop {name : Str} (h : isTagName name = true) :
    Reads ⟨.data, values, []⟩ (Piece.stop name).render ⟨.data, [], []⟩
      (Piece.stop name).tokens := by
  have hend : read ⟨.tagName ⟨true, name, []⟩, [], []⟩ '>' =
      (⟨.data, [], []⟩, [.tag ⟨true, name, []⟩ []]) := rfl
  exact (reads_close h).append (.cons hend .nil)

/-- In a text that ends only at its own end tag, the letters of that tag. -/
theorem reads_rawEnd {name seen s held : Str} (hs : s.all Char.isAlpha = true)
    (hlower : ∀ c ∈ s, c.toLower = c) :
    ∃ held', Reads ⟨.rawEnd name seen, [], held⟩ s ⟨.rawEnd name (seen ++ s), [], held'⟩ [] := by
  induction s generalizing seen held with
  | nil => exact ⟨held, by rw [List.append_nil]; exact .nil⟩
  | cons c s ih =>
    rw [List.all_cons, Bool.and_eq_true] at hs
    rw [List.forall_mem_cons] at hlower
    have hread : read ⟨.rawEnd name seen, [], held⟩ c =
        (⟨.rawEnd name (seen ++ [c]), [], held ++ [c]⟩, []) := by
      simp [read, step, nextValues, nextHeld, nextText, hs.1, hlower.1]
    obtain ⟨held', hrest⟩ : ∃ held', Reads ⟨.rawEnd name (seen ++ [c]), [], held ++ [c]⟩ s
        ⟨.rawEnd name (seen ++ [c] ++ s), [], held'⟩ [] := ih hs.2 hlower.2
    rw [List.append_assoc, List.singleton_append] at hrest
    exact ⟨held', .cons hread hrest⟩

theorem reads_rawStop {name : Str} (halpha : name.all Char.isAlpha = true)
    (h : isTagName name = true) :
    Reads ⟨.rawText name, values, []⟩ (Piece.stop name).render ⟨.data, [], []⟩
      (Piece.stop name).tokens := by
  have hlower : ∀ c ∈ name, c.toLower = c := by
    cases name with
    | nil => exact absurd h Bool.false_ne_true
    | cons c name =>
      rw [isTagName, Bool.and_eq_true, List.all_eq_true] at h
      exact fun d hd ↦ (isTagChar_iff.mp (h.2 d hd)).2.2.2
  have hopen : read ⟨.rawText name, values, []⟩ '<' = (⟨.rawLess name, values, ['<']⟩, []) := rfl
  have hslash : read ⟨.rawLess name, values, ['<']⟩ '/' =
      (⟨.rawEnd name [], values, ['<', '/']⟩, []) := rfl
  cases name with
  | nil => exact absurd h Bool.false_ne_true
  | cons c name =>
    rw [List.all_cons, Bool.and_eq_true] at halpha
    rw [List.forall_mem_cons] at hlower
    have hfirst : read ⟨.rawEnd (c :: name) [], values, ['<', '/']⟩ c =
        (⟨.rawEnd (c :: name) [c], [], ['<', '/', c]⟩, []) := by
      simp [read, step, nextValues, nextHeld, nextText, halpha.1, hlower.1]
    obtain ⟨held, hname⟩ : ∃ held, Reads ⟨.rawEnd (c :: name) [c], [], ['<', '/', c]⟩ name
        ⟨.rawEnd (c :: name) ([c] ++ name), [], held⟩ [] := reads_rawEnd halpha.2 hlower.2
    have hend : read ⟨.rawEnd (c :: name) ([c] ++ name), [], held⟩ '>' =
        (⟨.data, [], []⟩, [.tag ⟨true, c :: name, []⟩ []]) := by
      have hletter : '>'.isAlpha = false := rfl
      simp [read, step, nextValues, nextHeld, nextText, hletter, endsRaw, beforeAttr, afterAttr,
        isBlank, emit]
    exact .cons hopen (.cons hslash (.cons hfirst (hname.append (.cons hend .nil))))

/-- A text without angle brackets, outside tags. -/
theorem reads_text {s : Str} (hm : m = .data ∨ ∃ name, m = .rawText name)
    (h : s.all (· ≠ '<') = true) :
    Reads ⟨m, values, []⟩ s ⟨m, values, []⟩ (s.map .char) := by
  induction s with
  | nil => exact .nil
  | cons c s ih =>
    rw [List.all_cons, Bool.and_eq_true, decide_eq_true_eq] at h
    have hread : read ⟨m, values, []⟩ c = (⟨m, values, []⟩, [.char c]) := by
      rcases hm with rfl | ⟨name, rfl⟩
      · simp [read, step, nextValues, nextHeld, nextText, plainHeld, plainText, h.1]
      · simp [read, step, inRaw, nextValues, nextHeld, nextText, plainHeld, plainText, h.1]
    exact .cons hread (ih h.2)

theorem reads_declared {s : Str} (h : s.all (· ≠ '>') = true) :
    Reads ⟨.declaration, values, []⟩ s ⟨.declaration, values, []⟩ [] := by
  induction s with
  | nil => exact .nil
  | cons c s ih =>
    rw [List.all_cons, Bool.and_eq_true, decide_eq_true_eq] at h
    have hread : read ⟨.declaration, values, []⟩ c = (⟨.declaration, values, []⟩, []) := by
      simp [read, step, nextValues, nextHeld, nextText, h.1]
    exact .cons hread (ih h.2)

theorem reads_declaration {s : Str} (h : (Piece.declaration s).isProper = true) :
    Reads ⟨.data, values, []⟩ (Piece.declaration s).render ⟨.data, [], []⟩ [] := by
  rw [Piece.isProper, Bool.and_eq_true] at h
  have hopen : read ⟨.data, values, []⟩ '<' = (⟨.tagOpen, values, ['<']⟩, []) := rfl
  have hbang : read ⟨.tagOpen, values, ['<']⟩ '!' = (⟨.markupOpen, [], []⟩, []) := rfl
  have hend : read ⟨.declaration, [], []⟩ '>' = (⟨.data, [], []⟩, []) := rfl
  cases s with
  | nil => exact absurd h.1 Bool.false_ne_true
  | cons c s =>
    obtain ⟨hdash, hall⟩ := h
    rw [List.all_cons, Bool.and_eq_true, decide_eq_true_eq] at hall
    have hdash' : c ≠ '-' := by simpa using hdash
    have hfirst : read ⟨.markupOpen, [], []⟩ c = (⟨.declaration, [], []⟩, []) := by
      simp [read, step, nextValues, nextHeld, nextText, hdash', hall.1]
    have hrest := (reads_declared hall.2).append (.cons hend .nil)
    exact .cons hopen (.cons hbang (.cons hfirst hrest))

/-- A piece that is read as it is meant. -/
theorem reads_piece (hproper : p.isProper = true) (h : p.next m = some m') :
    ∃ values', Reads ⟨m, values, []⟩ p.render ⟨m', values', []⟩ p.tokens := by
  unfold Piece.next at h
  split at h
  · obtain rfl := Option.some.inj h
    exact reads_start hproper
  · next hstart =>
    obtain rfl := Option.some.inj h
    cases p with
    | start name attrs slash => exact absurd rfl (hstart name attrs slash)
    | stop name => exact ⟨_, reads_stop hproper⟩
    | text s => exact ⟨_, reads_text (.inl rfl) hproper⟩
    | declaration s => exact ⟨_, reads_declaration hproper⟩
  · next name s =>
    obtain rfl := Option.some.inj h
    exact ⟨_, reads_text (.inr ⟨name, rfl⟩) hproper⟩
  · split at h
    · next hname =>
      obtain rfl := Option.some.inj h
      obtain ⟨rfl, halpha⟩ := hname
      exact ⟨_, reads_rawStop halpha hproper⟩
    · exact absurd h (by simp)
  · exact absurd h (by simp)

/-- A page in pieces is read back piece by piece. -/
theorem reads_pieces (hproper : ∀ p ∈ ps, p.isProper = true)
    (h : ps.foldlM Piece.next m = some m') :
    ∃ values', Reads ⟨m, values, []⟩ (ps.flatMap Piece.render) ⟨m', values', []⟩
      (ps.flatMap Piece.tokens) := by
  induction ps generalizing m values with
  | nil =>
    obtain rfl := Option.some.inj h
    exact ⟨values, .nil⟩
  | cons p ps ih =>
    rw [List.foldlM_cons] at h
    obtain ⟨m₁, hp, hps⟩ := Option.bind_eq_some_iff.mp h
    rw [List.forall_mem_cons] at hproper
    obtain ⟨values₁, hfirst⟩ :
        ∃ values₁, Reads ⟨m, values, []⟩ p.render ⟨m₁, values₁, []⟩ p.tokens :=
      reads_piece hproper.1 hp
    obtain ⟨values', hrest⟩ : ∃ values', Reads ⟨m₁, values₁, []⟩ (ps.flatMap Piece.render)
        ⟨m', values', []⟩ (ps.flatMap Piece.tokens) := ih hproper.2 hps
    exact ⟨values', hfirst.append hrest⟩

end Pieces

/-- What a parser puts for the character references in texts and in attribute values: a text without
an ampersand stays, and an escaped value becomes the value. -/
structure References (escape : Str → Str) where
  inText : Str → Str
  inValue : Str → Str
  inText_plain : ∀ s, '&' ∉ s → inText s = s
  inValue_escape : ∀ v, inValue (escape v) = v

namespace References

variable {escape : Str → Str} (R : References escape)

/-- Replace the references in values and in each run of text, given the run under way. -/
def resolveFrom (run : Str) : List Token → List Token
  | [] => (R.inText run).map .char
  | .char c :: ts => resolveFrom (run ++ [c]) ts
  | .tag t values :: ts =>
    (R.inText run).map .char ++ .tag t (values.map R.inValue) :: resolveFrom [] ts

/-- The tokens of a page with its references replaced. -/
def readBack (page : Str) : List Token := R.resolveFrom [] (readPage page)

/-- A token whose values have their references replaced. -/
def resolved : Token → Token
  | .char c => .char c
  | .tag t values => .tag t (values.map R.inValue)

/-- Where no text has a reference, only values change. -/
theorem resolveFrom_plain {run : Str} {ts : List Token} (hrun : '&' ∉ run)
    (hts : Token.char '&' ∉ ts) :
    R.resolveFrom run ts = run.map .char ++ ts.map R.resolved := by
  induction ts generalizing run with
  | nil =>
    rw [resolveFrom, R.inText_plain run hrun]
    exact (List.append_nil _).symm
  | cons token ts ih =>
    obtain ⟨htoken, hrest⟩ := not_or.mp (mt List.mem_cons.mpr hts)
    cases token with
    | char c =>
      have hc : '&' ∉ run ++ [c] := by
        intro hmem
        rcases List.mem_append.mp hmem with hmem | hmem
        · exact hrun hmem
        · exact htoken (congrArg Token.char (List.mem_singleton.mp hmem))
      rw [resolveFrom, ih hc hrest, List.map_append, List.append_assoc]
      rfl
    | tag t values =>
      rw [resolveFrom, R.inText_plain run hrun, ih List.not_mem_nil hrest]
      rfl

end References

/-- A text without an ampersand has no reference. -/
theorem decodeReferences_plain {s : Str} (h : '&' ∉ s) : decodeReferences s = s := by
  unfold decodeReferences
  induction s with
  | nil => rfl
  | cons c s ih =>
    obtain ⟨hc, hs⟩ := not_or.mp (mt List.mem_cons.mpr h)
    rw [decodeFrom, if_neg (Ne.symm hc), ih hs]

end CrwShield.Base.HtmlTokens
