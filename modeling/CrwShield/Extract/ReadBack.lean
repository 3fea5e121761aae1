import CrwShield.Base.HtmlReading
import CrwShield.Extract.TagFilter
import CrwShield.Extract.TailCut
import CrwShield.Extract.Unwanted

/-!
# Rewritten pages read back

`strip_unwanted`, `strip_wikipedia_tail` and `filter_tags` of `src/crates/extract/src/content.rs`
write pages that are parsed again. Attribute values are escaped on the way out and texts are not, so
a page is read back as the nodes kept where no text has markup of its own. The reading starts at the
tokenizer: that a parser turns a carriage return into a newline before it is not modelled.
-/

open CrwShield.Base CrwShield.Base.Str CrwShield.Base.Markup CrwShield.Base.HtmlTokens

namespace CrwShield.Extract

namespace Element

/-- An attribute value as it is written; `content.rs:463–471`. -/
def escapeValue (value : Str) : Str := value.flatMap escapedChar

/-- The attributes that are written; `content.rs:444–446`. -/
def writtenAttrs (el : Element) : List (Str × Str) :=
  el.attrs.filter fun attr ↦ !eqIgnoreAsciiCase attr.1 "style"

/-- The elements that are closed at once; `content.rs:455–458`. -/
def isClosedAtOnce (el : Element) : Bool :=
  el.name ∈ (["br", "img", "hr", "meta", "link", "input"] : List Str)

end Element

/-- The piece of a page that is written at a stop. -/
def pieces (s : Stop Element Leaf) : List Piece :=
  match s.visit with
  | .enter el _ =>
    [.start el.name (el.writtenAttrs.map (Prod.map id Element.escapeValue)) el.isClosedAtOnce]
  | .leave el => [.stop el.name]
  | .leaf (.text t) => [.text t]
  | .leaf (.doctype name) => [.declaration (("DOCTYPE " : Str) ++ name)]
  | .leaf _ => []

/-- What a node is for a reader: a tag with the attributes kept, or the characters of a text. -/
def reported (s : Stop Element Leaf) : List Token :=
  match s.visit with
  | .enter el _ =>
    [.tag ⟨false, el.name, el.writtenAttrs.map Prod.fst⟩ (el.writtenAttrs.map Prod.snd)]
  | .leave el => [.tag ⟨true, el.name, []⟩ []]
  | .leaf (.text t) => t.map .char
  | .leaf _ => []

/-- Names are read as they are, and the text of the element ends where it ends. -/
def Element.isReadable (el : Element) : Bool :=
  isTagName el.name && el.writtenAttrs.all (isAttrName ·.1) && el.name ≠ "plaintext"

/-- A text has no markup of its own. -/
def Leaf.isReadable : Leaf → Bool
  | .text t => '<' ∉ t && '&' ∉ t
  | .doctype name => '>' ∉ name
  | _ => true

/-- There is nothing but text. -/
def onlyText : Html → Bool
  | .nil => true
  | .leaf (.text _) rest => onlyText rest
  | _ => false

/-- Every node can be read back: names are as a tokenizer has them, no text has an angle bracket or
an ampersand, and the elements whose text ends only at their own end tag hold nothing else. -/
def isReadable : Html → Bool
  | .nil => true
  | .element el children rest =>
    el.isReadable && (el.name ∉ rawElements || onlyText children) && isReadable children &&
      isReadable rest
  | .leaf l rest => l.isReadable && isReadable rest

section Writing

theorem flatMap_escapedChar_isEmpty (value : Str) :
    (Element.escapeValue value).isEmpty = value.isEmpty := by
  cases value with
  | nil => rfl
  | cons c value =>
    have hc : Element.escapedChar c ≠ [] := by
      unfold Element.escapedChar
      split_ifs <;> exact List.cons_ne_nil _ _
    have hne : Element.escapeValue (c :: value) ≠ [] := by
      rw [Element.escapeValue, List.flatMap_cons]
      exact List.append_ne_nil_of_left_ne_nil hc _
    rw [List.isEmpty_cons, List.isEmpty_eq_false_iff]
    exact hne

/-- What is written at a stop is its piece. -/
theorem markup_eq (s : Stop Element Leaf) : markup s = (pieces s).flatMap Piece.render := by
  unfold markup pieces
  cases s.visit with
  | enter el children =>
    have hattrs : ∀ attrs : List (Str × Str), attrs.flatMap Element.attrText =
        ((attrs.filter fun attr ↦ !eqIgnoreAsciiCase attr.1 "style").map
          (Prod.map id Element.escapeValue)).flatMap writtenAttr := by
      intro attrs
      induction attrs with
      | nil => rfl
      | cons attr attrs ih =>
        rw [List.flatMap_cons, ih, List.filter_cons, Element.attrText]
        cases eqIgnoreAsciiCase attr.1 "style" with
        | true => rfl
        | false =>
          show _ = writtenAttr (attr.1, Element.escapeValue attr.2) ++ _
          rw [writtenAttr, flatMap_escapedChar_isEmpty]
          rfl
    show el.serialiseOpen = Piece.render _ ++ []
    rw [List.append_nil, Element.serialiseOpen, hattrs]
    simp only [Piece.render, Element.writtenAttrs, Element.isClosedAtOnce, decide_eq_true_eq]
  | leave el =>
    show el.serialiseClose = Piece.render _ ++ []
    rw [List.append_nil]
    rfl
  | leaf l =>
    cases l with
    | text t => exact (List.append_nil t).symm
    | doctype name =>
      show _ = Piece.render _ ++ []
      rw [List.append_nil]
      rfl
    | comment t => rfl
    | processingInstruction target data => rfl

/-- The pieces of a list of stops are what is written of them. -/
theorem flatMap_markup_eq (kept : List (Stop Element Leaf)) :
    kept.flatMap markup = (kept.flatMap pieces).flatMap Piece.render := by
  rw [List.flatMap_assoc]
  exact List.flatMap_congr fun s _ ↦ markup_eq s

end Writing

section Proper

variable {nodes : Html} {ancestors : List Element} {s : Stop Element Leaf}

theorem not_mem_quote_escapeValue (value : Str) :
    (Element.escapeValue value).all (· ≠ '"') = true := by
  rw [List.all_eq_true]
  intro c hc
  obtain ⟨d, -, hd⟩ := List.mem_flatMap.mp hc
  unfold Element.escapedChar at hd
  split_ifs at hd with hamp hquot
  · exact List.all_eq_true.mp (show (("&amp;" : Str).all (· ≠ '"')) = true from rfl) c hd
  · exact List.all_eq_true.mp (show (("&quot;" : Str).all (· ≠ '"')) = true from rfl) c hd
  · exact List.all_eq_true.mp (show (("&lt;" : Str).all (· ≠ '"')) = true from rfl) c hd
  · exact List.all_eq_true.mp (show (("&gt;" : Str).all (· ≠ '"')) = true from rfl) c hd
  · rw [List.mem_singleton.mp hd]
    exact decide_eq_true hquot

private theorem proper_start {el : Element} (h : el.isReadable = true) (slash : Bool) :
    (Piece.start el.name (el.writtenAttrs.map (Prod.map id Element.escapeValue))
      slash).isProper = true := by
  rw [Element.isReadable, Bool.and_eq_true, Bool.and_eq_true] at h
  rw [Piece.isProper, Bool.and_eq_true]
  refine ⟨h.1.1, ?_⟩
  rw [List.all_map, List.all_eq_true]
  intro attr hattr
  have hname := List.all_eq_true.mp h.1.2 attr hattr
  show (isAttrName attr.1 && (Element.escapeValue attr.2).all (· ≠ '"')) = true
  rw [hname, not_mem_quote_escapeValue]
  rfl

private theorem proper_leaf {l : Leaf} (h : l.isReadable = true) :
    ∀ p ∈ pieces ⟨ancestors, .leaf l⟩, p.isProper = true := by
  intro p hp
  cases l with
  | text t =>
    obtain rfl := List.mem_singleton.mp hp
    rw [Leaf.isReadable, Bool.and_eq_true, decide_eq_true_eq] at h
    exact List.all_eq_true.mpr fun c hc ↦ decide_eq_true (ne_of_mem_of_not_mem hc h.1)
  | doctype name =>
    obtain rfl := List.mem_singleton.mp hp
    rw [Leaf.isReadable, decide_eq_true_eq] at h
    have hfixed : (("DOCTYPE " : Str).all (· ≠ '>')) = true := rfl
    have hname : name.all (· ≠ '>') = true :=
      List.all_eq_true.mpr fun c hc ↦ decide_eq_true (ne_of_mem_of_not_mem hc h)
    rw [Piece.isProper, List.all_append, hfixed, hname]
    rfl
  | comment t => exact absurd hp List.not_mem_nil
  | processingInstruction target data => exact absurd hp List.not_mem_nil

/-- Readable nodes are written in pieces that are read as they are. -/
theorem proper_pieces (h : isReadable nodes = true) (hs : s ∈ nodes.stops ancestors) :
    ∀ p ∈ pieces s, p.isProper = true := by
  induction nodes generalizing ancestors with
  | nil => exact absurd hs List.not_mem_nil
  | element el children rest ihc ihr =>
    rw [isReadable, Bool.and_eq_true, Bool.and_eq_true, Bool.and_eq_true] at h
    obtain ⟨⟨⟨hel, -⟩, hchildren⟩, hrest⟩ := h
    rw [Forest.stops_element] at hs
    rcases List.mem_append.mp hs with hs | hs
    · rcases List.mem_cons.mp hs with rfl | hs
      · intro p hp
        obtain rfl := List.mem_singleton.mp hp
        exact proper_start hel _
      · exact ihc hchildren hs
    · rcases List.mem_cons.mp hs with rfl | hs
      · intro p hp
        obtain rfl := List.mem_singleton.mp hp
        rw [Element.isReadable, Bool.and_eq_true, Bool.and_eq_true] at hel
        exact hel.1.1
      · exact ihr hrest hs
  | leaf l rest ih =>
    rw [isReadable, Bool.and_eq_true] at h
    rw [Forest.stops_leaf] at hs
    rcases List.mem_cons.mp hs with rfl | hs
    · exact proper_leaf h.1
    · exact ih h.2 hs

end Proper

section Modes

variable {nodes : Html} {keep : Stop Element Leaf → Bool}

/-- The names of these elements are letters. -/
theorem isAlpha_of_mem_rawElements {name : Str} (h : name ∈ rawElements) :
    name.all Char.isAlpha = true := by
  have hall : rawElements.all (·.all Char.isAlpha) = true := by decide
  exact List.all_eq_true.mp hall name h

theorem foldlM_append_of_eq {ps qs : List Piece} {m m' : Mode}
    (h : ps.foldlM Piece.next m = some m') :
    (ps ++ qs).foldlM Piece.next m = qs.foldlM Piece.next m' := by
  rw [List.foldlM_append, h]
  rfl

/-- Text alone stays in its element. -/
theorem foldlM_onlyText (name : Str) (ancestors : List Element) (h : onlyText nodes = true) :
    (((nodes.stops ancestors).filter keep).flatMap pieces).foldlM Piece.next (.rawText name) =
      some (.rawText name) := by
  induction nodes with
  | nil => rfl
  | element el children rest => exact absurd h Bool.false_ne_true
  | leaf l rest ih =>
    cases l with
    | text t =>
      rw [Forest.stops_leaf]
      by_cases hkeep : keep ⟨ancestors, .leaf (.text t)⟩ = true
      · rw [List.filter_cons_of_pos hkeep]
        exact ih h
      · rw [List.filter_cons_of_neg hkeep]
        exact ih h
    | comment t => exact absurd h Bool.false_ne_true
    | doctype name => exact absurd h Bool.false_ne_true
    | processingInstruction target data => exact absurd h Bool.false_ne_true

/-- Where the end tag of an element is kept with its start tag, readable nodes leave a tokenizer
where it was. -/
theorem foldlM_pieces (hkeep : ∀ ancestors el children,
      keep ⟨ancestors, .enter el children⟩ = keep ⟨ancestors, .leave el⟩)
    (ancestors : List Element) (h : isReadable nodes = true) :
    (((nodes.stops ancestors).filter keep).flatMap pieces).foldlM Piece.next .data =
      some .data := by
  induction nodes generalizing ancestors with
  | nil => rfl
  | element el children rest ihc ihr =>
    rw [isReadable, Bool.and_eq_true, Bool.and_eq_true, Bool.and_eq_true] at h
    obtain ⟨⟨⟨hel, hraw⟩, hchildren⟩, hrest⟩ := h
    rw [Element.isReadable, Bool.and_eq_true, decide_eq_true_eq] at hel
    rw [Forest.stops_element, List.filter_append, List.flatMap_append]
    by_cases hk : keep ⟨ancestors, .enter el children⟩ = true
    · rw [List.filter_cons_of_pos hk, List.filter_cons_of_pos (hkeep _ _ _ ▸ hk),
        List.flatMap_cons, List.flatMap_cons]
      by_cases hmem : el.name ∈ rawElements
      · -- between the tags there is nothing but text
        have honly : onlyText children = true := by simpa [hmem] using hraw
        have hopen : (pieces ⟨ancestors, .enter el children⟩).foldlM Piece.next .data =
            some (.rawText el.name) := by
          show some (emit ⟨false, el.name, []⟩).1 = _
          rw [emit_raw hmem]
        have hclose : (pieces ⟨ancestors, .leave el⟩).foldlM Piece.next (.rawText el.name) =
            some .data := by
          show (if el.name = el.name ∧ el.name.all Char.isAlpha then some Mode.data else none).bind
            some = _
          rw [if_pos ⟨rfl, isAlpha_of_mem_rawElements hmem⟩]
          rfl
        rw [List.append_assoc, foldlM_append_of_eq hopen,
          foldlM_append_of_eq (foldlM_onlyText el.name (el :: ancestors) honly),
          foldlM_append_of_eq hclose]
        exact ihr ancestors hrest
      · have hopen : (pieces ⟨ancestors, .enter el children⟩).foldlM Piece.next .data =
            some .data := by
          show some (emit ⟨false, el.name, []⟩).1 = _
          rw [emit_data hmem hel.2]
        have hclose : (pieces ⟨ancestors, .leave el⟩).foldlM Piece.next .data = some .data := rfl
        rw [List.append_assoc, foldlM_append_of_eq hopen,
          foldlM_append_of_eq (ihc (el :: ancestors) hchildren), foldlM_append_of_eq hclose]
        exact ihr ancestors hrest
    · rw [List.filter_cons_of_neg hk, List.filter_cons_of_neg (hkeep _ _ _ ▸ hk),
        foldlM_append_of_eq (ihc (el :: ancestors) hchildren)]
      exact ihr ancestors hrest
  | leaf l rest ih =>
    rw [isReadable, Bool.and_eq_true] at h
    have hleaf : (pieces ⟨ancestors, .leaf l⟩).foldlM Piece.next .data = some .data := by
      cases l <;> rfl
    rw [Forest.stops_leaf]
    by_cases hk : keep ⟨ancestors, .leaf l⟩ = true
    · rw [List.filter_cons_of_pos hk, List.flatMap_cons, foldlM_append_of_eq hleaf]
      exact ih ancestors h.2
    · rw [List.filter_cons_of_neg hk]
      exact ih ancestors h.2

end Modes

section ReadBack

variable (R : References Element.escapeValue) {nodes : Html} {s : Stop Element Leaf}
  {ancestors : List Element}

/-- A node is reported as it is once the references in its values are replaced. -/
theorem resolved_pieces (s : Stop Element Leaf) :
    ((pieces s).flatMap Piece.tokens).map R.resolved = reported s := by
  unfold pieces reported
  cases s.visit with
  | enter el children =>
    have hvalues : ∀ attrs : List (Str × Str),
        ((attrs.map (Prod.map id Element.escapeValue)).map Prod.snd).map R.inValue =
          attrs.map Prod.snd := by
      intro attrs
      rw [List.map_map, List.map_map]
      exact List.map_congr_left fun attr _ ↦ R.inValue_escape attr.2
    have hnames : ∀ attrs : List (Str × Str),
        (attrs.map (Prod.map id Element.escapeValue)).map Prod.fst = attrs.map Prod.fst := by
      intro attrs
      rw [List.map_map]
      rfl
    show [R.resolved (.tag ⟨false, el.name, _⟩ _)] = _
    rw [References.resolved, hvalues, hnames]
  | leave el => rfl
  | leaf l =>
    cases l with
    | text t =>
      show ((t.map Token.char ++ []).map R.resolved) = t.map .char
      rw [List.append_nil, List.map_map]
      rfl
    | doctype name => rfl
    | comment t => rfl
    | processingInstruction target data => rfl

/-- No character of a readable text is an ampersand. -/
theorem ampersand_not_mem_tokens (h : isReadable nodes = true) (hs : s ∈ nodes.stops ancestors) :
    Token.char '&' ∉ (pieces s).flatMap Piece.tokens := by
  induction nodes generalizing ancestors with
  | nil => exact absurd hs List.not_mem_nil
  | element el children rest ihc ihr =>
    rw [isReadable, Bool.and_eq_true, Bool.and_eq_true] at h
    rw [Forest.stops_element] at hs
    rcases List.mem_append.mp hs with hs | hs
    · rcases List.mem_cons.mp hs with rfl | hs
      · simp [pieces, Piece.tokens]
      · exact ihc h.1.2 hs
    · rcases List.mem_cons.mp hs with rfl | hs
      · simp [pieces, Piece.tokens]
      · exact ihr h.2 hs
  | leaf l rest ih =>
    rw [isReadable, Bool.and_eq_true] at h
    rw [Forest.stops_leaf] at hs
    rcases List.mem_cons.mp hs with rfl | hs
    · cases l with
      | text t =>
        rw [Leaf.isReadable, Bool.and_eq_true, decide_eq_true_eq, decide_eq_true_eq] at h
        simpa [pieces, Piece.tokens] using h.1.2
      | doctype name => simp [pieces, Piece.tokens]
      | comment t => exact List.not_mem_nil
      | processingInstruction target data => exact List.not_mem_nil
    · exact ih h.2 hs

/-- What is written of some stops of readable nodes is read back as these stops, if it leaves a
tokenizer in some mode. -/
theorem readBack_markup {kept : List (Stop Element Leaf)} {m : Mode} (h : isReadable nodes = true)
    (hkept : kept ⊆ nodes.stops ancestors)
    (hmode : (kept.flatMap pieces).foldlM Piece.next .data = some m) :
    R.readBack (kept.flatMap markup) = kept.flatMap reported := by
  have hproper : ∀ p ∈ kept.flatMap pieces, p.isProper = true := by
    intro p hp
    obtain ⟨s, hs, hps⟩ := List.mem_flatMap.mp hp
    exact proper_pieces h (hkept hs) p hps
  obtain ⟨values, hreads⟩ : ∃ values,
      Reads ⟨.data, [], []⟩ ((kept.flatMap pieces).flatMap Piece.render) ⟨m, values, []⟩
        ((kept.flatMap pieces).flatMap Piece.tokens) := reads_pieces hproper hmode
  have hplain : Token.char '&' ∉ (kept.flatMap pieces).flatMap Piece.tokens := by
    rw [List.flatMap_assoc]
    intro hmem
    obtain ⟨s, hs, htoken⟩ := List.mem_flatMap.mp hmem
    exact ampersand_not_mem_tokens h (hkept hs) htoken
  rw [References.readBack, flatMap_markup_eq, hreads.readPage_eq,
    R.resolveFrom_plain List.not_mem_nil hplain, List.map_nil, List.nil_append,
    List.flatMap_assoc, List.map_flatMap]
  exact List.flatMap_congr fun s _ ↦ resolved_pieces R s

/-- A choice of stops that keeps end tags with their start tags is read back. -/
theorem readBack_filter {keep : Stop Element Leaf → Bool} (h : isReadable nodes = true)
    (hkeep : ∀ ancestors el children,
      keep ⟨ancestors, .enter el children⟩ = keep ⟨ancestors, .leave el⟩) :
    R.readBack (((nodes.stops []).filter keep).flatMap markup) =
      ((nodes.stops []).filter keep).flatMap reported :=
  readBack_markup R h (fun _ hs ↦ List.mem_of_mem_filter hs) (foldlM_pieces hkeep [] h)

/-- Nodes up to some stop are read back. -/
theorem readBack_prefix {kept : List (Stop Element Leaf)} (h : isReadable nodes = true)
    (hkept : kept <+: nodes.stops []) :
    R.readBack (kept.flatMap markup) = kept.flatMap reported := by
  obtain ⟨rest, hrest⟩ := hkept
  have hall : (((nodes.stops []).filter fun _ ↦ true).flatMap pieces).foldlM Piece.next .data =
      some .data := foldlM_pieces (fun _ _ _ ↦ rfl) [] h
  rw [List.filter_true, ← hrest, List.flatMap_append, List.foldlM_append] at hall
  obtain ⟨m, hm, -⟩ := Option.bind_eq_some_iff.mp hall
  exact readBack_markup R h (hrest ▸ List.subset_append_left kept rest) hm

/-- Where the nodes of a page are readable, the page without its boilerplate, the page up to its
tail and the page with some tags only are each read back as the nodes that are kept. -/
theorem rewrites_readBack (P : HtmlParser) (html : Str)
    (h : isReadable (P.parseFragment html) = true) :
    R.readBack (stripUnwanted P html) =
      (strippedStops (P.parseFragment html)).flatMap reported ∧
    (html ≠ [] → R.readBack (stripWikipediaTail P html) =
      (beforeTail (P.parseFragment html)).flatMap reported) ∧
    ∀ includeTags excludeTags, ¬ (includeTags = [] ∧ excludeTags = []) →
      R.readBack (filterTags P html includeTags excludeTags) =
        (filteredStops (P.parseFragment html) includeTags excludeTags).flatMap reported := by
  refine ⟨?_, fun hne ↦ ?_, fun includeTags excludeTags hsome ↦ ?_⟩
  · rw [stripUnwanted, stripNodes_eq, strippedStops_eq]
    exact readBack_filter R h fun _ _ _ ↦ rfl
  · have hwritten : ¬ (html = [] ∨ cutNodes (P.parseFragment html) = []) :=
      not_or.mpr ⟨hne, cutNodes_parseFragment_ne_nil P html⟩
    rw [stripWikipediaTail_eq, if_neg hwritten, keptStops, if_neg hwritten, tailedStops_eq]
    exact readBack_prefix R h (List.takeWhile_prefix _)
  · rw [filterTags_eq P html hsome, filteredStops_eq]
    exact readBack_filter R h fun _ _ _ ↦ rfl

end ReadBack

section Example

theorem decodeReferences_escapeValue (value : Str) :
    decodeReferences (Element.escapeValue value) = value := by
  have hchar (c : Char) (s : Str) :
      decodeFrom 0 (Element.escapedChar c ++ s) = c :: decodeFrom 0 s := by
    unfold Element.escapedChar
    split_ifs with hamp hquot hlt hgt
    · rw [hamp]
      rfl
    · rw [hquot]
      rfl
    · rw [hlt]
      rfl
    · rw [hgt]
      rfl
    · rw [List.singleton_append, decodeFrom, if_neg hamp]
  unfold decodeReferences
  induction value with
  | nil => rfl
  | cons c value ih =>
    rw [Element.escapeValue, List.flatMap_cons, ← Element.escapeValue, hchar, ih]

/-- The references that the escape writes, and no others. -/
def basicReferences : References Element.escapeValue where
  inText := decodeReferences
  inValue := decodeReferences
  inText_plain _ := decodeReferences_plain
  inValue_escape := decodeReferences_escapeValue

/-- A text with markup of its own is read as that markup. -/
example : basicReferences.readBack (markup ⟨[], .leaf (.text "<b>")⟩) =
    reported ⟨[], .enter ⟨"b", []⟩ .nil⟩ := by decide

/-- A link with a title in quotes, next to a script and a line break. -/
def quotedLink : Html :=
  .element ⟨"p", []⟩
    (.element ⟨"a", [("href", "/x?a=1&b=2"), ("title", "\"1\" < 2"), ("style", "color:red")]⟩
      (.leaf (.text "one > zero") .nil)
      (.element ⟨"script", []⟩ (.leaf (.text "run()") .nil) (.element ⟨"br", []⟩ .nil .nil))) .nil

theorem rewrites_readBack_quotedLink :
    basicReferences.readBack (stripUnwanted (.knowing ["<p>"] quotedLink) "<p>") =
      (strippedStops (.element ⟨"html", []⟩ quotedLink .nil)).flatMap reported ∧
    basicReferences.readBack (filterTags (.knowing ["<p>"] quotedLink) "<p>" ["a"] []) =
      (filteredStops (.element ⟨"html", []⟩ quotedLink .nil) ["a"] []).flatMap reported := by
  have hparse : (HtmlParser.knowing ["<p>"] quotedLink).parseFragment "<p>" =
      .element ⟨"html", []⟩ quotedLink .nil :=
    HtmlParser.parseFragment_knowing quotedLink (by decide) (by decide)
  have hreadable : isReadable (.element ⟨"html", []⟩ quotedLink .nil) = true := by decide
  obtain ⟨hstrip, -, hfilter⟩ := rewrites_readBack basicReferences
    (.knowing ["<p>"] quotedLink) "<p>" (by rw [hparse]; exact hreadable)
  rw [hparse] at hstrip hfilter
  exact ⟨hstrip, hfilter ["a"] [] (by decide)⟩

end Example
end CrwShield.Extract
