import CrwShield.Extract.Html

/-!
# The tail cut

Crate `extract`, `src/crates/extract/src/content.rs:1039–1142`. `strip_wikipedia_tail` writes a
fragment again up to the first heading of its tail. An empty output is replaced by the input, but
the element that the parser puts around a fragment is written before any heading.
-/

open CrwShield.Base CrwShield.Base.Str CrwShield.Base.Markup

namespace CrwShield.Extract

/-- `content.rs:1043–1051`. -/
def tailHeadingIdSubstrings : List Str :=
  ["references", "see-also", "external-links", "further-reading", "notes", "bibliography",
    "cite-net"]

/-- `content.rs:1053–1060`. -/
def tailHeadingTextExact : List Str :=
  ["references", "see also", "external links", "further reading", "notes", "bibliography"]

/-- Text of a leaf. -/
def Leaf.text? : Leaf → Option Str
  | .text t => some t
  | _ => none

/-- `ElementRef::text` of an element with these children, in one piece. -/
def textOf (children : Html) : Str := (children.leaves.filterMap Leaf.text?).flatten

/-- The element opens the tail of an article; `content.rs:1124–1142`. -/
def isTailHeading (el : Element) (children : Html) : Bool :=
  el.name ∈ Element.headingNames &&
    ((el.attr "id").any (fun id ↦
        tailHeadingIdSubstrings.any (contains · (replaceChar '_' '-' (toAsciiLowercase id)))) ||
      tailHeadingTextExact.contains (toAsciiLowercase (trim (textOf children))))

section Walk

variable {α : Type} (write : Stop Element Leaf → List α)

/-- Write the nodes below some elements until the flag is set; `content.rs:1089–1122`. -/
def walkWithCut (ancestors : List Element) : Html → List α × Bool → List α × Bool
  | .nil, st => st
  | .element el children rest, (out, cut) =>
    if isTailHeading el children then walkWithCut ancestors rest (out, true)
    else
      let out := if cut then out else out ++ write ⟨ancestors, .enter el children⟩
      let (out, cut) := walkWithCut (el :: ancestors) children (out, cut)
      let out := if cut then out else out ++ write ⟨ancestors, .leave el⟩
      walkWithCut ancestors rest (out, cut)
  | .leaf l rest, (out, cut) =>
    let out := if cut then out else out ++ write ⟨ancestors, .leaf l⟩
    walkWithCut ancestors rest (out, cut)

end Walk

/-- What is written of some nodes; `content.rs:1076–1083`. -/
def cutNodes (nodes : Html) : Str := (walkWithCut markup [] nodes ([], false)).1

/-- `content.rs:1067–1087`. -/
def stripWikipediaTail (P : HtmlParser) (html : Str) : Str :=
  if html.isEmpty then html
  else
    let out := cutNodes (P.parseFragment html)
    if out.isEmpty then html else out

/-- The nodes that are written, one by one. -/
def tailedStops (nodes : Html) : List (Stop Element Leaf) :=
  (walkWithCut (fun s ↦ [s]) [] nodes ([], false)).1

/-- The nodes that the result stands for: all of them where the input is returned. -/
def keptStops (P : HtmlParser) (html : Str) : List (Stop Element Leaf) :=
  if html = [] ∨ cutNodes (P.parseFragment html) = [] then (P.parseFragment html).stops []
  else tailedStops (P.parseFragment html)

/-- The texts among some nodes. -/
def textsOf (stops : List (Stop Element Leaf)) : List Str :=
  stops.filterMap fun s ↦ (Forest.leafAt s).bind Leaf.text?

/-- Some of the text is not white space. -/
def Visible (texts : List Str) : Prop := texts.any (·.any (!isWhitespace ·)) = true

/-- The stop is the way into a tail heading. -/
def IsTailStop (s : Stop Element Leaf) : Bool :=
  match s.visit with
  | .enter el children => isTailHeading el children
  | _ => false

/-- The fragment has a tail heading. -/
def HasTail (nodes : Html) : Prop := (nodes.stops []).any IsTailStop = true

/-- The nodes before the first tail heading. -/
def beforeTail (nodes : Html) : List (Stop Element Leaf) :=
  (nodes.stops []).takeWhile (!IsTailStop ·)

/-- The cut is safe: without a tail all text is kept; with visible text before the tail, exactly the
text before it; else the input is returned; and no fragment loses the last of its visible text. -/
structure TailCutSafe (P : HtmlParser) (html : Str) : Prop where
  whole : ¬ HasTail (P.parseFragment html) →
    textsOf (keptStops P html) = textsOf ((P.parseFragment html).stops [])
  before : HasTail (P.parseFragment html) → Visible (textsOf (beforeTail (P.parseFragment html))) →
    textsOf (keptStops P html) = textsOf (beforeTail (P.parseFragment html))
  returned : HasTail (P.parseFragment html) →
    ¬ Visible (textsOf (beforeTail (P.parseFragment html))) →
      stripWikipediaTail P html = html ∧ keptStops P html = (P.parseFragment html).stops []
  visible : Visible (textsOf ((P.parseFragment html).stops [])) →
    Visible (textsOf (keptStops P html))

section Cut

variable {nodes : Html} {P : HtmlParser} {html : Str}

private theorem takeWhile_append_of_exists {β : Type} {p : β → Bool} {s t : List β}
    (h : ∃ b ∈ s, p b = false) : (s ++ t).takeWhile p = s.takeWhile p := by
  obtain ⟨b, hb, hp⟩ := h
  rw [List.takeWhile_append, if_neg]
  intro hlen
  have hall := List.mem_takeWhile_imp ((List.takeWhile_sublist p).eq_of_length hlen ▸ hb)
  rw [hp] at hall
  exact Bool.false_ne_true hall

/-- Once the flag is set nothing is written. -/
theorem walkWithCut_cut {α : Type} (write : Stop Element Leaf → List α) (ancestors : List Element)
    (nodes : Html) (out : List α) :
    walkWithCut write ancestors nodes (out, true) = (out, true) := by
  induction nodes generalizing ancestors out with
  | nil => rfl
  | element el children rest ihc ihr =>
    rw [walkWithCut]
    split
    · exact ihr _ _
    · dsimp only
      rw [if_pos rfl, ihc]
      exact ihr _ _
  | leaf l rest ih =>
    rw [walkWithCut]
    exact ih _ _

/-- The walk writes the nodes before the first tail heading. -/
theorem walkWithCut_eq {α : Type} (write : Stop Element Leaf → List α) (ancestors : List Element)
    (nodes : Html) (out : List α) :
    walkWithCut write ancestors nodes (out, false) =
      (out ++ ((nodes.stops ancestors).takeWhile (!IsTailStop ·)).flatMap write,
        (nodes.stops ancestors).any IsTailStop) := by
  induction nodes generalizing ancestors out with
  | nil => simp [walkWithCut]
  | element el children rest ihc ihr =>
    have henter : IsTailStop ⟨ancestors, .enter el children⟩ = isTailHeading el children := rfl
    have hleave : IsTailStop ⟨ancestors, .leave el⟩ = false := rfl
    rw [walkWithCut, Forest.stops_element]
    split
    · next h => simp [walkWithCut_cut, henter, h]
    · next h =>
      have hfalse : isTailHeading el children = false := by simpa using h
      dsimp only
      rw [if_neg Bool.false_ne_true, ihc]
      dsimp only
      by_cases hany : (children.stops (el :: ancestors)).any IsTailStop = true
      · -- the cut falls among the children
        have hstop : ∃ s ∈ children.stops (el :: ancestors), (!IsTailStop s) = false := by
          simpa using hany
        rw [if_pos hany, hany, walkWithCut_cut, List.cons_append, List.takeWhile_cons_of_pos,
          takeWhile_append_of_exists hstop]
        · simp [henter, hfalse, hany]
        · simp [henter, hfalse]
      · have hnone : ∀ s ∈ children.stops (el :: ancestors), (!IsTailStop s) = true := by
          simpa [List.any_eq_false] using hany
        have hfalse' : (children.stops (el :: ancestors)).any IsTailStop = false := by
          simpa using hany
        have htake := List.takeWhile_eq_self_iff.mpr hnone
        rw [if_neg hany, hfalse', ihr, htake, List.cons_append, List.takeWhile_cons_of_pos,
          List.takeWhile_append_of_pos hnone, List.takeWhile_cons_of_pos]
        · simp [henter, hleave, hfalse, hfalse', List.append_assoc]
        · simp [hleave]
        · simp [henter, hfalse]
  | leaf l rest ih =>
    have hleaf : IsTailStop ⟨ancestors, .leaf l⟩ = false := rfl
    rw [walkWithCut, Forest.stops_leaf, if_neg Bool.false_ne_true, ih]
    simp [hleaf, List.append_assoc]

theorem tailedStops_eq (nodes : Html) : tailedStops nodes = beforeTail nodes := by
  rw [tailedStops, walkWithCut_eq, List.nil_append, List.flatMap_singleton', beforeTail]

/-- What is written is the text of the nodes before the first tail heading. -/
theorem cutNodes_eq (nodes : Html) : cutNodes nodes = (beforeTail nodes).flatMap markup := by
  rw [cutNodes, walkWithCut_eq, List.nil_append, beforeTail]

/-- The result is the input, or the text of the nodes kept. -/
theorem stripWikipediaTail_eq (P : HtmlParser) (html : Str) :
    stripWikipediaTail P html =
      if html = [] ∨ cutNodes (P.parseFragment html) = [] then html
      else (keptStops P html).flatMap markup := by
  by_cases hnil : html = []
  · rw [if_pos (.inl hnil), stripWikipediaTail, hnil]
    rfl
  · have hempty : html.isEmpty = false := by simpa using hnil
    rw [stripWikipediaTail, hempty, if_neg Bool.false_ne_true]
    by_cases hout : cutNodes (P.parseFragment html) = []
    · have hunchanged : html = [] ∨ cutNodes (P.parseFragment html) = [] := .inr hout
      rw [if_pos hunchanged, hout]
      rfl
    · have hsome : ¬ (html = [] ∨ cutNodes (P.parseFragment html) = []) := by simp only [hnil, hout,
        or_self, not_false_iff]
      rw [if_neg hsome, keptStops, if_neg hsome, tailedStops_eq, ← cutNodes_eq]
      exact if_neg (by simpa using hout)

/-- The element around a fragment is written, so there always is an output. -/
theorem cutNodes_parseFragment_ne_nil (P : HtmlParser) (html : Str) :
    cutNodes (P.parseFragment html) ≠ [] := by
  obtain ⟨attrs, children, hroot⟩ := P.root html
  have hname :
      (!IsTailStop (⟨[], .enter ⟨"html", attrs⟩ children⟩ : Stop Element Leaf)) = true := by
    simp [IsTailStop, isTailHeading, Element.headingNames]
  rw [cutNodes_eq, hroot, beforeTail, Forest.stops_element, List.cons_append,
    List.takeWhile_cons_of_pos (p := (!IsTailStop ·)) hname, List.flatMap_cons]
  exact List.append_ne_nil_of_left_ne_nil (Element.serialiseOpen_ne_nil _) _

/-- Without a tail heading all nodes come before it. -/
theorem beforeTail_of_not_hasTail (h : ¬ HasTail nodes) : beforeTail nodes = nodes.stops [] := by
  rw [beforeTail, List.takeWhile_eq_self_iff]
  simpa [HasTail] using h

/-- A tail heading is left out. -/
theorem beforeTail_ne_stops (h : HasTail nodes) : beforeTail nodes ≠ nodes.stops [] := by
  intro heq
  obtain ⟨s, hs, htail⟩ := List.any_eq_true.mp h
  have hbefore := List.takeWhile_eq_self_iff.mp heq s hs
  simp [htail] at hbefore

private theorem keptStops_of_ne_nil (P : HtmlParser) (h : html ≠ []) :
    keptStops P html = beforeTail (P.parseFragment html) := by
  rw [keptStops, if_neg, tailedStops_eq]
  simp [h, cutNodes_parseFragment_ne_nil]

/-- An empty fragment has no tail heading. -/
theorem not_hasTail_nil (P : HtmlParser) : ¬ HasTail (P.parseFragment []) := by
  rw [P.parseFragment_nil]
  simp [HasTail, IsTailStop, isTailHeading, Element.headingNames]

theorem visible_before_of_tailCutSafe (h : TailCutSafe P html)
    (htail : HasTail (P.parseFragment html)) :
    Visible (textsOf (beforeTail (P.parseFragment html))) := by
  by_contra hnot
  have hne : html ≠ [] := fun hnil ↦ not_hasTail_nil P (hnil ▸ htail)
  have hkept := (h.returned htail hnot).2
  rw [keptStops_of_ne_nil P hne] at hkept
  exact beforeTail_ne_stops htail hkept

/-- The cut is safe exactly when the fragment has no tail heading, or visible text before the
first. -/
theorem tailCutSafe_iff (P : HtmlParser) (html : Str) :
    TailCutSafe P html ↔
      ¬ HasTail (P.parseFragment html) ∨ Visible (textsOf (beforeTail (P.parseFragment html))) := by
  have hkept : textsOf (keptStops P html) = textsOf (beforeTail (P.parseFragment html)) := by
    by_cases hnil : html = []
    · rw [keptStops, if_pos (.inl hnil), hnil, beforeTail_of_not_hasTail (not_hasTail_nil P)]
    · rw [keptStops_of_ne_nil P hnil]
  constructor
  · intro h
    by_cases htail : HasTail (P.parseFragment html)
    · exact .inr (visible_before_of_tailCutSafe h htail)
    · exact .inl htail
  · intro h
    refine ⟨fun hnone ↦ ?_, fun _ _ ↦ hkept, fun htail hnot ↦ ?_, fun hvisible ↦ ?_⟩
    · rw [hkept, beforeTail_of_not_hasTail hnone]
    · exact absurd h (by simp [htail, hnot])
    · rw [hkept]
      rcases h with hnone | hbefore
      · rwa [beforeTail_of_not_hasTail hnone]
      · exact hbefore

end Cut

/-- A fragment that starts with its references. -/
def referencesFirst : Str := "<h2 id=\"References\">References</h2><p>Text</p>"

/-- What a parser makes of that fragment. -/
def referencesNodes : Html :=
  .element ⟨"h2", [("id", "References")]⟩ (.leaf (.text "References") .nil)
    (.element ⟨"p", []⟩ (.leaf (.text "Text") .nil) .nil)

/-- All that is left of the fragment is a start tag. -/
theorem not_tailCutSafe_referencesFirst :
    stripWikipediaTail (.knowing [referencesFirst] referencesNodes) referencesFirst = "<html>" ∧
      ¬ TailCutSafe (.knowing [referencesFirst] referencesNodes) referencesFirst := by
  have hparse := @HtmlParser.parseFragment_knowing referencesFirst [referencesFirst] referencesNodes
    (by decide) (List.mem_singleton_self _)
  have htail : HasTail (.element ⟨"html", []⟩ referencesNodes .nil) := by
    unfold HasTail
    decide
  have hnot : ¬ Visible (textsOf (beforeTail (.element ⟨"html", []⟩ referencesNodes .nil))) := by
    unfold Visible
    decide
  constructor
  · rw [stripWikipediaTail, hparse]
    decide
  · intro h
    have hvisible := visible_before_of_tailCutSafe h (hparse ▸ htail)
    rw [hparse] at hvisible
    exact hnot hvisible

end CrwShield.Extract
