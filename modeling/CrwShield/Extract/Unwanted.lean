import CrwShield.Extract.Html

/-!
# Removal of boilerplate

Crate `extract`, `src/crates/extract/src/content.rs:10–437`. `strip_unwanted` writes the page again
without the elements it does not want. Text is left out below such an element; another element below
it is judged by itself.
-/

open CrwShield.Base CrwShield.Base.Str CrwShield.Base.Markup

namespace CrwShield.Extract

/-- `content.rs:10–14`. -/
def unwantedTags : List Str :=
  ["script", "style", "noscript", "iframe", "svg", "link", "meta", "title", "head", "nav",
    "header", "footer", "aside", "form", "button", "input", "select", "textarea", "object",
    "embed", "applet", "audio", "video", "source", "track", "canvas", "template",
    "slot"].map String.toList

/-- `content.rs:19–102`. -/
def noiseSubstrings : List Str :=
  (["sidebar", "table-of-contents", "infobox", "navbox", "breadcrumb", "cookie", "consent",
    "banner", "disqus", "advert", "popup", "modal", "newsletter", "subscribe", "printfooter",
    "catlinks", "mw-panel", "mw-navigation", "sitesub", "jump-to-nav", "mw-editsection",
    "mw-jump-link", "mw-empty-elt", "mw-cite-backlink", "thumbcaption", "mw-metadata",
    "vertical-navbox", "reflist", "mw-references", "authority-control", "mw-indicators",
    "sistersitebox", "mbox", "ambox", "ombox", "hatnote", "shortdescription", "sphinxsidebar",
    "sphinxfooter", "copyright"] ++
  ["dropdown", "skip-to", "skip-link", "skiplinks", "promo", "promotional", "widget",
    "site-footer", "site-header", "page-footer", "page-header", "global-nav", "global-footer",
    "global-header", "main-nav", "primary-nav", "secondary-nav", "social-share", "social-links",
    "social-icons", "follow-us", "site-map", "sitemap", "references", "bibliography",
    "external-links", "further-reading", "see-also", "navigation", "edit-section", "collapsible",
    "collapsibletable", "metadata", "portal", "sister-project", "articlefooter", "pagefooter",
    "endnote", "citation"]).map String.toList

/-- `content.rs:107–138`. -/
def noiseExactTokens : List Str :=
  ["toc", "share", "social", "related", "recommended", "comments", "comment", "footer", "sidebar",
    "navbox", "infobox", "hatnote", "ambox", "ombox", "mbox", "mbox-small", "catlinks",
    "reference", "references", "reflist", "bibliography", "navigation", "advert", "advertisement",
    "promo", "sponsored", "mw-empty-elt", "mw-jump-link", "thumbcaption",
    "metadata"].map String.toList

/-- `content.rs:143`. -/
def noisePrefixes : List Str := ["ad-", "ads-", "adv-", "sponsor"]

/-- Class names of hidden elements; `content.rs:333–348`. -/
def hiddenMarkers : List Str :=
  ["hidden", "display-none", "d-none", "invisible", "visually-hidden", "sr-only", "offscreen",
    "screen-reader", "collapse", "collapsed", "is-hidden", "js-hidden", "no-display",
    "no-print"].map String.toList

namespace Element

/-- Words of the class and the id, with hyphens for underscores; `content.rs:286–303`. -/
def noiseTokens (el : Element) : List Str :=
  let words (value : Option Str) : List Str :=
    (splitWhitespace (value.getD [])).map fun t ↦ replaceChar '_' '-' (toAsciiLowercase t)
  words (el.attr "class") ++ words (el.attr "id")

/-- A class or id says boilerplate; `content.rs:277–326`. -/
def isNoiseElement (el : Element) : Bool :=
  if el.name ∈ headingNames then false
  else if el.noiseTokens.any fun t ↦
      noiseExactTokens.contains t || noisePrefixes.any (startsWith · t) then true
  else if noiseSubstrings.any (contains · (join " " el.noiseTokens)) then
    if el.name = "main" ∨ el.name = "article" then false
    else if (el.attr "role").any (eqIgnoreAsciiCase · "main") then false
    else true
  else false

/-- The element is not shown; `content.rs:328–394`. -/
def isHidden (el : Element) : Bool :=
  ((el.attr "class").any fun c ↦
    (splitWhitespace (toAsciiLowercase c)).any hiddenMarkers.contains) ||
  (el.attr "aria-hidden").any (eqIgnoreAsciiCase · "true") ||
  ((el.attr "style").any fun style ↦
    let compact := (splitWhitespace (toAsciiLowercase style)).flatten
    contains "display:none" compact || contains "display:none;" compact ||
      contains "visibility:hidden" compact || contains "visibility:hidden;" compact ||
      contains "visibility:collapse" compact) ||
  (el.attr "hidden").isSome ||
  (el.attr "data-state").any fun v ↦ eqIgnoreAsciiCase v "hidden" || eqIgnoreAsciiCase v "collapsed"

/-- An image whose data stands in its URL; `content.rs:403–407`. -/
def isDataUriImg (el : Element) : Bool :=
  el.name = "img" && (el.attr "src").any (startsWith "data:image/")

/-- The element is left out; `content.rs:408–411`. -/
def isTagUnwanted (el : Element) : Bool :=
  unwantedTags.contains el.name || el.isHidden || el.isDataUriImg || el.isNoiseElement

end Element

section Walk

variable {α : Type} (write : Stop Element Leaf → List α)

/-- Write the nodes below some elements, given whether each of these is unwanted;
`content.rs:396–437`. -/
def walkAndSerialise (ancestors : List Element) (ancestorUnwanted : List Bool) :
    Html → List α → List α
  | .nil, out => out
  | .element el children rest, out =>
    let out := if el.isTagUnwanted then out else out ++ write ⟨ancestors, .enter el children⟩
    let out :=
      walkAndSerialise (el :: ancestors) (el.isTagUnwanted :: ancestorUnwanted) children out
    let out := if el.isTagUnwanted then out else out ++ write ⟨ancestors, .leave el⟩
    walkAndSerialise ancestors ancestorUnwanted rest out
  | .leaf l rest, out =>
    let out := if ancestorUnwanted.any id then out else out ++ write ⟨ancestors, .leaf l⟩
    walkAndSerialise ancestors ancestorUnwanted rest out

end Walk

/-- Write some nodes again without their boilerplate; `content.rs:270–274`. -/
def stripNodes (nodes : Html) : Str := walkAndSerialise markup [] [] nodes []

/-- `content.rs:267–275`. -/
def stripUnwanted (P : HtmlParser) (html : Str) : Str := stripNodes (P.parseFragment html)

/-- The nodes that are written, one by one. -/
def strippedStops (nodes : Html) : List (Stop Element Leaf) :=
  walkAndSerialise (fun s ↦ [s]) [] [] nodes []

/-- The test a node passes in the walk: an element its own, a leaf that of every element around. -/
def Passes (s : Stop Element Leaf) : Bool :=
  match s.visit with
  | .enter el _ => !el.isTagUnwanted
  | .leave el => !el.isTagUnwanted
  | .leaf _ => s.ancestors.all (!·.isTagUnwanted)

/-- Neither the node nor an element around it is unwanted. -/
def Wanted (s : Stop Element Leaf) : Prop := ∀ el ∈ s.holders, el.isTagUnwanted = false

instance : DecidablePred Wanted :=
  fun s ↦ inferInstanceAs (Decidable (∀ el ∈ s.holders, el.isTagUnwanted = false))

/-- Removal by subtree: no element and no text of an unwanted subtree is written, every other is, in
document order. -/
structure BySubtree (nodes : Html) : Prop where
  clean : ∀ s ∈ strippedStops nodes, IsNode s → Wanted s
  complete : ((nodes.stops []).filter fun s ↦ IsNode s ∧ Wanted s).Sublist (strippedStops nodes)

/-- No element that is wanted by itself lies in an unwanted one. -/
def NoneNested (nodes : Html) : Prop :=
  ∀ s ∈ nodes.stops [], ∀ el children, s.visit = .enter el children →
    el.isTagUnwanted = false → ∀ a ∈ s.ancestors, a.isTagUnwanted = false

section Removal

variable {α : Type} (write : Stop Element Leaf → List α)

/-- The walk writes the nodes that pass. -/
theorem walkAndSerialise_eq (ancestors : List Element) (nodes : Html) (out : List α) :
    walkAndSerialise write ancestors (ancestors.map Element.isTagUnwanted) nodes out =
      out ++ ((nodes.stops ancestors).filter Passes).flatMap write := by
  induction nodes generalizing ancestors out with
  | nil => simp [walkAndSerialise]
  | element el children rest ihc ihr =>
    have hdown := ihc (el :: ancestors)
    rw [List.map_cons] at hdown
    rw [walkAndSerialise, Forest.stops_element]
    rw [hdown, ihr]
    by_cases h : el.isTagUnwanted = true
    · simp [h, Passes, List.append_assoc]
    · simp [h, Passes, List.append_assoc]
  | leaf l rest ih =>
    have hany : (ancestors.map Element.isTagUnwanted).any id =
        !ancestors.all (!·.isTagUnwanted) := by
      rw [List.any_map, List.not_all_eq_any_not]
      simp
    rw [walkAndSerialise, Forest.stops_leaf]
    rw [ih, hany]
    by_cases h : ancestors.all (!·.isTagUnwanted) = true
    · simp [h, Passes, List.append_assoc]
    · simp [h, Passes]

theorem strippedStops_eq (nodes : Html) : strippedStops nodes = (nodes.stops []).filter Passes := by
  have h := walkAndSerialise_eq (fun s ↦ [s]) [] nodes []
  rw [List.nil_append, List.flatMap_singleton'] at h
  exact h

/-- The output is the text of the nodes written. -/
theorem stripNodes_eq (nodes : Html) : stripNodes nodes = (strippedStops nodes).flatMap markup := by
  rw [strippedStops_eq]
  exact walkAndSerialise_eq markup [] nodes []

end Removal

section Subtrees

variable {nodes : Html} {s : Stop Element Leaf}

/-- What is wanted passes. -/
theorem passes_of_wanted (h : Wanted s) : Passes s = true := by
  unfold Wanted Stop.holders at h
  unfold Passes
  cases hv : s.visit with
  | enter el children =>
    rw [hv] at h
    simp [h el List.mem_cons_self]
  | leave el =>
    rw [hv] at h
    simp [h el List.mem_cons_self]
  | leaf l =>
    rw [hv] at h
    simpa [List.all_eq_true] using h

/-- Every wanted node is written, in document order. -/
theorem wanted_sublist_strippedStops (nodes : Html) :
    ((nodes.stops []).filter fun s ↦ IsNode s ∧ Wanted s).Sublist (strippedStops nodes) := by
  rw [strippedStops_eq]
  refine List.monotone_filter_right _ fun s hs ↦ ?_
  exact passes_of_wanted (of_decide_eq_true hs).2

/-- An element that passes is wanted as soon as the elements around it are. -/
private theorem wanted_of_passes (hnested : NoneNested nodes) (hs : s ∈ nodes.stops [])
    (hpass : Passes s = true) : Wanted s := by
  unfold Passes at hpass
  intro a ha
  unfold Stop.holders at ha
  cases hv : s.visit with
  | enter el children =>
    simp only [hv, Bool.not_eq_true'] at hpass ha
    rcases List.mem_cons.mp ha with rfl | ha
    · exact hpass
    · exact hnested s hs el children hv hpass a ha
  | leave el =>
    simp only [hv, Bool.not_eq_true'] at hpass ha
    rcases List.mem_cons.mp ha with rfl | ha
    · exact hpass
    · have hleave : ⟨s.ancestors, .leave el⟩ ∈ nodes.stops [] := by rwa [← hv]
      obtain ⟨children, henter⟩ := Forest.exists_enter_of_leave hleave
      exact hnested _ henter el children rfl hpass a ha
  | leaf l =>
    simp only [hv] at hpass ha
    simpa using List.all_eq_true.mp hpass a ha

/-- A nested element is written, and lies in an unwanted subtree. -/
theorem exists_written_of_nested (h : ¬ NoneNested nodes) :
    ∃ s ∈ strippedStops nodes, ∃ el children, s.visit = .enter el children ∧ ¬ Wanted s := by
  unfold NoneNested at h
  push Not at h
  obtain ⟨s, hs, el, children, hv, hwanted, a, ha, hun⟩ := h
  refine ⟨s, ?_, el, children, hv, fun hall ↦ hun (hall a (s.ancestors_subset_holders ha))⟩
  rw [strippedStops_eq]
  exact List.mem_filter.mpr ⟨hs, by simp [Passes, hv, hwanted]⟩

/-- Where an element is nested, removal is not by subtree. -/
theorem noneNested_of_bySubtree (h : BySubtree nodes) : NoneNested nodes := by
  by_contra hnested
  obtain ⟨s, hs, el, children, hv, hun⟩ := exists_written_of_nested hnested
  refine hun (h.clean s hs ?_)
  rw [IsNode, hv]
  exact trivial

theorem bySubtree_of_noneNested (h : NoneNested nodes) : BySubtree nodes where
  clean s hs _ := by
    rw [strippedStops_eq] at hs
    exact wanted_of_passes h (List.mem_filter.mp hs).1 (List.mem_filter.mp hs).2
  complete := wanted_sublist_strippedStops nodes

/-- Removal is by subtree, and the output the text of the nodes that are in no unwanted subtree,
exactly when no element that is wanted by itself lies in an unwanted one. -/
theorem removal_bySubtree_iff (nodes : Html) :
    (BySubtree nodes ↔ NoneNested nodes) ∧
    (stripNodes nodes = ((nodes.stops []).filter Wanted).flatMap markup ↔ NoneNested nodes) := by
  have hwanted : (strippedStops nodes).filter Wanted = (nodes.stops []).filter Wanted := by
    rw [strippedStops_eq, List.filter_filter]
    refine List.filter_congr fun s _ ↦ ?_
    by_cases h : Wanted s
    · simp [h, passes_of_wanted h]
    · simp [h]
  rw [stripNodes_eq, ← hwanted]
  refine ⟨⟨noneNested_of_bySubtree, bySubtree_of_noneNested⟩, fun h ↦ ?_, fun h ↦ ?_⟩
  · by_contra hnested
    obtain ⟨s, hs, el, children, hv, hun⟩ := exists_written_of_nested hnested
    have hnil := eq_nil_of_flatMap_filter_eq h.symm hs (decide_eq_false hun)
    rw [markup, hv] at hnil
    exact el.serialiseOpen_ne_nil hnil
  · congr 1
    symm
    refine List.filter_eq_self.mpr fun s hs ↦ decide_eq_true ?_
    rw [strippedStops_eq] at hs
    exact wanted_of_passes h (List.mem_filter.mp hs).1 (List.mem_filter.mp hs).2

/-- An element without class, id and the like is judged by its name. -/
theorem isTagUnwanted_bare {el : Element} (hname : el.name ≠ "img")
    (hattrs : ∀ k ∈ (["class", "id", "aria-hidden", "style", "hidden", "data-state"] : List Str),
      el.attr k = none) (hwanted : unwantedTags.contains el.name = false) :
    el.isTagUnwanted = false := by
  simp only [List.forall_mem_cons] at hattrs
  obtain ⟨hclass, hid, haria, hstyle, hhidden, hstate, -⟩ := hattrs
  have hneedle : noiseSubstrings.all (!·.isEmpty) = true := by
    simp only [noiseSubstrings, List.cons_append, List.nil_append, List.map_cons, List.map_nil]
    repeat rw [String.toList_ofList]
    rfl
  have htokens : el.noiseTokens = [] := by
    rw [Element.noiseTokens, hclass, hid]
    rfl
  have hnoise : el.isNoiseElement = false := by
    have hnone : noiseSubstrings.any (contains · (join " " [])) = false :=
      List.any_eq_false.mpr fun needle h ↦ by
        have hne := List.all_eq_true.mp hneedle needle h
        cases needle with
        | nil => exact absurd hne Bool.false_ne_true
        | cons c cs => exact Bool.false_ne_true
    rw [Element.isNoiseElement, htokens, hnone]
    split <;> rfl
  have hhide : el.isHidden = false := by
    rw [Element.isHidden, hclass, haria, hstyle, hhidden, hstate]
    rfl
  have himg : el.isDataUriImg = false := by
    rw [Element.isDataUriImg, decide_eq_false hname, Bool.false_and]
  rw [Element.isTagUnwanted, hwanted, hhide, himg, hnoise]
  rfl

/-- A link of a navigation bar is written without its text. -/
theorem removal_not_bySubtree_navLink :
    stripNodes navLink = "<html><a href=\"/x\"></a></html>" ∧ ¬ BySubtree navLink := by
  have hnav : (⟨"nav", []⟩ : Element).isTagUnwanted = true := by decide
  have ha : (⟨"a", [("href", "/x")]⟩ : Element).isTagUnwanted = false :=
    isTagUnwanted_bare (by decide) (by decide) (by decide)
  have hhtml : (⟨"html", []⟩ : Element).isTagUnwanted = false :=
    isTagUnwanted_bare (by decide) (by decide) (by decide)
  constructor
  · unfold stripNodes navLink
    simp only [walkAndSerialise, hnav, ha, hhtml]
    decide
  · intro hclean
    have hnested := noneNested_of_bySubtree hclean
    have hin : ⟨[⟨"nav", []⟩, ⟨"html", []⟩],
        .enter ⟨"a", [("href", "/x")]⟩ (.leaf (.text "x") .nil)⟩ ∈ navLink.stops [] := by
      simp [navLink]
    have hwanted := hnested _ hin _ _ rfl ha _ List.mem_cons_self
    rw [hnav] at hwanted
    exact absurd hwanted (by simp)

end Subtrees

end CrwShield.Extract
