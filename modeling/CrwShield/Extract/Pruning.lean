import CrwShield.Extract.Unwanted

/-!
# Boilerplate removal as a projection of trees

`strip_unwanted`, `src/crates/extract/src/content.rs:267–275,396–437`, runs on a page and again on a
part of its own output, `content.rs:560–634`. What it writes is the text of a pruned tree, and
pruning a tree again changes nothing.
-/

open CrwShield.Base CrwShield.Base.Str CrwShield.Base.Markup

namespace CrwShield.Extract

/-- The element as it is written, without inline styles; `content.rs:444–446`. -/
def Element.withoutStyle (el : Element) : Element :=
  { el with attrs := el.attrs.filter fun attr ↦ !eqIgnoreAsciiCase attr.1 "style" }

/-- Nodes without comments and processing instructions, and without a style or an unwanted
element. -/
def isPruned : Html → Bool
  | .nil => true
  | .element el children rest =>
    !el.isTagUnwanted && el.withoutStyle = el && isPruned children && isPruned rest
  | .leaf (.text _) rest => isPruned rest
  | .leaf (.doctype _) rest => isPruned rest
  | .leaf _ _ => false

/-- The pruned nodes, followed by others: an unwanted element leaves what is wanted by itself below
it, without its text. -/
def pruneBefore (keepsText : Bool) : Html → Html → Html
  | .nil, after => after
  | .element el children rest, after =>
    let after := pruneBefore keepsText rest after
    if el.isTagUnwanted then pruneBefore false children after
    else .element el.withoutStyle (pruneBefore keepsText children .nil) after
  | .leaf (.text t) rest, after =>
    let after := pruneBefore keepsText rest after
    if keepsText then .leaf (.text t) after else after
  | .leaf (.doctype name) rest, after =>
    let after := pruneBefore keepsText rest after
    if keepsText then .leaf (.doctype name) after else after
  | .leaf (.comment _) rest, after => pruneBefore keepsText rest after
  | .leaf (.processingInstruction _ _) rest, after => pruneBefore keepsText rest after

/-- The pruned tree. -/
def pruned (nodes : Html) : Html := pruneBefore true nodes .nil

/-- The text of some nodes. -/
def serialise (nodes : Html) : Str := (nodes.stops []).flatMap markup

section Styles

variable {el : Element} {name : Str}

private theorem lookup_filter_of_key {keep : Str × Str → Bool} {key : Str}
    (h : ∀ value, keep (key, value) = true) (attrs : List (Str × Str)) :
    (attrs.filter keep).lookup key = attrs.lookup key := by
  induction attrs with
  | nil => rfl
  | cons attr attrs ih =>
    obtain ⟨key', value⟩ := attr
    by_cases heq : key = key'
    · subst heq
      rw [List.filter_cons_of_pos (h value), List.lookup_cons_self, List.lookup_cons_self]
    · have hne : (key == key') = false := beq_false_of_ne heq
      rw [List.lookup_cons, hne]
      by_cases hkeep : keep (key', value) = true
      · rw [List.filter_cons_of_pos hkeep, List.lookup_cons, hne]
        exact ih
      · rw [List.filter_cons_of_neg hkeep]
        exact ih

/-- No other attribute is lost. -/
theorem attr_withoutStyle (h : eqIgnoreAsciiCase name "style" = false) :
    el.withoutStyle.attr name = el.attr name :=
  lookup_filter_of_key (fun _ ↦ by rw [h]; rfl) el.attrs

theorem attr_style_withoutStyle (el : Element) : el.withoutStyle.attr "style" = none := by
  have hkeys : ∀ attr ∈ el.withoutStyle.attrs, attr.1 ≠ "style" := by
    intro attr hattr heq
    have hkept := (List.mem_filter.mp hattr).2
    rw [heq] at hkept
    exact absurd hkept (by decide)
  rw [Element.attr, List.lookup_eq_none_iff]
  intro attr hattr
  exact bne_iff_ne.mpr (Ne.symm (hkeys attr hattr))

@[simp] theorem withoutStyle_withoutStyle (el : Element) :
    el.withoutStyle.withoutStyle = el.withoutStyle := by
  simp [Element.withoutStyle, List.filter_filter]

theorem isHidden_withoutStyle (h : el.isHidden = false) : el.withoutStyle.isHidden = false := by
  have hclass : el.withoutStyle.attr "class" = el.attr "class" := attr_withoutStyle (by decide)
  have haria : el.withoutStyle.attr "aria-hidden" = el.attr "aria-hidden" :=
    attr_withoutStyle (by decide)
  have hhidden : el.withoutStyle.attr "hidden" = el.attr "hidden" := attr_withoutStyle (by decide)
  have hstate : el.withoutStyle.attr "data-state" = el.attr "data-state" :=
    attr_withoutStyle (by decide)
  unfold Element.isHidden at h ⊢
  rw [Bool.or_eq_false_iff, Bool.or_eq_false_iff, Bool.or_eq_false_iff, Bool.or_eq_false_iff] at h
  obtain ⟨⟨⟨⟨hc, ha⟩, -⟩, hh⟩, hs⟩ := h
  rw [hclass, haria, attr_style_withoutStyle, hhidden, hstate, hc, ha, hh, hs]
  rfl

theorem isNoiseElement_withoutStyle (el : Element) :
    el.withoutStyle.isNoiseElement = el.isNoiseElement := by
  have hclass : el.withoutStyle.attr "class" = el.attr "class" := attr_withoutStyle (by decide)
  have hid : el.withoutStyle.attr "id" = el.attr "id" := attr_withoutStyle (by decide)
  have hrole : el.withoutStyle.attr "role" = el.attr "role" := attr_withoutStyle (by decide)
  have htokens : el.withoutStyle.noiseTokens = el.noiseTokens := by
    rw [Element.noiseTokens, Element.noiseTokens, hclass, hid]
  rw [Element.isNoiseElement, Element.isNoiseElement, htokens, hrole]
  rfl

theorem isDataUriImg_withoutStyle (el : Element) :
    el.withoutStyle.isDataUriImg = el.isDataUriImg := by
  have hsrc : el.withoutStyle.attr "src" = el.attr "src" := attr_withoutStyle (by decide)
  rw [Element.isDataUriImg, Element.isDataUriImg, hsrc]
  rfl

/-- A wanted element is still wanted without its style. -/
theorem isTagUnwanted_withoutStyle (h : el.isTagUnwanted = false) :
    el.withoutStyle.isTagUnwanted = false := by
  unfold Element.isTagUnwanted at h ⊢
  rw [Bool.or_eq_false_iff, Bool.or_eq_false_iff, Bool.or_eq_false_iff] at h
  obtain ⟨⟨⟨hname, hhidden⟩, himg⟩, hnoise⟩ := h
  rw [isHidden_withoutStyle hhidden, isDataUriImg_withoutStyle, isNoiseElement_withoutStyle, himg,
    hnoise]
  show (unwantedTags.contains el.name || false || false || false) = false
  rw [hname]
  rfl

theorem serialiseOpen_withoutStyle (el : Element) :
    el.withoutStyle.serialiseOpen = el.serialiseOpen := by
  have hattrs : ∀ attrs : List (Str × Str),
      (attrs.filter fun attr ↦ !eqIgnoreAsciiCase attr.1 "style").flatMap Element.attrText =
        attrs.flatMap Element.attrText := by
    intro attrs
    induction attrs with
    | nil => rfl
    | cons attr attrs ih =>
      rw [List.filter_cons, List.flatMap_cons, ← ih]
      cases hstyle : eqIgnoreAsciiCase attr.1 "style" with
      | true =>
        rw [Element.attrText, hstyle]
        rfl
      | false => rfl
  unfold Element.serialiseOpen
  rw [show el.withoutStyle.attrs.flatMap Element.attrText = el.attrs.flatMap Element.attrText from
    hattrs el.attrs]
  rfl

end Styles

section Pruning

variable {nodes : Html}

/-- What is written of nodes does not depend on the elements around them. -/
theorem flatMap_markup_stops (ancestors : List Element) (nodes : Html) :
    (nodes.stops ancestors).flatMap markup = serialise nodes := by
  unfold serialise
  induction nodes generalizing ancestors with
  | nil => rfl
  | element el children rest ihc ihr =>
    rw [Forest.stops_element, Forest.stops_element, List.flatMap_append, List.flatMap_append,
      List.flatMap_cons, List.flatMap_cons, List.flatMap_cons, List.flatMap_cons,
      ihc (el :: ancestors), ihc [el], ihr ancestors]
    rfl
  | leaf l rest ih =>
    rw [Forest.stops_leaf, Forest.stops_leaf, List.flatMap_cons, List.flatMap_cons, ih ancestors]
    rfl

theorem serialise_element (el : Element) (children rest : Html) :
    serialise (.element el children rest) =
      el.serialiseOpen ++ serialise children ++ (el.serialiseClose ++ serialise rest) := by
  show (Forest.stops [] (.element el children rest)).flatMap markup = _
  rw [Forest.stops_element, List.flatMap_append, List.flatMap_cons, List.flatMap_cons,
    flatMap_markup_stops, flatMap_markup_stops]
  rfl

theorem serialise_leaf (l : Leaf) (rest : Html) :
    serialise (.leaf l rest) = markup ⟨[], .leaf l⟩ ++ serialise rest := rfl

/-- The walk writes the text of the pruned nodes. -/
theorem serialise_pruneBefore (ancestors : List Element) (nodes after : Html) :
    serialise (pruneBefore (ancestors.all (!·.isTagUnwanted)) nodes after) =
      ((nodes.stops ancestors).filter Passes).flatMap markup ++ serialise after := by
  induction nodes generalizing ancestors after with
  | nil => rfl
  | element el children rest ihc ihr =>
    have henter : Passes ⟨ancestors, .enter el children⟩ = !el.isTagUnwanted := rfl
    have hleave : Passes ⟨ancestors, .leave el⟩ = !el.isTagUnwanted := rfl
    have hdown (after : Html) := ihc (el :: ancestors) after
    rw [pruneBefore, Forest.stops_element, List.filter_append, List.flatMap_append]
    cases hun : el.isTagUnwanted with
    | true =>
      simp only [List.all_cons, hun, Bool.not_true, Bool.false_and] at hdown
      rw [if_pos rfl, hdown, ihr, List.filter_cons_of_neg (by simp [henter, hun]),
        List.filter_cons_of_neg (by simp [hleave, hun]), List.append_assoc]
    | false =>
      simp only [List.all_cons, hun, Bool.not_false, Bool.true_and] at hdown
      rw [if_neg Bool.false_ne_true, serialise_element, hdown, ihr, serialiseOpen_withoutStyle,
        List.filter_cons_of_pos (by simp [henter, hun]),
        List.filter_cons_of_pos (by simp [hleave, hun]), List.flatMap_cons, List.flatMap_cons]
      have hnil : serialise .nil = [] := rfl
      rw [hnil, List.append_nil, List.append_assoc, List.append_assoc, List.append_assoc,
        List.append_assoc]
      rfl
  | leaf l rest ih =>
    have hleaf : Passes ⟨ancestors, .leaf l⟩ = ancestors.all (!·.isTagUnwanted) := rfl
    have hsilent (h : markup ⟨ancestors, .leaf l⟩ = []) :
        ((Forest.stops ancestors (.leaf l rest)).filter Passes).flatMap markup =
          ((rest.stops ancestors).filter Passes).flatMap markup := by
      rw [Forest.stops_leaf, List.filter_cons]
      split
      · rw [List.flatMap_cons, h, List.nil_append]
      · rfl
    cases l with
    | text t =>
      rw [pruneBefore, Forest.stops_leaf, List.filter_cons, hleaf]
      split
      · rw [serialise_leaf, ih, List.flatMap_cons, List.append_assoc]
        rfl
      · exact ih ancestors after
    | doctype name =>
      rw [pruneBefore, Forest.stops_leaf, List.filter_cons, hleaf]
      split
      · rw [serialise_leaf, ih, List.flatMap_cons, List.append_assoc]
        rfl
      · exact ih ancestors after
    | comment t =>
      rw [pruneBefore, hsilent rfl]
      exact ih ancestors after
    | processingInstruction target data =>
      rw [pruneBefore, hsilent rfl]
      exact ih ancestors after

/-- Pruned nodes have nothing left to prune. -/
theorem isPruned_pruneBefore (keepsText : Bool) (nodes after : Html) (h : isPruned after = true) :
    isPruned (pruneBefore keepsText nodes after) = true := by
  induction nodes generalizing keepsText after with
  | nil => exact h
  | element el children rest ihc ihr =>
    rw [pruneBefore]
    cases hun : el.isTagUnwanted with
    | true => exact ihc false _ (ihr keepsText after h)
    | false =>
      rw [if_neg Bool.false_ne_true, isPruned, isTagUnwanted_withoutStyle hun,
        withoutStyle_withoutStyle, ihc keepsText _ rfl, ihr keepsText after h]
      simp
  | leaf l rest ih =>
    cases l with
    | text t =>
      rw [pruneBefore]
      split
      · exact ih keepsText after h
      · exact ih keepsText after h
    | doctype name =>
      rw [pruneBefore]
      split
      · exact ih keepsText after h
      · exact ih keepsText after h
    | comment t => exact ih keepsText after h
    | processingInstruction target data => exact ih keepsText after h

/-- Nothing changes where nothing is left to prune. -/
theorem pruned_of_isPruned (h : isPruned nodes = true) : pruned nodes = nodes := by
  unfold pruned
  induction nodes with
  | nil => rfl
  | element el children rest ihc ihr =>
    rw [isPruned, Bool.and_eq_true, Bool.and_eq_true, Bool.and_eq_true, Bool.not_eq_true',
      decide_eq_true_eq] at h
    obtain ⟨⟨⟨hun, hstyle⟩, hchildren⟩, hrest⟩ := h
    rw [pruneBefore, hun, if_neg Bool.false_ne_true, hstyle, ihc hchildren, ihr hrest]
  | leaf l rest ih =>
    cases l with
    | text t =>
      rw [pruneBefore, if_pos rfl, ih h]
    | doctype name =>
      rw [pruneBefore, if_pos rfl, ih h]
    | comment t => exact absurd h Bool.false_ne_true
    | processingInstruction target data => exact absurd h Bool.false_ne_true

theorem stripNodes_eq_serialise (nodes : Html) : stripNodes nodes = serialise (pruned nodes) := by
  have h := serialise_pruneBefore [] nodes .nil
  rw [stripNodes_eq, strippedStops_eq]
  exact ((List.append_nil _).symm.trans h.symm)

/-- Removing boilerplate is a projection: it writes the text of the pruned tree, in which no element
is unwanted, and a pruned tree is written unchanged; so a second pass over a page that is parsed as
it was written changes nothing. -/
theorem stripUnwanted_projects (P : HtmlParser) (html : Str) :
    stripUnwanted P html = serialise (pruned (P.parseFragment html)) ∧
    isPruned (pruned (P.parseFragment html)) = true ∧
    (∀ nodes, isPruned nodes = true → stripNodes nodes = serialise nodes) ∧
    (P.parseFragment (stripUnwanted P html) = pruned (P.parseFragment html) →
      stripUnwanted P (stripUnwanted P html) = stripUnwanted P html) := by
  have hpruned : isPruned (pruned (P.parseFragment html)) = true :=
    isPruned_pruneBefore true _ .nil rfl
  have hfixed (nodes : Html) (h : isPruned nodes = true) : stripNodes nodes = serialise nodes := by
    rw [stripNodes_eq_serialise, pruned_of_isPruned h]
  refine ⟨stripNodes_eq_serialise _, hpruned, hfixed, fun hparse ↦ ?_⟩
  calc stripUnwanted P (stripUnwanted P html)
      = stripNodes (pruned (P.parseFragment html)) := by rw [stripUnwanted, hparse]
    _ = serialise (pruned (P.parseFragment html)) := hfixed _ hpruned
    _ = stripUnwanted P html := (stripNodes_eq_serialise _).symm

end Pruning
end CrwShield.Extract
