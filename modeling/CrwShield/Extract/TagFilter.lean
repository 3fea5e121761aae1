import CrwShield.Extract.Html

/-!
# The tag filter

Crate `extract`, `src/crates/extract/src/content.rs:1294–1368`. `filter_tags` writes a page again
with some tags only. A text is kept for the elements around it; an element is kept for its own name.
-/

open CrwShield.Base CrwShield.Base.Str CrwShield.Base.Markup

namespace CrwShield.Extract

/-- Name of an element as the filter compares it; `content.rs:1328`. -/
def Element.tag (el : Element) : Str := toAsciiLowercase el.name

/-- An element is kept for its own name; `content.rs:1329–1335`. -/
def tagKept (incl excl : List Str) (name : Str) : Bool :=
  !excl.contains name && (incl.isEmpty || incl.contains name)

/-- A text is kept for the names of the elements around it; `content.rs:1352–1358`. -/
def textKept (incl excl ancestors : List Str) : Bool :=
  ancestors.isEmpty ||
    (ancestors.all (!excl.contains ·) && (incl.isEmpty || ancestors.any incl.contains))

section Walk

variable {α : Type} (write : Stop Element Leaf → List α) (incl excl : List Str)

/-- Write the nodes below some elements; `content.rs:1320–1368`. -/
def walkFilter (ancestors : List Element) : Html → List α → List α
  | .nil, out => out
  | .element el children rest, out =>
    if tagKept incl excl el.tag then
      let out := out ++ write ⟨ancestors, .enter el children⟩
      let out := walkFilter (el :: ancestors) children out
      walkFilter ancestors rest (out ++ write ⟨ancestors, .leave el⟩)
    else
      walkFilter ancestors rest (walkFilter (el :: ancestors) children out)
  | .leaf l rest, out =>
    let out :=
      if textKept incl excl (ancestors.map Element.tag) then
        match l with
        | .text t => out ++ write ⟨ancestors, .leaf (.text t)⟩
        | _ => out
      else out
    walkFilter ancestors rest out

end Walk

/-- Write some nodes again, with lowercased lists of tags; `content.rs:1300–1315`. -/
def filterNodes (nodes : Html) (includeTags excludeTags : List Str) : Str :=
  walkFilter markup (includeTags.map toAsciiLowercase) (excludeTags.map toAsciiLowercase) []
    nodes []

/-- `content.rs:1296–1318`. -/
def filterTags (P : HtmlParser) (html : Str) (includeTags excludeTags : List Str) : Str :=
  if includeTags.isEmpty && excludeTags.isEmpty then html
  else filterNodes (P.parseFragment html) includeTags excludeTags

/-- The nodes that are written, one by one. -/
def filteredStops (nodes : Html) (includeTags excludeTags : List Str) :
    List (Stop Element Leaf) :=
  walkFilter (fun s ↦ [s]) (includeTags.map toAsciiLowercase) (excludeTags.map toAsciiLowercase) []
    nodes []

/-- The tag is among those listed, whatever its case. -/
def Lists (tags : List Str) (el : Element) : Prop := el.tag ∈ tags.map toAsciiLowercase

instance (tags : List Str) : DecidablePred (Lists tags) :=
  fun _ ↦ inferInstanceAs (Decidable (_ ∈ _))

/-- None of the elements is excluded and, if some tags are to be included, one of them is. -/
def Selected (includeTags excludeTags : List Str) (els : List Element) : Prop :=
  (∀ el ∈ els, ¬ Lists excludeTags el) ∧ (includeTags = [] ∨ ∃ el ∈ els, Lists includeTags el)

instance (includeTags excludeTags : List Str) (els : List Element) :
    Decidable (Selected includeTags excludeTags els) :=
  inferInstanceAs (Decidable (_ ∧ _))

/-- An element is written only if it and those around it are selected, a text exactly if those
around it are, all in document order. -/
structure FiltersTags (nodes : Html) (includeTags excludeTags : List Str) : Prop where
  elements : ∀ s ∈ filteredStops nodes includeTags excludeTags, ∀ el,
    (∃ children, s.visit = .enter el children) ∨ s.visit = .leave el →
      Selected includeTags excludeTags s.holders
  texts : ∀ s ∈ nodes.stops [], ∀ t, s.visit = .leaf (.text t) →
    (s ∈ filteredStops nodes includeTags excludeTags ↔
      Selected includeTags excludeTags s.ancestors)
  ordered : (filteredStops nodes includeTags excludeTags).Sublist (nodes.stops [])

/-- No element that is kept for its name lies in an excluded one. -/
def NoneInExcluded (nodes : Html) (includeTags excludeTags : List Str) : Prop :=
  ∀ s ∈ nodes.stops [], ∀ el children, s.visit = .enter el children →
    ¬ Lists excludeTags el → (includeTags = [] ∨ Lists includeTags el) →
      ∀ a ∈ s.ancestors, ¬ Lists excludeTags a

/-- Every text lies in an element. -/
def NoneBare (nodes : Html) : Prop :=
  ∀ s ∈ nodes.stops [], ∀ t, s.visit = .leaf (.text t) → s.ancestors ≠ []

/-- The test a node passes in the walk. -/
def FilterPasses (includeTags excludeTags : List Str) (s : Stop Element Leaf) : Bool :=
  let incl := includeTags.map toAsciiLowercase
  let excl := excludeTags.map toAsciiLowercase
  match s.visit with
  | .enter el _ => tagKept incl excl el.tag
  | .leave el => tagKept incl excl el.tag
  | .leaf (.text _) => textKept incl excl (s.ancestors.map Element.tag)
  | .leaf _ => false

section Filter

variable {includeTags excludeTags : List Str} {nodes : Html} {s : Stop Element Leaf}

theorem tagKept_iff {el : Element} :
    tagKept (includeTags.map toAsciiLowercase) (excludeTags.map toAsciiLowercase) el.tag = true ↔
      ¬ Lists excludeTags el ∧ (includeTags = [] ∨ Lists includeTags el) := by
  simp [tagKept, Lists]

theorem textKept_iff {ancestors : List Element} :
    textKept (includeTags.map toAsciiLowercase) (excludeTags.map toAsciiLowercase)
        (ancestors.map Element.tag) = true ↔
      ancestors = [] ∨ Selected includeTags excludeTags ancestors := by
  simp [textKept, Selected, Lists]

/-- The walk writes the nodes that pass. -/
theorem walkFilter_eq {α : Type} (write : Stop Element Leaf → List α) (ancestors : List Element)
    (nodes : Html) (out : List α) :
    walkFilter write (includeTags.map toAsciiLowercase) (excludeTags.map toAsciiLowercase) ancestors
        nodes out =
      out ++ ((nodes.stops ancestors).filter (FilterPasses includeTags excludeTags)).flatMap
        write := by
  induction nodes generalizing ancestors out with
  | nil => simp [walkFilter]
  | element el children rest ihc ihr =>
    rw [walkFilter, Forest.stops_element]
    split
    · next h =>
      dsimp only
      rw [ihc, ihr]
      simp [h, FilterPasses, List.append_assoc]
    · next h =>
      rw [ihc, ihr]
      simp [h, FilterPasses, List.append_assoc]
  | leaf l rest ih =>
    cases l with
    | text t =>
      unfold walkFilter
      rw [Forest.stops_leaf, ih]
      by_cases h : textKept (includeTags.map toAsciiLowercase) (excludeTags.map toAsciiLowercase)
          (ancestors.map Element.tag) = true
      · simp [h, FilterPasses, List.append_assoc]
      · simp [h, FilterPasses]
    | comment t =>
      unfold walkFilter
      simp [ih, FilterPasses]
    | doctype name =>
      unfold walkFilter
      simp [ih, FilterPasses]
    | processingInstruction target data =>
      unfold walkFilter
      simp [ih, FilterPasses]

theorem filteredStops_eq (nodes : Html) (includeTags excludeTags : List Str) :
    filteredStops nodes includeTags excludeTags =
      (nodes.stops []).filter (FilterPasses includeTags excludeTags) := by
  have h : filteredStops nodes includeTags excludeTags =
      [] ++ ((nodes.stops []).filter (FilterPasses includeTags excludeTags)).flatMap ([·]) :=
    walkFilter_eq (fun s ↦ [s]) [] nodes []
  rw [h, List.nil_append, List.flatMap_singleton']

/-- The output is the text of the nodes written. -/
theorem filterNodes_eq (nodes : Html) (includeTags excludeTags : List Str) :
    filterNodes nodes includeTags excludeTags =
      (filteredStops nodes includeTags excludeTags).flatMap markup := by
  rw [filteredStops_eq]
  exact walkFilter_eq markup [] nodes []

/-- With some tags to select, the output is the text of the nodes written. -/
theorem filterTags_eq (P : HtmlParser) (html : Str) (h : ¬ (includeTags = [] ∧ excludeTags = [])) :
    filterTags P html includeTags excludeTags =
      (filteredStops (P.parseFragment html) includeTags excludeTags).flatMap markup := by
  have hsome : (includeTags.isEmpty && excludeTags.isEmpty) = false := by
    simpa [Bool.and_eq_false_imp] using h
  rw [filterTags, hsome, if_neg Bool.false_ne_true, filterNodes_eq]

/-- In what the parser produces every text lies in an element. -/
theorem noneBare_parseFragment (P : HtmlParser) (html : Str) : NoneBare (P.parseFragment html) := by
  obtain ⟨attrs, children, hroot⟩ := P.root html
  have hbelow : ∀ s ∈ children.stops [⟨"html", attrs⟩], s.ancestors ≠ [] := fun s hs ↦
    List.ne_nil_of_length_pos (Nat.lt_of_lt_of_le Nat.one_pos (Forest.length_le_of_mem_stops hs))
  intro s hs t hv
  rw [hroot, Forest.stops_element, Forest.stops_nil] at hs
  rcases List.mem_append.mp hs with hs | hs
  · rcases List.mem_cons.mp hs with rfl | hs
    · exact absurd hv (by simp)
    · exact hbelow s hs
  · obtain rfl := List.mem_singleton.mp hs
    exact absurd hv (by simp)

private theorem mem_filteredStops :
    s ∈ filteredStops nodes includeTags excludeTags ↔
      s ∈ nodes.stops [] ∧ FilterPasses includeTags excludeTags s = true := by
  rw [filteredStops_eq, List.mem_filter]

/-- An element that is written is selected by its own name. -/
private theorem passes_element {el : Element}
    (hv : (∃ children, s.visit = .enter el children) ∨ s.visit = .leave el)
    (hpass : FilterPasses includeTags excludeTags s = true) :
    ¬ Lists excludeTags el ∧ (includeTags = [] ∨ Lists includeTags el) := by
  rw [← tagKept_iff]
  unfold FilterPasses at hpass
  rcases hv with ⟨children, hv⟩ | hv
  · simpa only [hv] using hpass
  · simpa only [hv] using hpass

theorem noneInExcluded_of_filtersTags (h : FiltersTags nodes includeTags excludeTags) :
    NoneInExcluded nodes includeTags excludeTags := by
  intro s hs el children hv hexcl hincl a ha
  have hpass : FilterPasses includeTags excludeTags s = true := by
    unfold FilterPasses
    rw [hv]
    exact tagKept_iff.mpr ⟨hexcl, hincl⟩
  have hwritten := mem_filteredStops.mpr ⟨hs, hpass⟩
  exact (h.elements s hwritten el (.inl ⟨children, hv⟩)).1 a (s.ancestors_subset_holders ha)

theorem noneBare_of_filtersTags (h : FiltersTags nodes includeTags excludeTags) :
    includeTags = [] ∨ NoneBare nodes := by
  by_cases hincl : includeTags = []
  · exact .inl hincl
  · refine .inr fun s hs t hv hbare ↦ ?_
    have hpass : FilterPasses includeTags excludeTags s = true := by
      unfold FilterPasses
      rw [hv]
      exact textKept_iff.mpr (.inl hbare)
    have hsel := (h.texts s hs t hv).mp (mem_filteredStops.mpr ⟨hs, hpass⟩)
    rw [hbare] at hsel
    rcases hsel.2 with hnil | ⟨el, hel, -⟩
    · exact hincl hnil
    · exact absurd hel List.not_mem_nil

private theorem elements_of_noneInExcluded (h : NoneInExcluded nodes includeTags excludeTags)
    (hs : s ∈ nodes.stops []) (hpass : FilterPasses includeTags excludeTags s = true) {el : Element}
    (hv : (∃ children, s.visit = .enter el children) ∨ s.visit = .leave el) :
    Selected includeTags excludeTags s.holders := by
  obtain ⟨hexcl, hincl⟩ := passes_element hv hpass
  have hholders : s.holders = el :: s.ancestors := by
    unfold Stop.holders
    rcases hv with ⟨children, hv⟩ | hv <;> rw [hv]
  have habove : ∀ a ∈ s.ancestors, ¬ Lists excludeTags a := by
    rcases hv with ⟨children, hv⟩ | hv
    · exact h s hs el children hv hexcl hincl
    · have hleave : ⟨s.ancestors, .leave el⟩ ∈ nodes.stops [] := by rwa [← hv]
      obtain ⟨children, henter⟩ := Forest.exists_enter_of_leave hleave
      have habove := h ⟨s.ancestors, .enter el children⟩ henter el children rfl hexcl hincl
      exact habove
  rw [hholders]
  refine ⟨fun a ha ↦ ?_, hincl.imp_right fun hin ↦ ⟨el, List.mem_cons_self, hin⟩⟩
  rcases List.mem_cons.mp ha with rfl | ha
  · exact hexcl
  · exact habove a ha

/-- The filter selects by the tags around a node exactly when no element that is kept for its name
lies in an excluded one and, if some tags are to be included, every text lies in an element. -/
theorem filtersTags_iff (nodes : Html) (includeTags excludeTags : List Str) :
    FiltersTags nodes includeTags excludeTags ↔
      NoneInExcluded nodes includeTags excludeTags ∧ (includeTags = [] ∨ NoneBare nodes) := by
  constructor
  · intro h
    exact ⟨noneInExcluded_of_filtersTags h, noneBare_of_filtersTags h⟩
  · rintro ⟨hnested, hbare⟩
    refine ⟨fun s hs el hv ↦ ?_, fun s hs t hv ↦ ?_, ?_⟩
    · obtain ⟨hin, hpass⟩ := mem_filteredStops.mp hs
      exact elements_of_noneInExcluded hnested hin hpass hv
    · have hpass : FilterPasses includeTags excludeTags s = true ↔
          s.ancestors = [] ∨ Selected includeTags excludeTags s.ancestors := by
        rw [← textKept_iff]
        unfold FilterPasses
        rw [hv]
      rw [mem_filteredStops, hpass]
      constructor
      · rintro ⟨-, hnil | hsel⟩
        · rw [hnil]
          refine ⟨fun el hel ↦ absurd hel List.not_mem_nil, .inl ?_⟩
          exact hbare.resolve_right fun hnone ↦ hnone s hs t hv hnil
        · exact hsel
      · intro hsel
        exact ⟨hs, .inr hsel⟩
    · rw [filteredStops_eq]
      exact List.filter_sublist

/-- `<nav><a href="/x">x</a></nav>` without `nav` still has the link. -/
theorem not_filtersTags_navLink :
    filterNodes navLink [] ["nav"] = "<html><a href=\"/x\"></a></html>" ∧
      ¬ FiltersTags navLink [] ["nav"] := by
  constructor
  · decide
  · intro h
    have hin : ⟨[⟨"nav", []⟩, ⟨"html", []⟩],
        .enter ⟨"a", [("href", "/x")]⟩ (.leaf (.text "x") .nil)⟩ ∈ navLink.stops [] := by
      simp [navLink]
    exact noneInExcluded_of_filtersTags h _ hin _ _ rfl (by decide) (.inl rfl) _ List.mem_cons_self
      (by decide)

end Filter
end CrwShield.Extract
