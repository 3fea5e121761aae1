import CrwShield.Base.Xml
import CrwShield.Map.Sitemap
import Mathlib.Data.List.Forall2

/-!
# The locations of a sitemap

What the parsers of `src/crates/map/src/lib.rs` make of a document: they take the first text inside
an entry, whichever child it belongs to, and take it as written.
-/

open CrwShield.Base CrwShield.Base.Str CrwShield.Base.Markup CrwShield.Base.Xml CrwShield.Core

namespace CrwShield.Map

section Reading

/-- A text as the reader reports it with `trim_text` on, unless it is blank. -/
def reportedText (data : List CharData) : Option Str :=
  (some (trimSpace (data.flatMap CharData.raw))).filter fun s ↦ !s.isEmpty

theorem ne_nil_of_reportedText {data : List CharData} {s : Str} (h : reportedText data = some s) :
    s ≠ [] := by
  obtain ⟨-, hne⟩ := Option.filter_eq_some_iff.mp h
  rintro rfl
  simp at hne

/-- What the reader reports of a leaf. -/
def leafEvents : Leaf → List XmlEvent
  | .text data => ((reportedText data).map .text).toList
  | .cdata s => [.cdata s]
  | .emptyElement tag => [.empty tag.name]
  | .comment _ | .instruction _ => [.other]

/-- What the reader reports where the walk through content stops. -/
def eventsAt (stop : Stop Tag Leaf) : List XmlEvent :=
  match stop.visit with
  | .enter tag _ => [.start tag.name]
  | .leave tag => [.close tag.name]
  | .leaf l => leafEvents l

def miscEvents : Misc → List XmlEvent
  | .space .. => []
  | .comment _ | .instruction _ | .doctype _ => [.other]

/-- The events of content. -/
def contentEvents (content : Content) : List XmlEvent := (Forest.stops [] content).flatMap eventsAt

/-- The events of a document. -/
def documentEvents (doc : Document) : List XmlEvent :=
  doc.prolog.flatMap miscEvents ++ contentEvents doc.body ++ doc.epilog.flatMap miscEvents

end Reading

/-- The first text inside content, in whatever element, as reported. -/
def firstText : Content → Option Str
  | .nil => none
  | .element _ children rest => (firstText children).or (firstText rest)
  | .leaf (.text data) rest => (reportedText data).or (firstText rest)
  | .leaf _ rest => firstText rest

/-- The contents of the elements of a name, in any letter case, that have none of the name
inside. -/
def innermost (element : Str) : Content → List Content
  | .nil => []
  | .leaf _ rest => innermost element rest
  | .element tag children rest =>
    (if toAsciiLowercase tag.name = element ∧ innermost element children = [] then [children]
      else innermost element children) ++ innermost element rest

section Collect

variable {element : Str}

theorem eventsAt_stops (ancestors ancestors' : List Tag) (content : Content) :
    (Forest.stops ancestors content).flatMap eventsAt =
      (Forest.stops ancestors' content).flatMap eventsAt := by
  induction content generalizing ancestors ancestors' with
  | nil => rfl
  | element tag children rest ihc ihr =>
    simp only [Forest.stops_element, List.flatMap_append, List.flatMap_cons, List.cons_append]
    rw [ihc _ (tag :: ancestors'), ihr _ ancestors']
    rfl
  | leaf l rest ih =>
    simp only [Forest.stops_leaf, List.flatMap_cons]
    rw [ih _ ancestors']
    rfl

@[simp] theorem contentEvents_nil : contentEvents .nil = [] := rfl

@[simp] theorem contentEvents_element (tag : Tag) (children rest : Content) :
    contentEvents (.element tag children rest) =
      .start tag.name :: (contentEvents children ++ .close tag.name :: contentEvents rest) := by
  unfold contentEvents
  rw [Forest.stops_element, List.cons_append, List.flatMap_cons, List.flatMap_append,
    List.flatMap_cons, eventsAt_stops [tag] []]
  rfl

@[simp] theorem contentEvents_leaf (l : Leaf) (rest : Content) :
    contentEvents (.leaf l rest) = leafEvents l ++ contentEvents rest := rfl

theorem ne_nil_of_firstText {content : Content} {s : Str} (h : firstText content = some s) :
    s ≠ [] := by
  induction content with
  | nil => exact absurd h (by simp [firstText])
  | element tag children rest ihc ihr =>
    rcases Option.or_eq_some_iff.mp h with h | ⟨-, h⟩
    · exact ihc h
    · exact ihr h
  | leaf l rest ih =>
    cases l with
    | text data =>
      rcases Option.or_eq_some_iff.mp h with h | ⟨-, h⟩
      · exact ne_nil_of_reportedText h
      · exact ih h
    | cdata s | emptyElement tag | comment s | instruction s => exact ih h

/-- The text of an open entry after some content. -/
def filled (current : Option Str) (content : Content) : Option Str :=
  current.map fun cur ↦ if cur.isEmpty then (firstText content).getD [] else cur

theorem filled_nil (current : Option Str) : filled current .nil = current := by
  cases current with
  | none => rfl
  | some cur => cases cur <;> rfl

theorem filled_filled (current : Option Str) (tag : Tag) (children rest : Content) :
    filled (filled current children) rest = filled current (.element tag children rest) := by
  cases current with
  | none => rfl
  | some cur =>
    cases cur with
    | cons c cur => rfl
    | nil =>
      unfold filled
      cases h : firstText children with
      | none => simp [firstText, h]
      | some s =>
        have hne := ne_nil_of_firstText h
        cases s with
        | nil => exact absurd rfl hne
        | cons c s => simp [firstText, h]

theorem filled_text {data : List CharData} {s : Str} (h : reportedText data = some s)
    (current : Option Str) (rest : Content) :
    filled (current.map fun cur ↦ if cur.isEmpty then s else cur) rest =
      filled current (.leaf (.text data) rest) := by
  have hne : s.isEmpty = false := List.isEmpty_eq_false_iff.mpr (ne_nil_of_reportedText h)
  cases current with
  | none => rfl
  | some cur =>
    cases cur with
    | nil => simp only [filled, Option.map_some, List.isEmpty_nil, if_true, hne, firstText, h,
        Option.some_or, Option.getD_some, Bool.false_eq_true, if_false]
    | cons c cur => rfl

/-- What an entry that has just ended contributes. -/
theorem toList_filled (content : Content) :
    ((filled (some []) content).filter fun cur ↦ !cur.isEmpty).toList =
      [content].filterMap firstText := by
  cases h : firstText content with
  | none => simp [filled, h]
  | some s =>
    have hne : s.isEmpty = false := List.isEmpty_eq_false_iff.mpr (ne_nil_of_firstText h)
    simp [filled, h, hne]

theorem collectTexts_close_none (name : Str) (events : List XmlEvent) (out : List Str) :
    collectTexts element (.close name :: events) none out =
      collectTexts element events none out := by
  rw [collectTexts]
  split
  · exact congrArg _ (List.append_nil out)
  · rfl

/-- What the parser does with the events of content: without an entry inside, it fills the entry
that is open; otherwise it takes the innermost entries, and none stays open. -/
theorem collectTexts_contentEvents (content : Content) (events : List XmlEvent)
    (current : Option Str) (out : List Str) :
    collectTexts element (contentEvents content ++ events) current out =
      if innermost element content = [] then
        collectTexts element events (filled current content) out
      else collectTexts element events none
        (out ++ (innermost element content).filterMap firstText) := by
  induction content generalizing events current out with
  | nil => simp [innermost, filled_nil]
  | element tag children rest ihc ihr =>
    rw [contentEvents_element, List.cons_append, List.append_assoc, List.cons_append, collectTexts,
      ihc]
    by_cases hin : innermost element children = []
    · rw [if_pos hin]
      by_cases hname : toAsciiLowercase tag.name = element
      · -- the element is an innermost entry, which its end tag closes
        have hself : innermost element (.element tag children rest) =
            children :: innermost element rest := by
          simp [innermost, hname, hin]
        rw [if_pos hname, collectTexts, if_pos hname, toList_filled, ihr, hself,
          if_neg (List.cons_ne_nil _ _)]
        split
        next hrest => rw [hrest]; rfl
        next hrest => rw [List.append_assoc, ← List.filterMap_append]; rfl
      · have hself : innermost element (.element tag children rest) = innermost element rest := by
          simp [innermost, hname, hin]
        rw [if_neg hname, collectTexts, if_neg hname, ihr, hself, filled_filled]
    · -- an entry inside has closed whatever was open
      have hself : innermost element (.element tag children rest) =
          innermost element children ++ innermost element rest := by
        simp [innermost, hin]
      have hne : innermost element (.element tag children rest) ≠ [] := by
        rw [hself]
        exact List.append_ne_nil_of_left_ne_nil hin _
      rw [if_neg hin, collectTexts_close_none, ihr, if_neg hne, hself, List.filterMap_append,
        ← List.append_assoc]
      split
      next hrest => rw [hrest, List.filterMap_nil, List.append_nil]; rfl
      next => rfl
  | leaf l rest ih =>
    have hself : innermost element (.leaf l rest) = innermost element rest := rfl
    rw [contentEvents_leaf, List.append_assoc, hself]
    cases l with
    | cdata s | emptyElement tag | comment s | instruction s => exact ih events current out
    | text data =>
      cases htext : reportedText data with
      | none =>
        have hfilled : filled current (.leaf (.text data) rest) = filled current rest := by
          simp [filled, firstText, htext]
        rw [show leafEvents (.text data) = [] by simp [leafEvents, htext], List.nil_append, ih,
          hfilled]
      | some t =>
        rw [show leafEvents (.text data) = [.text t] by simp [leafEvents, htext],
          List.singleton_append, collectTexts, ih, filled_text htext]

theorem collectTexts_miscEvents (miscs : List Misc) (events : List XmlEvent)
    (current : Option Str) (out : List Str) :
    collectTexts element (miscs.flatMap miscEvents ++ events) current out =
      collectTexts element events current out := by
  induction miscs with
  | nil => rfl
  | cons misc miscs ih => cases misc <;> exact ih

/-- The parsers take the first text of every innermost entry of a document. -/
theorem collectTexts_documentEvents (element : Str) (doc : Document) :
    collectTexts element (documentEvents doc) none [] =
      .ok ((innermost element doc.body).filterMap firstText) := by
  have hepilog :
      ∀ out, collectTexts element (doc.epilog.flatMap miscEvents) none out = .ok out := by
    intro out
    rw [← List.append_nil (doc.epilog.flatMap miscEvents), collectTexts_miscEvents]
    rfl
  rw [documentEvents, List.append_assoc, collectTexts_miscEvents, collectTexts_contentEvents]
  split
  next hnone =>
    rw [hnone]
    exact hepilog []
  next => rw [hepilog, List.nil_append]

end Collect

section Choices

universe u v
variable {α : Type u} {β : Type v}

/-- If one choice is made everywhere in a list, another is the same list of choices exactly when it
agrees at each place. -/
theorem filterMap_eq_filterMap_iff {f g : α → Option β} {l : List α}
    (hg : ∀ a ∈ l, (g a).isSome = true) :
    l.filterMap f = l.filterMap g ↔ ∀ a ∈ l, f a = g a := by
  refine ⟨fun h ↦ ?_, fun h ↦ List.filterMap_congr h⟩
  have hf : ∀ a ∈ l, (f a).isSome = true := by
    have hlength := congrArg List.length h
    rw [List.length_filterMap_eq_countP, List.length_filterMap_eq_countP,
      List.countP_eq_length.mpr hg] at hlength
    exact List.countP_eq_length.mp hlength
  induction l with
  | nil => simp
  | cons a l ih =>
    obtain ⟨hfa, hfl⟩ := List.forall_mem_cons.mp hf
    obtain ⟨hga, hgl⟩ := List.forall_mem_cons.mp hg
    obtain ⟨b, hb⟩ := Option.isSome_iff_exists.mp hfa
    obtain ⟨c, hc⟩ := Option.isSome_iff_exists.mp hga
    rw [List.filterMap_cons_some hb, List.filterMap_cons_some hc] at h
    obtain ⟨rfl, hrest⟩ := List.cons.inj h
    exact List.forall_mem_cons.mpr ⟨hb.trans hc.symm, ih hgl hrest hfl⟩

end Choices

section Plain

/-- Whether a leaf is a text that is more than white space. -/
def bearsText : Leaf → Bool
  | .text data => !data.all CharData.isSpace
  | .cdata _ | .emptyElement _ | .comment _ | .instruction _ => false

/-- Whether content has no text but white space, in whatever element. -/
def isTextless (content : Content) : Bool := (Forest.leaves content).all fun l ↦ !bearsText l

/-- Whether content is one literal text, with nothing but white space, comments, instructions and
tags around it. -/
def isOneText (content : Content) : Bool :=
  match (Forest.leaves content).dropWhile Leaf.isBlank with
  | .text data :: after => isLiteral data && after.all Leaf.isBlank
  | _ => false

/-- Whether an entry has its first text in its `loc`, which is one literal text; or has neither a
`loc` nor a text. -/
def isPlainEntry : Content → Bool
  | .nil => true
  | .element tag children rest =>
    if tag.name = ("loc" : Str) then isOneText children
    else isTextless children && isPlainEntry rest
  | .leaf (.emptyElement tag) rest => tag.name ≠ ("loc" : Str) && isPlainEntry rest
  | .leaf l rest => !bearsText l && isPlainEntry rest

/-- Whether no element of content, in whatever element, has a name in any letter case. -/
def isFreeOf (element : Str) : Content → Bool
  | .nil => true
  | .element tag children rest =>
    toAsciiLowercase tag.name ≠ element && isFreeOf element children && isFreeOf element rest
  | .leaf _ rest => isFreeOf element rest

/-- Whether the elements of a name, in any letter case, are those that stand among the siblings
with the name as it is. -/
def isNamedBeside (element : Str) : Content → Bool
  | .nil => true
  | .element tag children rest =>
    (tag.name = element || toAsciiLowercase tag.name ≠ element) && isFreeOf element children &&
      isNamedBeside element rest
  | .leaf _ rest => isNamedBeside element rest

/-- The entries of a document are the elements of their name, in any letter case. -/
structure EntriesNamed (element : Str) (doc : Document) : Prop where
  root : toAsciiLowercase doc.root.name ≠ element
  content : isNamedBeside element (doc.content.getD .nil) = true

/-- A document without a byte-order mark whose entries are the elements of their name and are
plain. -/
structure PlainSitemap (element : Str) (doc : Document) : Prop where
  unmarked : doc.byteOrderMark = false
  named : EntriesNamed element doc
  plain : ∀ entry ∈ doc.entries element, isPlainEntry entry = true

/-- The content of the `loc` child of an entry. -/
def locContent (entry : Content) : Option Content :=
  ((Content.children entry).find? (·.1 = ("loc" : Str))).map Prod.snd

/-- The value of the `loc` child of an entry, without the white space around it. -/
def locText (doc : Document) (entry : Content) : Option Str :=
  (locContent entry).map fun loc ↦ trimSpace (Content.value doc.entities loc)

/-- The locations that a document gives. -/
def locs (element : Str) (doc : Document) : List Str :=
  (doc.entries element).filterMap (locText doc)

end Plain

section Texts

variable {doc : Document}

/-- The text of a leaf, as reported. -/
def leafText : Leaf → Option Str
  | .text data => reportedText data
  | .cdata _ | .emptyElement _ | .comment _ | .instruction _ => none

/-- The texts inside content, in whatever element, as reported. -/
def texts (content : Content) : List Str := (Forest.leaves content).filterMap leafText

theorem firstText_leaf (l : Leaf) (rest : Content) :
    firstText (.leaf l rest) = (leafText l).or (firstText rest) := by
  cases l <;> rfl

theorem firstText_eq (content : Content) : firstText content = (texts content).head? := by
  unfold texts
  induction content with
  | nil => rfl
  | element tag children rest ihc ihr =>
    rw [firstText, ihc, ihr, Forest.leaves, List.filterMap_append, List.head?_append]
  | leaf l rest ih =>
    cases l with
    | text data =>
      rw [firstText, ih, Forest.leaves, List.filterMap_cons, leafText]
      cases reportedText data <;> rfl
    | cdata s | emptyElement tag | comment s | instruction s => exact ih

theorem leafText_eq_none_iff {l : Leaf} : leafText l = none ↔ bearsText l = false := by
  cases l with
  | text data =>
    rw [bearsText, Bool.not_eq_false', ← trimSpace_raw_eq_nil_iff]
    simp [leafText, reportedText, Option.filter]
  | cdata s | emptyElement tag | comment s | instruction s => exact iff_of_true rfl rfl

theorem texts_eq_nil_iff {content : Content} : texts content = [] ↔ isTextless content = true := by
  unfold texts isTextless
  rw [List.filterMap_eq_nil_iff, List.all_eq_true]
  exact forall₂_congr fun l _ ↦ leafText_eq_none_iff.trans (by simp)

theorem bearsText_of_isBlank {l : Leaf} (h : l.isBlank = true) : bearsText l = false := by
  cases l with
  | text data =>
    have hall : data.all CharData.isSpace = true := h
    rw [bearsText, hall]
    rfl
  | cdata s | emptyElement tag | comment s | instruction s => rfl

/-- Of one literal text the parser takes what it stands for. -/
theorem texts_of_isOneText {content : Content} (h : isOneText content = true) :
    texts content = [trimSpace (Content.value doc.entities content)] := by
  have hblank : ∀ {leaves : List Leaf}, leaves.all Leaf.isBlank = true →
      leaves.filterMap leafText = [] := fun hall ↦ List.filterMap_eq_nil_iff.mpr fun l hl ↦
    leafText_eq_none_iff.mpr (bearsText_of_isBlank (List.all_eq_true.mp hall l hl))
  have hbefore : ((Forest.leaves content).takeWhile Leaf.isBlank).all Leaf.isBlank = true :=
    List.all_eq_true.mpr fun l hl ↦ List.mem_takeWhile_imp hl
  have hsplit := (List.takeWhile_append_dropWhile
    (p := Leaf.isBlank) (l := Forest.leaves content)).symm
  unfold isOneText at h
  split at h
  next data after hdrop =>
    obtain ⟨hliteral, hafter⟩ := Bool.and_eq_true_iff.mp h
    have hhead : ¬ Leaf.isBlank (.text data) = true := by
      have := List.head?_dropWhile_not Leaf.isBlank (Forest.leaves content)
      rw [hdrop] at this
      simpa using this
    have hbears : leafText (.text data) = some (trimSpace (data.flatMap CharData.raw)) := by
      have hne : leafText (.text data) ≠ none := by
        intro hnone
        have hsilent := leafText_eq_none_iff.mp hnone
        exact hhead ((Bool.not_eq_eq_eq_not.mp hsilent).trans rfl)
      simpa [leafText, reportedText, Option.filter] using hne
    rw [hdrop] at hsplit
    unfold texts Content.value
    rw [hsplit, List.filterMap_append, hblank hbefore, List.nil_append, List.filterMap_cons,
      hbears, hblank hafter, List.flatMap_append, List.flatMap_cons,
      trimSpace_between (all_isSpace_value hbefore) (all_isSpace_value hafter)]
    exact congrArg (fun t ↦ [t]) (trimSpace_valueOf hliteral).symm
  next => exact absurd h Bool.false_ne_true

theorem locContent_element (tag : Tag) (children rest : Content) :
    locContent (.element tag children rest) =
      if tag.name = ("loc" : Str) then some children else locContent rest := by
  unfold locContent
  rw [Content.children, List.find?_cons]
  split
  next h => rw [if_pos (of_decide_eq_true h), Option.map_some]
  next h => rw [if_neg (of_decide_eq_false h)]

theorem locContent_emptyElement (tag : Tag) (rest : Content) :
    locContent (.leaf (.emptyElement tag) rest) =
      if tag.name = ("loc" : Str) then some .nil else locContent rest :=
  locContent_element tag .nil rest

/-- A plain entry is read as the document has it. -/
theorem firstText_eq_locText {entry : Content} (h : isPlainEntry entry = true) :
    firstText entry = locText doc entry := by
  induction entry with
  | nil => rfl
  | element tag children rest ihc ihr =>
    rw [firstText_eq, texts, Forest.leaves, List.filterMap_append, ← texts, ← texts]
    unfold isPlainEntry at h
    split at h
    next hloc =>
      have htexts : texts children = [trimSpace (Content.value doc.entities children)] :=
        texts_of_isOneText h
      rw [htexts]
      rw [locText, locContent_element, if_pos hloc]
      rfl
    next hloc =>
      obtain ⟨htextless, hrest⟩ := Bool.and_eq_true_iff.mp h
      rw [texts_eq_nil_iff.mpr htextless, List.nil_append, ← firstText_eq, ihr hrest, locText,
        locText, locContent_element, if_neg hloc]
  | leaf l rest ih =>
    have hrest : bearsText l = false → firstText (.leaf l rest) = firstText rest := by
      intro hl
      rw [firstText_leaf, leafText_eq_none_iff.mpr hl, Option.none_or]
    cases l with
    | emptyElement tag =>
      obtain ⟨hloc, hplain⟩ := Bool.and_eq_true_iff.mp h
      rw [hrest rfl, ih hplain, locText, locText, locContent_emptyElement,
        if_neg (of_decide_eq_true hloc)]
    | text data | cdata s | comment s | instruction s =>
      obtain ⟨hl, hplain⟩ := Bool.and_eq_true_iff.mp h
      rw [hrest (by simpa using hl), ih hplain]
      rfl

end Texts

section Apart

variable {doc : Document}

/-- The texts of an entry outside its `loc`. -/
def textsBeside : Content → List Str
  | .nil => []
  | .element tag children rest =>
    if tag.name = ("loc" : Str) then texts rest else texts children ++ textsBeside rest
  | .leaf l rest => (leafText l).toList ++ textsBeside rest

/-- The entry has a `loc`; no text beside this has the value of the `loc`, and no text in it has
unless it is all that there is. -/
structure TextsApart (doc : Document) (entry : Content) : Prop where
  hasLoc : (locText doc entry).isSome = true
  beside : ∀ t ∈ textsBeside entry, locText doc entry ≠ some t
  inside : ∀ content, locContent entry = some content → isOneText content = false →
    ∀ t ∈ texts content, locText doc entry ≠ some t

theorem mem_of_firstText {content : Content} {t : Str} (h : firstText content = some t) :
    t ∈ texts content :=
  List.mem_of_head? (firstText_eq content ▸ h)

private theorem isPlainEntry_of_location {entry : Content} {v : Str}
    (hv : locText doc entry = some v) (hbeside : ∀ t ∈ textsBeside entry, v ≠ t)
    (hinside : ∀ content, locContent entry = some content → isOneText content = false →
      ∀ t ∈ texts content, v ≠ t)
    (h : firstText entry = some v) : isPlainEntry entry = true := by
  induction entry with
  | nil => rfl
  | element tag children rest _ ihr =>
    by_cases hloc : tag.name = ("loc" : Str)
    · simp only [isPlainEntry, hloc, if_true]
      rw [textsBeside, if_pos hloc] at hbeside
      cases hone : isOneText children with
      | true => rfl
      | false =>
        rw [locContent_element, if_pos hloc] at hinside
        rcases Option.or_eq_some_iff.mp h with hfirst | ⟨-, hfirst⟩
        · exact absurd rfl (hinside children rfl hone v (mem_of_firstText hfirst))
        · exact absurd rfl (hbeside v (mem_of_firstText hfirst))
    · simp only [isPlainEntry, hloc, if_false]
      rw [textsBeside, if_neg hloc] at hbeside
      rw [locText, locContent_element, if_neg hloc] at hv
      rw [locContent_element, if_neg hloc] at hinside
      rcases Option.or_eq_some_iff.mp h with hfirst | ⟨hnone, hfirst⟩
      · exact absurd rfl (hbeside v (List.mem_append_left _ (mem_of_firstText hfirst)))
      · have htextless : isTextless children = true := by
          rw [← texts_eq_nil_iff, ← List.head?_eq_none_iff, ← firstText_eq]
          exact hnone
        rw [htextless, ihr hv (fun t ht ↦ hbeside t (List.mem_append_right _ ht)) hinside hfirst]
        rfl
  | leaf l rest ih =>
    rw [firstText_leaf] at h
    rcases Option.or_eq_some_iff.mp h with hfirst | ⟨hnone, hfirst⟩
    · exact absurd rfl (hbeside v (List.mem_append_left _ (Option.mem_toList.mpr hfirst)))
    · have hbeside' : ∀ t ∈ textsBeside rest, v ≠ t :=
        fun t ht ↦ hbeside t (List.mem_append_right _ ht)
      have hl := leafText_eq_none_iff.mp hnone
      cases l with
      | emptyElement tag =>
        by_cases hloc : tag.name = ("loc" : Str)
        · -- an empty `loc` has no text, and what the parser takes has some
          rw [locText, locContent_emptyElement, if_pos hloc] at hv
          obtain rfl : ([] : Str) = v := Option.some.inj hv
          exact absurd rfl (ne_nil_of_firstText hfirst)
        · rw [locText, locContent_emptyElement, if_neg hloc] at hv
          rw [locContent_emptyElement, if_neg hloc] at hinside
          exact Bool.and_eq_true_iff.mpr ⟨decide_eq_true hloc, ih hv hbeside' hinside hfirst⟩
      | text data | cdata s | comment s | instruction s =>
        exact Bool.and_eq_true_iff.mpr ⟨by rw [hl]; rfl, ih hv hbeside' hinside hfirst⟩

/-- Where no text is like the location by chance, only plain entries are read as the document has
them. -/
theorem isPlainEntry_of_firstText {entry : Content} (hapart : TextsApart doc entry)
    (h : firstText entry = locText doc entry) : isPlainEntry entry = true := by
  obtain ⟨v, hv⟩ := Option.isSome_iff_exists.mp hapart.hasLoc
  refine isPlainEntry_of_location hv (fun t ht hvt ↦ hapart.beside t ht (hvt ▸ hv)) ?_
    (h.trans hv)
  exact fun content hcontent hone t ht hvt ↦ hapart.inside content hcontent hone t ht (hvt ▸ hv)

end Apart
section Exact

variable {element : Str} {doc : Document}

theorem innermost_eq_nil_of_isFreeOf {content : Content} (h : isFreeOf element content = true) :
    innermost element content = [] := by
  induction content with
  | nil => rfl
  | element tag children rest ihc ihr =>
    simp only [isFreeOf, Bool.and_eq_true, decide_eq_true_eq] at h
    rw [innermost, ihc h.1.2, ihr h.2, if_neg fun hname ↦ h.1.1 hname.1, List.append_nil]
  | leaf l rest ih => exact ih h

/-- The innermost entries are the entries, but for empty tags. -/
theorem innermost_of_isNamedBeside (hlower : toAsciiLowercase element = element)
    {content : Content} (h : isNamedBeside element content = true) :
    (innermost element content).filterMap firstText =
      (((Content.children content).filter (·.1 = element)).map Prod.snd).filterMap firstText := by
  induction content with
  | nil => rfl
  | element tag children rest ihc ihr =>
    simp only [isNamedBeside, Bool.and_eq_true, Bool.or_eq_true, decide_eq_true_eq] at h
    obtain ⟨⟨hname, hfree⟩, hrest⟩ := h
    rw [innermost, innermost_eq_nil_of_isFreeOf hfree, Content.children, List.filter_cons]
    by_cases heq : tag.name = element
    · rw [if_pos ⟨heq ▸ hlower, rfl⟩, if_pos (by simpa using heq), List.filterMap_append, ihr hrest,
        List.map_cons, ← List.filterMap_append,
        List.singleton_append]
    · rw [if_neg fun hin ↦ (hname.resolve_left heq) hin.1, if_neg (by simpa using heq),
        List.nil_append, ihr hrest]
  | leaf l rest ih =>
    cases l with
    | emptyElement tag =>
      rw [innermost, ih h, Content.children, List.filter_cons]
      split
      · rfl
      · rfl
    | text data | cdata s | comment s | instruction s => exact ih h

theorem EntriesNamed.filterMap_firstText (hlower : toAsciiLowercase element = element)
    (h : EntriesNamed element doc) :
    (innermost element doc.body).filterMap firstText =
      (doc.entries element).filterMap firstText := by
  have hcontent := innermost_of_isNamedBeside hlower h.content
  unfold Document.body Document.entries
  revert hcontent
  cases doc.content with
  | none => exact id
  | some content =>
    intro hcontent
    rw [innermost, if_neg fun hin ↦ h.root hin.1, innermost, List.append_nil]
    exact hcontent

/-- Both parsers, on a document. -/
theorem parseTexts_document {reader : XmlReader} (element : Str) (doc : Document)
    (hreader : reader doc.text = documentEvents doc) (what : Str) :
    parseTexts reader element what doc.text =
      if doc.byteOrderMark then .error (.extraction (what ++ ": input is not XML"))
      else .ok ((innermost element doc.body).filterMap firstText) := by
  unfold parseTexts
  rw [doc.startsWith_trimStart_text, Bool.not_not, hreader, collectTexts_documentEvents]
  rfl

variable {reader : XmlReader} (hreader : reader doc.text = documentEvents doc)
include hreader

/-- A parser gives the locations of a plain document. -/
theorem PlainSitemap.parseTexts_eq (h : PlainSitemap element doc)
    (hlower : toAsciiLowercase element = element) (what : Str) :
    parseTexts reader element what doc.text = .ok (locs element doc) := by
  rw [parseTexts_document element doc hreader, h.unmarked, if_neg Bool.false_ne_true,
    h.named.filterMap_firstText hlower]
  exact congrArg Except.ok
    (List.filterMap_congr fun entry hentry ↦ firstText_eq_locText (h.plain entry hentry))

/-- Where no text is like a location by chance, a parser gives the locations of plain documents
only. -/
theorem plainSitemap_of_parseTexts (hnamed : EntriesNamed element doc)
    (hapart : ∀ entry ∈ doc.entries element, TextsApart doc entry)
    (hlower : toAsciiLowercase element = element) {what : Str}
    (h : parseTexts reader element what doc.text = .ok (locs element doc)) :
    PlainSitemap element doc := by
  rw [parseTexts_document element doc hreader] at h
  cases hmark : doc.byteOrderMark with
  | true => simp [hmark] at h
  | false =>
    rw [hmark, if_neg Bool.false_ne_true, hnamed.filterMap_firstText hlower, Except.ok.injEq] at h
    have hsame := (filterMap_eq_filterMap_iff fun entry hentry ↦ (hapart entry hentry).hasLoc).mp h
    exact ⟨hmark, hnamed, fun entry hentry ↦
      isPlainEntry_of_firstText (hapart entry hentry) (hsame entry hentry)⟩

omit hreader in
theorem parseSitemap_eq_iff {xml : Str} {urls : List Str} :
    parseSitemap reader xml = .ok (urls.map fun url ↦ ⟨url, none, none⟩) ↔
      parseTexts reader "url" "sitemap parse" xml = .ok urls := by
  have hinjective : Function.Injective fun url : Str ↦ (⟨url, none, none⟩ : MapLink) :=
    fun _ _ h ↦ congrArg MapLink.url h
  unfold parseSitemap
  cases parseTexts reader "url" "sitemap parse" xml with
  | error e => simp [Except.map]
  | ok found =>
    simp only [Except.map, Except.ok.injEq]
    exact (List.map_injective_iff.mpr hinjective).eq_iff

/-- Both parsers give the locations of every plain document, and of no other in which no text is
like a location by chance. -/
theorem parsers_give_locs :
    ((PlainSitemap "url" doc →
        parseSitemap reader doc.text =
          .ok ((locs "url" doc).map fun url ↦ ⟨url, none, none⟩)) ∧
      (EntriesNamed "url" doc → (∀ entry ∈ doc.entries "url", TextsApart doc entry) →
        parseSitemap reader doc.text =
          .ok ((locs "url" doc).map fun url ↦ ⟨url, none, none⟩) → PlainSitemap "url" doc)) ∧
    (PlainSitemap "sitemap" doc →
        parseSitemapIndex reader doc.text = .ok (locs "sitemap" doc)) ∧
      (EntriesNamed "sitemap" doc → (∀ entry ∈ doc.entries "sitemap", TextsApart doc entry) →
        parseSitemapIndex reader doc.text = .ok (locs "sitemap" doc) →
          PlainSitemap "sitemap" doc) := by
  have hurl : toAsciiLowercase ("url" : Str) = "url" := by decide
  have hsitemap : toAsciiLowercase ("sitemap" : Str) = "sitemap" := by decide
  refine ⟨⟨fun h ↦ ?_, fun hnamed hapart h ↦ ?_⟩, fun h ↦ ?_, fun hnamed hapart h ↦ ?_⟩
  · exact parseSitemap_eq_iff.mpr (h.parseTexts_eq hreader hurl _)
  · exact plainSitemap_of_parseTexts hreader hnamed hapart hurl (parseSitemap_eq_iff.mp h)
  · exact h.parseTexts_eq hreader hsitemap _
  · exact plainSitemap_of_parseTexts hreader hnamed hapart hsitemap h

end Exact

section Runs

/-- An element with a text in it. -/
def field (name value : Str) (rest : Content) : Content :=
  .element (.plain name) (.leaf (.text (value.map .char)) .nil) rest

/-- A sitemap of one entry. -/
def oneEntry (entry : Content) : Document where
  byteOrderMark := false
  prolog := []
  root := .plain "urlset"
  content := some (.element (.plain "url") entry .nil)
  epilog := []
  entities _ := none

/-- A reader that knows one document. -/
def readerOf (doc : Document) : XmlReader :=
  fun xml ↦ if xml = doc.text then documentEvents doc else []

def locFirst : Document := oneEntry (field "loc" "https://a.com/1" (field "lastmod" "2024" .nil))

theorem parsers_give_locs_first :
    parseSitemap (readerOf locFirst) locFirst.text = .ok [⟨"https://a.com/1", none, none⟩] := by
  have hlocs : locs "url" locFirst = ["https://a.com/1"] := by decide
  have hreader : readerOf locFirst locFirst.text = documentEvents locFirst := if_pos rfl
  have hplain : PlainSitemap "url" locFirst := ⟨rfl, ⟨by decide, by decide⟩, by decide⟩
  have h := (parsers_give_locs hreader).1.1 hplain
  rw [hlocs] at h
  exact h

def lastmodFirst : Document :=
  oneEntry (field "lastmod" "2024" (field "loc" "https://a.com/1" .nil))

/-- The date is taken for the location. -/
theorem not_locs_lastmodFirst :
    parseSitemap (readerOf lastmodFirst) lastmodFirst.text ≠
      .ok ((locs "url" lastmodFirst).map fun url ↦ ⟨url, none, none⟩) := by
  have hreader : readerOf lastmodFirst lastmodFirst.text = documentEvents lastmodFirst :=
    if_pos rfl
  rw [ne_eq, parseSitemap_eq_iff, parseTexts_document "url" lastmodFirst hreader]
  decide

end Runs
end CrwShield.Map
