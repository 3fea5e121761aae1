import CrwShield.Base.Str

/-!
# Tokens of HTML

The states in which an HTML tokenizer reads a page, as far as they decide which tags and which
attributes there are, and the character references that an escaper writes. Its input is what comes
out of the normalisation of newlines, in which a parser replaces carriage returns.
-/

namespace CrwShield.Base.HtmlTokens

/-- A tag with the names of its attributes. -/
structure Tag where
  closing : Bool
  name : Str
  attrs : List Str
  deriving DecidableEq

/-- Where a tokenizer stands. -/
inductive Mode where
  | data
  | tagOpen
  | endTagOpen
  | tagName (t : Tag)
  | beforeAttrName (t : Tag)
  | attrName (t : Tag) (name : Str)
  | afterAttrName (t : Tag)
  | beforeAttrValue (t : Tag)
  | quoted (quote : Char) (t : Tag)
  | unquoted (t : Tag)
  | afterQuoted (t : Tag)
  | selfClosing (t : Tag)
  | markupOpen
  | markupDash
  | declaration
  | comment (dashes : Nat)
  | commentBang
  | rawText (name : Str)
  | rawLess (name : Str)
  | rawEnd (name seen : Str)
  | plaintext
  deriving DecidableEq

/-- HTML white space. -/
def isBlank (c : Char) : Bool := c = ' ' || c = '\t' || c = '\n' || c = '\r' || c = '\x0C'

/-- Elements whose text ends only at their own end tag. -/
def rawElements : List Str :=
  ["title", "textarea", "style", "script", "xmp", "iframe", "noembed", "noframes"]

/-- A tag is complete. -/
def emit (t : Tag) : Mode × List Tag :=
  (if t.closing then .data
    else if t.name ∈ rawElements then .rawText t.name
    else if t.name = "plaintext" then .plaintext
    else .data, [t])

/-- A character behind the name of an attribute. -/
def afterAttr (t : Tag) (c : Char) : Mode × List Tag :=
  if isBlank c then (.afterAttrName t, [])
  else if c = '/' then (.selfClosing t, [])
  else if c = '=' then (.beforeAttrValue t, [])
  else if c = '>' then emit t
  else (.attrName t [c.toLower], [])

/-- A character where an attribute may begin. -/
def beforeAttr (t : Tag) (c : Char) : Mode × List Tag :=
  if isBlank c then (.beforeAttrName t, [])
  else if c = '/' || c = '>' then afterAttr t c
  else (.attrName t [c.toLower], [])

/-- A character in a text that ends only at its own end tag. -/
def inRaw (name : Str) (c : Char) : Mode := if c = '<' then .rawLess name else .rawText name

/-- One character; the tag that it completes, if any. -/
def step : Mode → Char → Mode × List Tag
  | .data, c => (if c = '<' then .tagOpen else .data, [])
  | .tagOpen, c =>
    if c = '!' then (.markupOpen, [])
    else if c = '/' then (.endTagOpen, [])
    else if c.isAlpha then (.tagName ⟨false, [c.toLower], []⟩, [])
    else if c = '?' then (.declaration, [])
    else (if c = '<' then .tagOpen else .data, [])
  | .endTagOpen, c =>
    if c.isAlpha then (.tagName ⟨true, [c.toLower], []⟩, [])
    else (if c = '>' then .data else .declaration, [])
  | .tagName t, c =>
    if isBlank c then (.beforeAttrName t, [])
    else if c = '/' then (.selfClosing t, [])
    else if c = '>' then emit t
    else (.tagName { t with name := t.name ++ [c.toLower] }, [])
  | .beforeAttrName t, c => beforeAttr t c
  | .attrName t name, c =>
    if isBlank c || c = '/' || c = '>' || c = '=' then
      afterAttr { t with attrs := t.attrs ++ [name] } c
    else (.attrName t (name ++ [c.toLower]), [])
  | .afterAttrName t, c => afterAttr t c
  | .beforeAttrValue t, c =>
    if isBlank c then (.beforeAttrValue t, [])
    else if c = '"' || c = '\'' then (.quoted c t, [])
    else if c = '>' then emit t
    else (.unquoted t, [])
  | .quoted quote t, c => (if c = quote then .afterQuoted t else .quoted quote t, [])
  | .unquoted t, c =>
    if isBlank c then (.beforeAttrName t, []) else if c = '>' then emit t else (.unquoted t, [])
  | .afterQuoted t, c => beforeAttr t c
  | .selfClosing t, c => if c = '>' then emit t else beforeAttr t c
  | .markupOpen, c =>
    (if c = '-' then .markupDash else if c = '>' then .data else .declaration, [])
  | .markupDash, c =>
    (if c = '-' then .comment 2 else if c = '>' then .data else .declaration, [])
  | .declaration, c => (if c = '>' then .data else .declaration, [])
  | .comment dashes, c =>
    (if c = '-' then .comment (dashes + 1)
      else if c = '>' ∧ 2 ≤ dashes then .data
      else if c = '!' ∧ 2 ≤ dashes then .commentBang
      else .comment 0, [])
  | .commentBang, c => (if c = '>' then .data else if c = '-' then .comment 1 else .comment 0, [])
  | .rawText name, c => (inRaw name c, [])
  | .rawLess name, c => (if c = '/' then .rawEnd name [] else inRaw name c, [])
  | .rawEnd name seen, c =>
    if c.isAlpha then (.rawEnd name (seen ++ [c.toLower]), [])
    else if seen = name ∧ (isBlank c || c = '/' || c = '>') then beforeAttr ⟨true, name, []⟩ c
    else (inRaw name c, [])
  | .plaintext, _ => (.plaintext, [])

/-- The mode at the end of a text. -/
def modeAfter (m : Mode) (s : Str) : Mode := s.foldl (fun m c ↦ (step m c).1) m

/-- The tags completed in a text. -/
def tagsFrom : Mode → Str → List Tag
  | _, [] => []
  | m, c :: s => (step m c).2 ++ tagsFrom (step m c).1 s

/-- The tags of a page. -/
def tagsOf (page : Str) : List Tag := tagsFrom .data page

section Scan

variable {s : Str}

theorem modeAfter_append (m : Mode) (s t : Str) :
    modeAfter m (s ++ t) = modeAfter (modeAfter m s) t := List.foldl_append

theorem tagsFrom_append (m : Mode) (s t : Str) :
    tagsFrom m (s ++ t) = tagsFrom m s ++ tagsFrom (modeAfter m s) t := by
  induction s generalizing m with
  | nil => rfl
  | cons c s ih =>
    rw [List.cons_append, tagsFrom, tagsFrom, ih, List.append_assoc]
    rfl

/-- In a mode that ignores every character of a text, the text changes nothing. -/
theorem scan_of_ignored {m : Mode} (hs : ∀ c ∈ s, step m c = (m, [])) :
    modeAfter m s = m ∧ tagsFrom m s = [] := by
  induction s with
  | nil => exact ⟨rfl, rfl⟩
  | cons c s ih =>
    obtain ⟨hmode, htags⟩ := ih fun d hd ↦ hs d (List.mem_cons_of_mem _ hd)
    have hc := hs c List.mem_cons_self
    rw [modeAfter, List.foldl_cons, tagsFrom, hc]
    exact ⟨hmode, htags⟩

/-- Text and values in double quotes. -/
def IsText : Mode → Bool
  | .data => true
  | .rawText _ => true
  | .quoted '"' _ => true
  | _ => false

/-- Text without angle brackets and double quotes adds no tag. -/
theorem scan_text {m : Mode} (hm : IsText m = true) (hs : ∀ c ∈ s, c ≠ '<' ∧ c ≠ '"') :
    modeAfter m s = m ∧ tagsFrom m s = [] := by
  apply scan_of_ignored
  intro c hc
  obtain ⟨hangle, hquote⟩ := hs c hc
  unfold IsText at hm
  split at hm
  · rw [step, if_neg hangle]
  · rw [step, inRaw, if_neg hangle]
  · rw [step, if_neg hquote]
  · cases hm

end Scan

section Templates

/-- A part of a page: a fixed text, or a text from outside. -/
inductive Part where
  | fixed (s : Str)
  | slot (s : Str)

/-- The fixed texts of a template, with its slots left open. -/
def skeleton (parts : List Part) : List (Option Str) :=
  parts.map fun
    | .fixed s => some s
    | .slot _ => none

/-- The texts in the slots of a template. -/
def slots (parts : List Part) : List Str :=
  parts.filterMap fun
    | .fixed _ => none
    | .slot s => some s

theorem slots_append (parts parts' : List Part) :
    slots (parts ++ parts') = slots parts ++ slots parts' :=
  List.filterMap_append

/-- The mode behind a template, where no slot stands inside a tag. -/
def modeThrough : Mode → List (Option Str) → Option Mode
  | m, [] => some m
  | m, some s :: rest => modeThrough (modeAfter m s) rest
  | m, none :: rest => if IsText m then modeThrough m rest else none

theorem modeThrough_append {m m' : Mode} {ts ts' : List (Option Str)}
    (h : modeThrough m ts = some m') : modeThrough m (ts ++ ts') = modeThrough m' ts' := by
  induction ts generalizing m with
  | nil =>
    obtain rfl := Option.some.inj h
    rfl
  | cons t ts ih =>
    cases t with
    | some s => exact ih h
    | none =>
      rw [modeThrough] at h
      split at h
      · next hm =>
        rw [List.cons_append, modeThrough, if_pos hm]
        exact ih h
      · cases h

variable (escape : Str → Str)

/-- The text of a page. -/
def render (parts : List Part) : Str :=
  parts.flatMap fun
    | .fixed s => s
    | .slot s => escape s

/-- A text from outside stands in a page as text or in a quoted value. -/
def Shows (m : Mode) (page s : Str) : Prop :=
  ∃ before after, page = before ++ escape s ++ after ∧ IsText (modeAfter m before) = true

/-- The tags of a template. -/
def skeletonTags : Mode → List (Option Str) → List Tag
  | _, [] => []
  | m, some s :: rest => tagsFrom m s ++ skeletonTags (modeAfter m s) rest
  | m, none :: rest => skeletonTags m rest

variable {escape} {parts : List Part} {m m' : Mode}

@[simp] theorem render_nil : render escape [] = [] := rfl

@[simp] theorem render_fixed (s : Str) (parts : List Part) :
    render escape (.fixed s :: parts) = s ++ render escape parts := rfl

@[simp] theorem render_slot (s : Str) (parts : List Part) :
    render escape (.slot s :: parts) = escape s ++ render escape parts := rfl

@[simp] theorem render_append (parts parts' : List Part) :
    render escape (parts ++ parts') = render escape parts ++ render escape parts' :=
  List.flatMap_append

theorem skeleton_cons (part : Part) (parts : List Part) :
    skeleton (part :: parts) = (match part with
      | .fixed s => some s
      | .slot _ => none) :: skeleton parts := rfl

/-- The tags of a page are those of its template, whatever stands in the slots. -/
theorem tagsFrom_render (hescape : ∀ s, ∀ c ∈ escape s, c ≠ '<' ∧ c ≠ '"')
    (h : modeThrough m (skeleton parts) = some m') :
    tagsFrom m (render escape parts) = skeletonTags m (skeleton parts) := by
  induction parts generalizing m with
  | nil => rfl
  | cons part parts ih =>
    rw [render, List.flatMap_cons, tagsFrom_append, ← render]
    cases part with
    | fixed s =>
      rw [skeleton_cons] at h ⊢
      rw [skeletonTags, ← ih h]
    | slot s =>
      rw [skeleton_cons, modeThrough] at h
      split at h
      · next hm =>
        obtain ⟨hmode, htags⟩ := scan_text hm (hescape s)
        rw [skeleton_cons, skeletonTags, ← ih h]
        dsimp only
        rw [hmode, htags, List.nil_append]
      · cases h

/-- What stands in a slot is shown. -/
theorem shows_of_mem (hescape : ∀ s, ∀ c ∈ escape s, c ≠ '<' ∧ c ≠ '"')
    (h : modeThrough m (skeleton parts) = some m') {s : Str} (hs : s ∈ slots parts) :
    Shows escape m (render escape parts) s := by
  induction parts generalizing m with
  | nil => cases hs
  | cons part parts ih =>
    rw [skeleton_cons] at h
    cases part with
    | fixed t =>
      obtain ⟨before, after, hpage, hmode⟩ := ih h hs
      refine ⟨t ++ before, after, ?_, by rwa [modeAfter_append]⟩
      rw [render_fixed, hpage, List.append_assoc, List.append_assoc, List.append_assoc]
    | slot t =>
      rw [modeThrough] at h
      split at h
      · next hm =>
        rcases List.mem_cons.mp hs with rfl | hrest
        · exact ⟨[], render escape parts, rfl, hm⟩
        · obtain ⟨before, after, hpage, hmode⟩ := ih h hrest
          refine ⟨escape t ++ before, after, ?_, ?_⟩
          · rw [render_slot, hpage, List.append_assoc, List.append_assoc, List.append_assoc]
          · rwa [modeAfter_append, (scan_text hm (hescape t)).1]
      · cases h

end Templates

section References

/-- The references that an escaper writes, behind the ampersand. -/
def references : List (Str × Char) :=
  [("amp;", '&'), ("lt;", '<'), ("gt;", '>'), ("quot;", '"'), ("#39;", '\'')]

/-- Replace these references, given how many characters of one are still to be skipped. -/
def decodeFrom : Nat → Str → Str
  | _, [] => []
  | skip + 1, _ :: s => decodeFrom skip s
  | 0, c :: s =>
    if c = '&' then
      match references.find? (·.1.isPrefixOf s) with
      | some (name, d) => d :: decodeFrom name.length s
      | none => c :: decodeFrom 0 s
    else c :: decodeFrom 0 s

/-- What is displayed of a text. -/
def decodeReferences (s : Str) : Str := decodeFrom 0 s

end References
end CrwShield.Base.HtmlTokens
