import CrwShield.Base.Str

/-!
# The structure of JSON texts

A pushdown recogniser of the brackets, strings, separators and word tokens of RFC 8259. Every JSON
text passes it; numbers and the literals are not told apart, so that some other texts do too. A text
that opens a container cannot be cut, and nothing can be glued in front of an object, without the
recogniser noticing.
-/

namespace CrwShield.Base.JsonText

/-- Where the recogniser is between two characters. The flag says that the string is a member
name. -/
inductive State where
  | value
  | firstItem
  | firstName
  | name
  | colon
  | done
  | word
  | string (isName : Bool)
  | escape (isName : Bool)
  | hex (isName : Bool) (left : ℕ)
  deriving DecidableEq

/-- White space between tokens. -/
def isWs (c : Char) : Bool := c = ' ' || c = '\t' || c = '\n' || c = '\r'

/-- Characters of numbers and literals. -/
def isWord (c : Char) : Bool := c.isAlphanum || c = '-' || c = '+' || c = '.'

/-- Characters of a hexadecimal number. -/
def isHex (c : Char) : Bool :=
  c.isDigit || ('a' ≤ c && c ≤ 'f') || ('A' ≤ c && c ≤ 'F')

/-- First character of a value. The open containers are kept innermost first; an object is
`true`. -/
def beginValue (stack : List Bool) (c : Char) : Option (State × List Bool) :=
  if c = '\x7b' then some (.firstName, true :: stack)
  else if c = '[' then some (.firstItem, false :: stack)
  else if c = '"' then some (.string false, stack)
  else if isWord c then some (.word, stack)
  else none

/-- A character behind a value. -/
def endValue (stack : List Bool) (c : Char) : Option (State × List Bool) :=
  if isWs c then some (.done, stack)
  else
    match stack with
    | [] => none
    | isObject :: rest =>
      if c = ',' then some (if isObject then .name else .value, stack)
      else if c = if isObject then '\x7d' else ']' then some (.done, rest)
      else none

/-- One character. -/
def step (s : State × List Bool) (c : Char) : Option (State × List Bool) :=
  match s.1 with
  | .value => if isWs c then some s else beginValue s.2 c
  | .firstItem =>
    if isWs c then some s else if c = ']' then endValue s.2 c else beginValue s.2 c
  | .firstName =>
    if isWs c then some s
    else if c = '\x7d' then endValue s.2 c
    else if c = '"' then some (.string true, s.2)
    else none
  | .name => if isWs c then some s else if c = '"' then some (.string true, s.2) else none
  | .colon => if isWs c then some s else if c = ':' then some (.value, s.2) else none
  | .done => endValue s.2 c
  | .word => if isWord c then some s else endValue s.2 c
  | .string isName =>
    if c = '"' then some (if isName then .colon else .done, s.2)
    else if c = '\\' then some (.escape isName, s.2)
    else if c.toNat < 0x20 then none
    else some s
  | .escape isName =>
    if c = 'u' then some (.hex isName 3, s.2)
    else if c ∈ ['"', '\\', '/', 'b', 'f', 'n', 'r', 't'] then some (.string isName, s.2)
    else none
  | .hex isName left =>
    if isHex c then some (if left = 0 then .string isName else .hex isName (left - 1), s.2)
    else none

/-- The recogniser over a text. -/
def scan (s : State × List Bool) (text : Str) : Option (State × List Bool) := text.foldlM step s

/-- The text has the structure of one JSON value. -/
def Structured (text : Str) : Prop :=
  scan (.value, []) text = some (.done, []) ∨ scan (.value, []) text = some (.word, [])

instance (text : Str) : Decidable (Structured text) := inferInstanceAs (Decidable (_ ∨ _))

theorem scan_cons (s : State × List Bool) (c : Char) (text : Str) :
    scan s (c :: text) = (step s c).bind fun t ↦ scan t text := rfl

theorem scan_append (s : State × List Bool) (text more : Str) :
    scan s (text ++ more) = (scan s text).bind fun t ↦ scan t more := by
  induction text generalizing s with
  | nil => rfl
  | cons c text ih =>
    rw [List.cons_append, scan_cons, scan_cons]
    cases step s c with
    | none => rfl
    | some t => exact ih t

variable {σ τ : State} {stack stack' : List Bool} {c : Char}

private theorem beginValue_frame (h : beginValue stack c = some (τ, stack')) (below : List Bool) :
    beginValue (stack ++ below) c = some (τ, stack' ++ below) := by
  grind [beginValue]

private theorem endValue_frame (h : endValue stack c = some (τ, stack')) (below : List Bool) :
    endValue (stack ++ below) c = some (τ, stack' ++ below) := by
  cases stack with
  | nil =>
    unfold endValue at h ⊢
    by_cases hws : isWs c = true
    · rw [if_pos hws] at h ⊢
      obtain ⟨rfl, rfl⟩ := Prod.mk.inj (Option.some.inj h)
      rfl
    · rw [if_neg hws] at h
      exact absurd h (by simp)
  | cons isObject rest => grind [endValue]

/-- What the recogniser does it also does inside further containers. -/
theorem step_frame (h : step (σ, stack) c = some (τ, stack')) (below : List Bool) :
    step (σ, stack ++ below) c = some (τ, stack' ++ below) := by
  have hbegin : beginValue stack c = some (τ, stack') →
      beginValue (stack ++ below) c = some (τ, stack' ++ below) := fun h ↦ beginValue_frame h below
  have hend : endValue stack c = some (τ, stack') →
      endValue (stack ++ below) c = some (τ, stack' ++ below) := fun h ↦ endValue_frame h below
  cases σ with
  | value | firstItem | firstName | name | colon | done | word => grind [step]
  | string isName | escape isName => grind [step]
  | hex isName left => grind [step]

/-- A text is scanned in the same way inside further containers. -/
theorem scan_frame {text : Str} (h : scan (σ, stack) text = some (τ, stack')) (below : List Bool) :
    scan (σ, stack ++ below) text = some (τ, stack' ++ below) := by
  induction text generalizing σ stack with
  | nil =>
    obtain ⟨rfl, rfl⟩ := Prod.mk.inj (Option.some.inj h)
    rfl
  | cons c text ih =>
    rw [scan_cons] at h ⊢
    obtain ⟨⟨ρ, inner⟩, hstep, hrest⟩ := Option.bind_eq_some_iff.mp h
    rw [step_frame hstep below]
    exact ih hrest

/-- Either a container is open, or the value is complete. -/
def Inside (s : State × List Bool) : Prop := s.2 ≠ [] ∨ s.1 = .done

/-- Once a container is open, the value is complete when none is open any more. -/
theorem Inside.step {s t : State × List Bool} (h : Inside s) (hstep : step s c = some t) :
    Inside t := by
  obtain ⟨σ, stack⟩ := s
  have hbegin : ∀ {stack : List Bool}, stack ≠ [] → beginValue stack c = some t → t.2 ≠ [] := by
    intro stack hne hb
    grind [beginValue]
  have hend : endValue stack c = some t → t.2 ≠ [] ∨ t.1 = .done := by
    intro he
    cases stack with
    | nil => grind [endValue]
    | cons isObject rest => grind [endValue]
  unfold Inside at h ⊢
  cases σ with
  | value | firstItem | firstName | name | colon | done | word => grind [JsonText.step]
  | string isName | escape isName => grind [JsonText.step]
  | hex isName left => grind [JsonText.step]

theorem Inside.scan {s t : State × List Bool} {text : Str} (h : Inside s)
    (hscan : scan s text = some t) : Inside t := by
  induction text generalizing s with
  | nil =>
    obtain rfl := Option.some.inj hscan
    exact h
  | cons c text ih =>
    rw [scan_cons] at hscan
    obtain ⟨u, hstep, hrest⟩ := Option.bind_eq_some_iff.mp hscan
    exact ih (h.step hstep) hrest

/-- Behind a complete value there is only white space. -/
theorem isWs_of_scan_done {t : State × List Bool} {text : Str}
    (h : scan (.done, []) text = some t) : ∀ c ∈ text, isWs c = true := by
  induction text with
  | nil => simp
  | cons c text ih =>
    rw [scan_cons] at h
    obtain ⟨u, hstep, hrest⟩ := Option.bind_eq_some_iff.mp h
    have hws : isWs c = true ∧ u = (.done, []) := by
      have he : endValue [] c = some u := hstep
      unfold endValue at he
      split at he
      · next hws => exact ⟨hws, (Option.some.inj he).symm⟩
      · exact absurd he (by simp)
    rw [hws.2] at hrest
    exact List.forall_mem_cons.mpr ⟨hws.1, ih hrest⟩

/-- A text that opens an object leads inside it. -/
theorem inside_of_opens {t : State × List Bool} {text : Str}
    (h : scan (.value, []) ('\x7b' :: text) = some t) : Inside t := by
  rw [scan_cons] at h
  obtain ⟨u, hstep, hrest⟩ := Option.bind_eq_some_iff.mp h
  have hu : u = (.firstName, [true]) := by
    have hs : step (.value, []) '\x7b' = some (.firstName, [true]) := by decide
    exact Option.some.inj (hstep.symm.trans hs)
  refine Inside.scan (.inl ?_) hrest
  simp [hu]

/-- An object cannot be cut before its last character. -/
theorem not_structured_prefix {text more : Str} {last : Char}
    (hwhole : Structured ('\x7b' :: (text ++ more))) (hlast : more.getLast? = some last)
    (hws : isWs last = false) : ¬ Structured ('\x7b' :: text) := by
  intro hcut
  have hdone : scan (.value, []) ('\x7b' :: text) = some (.done, []) := by
    rcases hcut with h | h
    · exact h
    · rcases inside_of_opens h with hne | hdone
      · exact absurd rfl hne
      · exact absurd hdone (by simp)
  have hscan : ∃ t, scan (.value, []) ('\x7b' :: (text ++ more)) = some t :=
    hwhole.elim (fun h ↦ ⟨_, h⟩) fun h ↦ ⟨_, h⟩
  obtain ⟨t, ht⟩ := hscan
  rw [← List.cons_append, scan_append, hdone] at ht
  have hall := isWs_of_scan_done ht last (List.mem_of_getLast? hlast)
  exact absurd hall (by simp [hws])

private theorem alpha_ne {c d : Char} (hc : c.isAlpha = true) (hd : d.isAlpha = false) : c ≠ d := by
  rintro rfl
  simp [hc] at hd

/-- Where no value may begin, an object with a plain first name is refused. -/
theorem scan_object_eq_none {c : Char} {rest : Str} (hc : c.isAlpha = true)
    (hvalue : σ ≠ .value) (hitem : σ ≠ .firstItem) :
    scan (σ, stack) ('\x7b' :: '"' :: c :: rest) = none := by
  have hws : isWs c = false := by
    have h₁ := alpha_ne hc (d := ' ') (by decide)
    have h₂ := alpha_ne hc (d := '\t') (by decide)
    have h₃ := alpha_ne hc (d := '\n') (by decide)
    have h₄ := alpha_ne hc (d := '\r') (by decide)
    simp [isWs, h₁, h₂, h₃, h₄]
  have hend : ∀ (stack : List Bool) {d : Char}, isWs d = false → d ≠ ',' → d ≠ '\x7d' → d ≠ ']' →
      endValue stack d = none := by
    intro stack d hws hcomma hbrace hbracket
    unfold endValue
    rw [if_neg (by simp [hws])]
    cases stack with
    | nil => rfl
    | cons isObject rest => cases isObject <;> simp [hcomma, hbrace, hbracket]
  have hopen : ∀ stack, endValue stack '\x7b' = none :=
    fun stack ↦ hend stack (by decide) (by decide) (by decide) (by decide)
  rw [scan_cons]
  cases σ with
  | value => exact absurd rfl hvalue
  | firstItem => exact absurd rfl hitem
  | string isName =>
    -- the text opens the string's end, and a letter stands where a separator is due
    have hfirst : step (.string isName, stack) '\x7b' = some (.string isName, stack) := rfl
    rw [hfirst, Option.bind_some, scan_cons]
    have hquote : step (.string isName, stack) '"' =
        some (if isName then .colon else .done, stack) := rfl
    rw [hquote, Option.bind_some, scan_cons]
    have hletter : step (if isName then .colon else .done, stack) c = none := by
      cases isName with
      | true =>
        have hcolon := alpha_ne hc (d := ':') (by decide)
        simp [step, hws, hcolon]
      | false =>
        exact hend stack hws (alpha_ne hc (by decide)) (alpha_ne hc (by decide))
          (alpha_ne hc (by decide))
    rw [hletter]
    rfl
  | done =>
    have hstep : step (.done, stack) '\x7b' = none := hopen stack
    rw [hstep]
    rfl
  | word =>
    have hstep : step (.word, stack) '\x7b' = none := hopen stack
    rw [hstep]
    rfl
  | firstName | name | colon | escape isName | hex isName left => rfl

/-- Nothing that opens an object can be glued in front of an object with a plain first name. -/
theorem not_structured_glued {text rest : Str} {c : Char}
    (hobject : Structured ('\x7b' :: '"' :: c :: rest)) (hc : c.isAlpha = true) :
    ¬ Structured ('\x7b' :: text ++ '\x7b' :: '"' :: c :: rest) := by
  have hrefused : ∀ τ, scan (.value, []) ('\x7b' :: text ++ '\x7b' :: '"' :: c :: rest) ≠
      some (τ, []) := by
    intro τ hscan
    rw [scan_append] at hscan
    obtain ⟨⟨σ, stack⟩, htext, hglued⟩ := Option.bind_eq_some_iff.mp hscan
    by_cases hvalue : σ = .value ∨ σ = .firstItem
    · -- the object is one more value in an open container, which stays open
      have hopen : stack ≠ [] := by
        rcases inside_of_opens htext with hne | hdone
        · exact hne
        · rcases hvalue with rfl | rfl
          · exact absurd hdone (by simp)
          · exact absurd hdone (by simp)
      have hsame : scan (σ, stack) ('\x7b' :: '"' :: c :: rest) =
          scan (.value, stack) ('\x7b' :: '"' :: c :: rest) := by
        rcases hvalue with rfl | rfl
        · rfl
        · rfl
      rw [hsame] at hglued
      rcases hobject with h | h
      · have hframe := scan_frame h stack
        rw [List.nil_append, hglued] at hframe
        exact hopen (Prod.mk.inj (Option.some.inj hframe)).2.symm
      · have hframe := scan_frame h stack
        rw [List.nil_append, hglued] at hframe
        exact hopen (Prod.mk.inj (Option.some.inj hframe)).2.symm
    · rw [not_or] at hvalue
      rw [scan_object_eq_none hc hvalue.1 hvalue.2] at hglued
      exact absurd hglued (by simp)
  rintro (h | h)
  · exact hrefused _ h
  · exact hrefused _ h

end CrwShield.Base.JsonText
