import CrwShield.Server.Hitl
import Mathlib.Data.Bool.AllAny

/-!
# Pasted cookies

Crate `server`, `src/crates/server/src/handlers.rs:514–566`. The cookie field of the solve form
takes a JSON array or the text of `document.cookie`; `serde_json` is a parameter.
-/

open CrwShield.Base CrwShield.Base.Str

namespace CrwShield.Server

/-- The characters between which an entry stands. -/
def isSeparator (c : Char) : Bool := c = ';' || c = '\n'

/-- One entry of a pasted text, skipped when malformed; `handlers.rs:546–561`. -/
def parseCookieEntry (raw : Str) : Option HitlCookie :=
  let entry := trim raw
  if entry.isEmpty then none
  else
    match splitOnce "=" entry with
    | none => none
    | some (n, v) =>
      let name := trim n
      if name.isEmpty then none else some ⟨name, trim v, none, none⟩

/-- The cookies of a text, or why there are none; `handlers.rs:527–566`. -/
def parseCookiesText (fromJson : Str → Except Str (List HitlCookie)) (text : Str) :
    Except Str (List HitlCookie) :=
  let trimmed := trim text
  if trimmed.isEmpty then .error "cookies field is empty"
  else if startsWith "[" trimmed then
    match fromJson trimmed with
    | .error e => .error ("invalid JSON cookie array: " ++ e)
    | .ok parsed => if parsed.isEmpty then .error "JSON cookie array is empty" else .ok parsed
  else
    let out := (trimmed.splitOnP isSeparator).filterMap parseCookieEntry
    if out.isEmpty then .error "no valid name=value cookie pairs found in input" else .ok out

/-- Blanks within a line. -/
def Blank (pad : Str) : Prop := ∀ c ∈ pad, isWhitespace c = true ∧ c ≠ '\n'

/-- A cookie whose text can be told from the text around it. -/
structure PlainPair (pair : Str × Str) : Prop where
  name_ne_nil : pair.1 ≠ []
  name_trimmed : trim pair.1 = pair.1
  name_plain : ∀ c ∈ pair.1, c ≠ '=' ∧ isSeparator c = false
  value_trimmed : trim pair.2 = pair.2
  value_plain : ∀ c ∈ pair.2, isSeparator c = false

/-- The texts of a list of cookies: entries with blanks around them, any number of them blank,
between any separators. -/
inductive Pasted : List (Str × Str) → Str → Prop
  | blank {pad : Str} : Blank pad → Pasted [] pad
  | entry {pre post : Str} (name value : Str) : Blank pre → Blank post →
      Pasted [(name, value)] (pre ++ (name ++ '=' :: value) ++ post)
  | join {pairs pairs' : List (Str × Str)} {s t : Str} {sep : Char} : isSeparator sep = true →
      Pasted pairs s → Pasted pairs' t → Pasted (pairs ++ pairs') (s ++ sep :: t)

/-- The cookie of a pair, without a domain and without a lifetime. -/
def cookieOf (pair : Str × Str) : HitlCookie := ⟨pair.1, pair.2, none, none⟩

/-- The cookies of the entries of a text. -/
def entriesOf (text : Str) : List HitlCookie :=
  (text.splitOnP isSeparator).filterMap parseCookieEntry

section Entries

variable {pairs : List (Str × Str)} {text pad : Str}

theorem parseCookieEntry_trim {s t : Str} (h : trim s = trim t) :
    parseCookieEntry s = parseCookieEntry t := by
  rw [parseCookieEntry, parseCookieEntry, h]

theorem parseCookieEntry_nil : parseCookieEntry [] = none := rfl

theorem not_isSeparator_of_blank (h : Blank pad) {c : Char} (hc : c ∈ pad) :
    isSeparator c = false := by
  obtain ⟨hspace, hline⟩ := h c hc
  have hsemicolon : c ≠ ';' := by
    rintro rfl
    exact absurd hspace (by decide)
  simp [isSeparator, hline, hsemicolon]

/-- A blank entry is skipped. -/
theorem parseCookieEntry_blank (h : Blank pad) : parseCookieEntry pad = none := by
  have htrim := @trim_padded pad [] [] (fun c hc ↦ (h c hc).1) (by simp)
  rw [List.append_nil, List.append_nil] at htrim
  rw [parseCookieEntry_trim htrim, parseCookieEntry_nil]

private theorem length_trim_le (s : Str) : (trim s).length ≤ s.length :=
  (List.rdropWhile_prefix _ _).length_le.trans (List.dropWhile_sublist _).length_le

private theorem not_isWhitespace_of_trim_cons {c : Char} {s : Str} (h : trim (c :: s) = c :: s) :
    isWhitespace c = false := by
  by_contra hc
  rw [trim_cons s (by simpa using hc)] at h
  have hle := length_trim_le s
  rw [h, List.length_cons] at hle
  omega

private theorem not_isWhitespace_of_trim_concat {c : Char} {s : Str}
    (h : trim (s ++ [c]) = s ++ [c]) : isWhitespace c = false := by
  by_contra hc
  rw [trim_concat s (by simpa using hc)] at h
  have hle := length_trim_le s
  rw [h, List.length_append, List.length_singleton] at hle
  omega

/-- A text between two characters that are not white space stays as it is. -/
private theorem trim_between {c d : Char} (s : Str) (hc : isWhitespace c = false)
    (hd : isWhitespace d = false) : trim (c :: s ++ [d]) = c :: s ++ [d] := by
  rw [trim, List.cons_append, List.dropWhile_cons_of_neg (by simp [hc]), ← List.cons_append,
    List.rdropWhile_concat_neg _ _ _ (by simp [hd])]

private theorem trim_pair {pair : Str × Str} (h : PlainPair pair) :
    trim (pair.1 ++ '=' :: pair.2) = pair.1 ++ '=' :: pair.2 := by
  obtain ⟨name, value⟩ := pair
  obtain ⟨hne, hname, -, hvalue, -⟩ := h
  dsimp only at hne hname hvalue ⊢
  obtain ⟨c, rest, rfl⟩ := List.exists_cons_of_ne_nil hne
  have hc := not_isWhitespace_of_trim_cons hname
  rcases List.eq_nil_or_concat' value with rfl | ⟨init, d, rfl⟩
  · exact trim_between rest hc (by decide)
  · have hd := not_isWhitespace_of_trim_concat hvalue
    have hbetween := trim_between (rest ++ '=' :: init) hc hd
    simpa using hbetween

/-- An entry without its padding splits at the first equals sign. -/
theorem parseCookieEntry_pair {pair : Str × Str} (h : PlainPair pair) :
    parseCookieEntry (pair.1 ++ '=' :: pair.2) = some (cookieOf pair) := by
  have hname : '=' ∉ pair.1 := fun hmem ↦ (h.name_plain _ hmem).1 rfl
  have hempty : (pair.1 ++ '=' :: pair.2).isEmpty = false := by simp
  have hnonempty : pair.1.isEmpty = false := by simpa using h.name_ne_nil
  have hsplit : splitOnce "=" (pair.1 ++ '=' :: pair.2) = some (pair.1, pair.2) :=
    splitOnce_char pair.2 hname
  rw [parseCookieEntry, trim_pair h, hempty, if_neg Bool.false_ne_true, hsplit]
  dsimp only
  rw [h.name_trimmed, h.value_trimmed, hnonempty, if_neg Bool.false_ne_true, cookieOf]

theorem entriesOf_cons {c : Char} (s : Str) (hc : isWhitespace c = true) :
    entriesOf (c :: s) = entriesOf s := by
  obtain ⟨piece, pieces, hs⟩ := List.exists_cons_of_ne_nil (List.splitOnP_ne_nil isSeparator s)
  rw [entriesOf, entriesOf, List.splitOnP_cons_eq_if_modifyHead]
  split
  · rw [List.filterMap_cons_none parseCookieEntry_nil]
  · rw [hs, List.modifyHead_cons, List.filterMap_cons, List.filterMap_cons,
      parseCookieEntry_trim (trim_cons piece hc)]

/-- A character at the end of a text that is no separator belongs to the last piece. -/
private theorem splitOnP_concat {α : Type*} {p : α → Bool} {c : α} (s : List α) (hc : p c = false) :
    ∃ init last, s.splitOnP p = init ++ [last] ∧ (s ++ [c]).splitOnP p = init ++ [last ++ [c]] := by
  induction s with
  | nil => exact ⟨[], [], rfl, by simp [List.splitOnP_cons_eq_if_modifyHead, hc]⟩
  | cons d s ih =>
    obtain ⟨init, last, hs, hsc⟩ := ih
    rw [List.cons_append, List.splitOnP_cons_eq_if_modifyHead, List.splitOnP_cons_eq_if_modifyHead,
      hs, hsc]
    split
    · exact ⟨[] :: init, last, rfl, rfl⟩
    · cases init with
      | nil => exact ⟨[], d :: last, rfl, rfl⟩
      | cons piece init => exact ⟨(d :: piece) :: init, last, rfl, rfl⟩

theorem entriesOf_concat {c : Char} (s : Str) (hc : isWhitespace c = true) :
    entriesOf (s ++ [c]) = entriesOf s := by
  rw [entriesOf, entriesOf]
  by_cases hsep : isSeparator c = true
  · rw [List.splitOnP_append_cons s [] hsep, List.filterMap_append]
    simp [parseCookieEntry_nil]
  · obtain ⟨init, last, hs, hsc⟩ := splitOnP_concat s (by simpa using hsep)
    rw [hs, hsc, List.filterMap_append, List.filterMap_append, List.filterMap_cons,
      List.filterMap_cons, parseCookieEntry_trim (trim_concat last hc)]

/-- White space around a text changes none of its entries. -/
theorem entriesOf_trim (text : Str) : entriesOf (trim text) = entriesOf text := by
  have hstart : ∀ s : Str, entriesOf (s.dropWhile isWhitespace) = entriesOf s := by
    intro s
    induction s with
    | nil => rfl
    | cons c s ih =>
      by_cases hc : isWhitespace c = true
      · rw [List.dropWhile_cons_of_pos hc, ih, entriesOf_cons s hc]
      · rw [List.dropWhile_cons_of_neg hc]
  have hend : ∀ s : Str, entriesOf (s.rdropWhile isWhitespace) = entriesOf s := by
    intro s
    induction s using List.reverseRecOn with
    | nil => rfl
    | append_singleton s c ih =>
      by_cases hc : isWhitespace c = true
      · rw [List.rdropWhile_concat_pos _ _ _ hc, ih, entriesOf_concat s hc]
      · rw [List.rdropWhile_concat_neg _ _ _ hc]
  rw [trim, hend, hstart]

/-- No separator stands in an entry. -/
theorem not_isSeparator_of_entry {name value pre post : Str} (h : PlainPair (name, value))
    (hpre : Blank pre) (hpost : Blank post) :
    ∀ c ∈ pre ++ (name ++ '=' :: value) ++ post, isSeparator c = false := by
  intro c hc
  simp only [List.mem_append, List.mem_cons] at hc
  rcases hc with (hc | hc | rfl | hc) | hc
  · exact not_isSeparator_of_blank hpre hc
  · exact (h.name_plain c hc).2
  · rfl
  · exact h.value_plain c hc
  · exact not_isSeparator_of_blank hpost hc

/-- The entries of a pasted text are its cookies. -/
theorem entriesOf_pasted (h : Pasted pairs text) (hplain : ∀ pair ∈ pairs, PlainPair pair) :
    entriesOf text = pairs.map cookieOf := by
  induction h with
  | blank hpad =>
    have hnone : ∀ c ∈ _, isSeparator c = false := fun c hc ↦ not_isSeparator_of_blank hpad hc
    rw [entriesOf, List.splitOnP_eq_singleton hnone]
    simp [parseCookieEntry_blank hpad]
  | entry name value hpre hpost =>
    have hpair := hplain _ (List.mem_singleton_self _)
    have hnone : ∀ c ∈ _, isSeparator c = false := not_isSeparator_of_entry hpair hpre hpost
    have htrim := trim_padded (name ++ '=' :: value) (fun c hc ↦ (hpre c hc).1)
      fun c hc ↦ (hpost c hc).1
    rw [entriesOf, List.splitOnP_eq_singleton hnone, List.filterMap_cons,
      parseCookieEntry_trim htrim, parseCookieEntry_pair hpair]
    rfl
  | join hsep _ _ ihs iht =>
    have hs := ihs fun pair hpair ↦ hplain pair (List.mem_append_left _ hpair)
    have ht := iht fun pair hpair ↦ hplain pair (List.mem_append_right _ hpair)
    rw [entriesOf] at hs ht ⊢
    rw [List.splitOnP_append_cons _ _ hsep, List.filterMap_append, hs, ht, List.map_append]

/-- A text of white space has no cookies. -/
theorem eq_nil_of_dropWhile (h : Pasted pairs text) (hplain : ∀ pair ∈ pairs, PlainPair pair)
    (hblank : text.dropWhile isWhitespace = []) : pairs = [] := by
  have hentries := entriesOf_pasted h hplain
  rw [← entriesOf_trim, trim, hblank] at hentries
  exact List.map_eq_nil_iff.mp hentries.symm

/-- The text of cookies the first of which has a plain name does not start like a JSON array. -/
theorem head_dropWhile_pasted (h : Pasted pairs text) (hplain : ∀ pair ∈ pairs, PlainPair pair)
    (hfirst : ∀ pair, pairs.head? = some pair → pair.1.head? ≠ some '[') :
    (text.dropWhile isWhitespace).head? ≠ some '[' := by
  induction h with
  | blank hpad =>
    rw [List.dropWhile_eq_nil_iff.mpr fun c hc ↦ (hpad c hc).1]
    simp
  | @entry pre post name value hpre hpost =>
    have hpair := hplain _ (List.mem_singleton_self _)
    have hname := hfirst _ rfl
    obtain ⟨c, rest, hcons⟩ := List.exists_cons_of_ne_nil hpair.name_ne_nil
    dsimp only at hcons hname
    have htrimmed := hpair.name_trimmed
    dsimp only at htrimmed
    rw [hcons] at htrimmed hname
    have hc := not_isWhitespace_of_trim_cons htrimmed
    rw [List.append_assoc, List.dropWhile_append_of_pos fun d hd ↦ (hpre d hd).1, hcons,
      List.cons_append, List.cons_append, List.dropWhile_cons_of_neg (by simp [hc])]
    simpa using hname
  | @join pairs pairs' s t sep hsep hs _ ihs iht =>
    have hplains := fun pair hpair ↦ hplain pair (List.mem_append_left _ hpair)
    have hplaint := fun pair hpair ↦ hplain pair (List.mem_append_right _ hpair)
    rw [List.dropWhile_append]
    split
    · next hempty =>
      -- nothing stands before the separator
      obtain rfl := eq_nil_of_dropWhile hs hplains (List.isEmpty_iff.mp hempty)
      by_cases hspace : isWhitespace sep = true
      · rw [List.dropWhile_cons_of_pos hspace]
        exact iht hplaint hfirst
      · rw [List.dropWhile_cons_of_neg hspace]
        intro heq
        obtain rfl : sep = '[' := by simpa using heq
        exact absurd hsep (by decide)
    · next hsome =>
      have hnil : s.dropWhile isWhitespace ≠ [] := by simpa using hsome
      obtain ⟨c, rest, hcons⟩ := List.exists_cons_of_ne_nil hnil
      have hhead := ihs hplains fun pair hpair ↦ hfirst pair (by simp [hpair])
      rw [hcons] at hhead ⊢
      exact hhead

/-- Pasted cookies are read back. -/
theorem parseCookiesText_pasted (fromJson : Str → Except Str (List HitlCookie))
    (h : Pasted pairs text) (hne : pairs ≠ []) (hplain : ∀ pair ∈ pairs, PlainPair pair)
    (hfirst : ∀ pair, pairs.head? = some pair → pair.1.head? ≠ some '[') :
    parseCookiesText fromJson text = .ok (pairs.map cookieOf) := by
  have hentries : ((trim text).splitOnP isSeparator).filterMap parseCookieEntry =
      pairs.map cookieOf :=
    (entriesOf_trim text).trans (entriesOf_pasted h hplain)
  have hsome : (pairs.map cookieOf).isEmpty = false := by simpa using hne
  have htext : (trim text).isEmpty = false := by
    rw [List.isEmpty_eq_false_iff]
    intro hnil
    rw [hnil] at hentries
    exact hne (List.map_eq_nil_iff.mp hentries.symm)
  have hjson : startsWith "[" (trim text) = false := by
    rw [startsWith, Bool.eq_false_iff]
    intro hprefix
    have hdropped : ("[" : Str) <+: text.dropWhile isWhitespace :=
      (List.isPrefixOf_iff_prefix.mp hprefix).trans (List.rdropWhile_prefix _ _)
    obtain ⟨tail, htail⟩ := hdropped
    exact head_dropWhile_pasted h hplain hfirst (by rw [← htail]; rfl)
  rw [parseCookiesText, htext, hjson]
  dsimp only
  rw [if_neg Bool.false_ne_true, if_neg Bool.false_ne_true, hentries, hsome,
    if_neg Bool.false_ne_true]

/-- Two cookies on two lines, with a blank entry between them. -/
theorem parseCookiesText_pasted_lines :
    parseCookiesText (fun _ ↦ .error "not JSON") "a=1=; ;\nb=" =
      .ok [⟨"a", "1=", none, none⟩, ⟨"b", [], none, none⟩] := by
  have hnil : Blank [] := by simp [Blank]
  have hspace : Blank [' '] := by simp [Blank, isWhitespace]
  have hpasted : Pasted [("a", "1="), ("b", [])] "a=1=; ;\nb=" :=
    @Pasted.join _ _ _ _ ';' rfl (.entry "a" "1=" hnil hnil)
      (@Pasted.join _ _ _ _ ';' rfl (.blank hspace)
        (@Pasted.join _ _ _ _ '\n' rfl (.blank hnil) (.entry "b" [] hnil hnil)))
  have ha : PlainPair ("a", "1=") :=
    ⟨by decide, by decide, List.all_iff_forall_prop.mp (by decide), by decide,
      List.all_iff_forall_prop.mp (by decide)⟩
  have hb : PlainPair ("b", []) :=
    ⟨by decide, by decide, List.all_iff_forall_prop.mp (by decide), by decide,
      List.all_iff_forall_prop.mp (by decide)⟩
  have hplain : ∀ pair ∈ [(("a" : Str), ("1=" : Str)), ("b", [])], PlainPair pair :=
    List.forall_mem_cons.mpr ⟨ha, List.forall_mem_cons.mpr ⟨hb, by simp⟩⟩
  exact parseCookiesText_pasted _ hpasted (by simp) hplain (by simp)

end Entries
end CrwShield.Server
