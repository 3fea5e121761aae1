import CrwShield.Base.Str

/-!
# Regular expressions

Searches for expressions made of single characters, repetitions of these and the two anchors, with
the part of the syntax of the crate `regex` that writes them. A search without flags takes a dot for
any character but a line feed, and an anchor for an end of the whole text.
-/

namespace CrwShield.Base.Regex

/-- The characters that one place of an expression admits. -/
inductive CharSet where
  | only (c : Char)
  | any
  deriving DecidableEq

/-- Membership in a set. -/
def CharSet.has : CharSet → Char → Bool
  | only c, d => c = d
  | any, d => d ≠ '\n'

/-- One piece of an expression. -/
inductive Piece where
  | one (k : CharSet)
  | many (k : CharSet)
  | startText
  | endText
  deriving DecidableEq

/-- The pieces match a text that stands between two others. -/
inductive Matches : List Piece → Str → Str → Str → Prop
  | nil {before after : Str} : Matches [] before [] after
  | one {k : CharSet} {c : Char} {ps : List Piece} {before s after : Str} : k.has c = true →
      Matches ps (before ++ [c]) s after → Matches (.one k :: ps) before (c :: s) after
  | stop {k : CharSet} {ps : List Piece} {before s after : Str} :
      Matches ps before s after → Matches (.many k :: ps) before s after
  | more {k : CharSet} {c : Char} {ps : List Piece} {before s after : Str} : k.has c = true →
      Matches (.many k :: ps) (before ++ [c]) s after →
        Matches (.many k :: ps) before (c :: s) after
  | startText {ps : List Piece} {s after : Str} :
      Matches ps [] s after → Matches (.startText :: ps) [] s after
  | endText {ps : List Piece} {before : Str} :
      Matches ps before [] [] → Matches (.endText :: ps) before [] []

/-- Some part of a text matches. -/
def IsMatch (ps : List Piece) (text : Str) : Prop :=
  ∃ before s after, text = before ++ s ++ after ∧ Matches ps before s after

section Rules

variable {k : CharSet} {ps : List Piece} {before s after : Str}

theorem matches_one_iff : Matches (.one k :: ps) before s after ↔
    ∃ c rest, s = c :: rest ∧ k.has c = true ∧ Matches ps (before ++ [c]) rest after := by
  constructor
  · intro h
    cases h with
    | one hc h => exact ⟨_, _, rfl, hc, h⟩
  · rintro ⟨c, rest, rfl, hc, h⟩
    exact .one hc h

/-- A repetition takes some text of its set. -/
theorem matches_many_iff : Matches (.many k :: ps) before s after ↔
    ∃ taken rest, s = taken ++ rest ∧ (∀ c ∈ taken, k.has c = true) ∧
      Matches ps (before ++ taken) rest after := by
  constructor
  · intro h
    induction s generalizing before with
    | nil =>
      cases h with
      | stop h => exact ⟨[], [], rfl, by simp, by rwa [List.append_nil]⟩
    | cons c s ih =>
      cases h with
      | stop h => exact ⟨[], c :: s, rfl, by simp, by rwa [List.append_nil]⟩
      | more hc h =>
        obtain ⟨taken, rest, rfl, htaken, hrest⟩ := ih h
        exact ⟨c :: taken, rest, rfl, List.forall_mem_cons.mpr ⟨hc, htaken⟩, by simpa using hrest⟩
  · rintro ⟨taken, rest, rfl, htaken, h⟩
    induction taken generalizing before with
    | nil => exact .stop (by simpa using h)
    | cons c taken ih =>
      obtain ⟨hc, htaken⟩ := List.forall_mem_cons.mp htaken
      exact .more hc (ih htaken (by simpa using h))

end Rules

section Syntax

/-- Characters that stand for themselves only behind a backslash. -/
def metaCharacters : Str := "\\.+*?()|[]\x7b\x7d^$"

/-- Read one character, given whether a backslash stands before it and the pieces read so far. -/
def readChar : Bool × List Piece → Char → Option (Bool × List Piece)
  | (true, ps), c =>
    if c ∈ metaCharacters then some (false, ps ++ [.one (.only c)]) else none
  | (false, ps), c =>
    if c = '\\' then some (true, ps)
    else if c = '.' then some (false, ps ++ [.one .any])
    else if c = '^' then some (false, ps ++ [.startText])
    else if c = '$' then some (false, ps ++ [.endText])
    else if c = '*' then
      match ps.getLast? with
      | some (.one k) => some (false, ps.dropLast ++ [.many k])
      | _ => none
    else if c ∈ metaCharacters then none
    else some (false, ps ++ [.one (.only c)])

/-- The pieces of an expression; groups, classes, alternatives and the other repetitions have
none. -/
def parse (re : Str) : Option (List Piece) :=
  (re.foldlM readChar (false, [])).bind fun st ↦ if st.1 then none else some st.2

/-- Documented behaviour of `Regex::new` and `is_match`, without a limit on the size: an expression
made of these pieces compiles and is searched for. -/
def Lawful (isMatch : Str → Str → Option Bool) : Prop :=
  ∀ re ps text, parse re = some ps →
    ∃ found, isMatch re text = some found ∧ (found = true ↔ IsMatch ps text)

end Syntax

section Search

/-- Repeat one character, then continue. -/
def matchMany (k : CharSet) (rest : Bool → Str → Bool) : Bool → Str → Bool
  | atStart, [] => rest atStart []
  | atStart, c :: s => rest atStart (c :: s) || (k.has c && matchMany k rest false s)

/-- Whether the pieces match at the beginning of a text, given whether it is the whole text. -/
def matchFrom : List Piece → Bool → Str → Bool
  | [], _, _ => true
  | .one _ :: _, _, [] => false
  | .one k :: ps, _, c :: s => k.has c && matchFrom ps false s
  | .many k :: ps, atStart, s => matchMany k (matchFrom ps) atStart s
  | .startText :: ps, atStart, s => atStart && matchFrom ps atStart s
  | .endText :: ps, atStart, s => s.isEmpty && matchFrom ps atStart s

/-- Whether the pieces match somewhere in a text. -/
def search (ps : List Piece) : Bool → Str → Bool
  | atStart, [] => matchFrom ps atStart []
  | atStart, c :: s => matchFrom ps atStart (c :: s) || search ps false s

/-- A search by backtracking. -/
def reference (re text : Str) : Option Bool := (parse re).map fun ps ↦ search ps true text

variable {ps : List Piece} {k : CharSet}

/-- Some beginning of a text matches. -/
def MatchesPrefix (ps : List Piece) (before text : Str) : Prop :=
  ∃ s after, text = s ++ after ∧ Matches ps before s after

theorem matchMany_iff (ih : ∀ before text, matchFrom ps before.isEmpty text = true ↔
    MatchesPrefix ps before text) (before text : Str) :
    matchMany k (matchFrom ps) before.isEmpty text = true ↔
      MatchesPrefix (.many k :: ps) before text := by
  induction text generalizing before with
  | nil =>
    rw [matchMany, ih]
    constructor
    · rintro ⟨s, after, htext, h⟩
      exact ⟨s, after, htext, .stop h⟩
    · rintro ⟨s, after, htext, h⟩
      obtain ⟨rfl, rfl⟩ := List.append_eq_nil_iff.mp htext.symm
      cases h with
      | stop h => exact ⟨[], [], rfl, h⟩
  | cons c text iht =>
    have hnext : (before ++ [c]).isEmpty = false := by simp
    rw [matchMany, Bool.or_eq_true, Bool.and_eq_true, ih, ← hnext, iht]
    constructor
    · rintro (⟨s, after, htext, h⟩ | ⟨hc, s, after, rfl, h⟩)
      · exact ⟨s, after, htext, .stop h⟩
      · exact ⟨c :: s, after, rfl, .more hc h⟩
    · rintro ⟨s, after, htext, h⟩
      cases h with
      | stop h => exact .inl ⟨s, after, htext, h⟩
      | more hc h =>
        obtain ⟨rfl, rfl⟩ := List.cons.inj htext
        exact .inr ⟨hc, _, after, rfl, h⟩

theorem matchFrom_iff (ps : List Piece) (before text : Str) :
    matchFrom ps before.isEmpty text = true ↔ MatchesPrefix ps before text := by
  induction ps generalizing before text with
  | nil =>
    rw [matchFrom]
    exact iff_of_true rfl ⟨[], text, rfl, .nil⟩
  | cons piece ps ih =>
    cases piece with
    | one k =>
      cases text with
      | nil =>
        refine iff_of_false Bool.false_ne_true ?_
        rintro ⟨s, after, htext, h⟩
        cases h
        cases htext
      | cons c text =>
        have hnext : (before ++ [c]).isEmpty = false := by simp
        rw [matchFrom, Bool.and_eq_true, ← hnext, ih]
        constructor
        · rintro ⟨hc, s, after, rfl, h⟩
          exact ⟨c :: s, after, rfl, .one hc h⟩
        · rintro ⟨s, after, htext, h⟩
          cases h with
          | one hc h =>
            obtain ⟨rfl, rfl⟩ := List.cons.inj htext
            exact ⟨hc, _, after, rfl, h⟩
    | many k => exact matchMany_iff ih before text
    | startText =>
      rw [matchFrom, Bool.and_eq_true, ih, List.isEmpty_iff]
      constructor
      · rintro ⟨rfl, s, after, htext, h⟩
        exact ⟨s, after, htext, .startText h⟩
      · rintro ⟨s, after, htext, h⟩
        cases h with
        | startText h => exact ⟨rfl, s, after, htext, h⟩
    | endText =>
      rw [matchFrom, Bool.and_eq_true, ih, List.isEmpty_iff]
      constructor
      · rintro ⟨rfl, s, after, htext, h⟩
        obtain ⟨rfl, rfl⟩ := List.append_eq_nil_iff.mp htext.symm
        exact ⟨[], [], rfl, .endText h⟩
      · rintro ⟨s, after, htext, h⟩
        cases h with
        | endText h => exact ⟨htext, [], [], htext, h⟩

theorem search_iff (before text : Str) : search ps before.isEmpty text = true ↔
    ∃ skipped rest, text = skipped ++ rest ∧ MatchesPrefix ps (before ++ skipped) rest := by
  induction text generalizing before with
  | nil =>
    rw [search, matchFrom_iff]
    constructor
    · intro h
      exact ⟨[], [], rfl, by rwa [List.append_nil]⟩
    · rintro ⟨skipped, rest, htext, h⟩
      obtain ⟨rfl, rfl⟩ := List.append_eq_nil_iff.mp htext.symm
      rwa [List.append_nil] at h
  | cons c text ih =>
    have hnext : (before ++ [c]).isEmpty = false := by simp
    rw [search, Bool.or_eq_true, matchFrom_iff, ← hnext, ih]
    constructor
    · rintro (h | ⟨skipped, rest, rfl, h⟩)
      · exact ⟨[], c :: text, rfl, by rwa [List.append_nil]⟩
      · exact ⟨c :: skipped, rest, rfl, by simpa using h⟩
    · rintro ⟨skipped, rest, htext, h⟩
      cases skipped with
      | nil =>
        rw [List.append_nil] at h
        exact .inl (htext ▸ h)
      | cons d skipped =>
        obtain ⟨rfl, rfl⟩ := List.cons.inj htext
        exact .inr ⟨skipped, rest, rfl, by simpa using h⟩

/-- The search finds exactly the matches. -/
theorem search_eq_true_iff (text : Str) : search ps true text = true ↔ IsMatch ps text := by
  have h := @search_iff ps [] text
  rw [List.isEmpty_nil] at h
  rw [h]
  constructor
  · rintro ⟨before, rest, rfl, s, after, rfl, hmatch⟩
    exact ⟨before, s, after, (List.append_assoc _ _ _).symm, hmatch⟩
  · rintro ⟨before, s, after, rfl, hmatch⟩
    exact ⟨before, s ++ after, List.append_assoc _ _ _, s, after, rfl, hmatch⟩

theorem lawful_reference : Lawful reference := by
  intro re ps text hparse
  refine ⟨search ps true text, by rw [reference, hparse]; rfl, search_eq_true_iff text⟩

end Search
end CrwShield.Base.Regex
