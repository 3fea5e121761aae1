import CrwShield.Base.Regex
import CrwShield.Crawl.Engine

/-!
# Glob patterns

Crate `crawl`, `src/crates/crawl/src/lib.rs:25–38` and `73–91`. A pattern is rewritten into a
regular expression, character by character; its meaning is stated without one.
-/

open CrwShield.Base CrwShield.Base.Str CrwShield.Base.Regex

namespace CrwShield.Crawl

/-- A pattern describes a text. -/
inductive Globbed : Str → Str → Prop
  | nil : Globbed [] []
  | star {pattern text : Str} (s : Str) :
      Globbed pattern text → Globbed ('*' :: pattern) (s ++ text)
  | any {w : Char} {pattern text : Str} (c : Char) : w = '?' ∨ w = '.' → Globbed pattern text →
      Globbed (w :: pattern) (c :: text)
  | only {c : Char} {pattern text : Str} : c ≠ '*' → c ≠ '?' → c ≠ '.' → Globbed pattern text →
      Globbed (c :: pattern) (c :: text)

/-- The piece of the expression for one character of a pattern. -/
def globPiece (ch : Char) : Piece :=
  if ch = '*' then .many .any else if ch = '?' ∨ ch = '.' then .one .any else .one (.only ch)

/-- The characters that the source escapes. -/
private def escapedChars : Str := "()[]\x7b\x7d+|^$\\"

/-- The text of the expression for one character. -/
private def globText (ch : Char) : Str :=
  if ch = '*' then ['.', '*']
  else if ch = '?' || ch = '.' then ['.']
  else if List.contains escapedChars ch then ['\\', ch]
  else [ch]

/-- What is escaped may be escaped, and what is not escaped has no meaning of its own. -/
private theorem mem_metaCharacters (ch : Char) :
    ch ∈ metaCharacters ↔
      ch = '*' ∨ ch = '?' ∨ ch = '.' ∨ List.contains escapedChars ch = true := by
  have hleft : metaCharacters.all (fun c ↦
      c == '*' || c == '?' || c == '.' || List.contains escapedChars c) = true := by decide
  have hright : escapedChars.all (fun c ↦ List.contains metaCharacters c) = true := by decide
  constructor
  · intro h
    simpa [or_assoc] using List.all_eq_true.mp hleft ch h
  · rintro (rfl | rfl | rfl | h)
    · decide
    · decide
    · decide
    · exact List.contains_iff_mem.mp (List.all_eq_true.mp hright ch (List.contains_iff_mem.mp h))

section Compile

variable {pattern text before after s : Str}

/-- The text for one character is read as its piece. -/
theorem foldlM_globText (ps : List Piece) (ch : Char) :
    (globText ch).foldlM readChar (false, ps) = some (false, ps ++ [globPiece ch]) := by
  have hmeta := mem_metaCharacters ch
  unfold globText globPiece
  by_cases hstar : ch = '*'
  · simp [hstar, readChar]
  · by_cases hany : ch = '?' ∨ ch = '.'
    · rcases hany with rfl | rfl <;> rfl
    · obtain ⟨hquestion, hdot⟩ := not_or.mp hany
      by_cases hescaped : List.contains escapedChars ch = true
      · have hmem : ch ∈ metaCharacters := hmeta.mpr (.inr (.inr (.inr hescaped)))
        rw [if_neg hstar, if_neg (by simp [hquestion, hdot]), if_pos hescaped, if_neg hstar,
          if_neg hany]
        show (readChar (true, ps) ch).bind pure = _
        rw [readChar, if_pos hmem]
        rfl
      · have hmem : ch ∉ metaCharacters := by
          rw [hmeta]
          exact fun h ↦ h.elim hstar fun h ↦ h.elim hquestion fun h ↦ h.elim hdot hescaped
        have hne : ∀ c ∈ metaCharacters, ch ≠ c := fun c hc heq ↦ hmem (heq ▸ hc)
        rw [if_neg hstar, if_neg (by simp [hquestion, hdot]), if_neg hescaped, if_neg hstar,
          if_neg hany]
        show (readChar (false, ps) ch).bind pure = _
        rw [readChar, if_neg (hne '\\' (by decide)), if_neg hdot, if_neg (hne '^' (by decide)),
          if_neg (hne '$' (by decide)), if_neg hstar, if_neg hmem]
        rfl

/-- Every pattern compiles to its pieces between the anchors. -/
theorem parse_globRegex (pattern : Str) :
    parse (globRegex pattern) = some (.startText :: pattern.map globPiece ++ [.endText]) := by
  have hpieces : ∀ ps, (pattern.flatMap globText).foldlM readChar (false, ps) =
      some (false, ps ++ pattern.map globPiece) := by
    induction pattern with
    | nil => simp
    | cons ch pattern ih =>
      intro ps
      rw [List.flatMap_cons, List.foldlM_append, foldlM_globText, Option.bind_eq_bind,
        Option.bind_some, ih]
      simp
  have htext : globRegex pattern = '^' :: pattern.flatMap globText ++ ['$'] := rfl
  rw [parse, htext, List.cons_append, List.foldlM_cons]
  show (((pattern.flatMap globText ++ ['$']).foldlM readChar (false, [.startText])).bind _) = _
  rw [List.foldlM_append, hpieces]
  rfl

private theorem any_has {c : Char} (hc : c ∈ s) (hline : '\n' ∉ s) :
    CharSet.any.has c = true :=
  decide_eq_true fun heq ↦ hline (heq ▸ hc)

/-- A text without a line feed is matched to its end exactly where the pattern describes it. -/
theorem matches_globPieces_iff (hline : '\n' ∉ s) :
    Matches (pattern.map globPiece ++ [.endText]) before s after ↔
      after = [] ∧ Globbed pattern s := by
  induction pattern generalizing before s with
  | nil =>
    constructor
    · intro h
      cases h with
      | endText h =>
        cases h
        exact ⟨rfl, .nil⟩
    · rintro ⟨rfl, h⟩
      cases h
      exact .endText .nil
  | cons ch pattern ih =>
    rw [List.map_cons, List.cons_append]
    by_cases hstar : ch = '*'
    · subst hstar
      show Matches (.many .any :: _) before s after ↔ _
      rw [matches_many_iff]
      constructor
      · rintro ⟨taken, rest, rfl, -, h⟩
        obtain ⟨hafter, hrest⟩ := (ih fun h ↦ hline (List.mem_append_right _ h)).mp h
        exact ⟨hafter, .star taken hrest⟩
      · rintro ⟨hafter, h⟩
        cases h with
        | star taken h =>
          have htaken : ∀ c ∈ taken, CharSet.any.has c = true := fun c hc ↦
            any_has (List.mem_append_left _ hc) hline
          exact ⟨taken, _, rfl, htaken, (ih fun h ↦ hline (List.mem_append_right _ h)).mpr
            ⟨hafter, h⟩⟩
        | any c hw h => simp at hw
        | only h => exact absurd rfl h
    · by_cases hany : ch = '?' ∨ ch = '.'
      · have hpiece : globPiece ch = .one .any := by rw [globPiece, if_neg hstar, if_pos hany]
        rw [hpiece, matches_one_iff]
        constructor
        · rintro ⟨c, rest, rfl, -, h⟩
          obtain ⟨hafter, hrest⟩ := (ih fun h ↦ hline (List.mem_cons_of_mem _ h)).mp h
          exact ⟨hafter, .any c hany hrest⟩
        · rintro ⟨hafter, h⟩
          cases h with
          | star taken h => exact absurd rfl hstar
          | any c hw h =>
            exact ⟨c, _, rfl, any_has List.mem_cons_self hline,
              (ih fun h ↦ hline (List.mem_cons_of_mem _ h)).mpr ⟨hafter, h⟩⟩
          | only _ hquestion hdot h => exact absurd hany (by simp [hquestion, hdot])
      · have hpiece : globPiece ch = .one (.only ch) := by
          rw [globPiece, if_neg hstar, if_neg hany]
        obtain ⟨hquestion, hdot⟩ := not_or.mp hany
        rw [hpiece, matches_one_iff]
        constructor
        · rintro ⟨c, rest, rfl, hc, h⟩
          obtain rfl : ch = c := of_decide_eq_true hc
          obtain ⟨hafter, hrest⟩ := (ih fun h ↦ hline (List.mem_cons_of_mem _ h)).mp h
          exact ⟨hafter, .only hstar hquestion hdot hrest⟩
        · rintro ⟨hafter, h⟩
          cases h with
          | star taken h => exact absurd rfl hstar
          | any c hw h => exact absurd hw hany
          | only _ _ _ h =>
            exact ⟨ch, _, rfl, decide_eq_true rfl,
              (ih fun h ↦ hline (List.mem_cons_of_mem _ h)).mpr ⟨hafter, h⟩⟩

/-- The expression of a pattern searches a text without a line feed for what the pattern
describes. -/
theorem isMatch_globPieces_iff (hline : '\n' ∉ text) :
    IsMatch (.startText :: pattern.map globPiece ++ [.endText]) text ↔ Globbed pattern text := by
  constructor
  · rintro ⟨before, s, after, rfl, h⟩
    cases h with
    | startText h =>
      have hs : '\n' ∉ s := fun h ↦ hline (by simp [h])
      obtain ⟨rfl, hglob⟩ := (matches_globPieces_iff hs).mp h
      simpa using hglob
  · intro h
    exact ⟨[], text, [], by simp, .startText ((matches_globPieces_iff hline).mpr ⟨rfl, h⟩)⟩

end Compile

namespace CrawlEnv

variable (E : CrawlEnv)

/-- Globs mean what they say: every pattern compiles, matches the path of a URL as it describes it,
and decides with the others which URLs are visited. -/
structure GlobsExact : Prop where
  compiles : ∀ pattern text, (E.regexMatch (globRegex pattern) text).isSome
  exact : ∀ pattern url, E.globMatch pattern (E.U.path url) = true ↔ Globbed pattern (E.U.path url)
  visit : ∀ url includes excludes,
    let path := trimStartMatches '/' (E.U.path url)
    E.shouldVisit url includes excludes = true ↔
      (∀ pattern ∈ excludes, ¬ Globbed pattern path) ∧
        (includes = [] ∨ ∃ pattern ∈ includes, Globbed pattern path)

variable {E}

theorem globMatch_iff (hregex : Lawful E.regexMatch) {pattern text : Str} (hline : '\n' ∉ text) :
    E.globMatch pattern text = true ↔ Globbed pattern text := by
  obtain ⟨found, hfound, hiff⟩ := hregex _ _ text (parse_globRegex pattern)
  rw [globMatch, hfound, Option.getD_some, hiff, isMatch_globPieces_iff hline]

/-- Globs mean what they say, for a `regex` crate as documented and paths without line feeds, which
a URL never has. -/
theorem globs_exact (hregex : Lawful E.regexMatch) (hpath : ∀ url, '\n' ∉ E.U.path url) :
    E.GlobsExact := by
  constructor
  case compiles =>
    intro pattern text
    obtain ⟨found, hfound, -⟩ := hregex _ _ text (parse_globRegex pattern)
    rw [hfound]
    rfl
  case exact => exact fun pattern url ↦ globMatch_iff hregex (hpath url)
  case visit =>
    intro url includes excludes path
    have hline : '\n' ∉ path := fun h ↦ hpath url (List.dropWhile_sublist _ |>.subset h)
    have hmatch : ∀ pattern, E.globMatch pattern path = true ↔ Globbed pattern path :=
      fun pattern ↦ globMatch_iff hregex hline
    show (if excludes.any (E.globMatch · path) then false
      else includes.isEmpty || includes.any (E.globMatch · path)) = true ↔ _
    by_cases hexclude : excludes.any (E.globMatch · path) = true
    · obtain ⟨pattern, hmem, hglob⟩ := List.any_eq_true.mp hexclude
      rw [if_pos hexclude]
      exact iff_of_false Bool.false_ne_true fun h ↦ h.1 pattern hmem ((hmatch pattern).mp hglob)
    · have hnone : ∀ pattern ∈ excludes, ¬ Globbed pattern path := fun pattern hmem hglob ↦
        hexclude (List.any_eq_true.mpr ⟨pattern, hmem, (hmatch pattern).mpr hglob⟩)
      rw [if_neg hexclude, Bool.or_eq_true, List.isEmpty_iff, List.any_eq_true]
      simp only [hmatch]
      exact ⟨fun h ↦ ⟨hnone, h⟩, fun h ↦ h.2⟩

/-- The operations on normal URLs, with a search by backtracking. -/
def searching : CrawlEnv where
  U := .plain
  regexMatch := reference
  extractLinks _ _ := []

theorem globs_exact_searching : searching.GlobsExact := by
  refine globs_exact lawful_reference fun url hmem ↦ ?_
  have hplain := url.property
  simp only [isPlainUrl, Bool.and_eq_true] at hplain
  exact absurd (List.all_eq_true.mp hplain.2 _ hmem) (by decide)

example : searching.globMatch "blog/?*" "blog/a.b" = true := by decide

end CrawlEnv
end CrwShield.Crawl
