import CrwShield.Base.UrlText
import CrwShield.Server.Hitl
import Mathlib.Data.Bool.AllAny

/-!
# The host of a queued URL

Crates `server`, `src/crates/server/src/handlers.rs:471–486`, and `antibot`,
`src/crates/antibot/src/cookie_jar.rs:516–540`. A cookie posted without a domain is stored under the
host that `url_host_str` cuts out of the URL, and looked up under the host that the parser gives.
-/

open CrwShield.Base CrwShield.Base.Str CrwShield.Antibot

namespace CrwShield.Server

/-- The URL spells its host, up to case, blanks around it and dots before it, right behind the first
`://` (or at its start without one) and right before a slash, a colon or the end. -/
def SpellsHost (url host : Str) : Prop :=
  ∃ spelled after, Follows "://" url (spelled ++ after) ∧ spelled ≠ [] ∧ '/' ∉ spelled ∧
    ':' ∉ spelled ∧ (∀ c ∈ after.head?, c = '/' ∨ c = ':') ∧
    normalizeHost spelled = normalizeHost host

/-- The text before the first slash or colon. -/
def handPiece (rest : Str) : Str := rest.takeWhile fun c ↦ c ≠ ':' ∧ c ≠ '/'

section Piece

variable {url host rest : Str}

/-- What the hand-written extractor makes of the text behind the scheme. -/
theorem urlHostStr_eq (h : Follows "://" url rest) :
    urlHostStr url =
      if (handPiece rest).isEmpty then none else some (normalizeHost (handPiece rest)) := by
  have hrest := (follows_iff (by decide)).mp h
  have hpiece : (split ':' (((splitOnce "/" rest).map Prod.fst).getD rest)).headD [] =
      handPiece rest := by
    rw [headD_split, show ("/" : Str) = ['/'] from rfl, before_splitOnce, List.takeWhile_takeWhile]
    simp only [decide_eq_true_eq]
    rfl
  rw [urlHostStr, hrest, hpiece]
  rfl

theorem handPiece_append {spelled after : Str} (hslash : '/' ∉ spelled) (hcolon : ':' ∉ spelled)
    (hafter : ∀ c ∈ after.head?, c = '/' ∨ c = ':') :
    handPiece (spelled ++ after) = spelled := by
  have hall : ∀ c ∈ spelled, decide (c ≠ ':' ∧ c ≠ '/') = true :=
    fun c hc ↦ decide_eq_true ⟨fun h ↦ hcolon (h ▸ hc), fun h ↦ hslash (h ▸ hc)⟩
  rw [handPiece, List.takeWhile_append_of_pos hall]
  cases after with
  | nil => rw [List.takeWhile_nil, List.append_nil]
  | cons c after =>
    rcases hafter c rfl with rfl | rfl
    · rw [List.takeWhile_cons_of_neg (by simp), List.append_nil]
    · rw [List.takeWhile_cons_of_neg (by simp), List.append_nil]

theorem mem_handPiece {c : Char} (hc : c ∈ handPiece rest) : c ≠ ':' ∧ c ≠ '/' := by
  have h := List.mem_takeWhile_imp (p := fun c ↦ decide (c ≠ ':' ∧ c ≠ '/')) hc
  exact of_decide_eq_true h

/-- A URL spells its host exactly when the text behind the scheme begins with it. -/
theorem spellsHost_iff (h : Follows "://" url rest) :
    SpellsHost url host ↔
      handPiece rest ≠ [] ∧ normalizeHost (handPiece rest) = normalizeHost host := by
  constructor
  · rintro ⟨spelled, after, hfollows, hne, hslash, hcolon, hafter, hsame⟩
    have hrest : spelled ++ after = rest :=
      ((follows_iff (by decide)).mp hfollows).symm.trans ((follows_iff (by decide)).mp h)
    rw [← hrest, handPiece_append hslash hcolon hafter]
    exact ⟨hne, hsame⟩
  · rintro ⟨hne, hsame⟩
    refine ⟨handPiece rest, rest.dropWhile fun c ↦ c ≠ ':' ∧ c ≠ '/', ?_, hne, ?_, ?_, ?_, hsame⟩
    · rwa [handPiece, List.takeWhile_append_dropWhile]
    · exact fun hmem ↦ (mem_handPiece hmem).2 rfl
    · exact fun hmem ↦ (mem_handPiece hmem).1 rfl
    · intro c hc
      have hstop := List.head?_dropWhile_not (fun c ↦ decide (c ≠ ':' ∧ c ≠ '/')) rest
      rw [Option.mem_def.mp hc] at hstop
      have hnot := of_decide_eq_false hstop
      by_contra hother
      rw [not_or] at hother
      exact hnot ⟨hother.2, hother.1⟩

/-- Text without a colon before the first `://` is the scheme. -/
theorem follows_scheme {scheme : Str} (h : ':' ∉ scheme) :
    Follows "://" (scheme ++ "://" ++ rest) rest := by
  refine .found scheme rest rfl ?_
  rintro ⟨a, b, hab⟩
  have hcons : scheme ++ ':' :: ['/'] = a ++ ':' :: ('/' :: '/' :: b) := by
    rw [List.append_assoc] at hab
    exact hab.symm
  obtain ⟨-, -, htail⟩ := (List.append_cons_inj_of_notMem h (by decide)).mp hcons
  exact absurd htail (by simp)

end Piece

section Kinds

variable {url host rest : Str}

/-- A character that is not trimmed and has no case: a sign other than the dot, a digit, or any
character outside ASCII that is not blank. -/
def Steady (c : Char) : Prop := isWhitespace c = false ∧ c ≠ '.' ∧ c.isAlpha = false

theorem mem_dropWhile_iff {p : Char → Bool} {c : Char} (hc : p c = false) (s : Str) :
    c ∈ s.dropWhile p ↔ c ∈ s := by
  refine ⟨fun h ↦ (List.dropWhile_sublist p).mem h, fun h ↦ ?_⟩
  rw [← List.takeWhile_append_dropWhile (p := p) (l := s), List.mem_append] at h
  exact h.resolve_left fun htake ↦ Bool.noConfusion (hc.symm.trans (List.mem_takeWhile_imp htake))

theorem toLower_eq_iff_of_not_isAlpha {c : Char} (hc : c.isAlpha = false) (d : Char) :
    d.toLower = c ↔ d = c := by
  have hcase : ¬ (65 ≤ c.toNat ∧ c.toNat ≤ 90) ∧ ¬ (97 ≤ c.toNat ∧ c.toNat ≤ 122) := by
    replace hc : (c.isUpper || c.isLower) = false := hc
    rw [Bool.or_eq_false_iff] at hc
    refine ⟨fun h ↦ ?_, fun h ↦ ?_⟩
    · have hupper : c.isUpper = true := by
        show Decidable.decide _ = true
        rw [decide_eq_true_eq]
        exact h
      exact Bool.noConfusion (hc.1.symm.trans hupper)
    · have hlower : c.isLower = true := by
        show (Decidable.decide _ && Decidable.decide _) = true
        rw [Bool.and_eq_true, decide_eq_true_eq, decide_eq_true_eq]
        exact h
      exact Bool.noConfusion (hc.2.symm.trans hlower)
  rw [← Char.toNat_inj, ← Char.toNat_inj, toNat_toLower]
  split <;> omega

/-- Normalising neither removes nor makes such a character. -/
theorem mem_normalizeHost {c : Char} (hc : Steady c) (s : Str) : c ∈ normalizeHost s ↔ c ∈ s := by
  obtain ⟨hblank, hdot, halpha⟩ := hc
  rw [normalizeHost, toAsciiLowercase, List.mem_map]
  simp only [toLower_eq_iff_of_not_isAlpha halpha, exists_eq_right]
  rw [trimStartMatches, mem_dropWhile_iff (by simpa using hdot), trim, List.rdropWhile,
    List.mem_reverse, mem_dropWhile_iff hblank, List.mem_reverse, mem_dropWhile_iff hblank]

/-- Behind the scheme the extractor reads up to the first slash or colon: the user of a URL with a
password, or else the host with all that comes before and behind it. -/
theorem spellsHost_scheme_iff {scheme a after : Str} (hscheme : ':' ∉ scheme) (hslash : '/' ∉ a)
    (hcolon : ':' ∉ a) (hafter : ∀ c ∈ after.head?, c = '/' ∨ c = ':') :
    SpellsHost (scheme ++ "://" ++ (a ++ after)) host ↔
      a ≠ [] ∧ normalizeHost a = normalizeHost host := by
  rw [spellsHost_iff (follows_scheme hscheme), handPiece_append hslash hcolon hafter]

/-- A sign that the host does not have, read by the extractor, makes the two differ: that of user
info, of a query or a fragment, a backslash, or a character that the parser rewrites. -/
theorem not_spellsHost_of_mem {scheme a after : Str} {c : Char} (hscheme : ':' ∉ scheme)
    (hslash : '/' ∉ a) (hcolon : ':' ∉ a) (hafter : ∀ d ∈ after.head?, d = '/' ∨ d = ':')
    (hc : Steady c) (hmem : c ∈ a) (hhost : c ∉ host) :
    ¬ SpellsHost (scheme ++ "://" ++ (a ++ after)) host := by
  rw [spellsHost_scheme_iff hscheme hslash hcolon hafter]
  rintro ⟨-, hsame⟩
  rw [← mem_normalizeHost hc, ← hsame, mem_normalizeHost hc] at hhost
  exact hhost hmem

/-- A host with a colon, as IPv6 literals have it, is never extracted. -/
theorem not_spellsHost_of_colon (hhost : ':' ∈ host) : ¬ SpellsHost url host := by
  rintro ⟨spelled, after, -, -, -, hcolon, -, hsame⟩
  have hkept : Steady ':' := ⟨by decide, by decide, by decide⟩
  rw [← mem_normalizeHost hkept, hsame, mem_normalizeHost hkept] at hcolon
  exact hcolon hhost

end Kinds

/-- The extractor finds the host of the jar exactly when the URL spells it behind its scheme. -/
theorem urlHostStr_eq_urlHost_iff {U : UrlCrate} {url host : Str} {u : U.Url}
    (hparse : U.parse url = .ok u) (hhost : U.hostStr u = some host) :
    urlHostStr url = urlHost U url ↔ SpellsHost url host := by
  obtain ⟨rest, hrest⟩ : ∃ rest, Follows "://" url rest :=
    ⟨_, (follows_iff (by decide)).mpr rfl⟩
  have hjar : urlHost U url = some (normalizeHost host) := by
    rw [urlHost, hparse]
    exact congrArg (Option.map normalizeHost) hhost
  rw [urlHostStr_eq hrest, hjar, spellsHost_iff hrest]
  cases hempty : (handPiece rest).isEmpty with
  | true => simp [List.isEmpty_iff.mp hempty]
  | false =>
    have hne : handPiece rest ≠ [] := List.isEmpty_eq_false_iff.mp hempty
    simp [hne]

/-- A URL in lowercase with a path spells its host. -/
theorem urlHostStr_eq_urlHost_cart :
    urlHostStr "https://shop.example/cart" = urlHost .plain "https://shop.example/cart" := by
  have hplain : isPlainUrl "https://shop.example/cart" = true := by decide
  refine (urlHostStr_eq_urlHost_iff (UrlCrate.parse_plain hplain)
    (UrlCrate.hostStr_plain hplain rfl)).mpr ⟨"shop.example", "/cart", ?_⟩
  refine ⟨.found "https" _ rfl (by decide), by decide, by decide, by decide, fun c hc ↦ ?_, rfl⟩
  exact .inl (Option.some.inj hc).symm

/-- The URL crate at one shop, with and without a query. -/
def shopCrate : UrlCrate where
  Url := Bool
  parse s :=
    if s ∈ (["https://shop.example?id=1", "https://shop.example/?id=1"] : List Str) then .ok true
    else if s ∈ (["https://shop.example", "https://shop.example/"] : List Str) then .ok false
    else .error "relative URL without a base"
  hostStr _ := some "shop.example"
  path _ := "/"
  toStr query := if query then "https://shop.example/?id=1" else "https://shop.example/"
  dropFragment query := query
  dropQuery _ := false

/-- Without a slash the query is taken for a part of the host. -/
theorem urlHostStr_ne_urlHost_query :
    ¬ ∀ (U : UrlCrate) (url host : Str) (u : U.Url), U.Lawful → U.parse url = .ok u →
      U.hostStr u = some host → urlHostStr url = urlHost U url := by
  intro h
  have hlawful : shopCrate.Lawful := by
    refine ⟨fun u ↦ ?_, fun u host hhost ↦ ?_⟩
    · cases u <;> rfl
    · obtain rfl := Option.some.inj hhost
      exact List.all_iff_forall_prop.mp (by decide)
  have heq := h shopCrate "https://shop.example?id=1" "shop.example" true hlawful rfl rfl
  exact absurd heq (by decide)

end CrwShield.Server
