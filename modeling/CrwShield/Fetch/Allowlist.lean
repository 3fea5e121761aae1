import CrwShield.Fetch.Ladder

/-!
# The FlareSolverr allowlist

Crate `fetch`, `src/crates/fetch/src/flaresolverr.rs:80–171`: hosts are folded when the list is
built, wildcard suffixes are not, and a host is folded when it is looked up. The ladder asks the
solver only for listed hosts, `src/crates/fetch/src/ladder.rs:426–457`.
-/

open CrwShield.Base CrwShield.Base.Str CrwShield.Base.Hierarchy CrwShield.Antibot CrwShield.Core

namespace CrwShield.Fetch

/-- An entry admits a host: it is the host or a parent of it, or `*.` and a parent of it. -/
def EntryAdmits (entry host : Str) : Prop :=
  trim entry ≠ [] ∧
    (Under '.' (toAsciiLowercase host) (toAsciiLowercase (trim entry)) ∨
      ∃ suffix, toAsciiLowercase (trim entry) = "*." ++ suffix ∧
        '.' :: suffix <:+ toAsciiLowercase host)

/-- A wildcard with a capital. -/
def CapitalWildcard (entry : Str) : Prop :=
  startsWith "*." (trim entry) = true ∧ toAsciiLowercase (trim entry) ≠ trim entry

/-- Some entry of the list admits the host. -/
def Listed (entries : List Str) (host : Str) : Prop := ∃ entry ∈ entries, EntryAdmits entry host

namespace FlareSolverrAllowlist

/-- What the list keeps of an entry admits the host. -/
private def Keeps (entry host : Str) : Prop :=
  trim entry ≠ [] ∧
    if startsWith "*." (trim entry) then '.' :: (trim entry).drop 2 <:+ toAsciiLowercase host
    else Under '.' (toAsciiLowercase host) (toAsciiLowercase (trim entry))

private theorem isAllowed_iff {list : FlareSolverrAllowlist} {host : Str} :
    list.isAllowed host = true ↔ (∃ apex ∈ list.hosts, Under '.' (toAsciiLowercase host) apex) ∨
      ∃ suffix ∈ list.wildcards, suffix <:+ toAsciiLowercase host := by
  simp only [isAllowed, Bool.or_eq_true, List.contains_iff_mem, List.any_eq_true, endsWith,
    List.isSuffixOf_iff_suffix, Under]
  refine or_congr_left ?_
  constructor
  · rintro (h | ⟨apex, hapex, h⟩)
    · exact ⟨_, h, .inl rfl⟩
    · exact ⟨apex, hapex, .inr h⟩
  · rintro ⟨apex, hapex, rfl | h⟩
    · exact .inl hapex
    · exact .inr ⟨apex, hapex, h⟩

private theorem isAllowed_add (list : FlareSolverrAllowlist) (entry host : Str) :
    (list.add entry).isAllowed host = true ↔ list.isAllowed host = true ∨ Keeps entry host := by
  unfold add Keeps
  by_cases hempty : trim entry = []
  · simp [hempty]
  · rw [if_neg (by simpa using hempty)]
    by_cases hwild : startsWith "*." (trim entry) = true
    · simp only [hwild, if_true, isAllowed_iff, List.mem_append, List.mem_singleton,
        or_and_right, exists_or, exists_eq_left, ne_eq, hempty, not_false_eq_true, true_and,
        or_assoc]
    · simp only [hwild, Bool.false_eq_true, if_false, isAllowed_iff, List.mem_insert_iff,
        or_and_right, exists_or, exists_eq_left, ne_eq, hempty, not_false_eq_true, true_and]
      rw [or_assoc, or_comm]

/-- A list built from entries allows what one of them, as kept, admits. -/
private theorem isAllowed_fromHosts (entries : List Str) (host : Str) :
    (fromHosts entries).isAllowed host = true ↔ ∃ entry ∈ entries, Keeps entry host := by
  have hfold (list : FlareSolverrAllowlist) : (entries.foldl add list).isAllowed host = true ↔
      list.isAllowed host = true ∨ ∃ entry ∈ entries, Keeps entry host := by
    induction entries generalizing list with
    | nil => simp
    | cons entry entries ih =>
      rw [List.foldl_cons, ih, isAllowed_add, or_assoc]
      simp only [List.exists_mem_cons_iff]
  rw [fromHosts, hfold]
  simp [empty, isAllowed]

private theorem wildcard_fold {entry : Str} :
    startsWith "*." (trim entry) = true ↔
      ∃ suffix, toAsciiLowercase (trim entry) = "*." ++ suffix := by
  rw [startsWith, List.isPrefixOf_iff_prefix]
  constructor
  · rintro ⟨suffix, h⟩
    exact ⟨toAsciiLowercase suffix, by rw [← h]; rfl⟩
  · rintro ⟨suffix, h⟩
    match trim entry, h with
    | [_], h => exact absurd (List.cons.inj h).2 nofun
    | c :: d :: rest, h =>
      obtain ⟨hc, htail⟩ := List.cons.inj h
      obtain ⟨hd, -⟩ := List.cons.inj htail
      rw [toLower_eq_iff (by decide)] at hc hd
      rw [hc, hd]
      exact ⟨rest, rfl⟩

/-- What is kept of an entry admits what the entry admits, unless it is a wildcard with a
capital. -/
private theorem keeps_iff {entry host : Str} :
    Keeps entry host ↔ ¬ CapitalWildcard entry ∧ EntryAdmits entry host := by
  unfold Keeps CapitalWildcard EntryAdmits
  by_cases hwild : startsWith "*." (trim entry) = true
  · obtain ⟨rest, hrest⟩ := List.isPrefixOf_iff_prefix.mp hwild
    rw [← hrest] at hwild ⊢
    have hfold : toAsciiLowercase ("*." ++ rest) = "*." ++ toAsciiLowercase rest := rfl
    have hdrop : List.drop 2 (("*." : Str) ++ rest) = rest := rfl
    simp only [hwild, if_true, true_and, hdrop, hfold, List.append_cancel_left_eq, ne_eq, not_not]
    constructor
    · rintro ⟨hne, h⟩
      have hlower := (List.cons.inj (toAsciiLowercase_of_suffix h)).2
      exact ⟨hlower, hne, .inr ⟨rest, hlower, h⟩⟩
    · rintro ⟨hlower, hne, h⟩
      refine ⟨hne, ?_⟩
      have hstar : '.' :: rest <:+ "*." ++ rest := List.suffix_cons '*' ('.' :: rest)
      rw [hlower] at h
      rcases h with (h | h) | ⟨suffix, h, hsuffix⟩
      · rw [h]
        exact hstar
      · exact (hstar.trans (List.suffix_cons '.' _)).trans h
      · rwa [h]
  · simp only [hwild, Bool.false_eq_true, if_false, false_and, not_false_eq_true, true_and]
    refine and_congr_right fun _ ↦ ?_
    constructor
    · exact .inl
    · rintro (h | ⟨suffix, h, -⟩)
      · exact h
      · exact absurd (wildcard_fold.mpr ⟨suffix, h⟩) hwild

/-- A host is allowed only if it is listed. -/
theorem listed_of_isAllowed {entries : List Str} {host : Str}
    (h : (fromHosts entries).isAllowed host = true) : Listed entries host := by
  obtain ⟨entry, hentry, hkeeps⟩ := (isAllowed_fromHosts entries host).mp h
  exact ⟨entry, hentry, (keeps_iff.mp hkeeps).2⟩

/-- A list allows exactly the listed hosts, unless the only entries that admit the host are
wildcards with a capital. -/
theorem isAllowed_iff_listed_iff (entries : List Str) (host : Str) :
    ((fromHosts entries).isAllowed host = true ↔ Listed entries host) ↔
      ((∃ entry ∈ entries, CapitalWildcard entry ∧ EntryAdmits entry host) →
        ∃ entry ∈ entries, ¬ CapitalWildcard entry ∧ EntryAdmits entry host) := by
  rw [isAllowed_fromHosts]
  simp only [keeps_iff]
  constructor
  · rintro h ⟨entry, hentry, -, hadmits⟩
    exact h.mpr ⟨entry, hentry, hadmits⟩
  · intro h
    constructor
    · rintro ⟨entry, hentry, -, hadmits⟩
      exact ⟨entry, hentry, hadmits⟩
    · rintro ⟨entry, hentry, hadmits⟩
      by_cases hcapital : CapitalWildcard entry
      · exact h ⟨entry, hentry, hcapital, hadmits⟩
      · exact ⟨entry, hentry, hcapital, hadmits⟩

end FlareSolverrAllowlist

section Ladder

universe u
variable {ω : Type u}

/-- Without a listed host nothing is asked of the solver, whatever it would answer. -/
theorem tryFlaresolverr_unlisted {entries : List Str} {url : Str} {U : UrlCrate}
    (h : ¬ ∃ host, (U.parse url).toOption.bind U.hostStr = some host ∧ Listed entries host)
    (B : Backends ω) (ladder : FetchLadder) (request : ScrapeRequest) (fromCdp : Bool)
    (env : Env ω) :
    (ladder.withFlaresolverrAllowlist (.fromHosts entries)).tryFlaresolverr B U url request fromCdp
      env = (.ok none, env) := by
  unfold FetchLadder.tryFlaresolverr
  cases hhost : (U.parse url).toOption.bind U.hostStr with
  | none => rfl
  | some host =>
    have hdenied : (FlareSolverrAllowlist.fromHosts entries).isAllowed host = false := by
      rw [← Bool.not_eq_true]
      exact fun hallowed ↦
        h ⟨host, hhost, FlareSolverrAllowlist.listed_of_isAllowed hallowed⟩
    simp [FetchLadder.withFlaresolverrAllowlist, hdenied]

/-- The list allows exactly the listed hosts unless only wildcards with a capital admit the host,
and the ladder leaves the solver alone for every URL without a listed host. -/
theorem allowlist_semantics_iff :
    (∀ (entries : List Str) (host : Str),
      ((FlareSolverrAllowlist.fromHosts entries).isAllowed host = true ↔ Listed entries host) ↔
        ((∃ entry ∈ entries, CapitalWildcard entry ∧ EntryAdmits entry host) →
          ∃ entry ∈ entries, ¬ CapitalWildcard entry ∧ EntryAdmits entry host)) ∧
    ∀ (B : Backends ω) (U : UrlCrate) (ladder : FetchLadder) (entries : List Str) (url : Str)
      (request : ScrapeRequest) (fromCdp : Bool) (env : Env ω),
      (¬ ∃ host, (U.parse url).toOption.bind U.hostStr = some host ∧ Listed entries host) →
        (ladder.withFlaresolverrAllowlist (.fromHosts entries)).tryFlaresolverr B U url request
          fromCdp env = (.ok none, env) :=
  ⟨FlareSolverrAllowlist.isAllowed_iff_listed_iff,
    fun B _ ladder _ _ request fromCdp env h ↦
      tryFlaresolverr_unlisted h B ladder request fromCdp env⟩

end Ladder

/-- A list with one host, and a URL that does not parse. -/
theorem allowlist_semantics_nowsecure :
    ((FlareSolverrAllowlist.fromHosts ["nowsecure.nl"]).isAllowed "www.nowsecure.nl" = true ↔
        Listed ["nowsecure.nl"] "www.nowsecure.nl") ∧
    ((FetchLadder.new ⟨0, true⟩ none
        (some ⟨"http://127.0.0.1:8191/v1"⟩)).withFlaresolverrAllowlist
          (.fromHosts ["nowsecure.nl"])).tryFlaresolverr
        (.constant (.error (.fetch "refused")) (.error (.fetch "refused"))) .plain "nowsecure"
        (.defaultForUrl "nowsecure") false (⟨fun _ ↦ .new, ()⟩ : Env Unit) =
      (.ok none, ⟨fun _ ↦ .new, ()⟩) := by
  constructor
  · refine (allowlist_semantics_iff (ω := Unit)).1 _ _ |>.mpr ?_
    rintro ⟨entry, hentry, hcapital, -⟩
    obtain rfl := List.mem_singleton.mp hentry
    exact absurd hcapital.1 (by decide)
  · refine allowlist_semantics_iff.2 _ _ _ _ _ _ _ _ ?_
    rintro ⟨host, hhost, -⟩
    have hparse : (UrlCrate.plain.parse "nowsecure").toOption = none := by
      have hplain : isPlainUrl "nowsecure" = false := by decide
      simp only [UrlCrate.plain, hplain, Bool.false_eq_true, dif_neg, not_false_eq_true]
      rfl
    rw [hparse] at hhost
    exact absurd hhost (by simp)

/-- A wildcard with a capital admits no host. -/
theorem capitalWildcard_not_allowed :
    ¬ ∀ (entries : List Str) (host : Str),
      (FlareSolverrAllowlist.fromHosts entries).isAllowed host = true ↔ Listed entries host := by
  intro h
  have hlisted : Listed ["*.Kasada.io"] "www.kasada.io" :=
    ⟨_, List.mem_cons_self, by decide,
      .inr ⟨"kasada.io", by decide, ⟨"www", by decide⟩⟩⟩
  have hallowed := (h _ _).mpr hlisted
  exact absurd hallowed (by decide)

end CrwShield.Fetch
