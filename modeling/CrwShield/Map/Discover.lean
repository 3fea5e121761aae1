import CrwShield.Base.Collect
import CrwShield.Base.UrlCrate
import CrwShield.Map.Sitemap

/-!
# Discovery of a site's links

`discover` of `src/crates/map/src/lib.rs`: sitemaps, child sitemaps and the seed page are fetched
one after the other, and their links collected under one set of URLs seen. Requests go to the
network, which is the state that is handed on.
-/

open CrwShield.Base CrwShield.Base.Str CrwShield.Core

namespace CrwShield.Map

universe u

/-- Operations of `url::Url` that only this crate uses. -/
structure MapUrlCrate extends UrlCrate where
  /-- `Url::has_authority`. -/
  hasAuthority : Url → Bool
  /-- `Url::join`; none when the reference does not parse. -/
  join : Url → Str → Option Url
  /-- `Url::scheme`. -/
  scheme : Url → Str
  /-- `Url::fragment`. -/
  fragment : Url → Option Str
  /-- `Url::query`. -/
  query : Url → Option Str

/-- Documented behaviour of the setters. -/
structure MapUrlCrate.Lawful (U : MapUrlCrate) : Prop extends U.toUrlCrate.Lawful where
  hostStr_dropFragment : ∀ u, U.hostStr (U.dropFragment u) = U.hostStr u
  hostStr_dropQuery : ∀ u, U.hostStr (U.dropQuery u) = U.hostStr u
  fragment_dropFragment : ∀ u, U.fragment (U.dropFragment u) = none
  fragment_dropQuery : ∀ u, U.fragment (U.dropQuery u) = U.fragment u
  query_dropQuery : ∀ u, U.query (U.dropQuery u) = none

/-- What the crate uses from outside. -/
structure MapEnv (ω : Type u) where
  U : MapUrlCrate
  reader : XmlReader
  /-- Send a `GET`: the error text, or the status, its display, and the text of the body. -/
  get : Str → ω → Except Str (Nat × Str × Except Str Str) × ω
  /-- `extract_links` of the crate `extract`, from a page and its URL. -/
  extractLinks : Str → Str → List Str

variable {ω : Type u} (E : MapEnv ω) (req : MapRequest)

/-- Body of a URL; `lib.rs:136–156`. -/
def fetchText (url : Str) (w : ω) : Except CrwError Str × ω :=
  match E.get url w with
  | (.error e, w) => (.error (.fetch e), w)
  | (.ok (status, statusText, text), w) =>
    if ¬ (200 ≤ status ∧ status < 300) then
      (.error (.http status ("HTTP " ++ statusText ++ " for " ++ url)), w)
    else (text.mapError .fetch, w)

/-- Whether a URL is on the seed's host or below it; `lib.rs:158–171`. -/
def inScope (seed candidate : E.U.Url) (includeSubdomains : Bool) : Bool :=
  match E.U.hostStr seed, E.U.hostStr candidate with
  | some s, some c =>
    if s = c then true
    else if includeSubdomains && endsWith ("." ++ s) c then true
    else false
  | _, _ => false

/-- A URL in the form in which it is collected; `lib.rs:173–181`. -/
def normalizeForDedupe (raw : Str) (ignoreQueryParameters : Bool) : Option Str :=
  match E.U.parse raw with
  | .error _ => none
  | .ok parsed =>
    let cloned := E.U.dropFragment parsed
    some (E.U.toStr (if ignoreQueryParameters then E.U.dropQuery cloned else cloned))

/-- A `<loc>` resolved against the URL of a sitemap; `lib.rs:185–194`. -/
def resolveAgainst (loc base : Str) : Option Str :=
  let joined :=
    match E.U.parse base with
    | .error _ => none
    | .ok b => (E.U.join b loc).map E.U.toStr
  match E.U.parse loc with
  | .ok u => if E.U.hasAuthority u then some (E.U.toStr u) else joined
  | .error _ => joined

/-- The links collected and the set of their URLs. -/
structure Collected where
  collected : List MapLink
  seen : List Str

/-- Collect a URL that was not seen; `lib.rs:208–222`. -/
def push (acc : Collected) (raw : Str) (ignoreQuery : Bool) : Collected :=
  match normalizeForDedupe E raw ignoreQuery with
  | none => acc
  | some norm =>
    if norm ∈ acc.seen then acc
    else ⟨acc.collected ++ [⟨norm, none, none⟩], acc.seen ++ [norm]⟩

/-- A `<loc>` as the URL that is considered, or as it stands when it does not resolve;
`lib.rs:235–237`. -/
def resolvedLoc (sitemapUrl : Str) (link : MapLink) : Str :=
  (resolveAgainst E link.url sitemapUrl).getD link.url

/-- One link of a sitemap; `lib.rs:235–250` and `lib.rs:268–281`. -/
def pushLoc (seed : E.U.Url) (sitemapUrl : Str) (acc : Collected) (link : MapLink) : Collected :=
  let resolved := resolvedLoc E sitemapUrl link
  match E.U.parse resolved with
  | .ok p =>
    if !inScope E seed p req.includeSubdomains then acc
    else push E acc resolved req.ignoreQueryParameters
  | .error _ => push E acc resolved req.ignoreQueryParameters

/-- One child sitemap; `lib.rs:232–257`. -/
def visitChild (seed : E.U.Url) (sitemapUrl : Str) (acc : Collected × ω) (child : Str) :
    Collected × ω :=
  match fetchText E child acc.2 with
  | (.error _, w) => (acc.1, w)
  | (.ok childBody, w) =>
    match parseSitemap E.reader childBody with
    | .error _ => (acc.1, w)
    | .ok links => (links.foldl (pushLoc E req seed sitemapUrl) acc.1, w)

/-- One sitemap; `lib.rs:226–293`. -/
def visitSitemap (seed : E.U.Url) (acc : Collected × ω) (sitemapUrl : Str) : Collected × ω :=
  match fetchText E sitemapUrl acc.2 with
  | (.error _, w) => (acc.1, w)
  | (.ok body, w) =>
    if looksLikeSitemapIndex body then
      match parseSitemapIndex E.reader body with
      | .error _ => (acc.1, w)
      | .ok children => children.foldl (visitChild E req seed sitemapUrl) (acc.1, w)
    else
      match parseSitemap E.reader body with
      | .error _ => (acc.1, w)
      | .ok links => (links.foldl (pushLoc E req seed sitemapUrl) acc.1, w)

/-- One link of the seed page; `lib.rs:301–313`. -/
def pushLink (seed : E.U.Url) (acc : Collected) (link : Str) : Collected :=
  match E.U.parse link with
  | .error _ => acc
  | .ok parsed =>
    if !inScope E seed parsed req.includeSubdomains then acc
    else push E acc link req.ignoreQueryParameters

/-- Sitemaps to try; `lib.rs:342–353`. -/
def sitemapCandidateUrls (seed : E.U.Url) : List Str :=
  ((E.U.join seed "sitemap.xml").map fun s ↦ E.U.toStr (E.U.dropFragment s)).toList ++
    ((E.U.hostStr seed).map fun host ↦ E.U.scheme seed ++ "://" ++ host ++ "/sitemap.xml").toList

/-- The seed page; `lib.rs:298–319`. -/
def visitSeed (seed : E.U.Url) (acc : Collected × ω) : Collected × ω :=
  match fetchText E (trimEndMatches '/' req.url) acc.2 with
  | (.error _, w) => (acc.1, w)
  | (.ok body, w) =>
    ((E.extractLinks body (E.U.toStr seed)).foldl (pushLink E req seed) acc.1, w)

/-- Links that contain the search text, when there is one; `lib.rs:322–327`. -/
def retainSearched (collected : List MapLink) : List MapLink :=
  match req.search with
  | none => collected
  | some search =>
    let needle := toAsciiLowercase search
    if needle.isEmpty then collected
    else collected.filter fun link ↦ contains needle (toAsciiLowercase link.url)

/-- Links of a site; `lib.rs:202–337`. -/
def discover (w : ω) : Except CrwError MapResponse × ω :=
  match E.U.parse req.url with
  | .error e => (.error (.invalidUrl e), w)
  | .ok seed =>
    let acc : Collected × ω := (⟨[], []⟩, w)
    let acc :=
      if req.sitemap ≠ .skip then
        (sitemapCandidateUrls E seed).foldl (visitSitemap E req seed) acc
      else acc
    let acc := if req.sitemap ≠ .only then visitSeed E req seed acc else acc
    let collected := retainSearched req acc.1.collected
    (.ok ⟨true, if req.limit < collected.length then collected.take req.limit else collected⟩,
      acc.2)

section Found

/-- The resolved `<loc>` values of a sitemap that came back and parses. -/
def locsOf (sitemapUrl : Str) : Except CrwError Str → List Str
  | .error _ => []
  | .ok body =>
    match parseSitemap E.reader body with
    | .error _ => []
    | .ok links => links.map (resolvedLoc E sitemapUrl)

/-- The resolved `<loc>` values of one sitemap, or of all child sitemaps of an index. -/
def sitemapLocs (sitemapUrl : Str) (w : ω) : List Str × ω :=
  match fetchText E sitemapUrl w with
  | (.error _, w) => ([], w)
  | (.ok body, w) =>
    if looksLikeSitemapIndex body then
      let children := (parseSitemapIndex E.reader body).toOption.getD []
      flatMapThreaded (fun child w ↦
        let (fetched, w) := fetchText E child w
        (locsOf E sitemapUrl fetched, w)) children w
    else (locsOf E sitemapUrl (.ok body), w)

/-- The links of the seed page. -/
def seedLinks (seed : E.U.Url) (w : ω) : List Str × ω :=
  match fetchText E (trimEndMatches '/' req.url) w with
  | (.error _, w) => ([], w)
  | (.ok body, w) => (E.extractLinks body (E.U.toStr seed), w)

/-- Everything that the sitemaps and then the seed page yield. -/
def foundLinks (seed : E.U.Url) (w : ω) : List Str × ω :=
  let (locs, w) :=
    if req.sitemap = .skip then ([], w)
    else flatMapThreaded (sitemapLocs E) (sitemapCandidateUrls E seed) w
  let (links, w) := if req.sitemap = .only then ([], w) else seedLinks E req seed w
  (locs ++ links, w)

/-- A URL on the seed's host or, where subdomains are included, on a host below it. -/
def InScope (seed candidate : E.U.Url) : Prop :=
  ∃ s c, E.U.hostStr seed = some s ∧ E.U.hostStr candidate = some c ∧
    (c = s ∨ (req.includeSubdomains = true ∧ ∃ label, c = label ++ "." ++ s))

/-- The text occurs up to the case of ASCII letters; a serialized URL has no others. -/
def OccursIn (needle text : Str) : Prop :=
  ∃ word, word <:+: text ∧ word.map Char.toLower = needle.map Char.toLower

/-- A URL contains the search text, if one is given. -/
def Searched (url : Str) : Prop := ∀ search ∈ req.search, OccursIn search url

end Found

variable {E req}

theorem inScope_iff {seed candidate : E.U.Url} :
    inScope E seed candidate req.includeSubdomains = true ↔ InScope E req seed candidate := by
  unfold inScope InScope
  cases E.U.hostStr seed with
  | none => simp
  | some s =>
    cases E.U.hostStr candidate with
    | none => simp
    | some c =>
      have hends : endsWith ("." ++ s) c = true ↔ ∃ label, c = label ++ "." ++ s := by
        unfold endsWith
        rw [List.isSuffixOf_iff_suffix]
        refine exists_congr fun label ↦ ?_
        rw [List.append_assoc, eq_comm]
      simp only [Option.some.injEq, exists_and_left, exists_eq_left', ← hends]
      by_cases hsame : s = c
      · simp [hsame]
      · have hne : ¬ c = s := Ne.symm hsame
        rw [if_neg hsame, Bool.if_false_right, Bool.and_true]
        simp [hne]

theorem occursIn_iff {needle text : Str} :
    OccursIn needle text ↔ contains (toAsciiLowercase needle) (toAsciiLowercase text) = true := by
  rw [contains_iff]
  unfold OccursIn toAsciiLowercase
  constructor
  · rintro ⟨word, hword, hlower⟩
    rw [← hlower]
    exact hword.map _
  · rintro ⟨pre, post, h⟩
    obtain ⟨front, rest, rfl, hfront, hrest⟩ := List.map_eq_append_iff.mp h.symm
    obtain ⟨before, word, rfl, -, hword⟩ := List.map_eq_append_iff.mp hfront
    exact ⟨word, ⟨before, rest, rfl⟩, hword⟩

instance (seed candidate : E.U.Url) : Decidable (InScope E req seed candidate) :=
  decidable_of_iff _ inScope_iff

instance (needle text : Str) : Decidable (OccursIn needle text) :=
  decidable_of_iff _ occursIn_iff.symm

instance (url : Str) : Decidable (Searched req url) :=
  inferInstanceAs (Decidable (∀ search ∈ req.search, OccursIn search url))

variable (E req) in
/-- The normalized form of a link that parses and is in scope. -/
def admitted (seed : E.U.Url) (link : Str) : Option Str :=
  match E.U.parse link with
  | .error _ => none
  | .ok u =>
    if InScope E req seed u then
      let u := E.U.dropFragment u
      some (E.U.toStr (if req.ignoreQueryParameters then E.U.dropQuery u else u))
    else none

variable {seed : E.U.Url}

/-- A `<loc>` that does not parse is not collected either, as a link of the page is not. -/
theorem pushLoc_eq (sitemapUrl : Str) (acc : Collected) (link : MapLink) :
    pushLoc E req seed sitemapUrl acc link =
      pushLink E req seed acc (resolvedLoc E sitemapUrl link) := by
  unfold pushLoc pushLink
  cases hparse : E.U.parse (resolvedLoc E sitemapUrl link) with
  | ok p => simp only [hparse]
  | error e => simp only [hparse, push, normalizeForDedupe]

theorem foldl_pushLoc (sitemapUrl : Str) (acc : Collected) (links : List MapLink) :
    links.foldl (pushLoc E req seed sitemapUrl) acc =
      (links.map (resolvedLoc E sitemapUrl)).foldl (pushLink E req seed) acc := by
  rw [List.foldl_map]
  exact congrArg (fun f ↦ links.foldl f acc)
    (funext fun acc ↦ funext fun link ↦ pushLoc_eq sitemapUrl acc link)

theorem visitChild_eq (sitemapUrl : Str) (acc : Collected) (w : ω) (child : Str) :
    visitChild E req seed sitemapUrl (acc, w) child =
      ((locsOf E sitemapUrl (fetchText E child w).1).foldl (pushLink E req seed) acc,
        (fetchText E child w).2) := by
  unfold visitChild locsOf
  rcases fetchText E child w with ⟨_ | childBody, w'⟩
  · rfl
  · cases hp : parseSitemap E.reader childBody with
    | error e => simp only [hp, List.foldl_nil]
    | ok links => simp only [hp, foldl_pushLoc]

theorem visitSitemap_eq (acc : Collected) (w : ω) (sitemapUrl : Str) :
    visitSitemap E req seed (acc, w) sitemapUrl =
      ((sitemapLocs E sitemapUrl w).1.foldl (pushLink E req seed) acc,
        (sitemapLocs E sitemapUrl w).2) := by
  unfold visitSitemap sitemapLocs
  rcases fetchText E sitemapUrl w with ⟨_ | body, w'⟩
  · rfl
  · dsimp only
    split
    · cases parseSitemapIndex E.reader body with
      | error e => rfl
      | ok children => exact foldl_threaded (visitChild_eq sitemapUrl) children acc w'
    · unfold locsOf
      cases hp : parseSitemap E.reader body with
      | error e => simp only [hp, List.foldl_nil]
      | ok links => simp only [hp, foldl_pushLoc]

theorem visitSeed_eq (acc : Collected) (w : ω) :
    visitSeed E req seed (acc, w) =
      ((seedLinks E req seed w).1.foldl (pushLink E req seed) acc, (seedLinks E req seed w).2) := by
  unfold visitSeed seedLinks
  rcases fetchText E (trimEndMatches '/' req.url) w with ⟨_ | body, w'⟩
  · rfl
  · rfl

/-- The links of a list of URLs, all of them seen. -/
def Collected.ofUrls (urls : List Str) : Collected :=
  ⟨urls.map fun url ↦ ⟨url, none, none⟩, urls⟩

theorem pushLink_ofUrls (urls : List Str) (link : Str) :
    pushLink E req seed (.ofUrls urls) link =
      .ofUrls ((admitted E req seed link).elim urls (appendNew urls)) := by
  unfold pushLink admitted push normalizeForDedupe
  cases hparse : E.U.parse link with
  | error e => rfl
  | ok u =>
    dsimp only
    cases hscope : inScope E seed u req.includeSubdomains with
    | false =>
      have hout : ¬ InScope E req seed u := fun h ↦ absurd (inScope_iff.mpr h) (by simp [hscope])
      rw [if_neg hout]
      rfl
    | true =>
      rw [if_pos (inScope_iff.mp hscope)]
      simp only [Bool.not_true, Bool.false_eq_true, if_false, Option.elim_some, appendNew]
      generalize E.U.toStr _ = norm
      by_cases hseen : norm ∈ urls
      · rw [if_pos hseen, if_pos (show norm ∈ (Collected.ofUrls urls).seen from hseen)]
      · rw [if_neg hseen, if_neg (show norm ∉ (Collected.ofUrls urls).seen from hseen)]
        simp [Collected.ofUrls]

theorem foldl_pushLink (urls links : List Str) :
    links.foldl (pushLink E req seed) (.ofUrls urls) =
      .ofUrls ((links.filterMap (admitted E req seed)).foldl appendNew urls) := by
  induction links generalizing urls with
  | nil => rfl
  | cons link links ih =>
    rw [List.foldl_cons, pushLink_ofUrls, ih, List.filterMap_cons]
    cases admitted E req seed link with
    | none => rfl
    | some norm => rfl

theorem retainSearched_ofUrls (urls : List Str) :
    retainSearched req (Collected.ofUrls urls).collected =
      (Collected.ofUrls (urls.filter fun url ↦ Searched req url)).collected := by
  unfold retainSearched
  cases hsearch : req.search with
  | none =>
    have hall : ∀ url ∈ urls, decide (Searched req url) = true := by simp [Searched, hsearch]
    rw [List.filter_eq_self.mpr hall]
  | some search =>
    have hiff : ∀ url, Searched req url ↔ OccursIn search url := by simp [Searched, hsearch]
    dsimp only
    split
    next hempty =>
      have hall : ∀ url ∈ urls, decide (Searched req url) = true := by
        intro url _
        rw [decide_eq_true_iff, hiff, occursIn_iff, contains_iff, List.isEmpty_iff.mp hempty]
        exact List.nil_infix
      rw [List.filter_eq_self.mpr hall]
    next hne =>
      unfold Collected.ofUrls
      rw [List.filter_map]
      refine congrArg _ (List.filter_congr fun url _ ↦ ?_)
      rw [Bool.eq_iff_iff, decide_eq_true_iff, hiff, occursIn_iff]
      rfl

/-- What a map returns for a seed: distinct normalized links in scope that contain the search text,
the first of all those found. -/
structure MapsExactly (E : MapEnv ω) (req : MapRequest) (seed : E.U.Url) (found urls : List Str) :
    Prop where
  nodup : urls.Nodup
  inScope : ∀ url ∈ urls, ∃ u, E.U.parse url = .ok u ∧ InScope E req seed u
  normalized : ∀ url ∈ urls, ∃ u, E.U.parse url = .ok u ∧ E.U.fragment u = none ∧
    (req.ignoreQueryParameters = true → E.U.query u = none)
  searched : ∀ url ∈ urls, Searched req url
  first : urls = (((found.filterMap (admitted E req seed)).filter fun url ↦
    Searched req url).eraseDups).take req.limit

theorem discover_of_seed {w : ω} (hseed : E.U.parse req.url = .ok seed) :
    discover E req w = (.ok ⟨true, (retainSearched req (Collected.ofUrls
      (((foundLinks E req seed w).1.filterMap (admitted E req seed)).eraseDups)).collected).take
        req.limit⟩, (foundLinks E req seed w).2) := by
  have htake : ∀ links : List MapLink,
      (if req.limit < links.length then links.take req.limit else links) =
        links.take req.limit := by
    intro links
    split
    · rfl
    next h => rw [List.take_of_length_le (Nat.le_of_not_lt h)]
  have hsitemaps : (sitemapCandidateUrls E seed).foldl (visitSitemap E req seed) (⟨[], []⟩, w) =
      ((flatMapThreaded (sitemapLocs E) (sitemapCandidateUrls E seed) w).1.foldl
          (pushLink E req seed) ⟨[], []⟩,
        (flatMapThreaded (sitemapLocs E) (sitemapCandidateUrls E seed) w).2) :=
    foldl_threaded visitSitemap_eq _ _ _
  have hcollect : ∀ links : List Str, links.foldl (pushLink E req seed) ⟨[], []⟩ =
      .ofUrls ((links.filterMap (admitted E req seed)).eraseDups) := fun links ↦
    (foldl_pushLink [] links).trans (congrArg Collected.ofUrls (foldl_appendNew_nil _))
  rw [← hcollect]
  unfold discover foundLinks
  simp only [hseed, htake, hsitemaps]
  cases hmode : req.sitemap with
  | skip => simp [visitSeed_eq]
  | includeSitemap => simp [visitSeed_eq]
  | only => simp

theorem mem_admitted {found : List Str} {url : Str}
    (h : url ∈ found.filterMap (admitted E req seed)) :
    ∃ u, InScope E req seed u ∧
      let u := E.U.dropFragment u
      url = E.U.toStr (if req.ignoreQueryParameters then E.U.dropQuery u else u) := by
  obtain ⟨link, -, hlink⟩ := List.mem_filterMap.mp h
  unfold admitted at hlink
  split at hlink
  · exact absurd hlink (by simp)
  · next u _ =>
    split at hlink
    next hscope => exact ⟨u, hscope, (Option.some.inj hlink).symm⟩
    next => exact absurd hlink (by simp)

/-- A map returns links exactly when the seed parses, and then the first of all admissible links
found. -/
theorem discover_exact (hU : E.U.Lawful) (w : ω) :
    (∀ e, E.U.parse req.url = .error e → discover E req w = (.error (.invalidUrl e), w)) ∧
    ∀ seed, E.U.parse req.url = .ok seed →
      ∃ links w', discover E req w = (.ok ⟨true, links⟩, w') ∧
        MapsExactly E req seed (foundLinks E req seed w).1 (links.map MapLink.url) := by
  refine ⟨fun e he ↦ by unfold discover; rw [he], fun seed hseed ↦ ?_⟩
  refine ⟨_, _, discover_of_seed hseed, ?_⟩
  generalize (foundLinks E req seed w).1 = found
  have hurls : ((retainSearched req (Collected.ofUrls ((found.filterMap
      (admitted E req seed)).eraseDups)).collected).take req.limit).map MapLink.url =
      (((found.filterMap (admitted E req seed)).filter fun url ↦
        Searched req url).eraseDups).take req.limit := by
    rw [retainSearched_ofUrls, ← filter_eraseDups, List.map_take]
    simp [Collected.ofUrls, Function.comp_def]
  have hmem : ∀ url ∈ ((retainSearched req (Collected.ofUrls ((found.filterMap
      (admitted E req seed)).eraseDups)).collected).take req.limit).map MapLink.url,
      url ∈ found.filterMap (admitted E req seed) ∧ Searched req url := by
    intro url hurl
    rw [hurls] at hurl
    have hfound := List.mem_filter.mp (List.mem_eraseDups.mp (List.mem_of_mem_take hurl))
    exact ⟨hfound.1, of_decide_eq_true hfound.2⟩
  constructor
  case nodup =>
    rw [hurls]
    exact (nodup_eraseDups _).sublist (List.take_sublist _ _)
  case inScope =>
    intro url hurl
    obtain ⟨u, ⟨s, c, hs, hc, hsub⟩, rfl⟩ := mem_admitted (hmem url hurl).1
    refine ⟨_, hU.parse_toStr _, s, c, hs, ?_, hsub⟩
    split
    · rw [hU.hostStr_dropQuery, hU.hostStr_dropFragment, hc]
    · rw [hU.hostStr_dropFragment, hc]
  case normalized =>
    intro url hurl
    obtain ⟨u, -, rfl⟩ := mem_admitted (hmem url hurl).1
    refine ⟨_, hU.parse_toStr _, ?_⟩
    split
    next =>
      refine ⟨?_, fun _ ↦ hU.query_dropQuery _⟩
      rw [hU.fragment_dropQuery, hU.fragment_dropFragment]
    next hkeep => exact ⟨hU.fragment_dropFragment _, fun hdrop ↦ absurd hdrop hkeep⟩
  case searched => exact fun url hurl ↦ (hmem url hurl).2
  case first => exact hurls

/-- An `https` URL with a lowercase host whose path every parser leaves as it is. -/
def isFileUrl (s : Str) : Bool :=
  let path := (s.drop 8).drop (plainHost s).length
  startsWith "https://" s && !(plainHost s).isEmpty &&
    (plainHost s).all (fun c ↦ c.isLower || c.isDigit || c == '.' || c == '-') &&
    path.head? == some '/' && !contains "/." path &&
    path.all fun c ↦ c.isAlphanum || c == '/' || c == '-' || c == '_' || c == '.'

/-- The operations of `url::Url` on such URLs, and on references beside them. -/
def MapUrlCrate.files : MapUrlCrate where
  Url := { s : Str // isFileUrl s = true }
  parse s := if h : isFileUrl s = true then .ok ⟨s, h⟩ else .error "relative URL without a base"
  hostStr u := some (plainHost u.val)
  path u := (u.val.drop 8).drop (plainHost u.val).length
  toStr u := u.val
  dropFragment u := u
  dropQuery u := u
  hasAuthority _ := true
  join u s :=
    let beside := u.val.rdropWhile (· != '/') ++ s
    if h : isFileUrl s = true then some ⟨s, h⟩
    else if h : isFileUrl beside = true then some ⟨beside, h⟩
    else none
  scheme _ := "https"
  fragment _ := none
  query _ := none

theorem MapUrlCrate.lawful_files : MapUrlCrate.files.Lawful where
  parse_toStr u := dif_pos u.property
  hostStr_noSpace u h hh c hc := by
    have hall : (plainHost u.val).all
        (fun c ↦ c.isLower || c.isDigit || c == '.' || c == '-') = true := by
      have hp := u.property
      simp only [isFileUrl, Bool.and_eq_true] at hp
      exact hp.1.1.1.2
    obtain rfl : plainHost u.val = h := Option.some.inj hh
    exact isWhitespace_of_hostChar (List.all_eq_true.mp hall c hc)
  hostStr_dropFragment _ := rfl
  hostStr_dropQuery _ := rfl
  fragment_dropFragment _ := rfl
  fragment_dropQuery _ := rfl
  query_dropQuery _ := rfl

theorem MapUrlCrate.parse_files {s : Str} (h : isFileUrl s = true) :
    MapUrlCrate.files.parse s = .ok ⟨s, h⟩ := dif_pos h

/-- A site with a sitemap, whose front page links to a page of the sitemap, to another one and to
another site. -/
def shopSite : MapEnv Unit where
  U := .files
  reader xml :=
    if xml = "<urlset><url><loc>cart</loc></url></urlset>" then
      [.start "urlset", .start "url", .start "loc", .text "cart", .close "loc", .close "url",
        .close "urlset"]
    else [.error "not a sitemap"]
  get url w :=
    if url = "https://shop.example/sitemap.xml" then
      (.ok (200, "200 OK", .ok "<urlset><url><loc>cart</loc></url></urlset>"), w)
    else (.ok (200, "200 OK", .ok "<html></html>"), w)
  extractLinks _ _ :=
    ["https://shop.example/cart", "https://shop.example/help", "https://other.example/"]

/-- A request for the first ten links of the site. -/
def shopMap : MapRequest where
  url := "https://shop.example/"
  search := none
  sitemap := .includeSitemap
  includeSubdomains := false
  ignoreQueryParameters := true
  limit := 10

theorem discover_exact_shop :
    ∃ seed, shopSite.U.parse shopMap.url = .ok seed ∧
      ∃ links w', discover shopSite shopMap () = (.ok ⟨true, links⟩, w') ∧
        MapsExactly shopSite shopMap seed (foundLinks shopSite shopMap seed ()).1
          (links.map MapLink.url) := by
  have hfile : isFileUrl shopMap.url = true := by decide
  have hparse : shopSite.U.parse shopMap.url = .ok ⟨shopMap.url, hfile⟩ :=
    MapUrlCrate.parse_files hfile
  exact ⟨_, hparse, (discover_exact MapUrlCrate.lawful_files ()).2 _ hparse⟩

example : (discover shopSite shopMap ()).1.toOption.map (fun r ↦ r.links.map MapLink.url) =
    some [("https://shop.example/cart" : Str), "https://shop.example/help"] := by decide

end CrwShield.Map
