import CrwShield.Base.UrlReference
import CrwShield.Map.SitemapIndexes

/-!
# The base of a location

`src/crates/map/src/lib.rs:183–194,225–294`. A location is to be resolved against the URL of the
sitemap in which it stands. The loop over child sitemaps resolves their entries against the URL of
the index, and fetches the children by their locations as written. What that changes is decided by
the kind of reference that a location is.
-/

open CrwShield.Base CrwShield.Base.Str CrwShield.Base.UrlReference CrwShield.Base.Xml
  CrwShield.Core

namespace CrwShield.Map

universe u

/-- A location that a map considers: an entry of a sitemap, the location of a child sitemap in an
index, or an entry of such a child. -/
inductive Consideration where
  | entry (sitemap loc : Str)
  | child (index loc : Str)
  | childEntry (index child loc : Str)
  deriving DecidableEq

namespace Consideration

/-- The URL of the document in which the location stands. -/
def document : Consideration → Str
  | entry sitemap _ => sitemap
  | child index _ => index
  | childEntry _ own _ => own

/-- The location as written. -/
def loc : Consideration → Str
  | entry _ loc => loc
  | child _ loc => loc
  | childEntry _ _ loc => loc

end Consideration

section Resolution

variable {ω : Type u} (E : MapEnv ω)

/-- A location resolved against a base. -/
def resolution (base loc : Str) : Option E.U.Url :=
  (E.U.parse base).toOption.bind fun b ↦ E.U.join b loc

/-- The URL that the code takes for an entry, given the base it uses. -/
def entryUrl (base loc : Str) : Option E.U.Url :=
  (E.U.parse (resolvedLoc E base ⟨loc, none, none⟩)).toOption

/-- The URL that the code takes for a location; that of a child is fetched as it stands;
`lib.rs:232–237,268–269`. -/
def considered : Consideration → Option E.U.Url
  | .entry sitemap loc => entryUrl E sitemap loc
  | .child _ loc => (E.U.parse loc).toOption
  | .childEntry index _ loc => entryUrl E index loc

/-- The string that is handed on to be collected, if the location is that of a page. -/
def pushed : Consideration → Option Str
  | .entry sitemap loc => some (resolvedLoc E sitemap ⟨loc, none, none⟩)
  | .child .. => none
  | .childEntry index _ loc => some (resolvedLoc E index ⟨loc, none, none⟩)

/-- The locations in a sitemap that came back and parses. -/
def locsIn : Except CrwError Str → List Str
  | .error _ => []
  | .ok body => ((parseSitemap E.reader body).toOption.getD []).map MapLink.url

/-- What is considered for a child sitemap: its location, and its entries. -/
def childConsiderations (index child : Str) (w : ω) : List Consideration × ω :=
  let (fetched, w) := fetchText E child w
  (.child index child :: (locsIn E fetched).map (.childEntry index child), w)

/-- What is considered for one sitemap, or for an index and its children. -/
def considerations (sitemapUrl : Str) (w : ω) : List Consideration × ω :=
  match fetchText E sitemapUrl w with
  | (.error _, w) => ([], w)
  | (.ok body, w) =>
    if looksLikeSitemapIndex body then
      flatMapThreaded (childConsiderations E sitemapUrl)
        ((parseSitemapIndex E.reader body).toOption.getD []) w
    else ((locsIn E (.ok body)).map (.entry sitemapUrl), w)

/-- Everything that a run of `discover` considers in sitemaps. -/
def runConsiderations (req : MapRequest) (seed : E.U.Url) (w : ω) : List Consideration × ω :=
  if req.sitemap = .skip then ([], w)
  else flatMapThreaded (considerations E) (sitemapCandidateUrls E seed) w

variable {E}

theorem locsOf_eq (base : Str) (fetched : Except CrwError Str) :
    locsOf E base fetched =
      (locsIn E fetched).map fun loc ↦ resolvedLoc E base ⟨loc, none, none⟩ := by
  unfold locsOf locsIn
  cases fetched with
  | error e => rfl
  | ok body =>
    dsimp only
    cases parseSitemap E.reader body with
    | error e => rfl
    | ok links =>
      change links.map (resolvedLoc E base) = (links.map MapLink.url).map _
      rw [List.map_map]
      rfl

private theorem flatMapThreaded_filterMap {α β γ : Type*} {h : α → Option β}
    {f : γ → ω → List α × ω} {g : γ → ω → List β × ω}
    (hfg : ∀ c w, g c w = ((f c w).1.filterMap h, (f c w).2)) (cs : List γ) (w : ω) :
    flatMapThreaded g cs w =
      ((flatMapThreaded f cs w).1.filterMap h, (flatMapThreaded f cs w).2) := by
  induction cs generalizing w with
  | nil => rfl
  | cons c cs ih => simp only [flatMapThreaded, hfg, ih, List.filterMap_append]

/-- The locations that `discover` collects from a sitemap are those considered that are pages. -/
theorem sitemapLocs_eq (sitemapUrl : Str) (w : ω) :
    sitemapLocs E sitemapUrl w =
      ((considerations E sitemapUrl w).1.filterMap (pushed E),
        (considerations E sitemapUrl w).2) := by
  unfold sitemapLocs considerations
  rcases fetchText E sitemapUrl w with ⟨_ | body, w'⟩
  · rfl
  · dsimp only
    split
    · apply flatMapThreaded_filterMap
      intro child w
      unfold childConsiderations
      simp only [locsOf_eq, List.filterMap_cons, pushed, List.filterMap_map]
      exact congrArg (·, (fetchText E child w).2) (List.filterMap_eq_map ▸ rfl)
    · rw [locsOf_eq, List.filterMap_map]
      exact congrArg (·, w') (List.filterMap_eq_map ▸ rfl)

/-- The resolver keeps a location with an authority and resolves any other. -/
theorem resolveAgainst_eq (loc base : Str) :
    resolveAgainst E loc base =
      (if (E.U.parse loc).toOption.any E.U.hasAuthority then (E.U.parse loc).toOption
        else resolution E base loc).map E.U.toStr := by
  unfold resolveAgainst resolution
  cases hloc : E.U.parse loc with
  | error e => cases E.U.parse base <;> rfl
  | ok u =>
    cases hauthority : E.U.hasAuthority u with
    | true => simp [Except.toOption, hauthority]
    | false => cases E.U.parse base <;> simp [Except.toOption, hauthority]

/-- The code's URL of an entry: by itself if it has an authority, else resolved against the base
that is used, else by itself. -/
theorem entryUrl_eq (hU : E.U.Lawful) (base loc : Str) :
    entryUrl E base loc =
      (if (E.U.parse loc).toOption.any E.U.hasAuthority then (E.U.parse loc).toOption
        else resolution E base loc).or (E.U.parse loc).toOption := by
  unfold entryUrl resolvedLoc
  rw [resolveAgainst_eq]
  cases (if (E.U.parse loc).toOption.any E.U.hasAuthority then (E.U.parse loc).toOption
    else resolution E base loc) with
  | none => rfl
  | some u => exact congrArg Except.toOption (hU.parse_toStr u)

/-- The links that a run finds are the pages considered in sitemaps, and then those of the seed
page. -/
theorem foundLinks_eq (req : MapRequest) (seed : E.U.Url) (w : ω) :
    (foundLinks E req seed w).1 =
      (runConsiderations E req seed w).1.filterMap (pushed E) ++
        if req.sitemap = .only then []
        else (seedLinks E req seed (runConsiderations E req seed w).2).1 := by
  have hlocs : (if req.sitemap = .skip then ([], w)
      else flatMapThreaded (sitemapLocs E) (sitemapCandidateUrls E seed) w) =
      ((runConsiderations E req seed w).1.filterMap (pushed E),
        (runConsiderations E req seed w).2) := by
    unfold runConsiderations
    split
    · rfl
    · exact flatMapThreaded_filterMap sitemapLocs_eq _ w
  unfold foundLinks
  rw [hlocs]
  dsimp only
  split <;> rfl

end Resolution

section Reading

variable (U : MapUrlCrate)

/-- A URL that requests are sent to. -/
def IsWeb (u : U.Url) : Prop := U.scheme u = "http" ∨ U.scheme u = "https"

/-- How the crate reads strings as references, and documented behaviour of `Url::parse` and
`Url::join` on them: a string with a scheme parses by itself, and a reference is resolved against
the components of a web URL. -/
structure UrlReading where
  components : U.Url → Components
  /-- The reference that a string is, if it is one. -/
  reading : Str → Option Reference
  parse_eq : ∀ s, (U.parse s).toOption.map components = (reading s).bind Reference.alone
  join_eq : ∀ b s, IsWeb U b →
    (U.join b s).map components = (reading s).bind (resolve (components b))
  join_absolute : ∀ b s url, IsWeb U b → reading s = some (.absolute url) →
    U.join b s = (U.parse s).toOption
  hasAuthority_eq : ∀ u, U.hasAuthority u = (components u).authority.isSome
  authority_of_isWeb : ∀ u, IsWeb U u → (components u).authority.isSome = true
  authority_of_schemed : ∀ s scheme url r, reading s = some (.schemed scheme (some url) r) →
    url.authority.isSome = true
  /-- A URL with an authority is its components. -/
  ext : ∀ u v, components u = components v → (components u).authority.isSome = true → u = v

end Reading

section Right

variable {ω : Type u} {E : MapEnv ω} (R : UrlReading E.U)

/-- Requests go to web URLs only. -/
def GetsWeb (E : MapEnv ω) : Prop :=
  ∀ url w answer w', E.get url w = (.ok answer, w') → ∃ u, E.U.parse url = .ok u ∧ IsWeb E.U u

/-- The base used is as good for an entry as the URL of its own document: it agrees on what a
relative reference takes from it; and what has a scheme alone is not meant relatively there, or
means the same. -/
def EntryBased (base own : Components) : Option Reference → Prop
  | none | some (.absolute _) => True
  | some (.relative r) => SameFor base own r
  | some (.schemed scheme (some url) r) => own.scheme = scheme → merge own r = url
  | some (.schemed scheme none r) =>
    (base.scheme = scheme ↔ own.scheme = scheme) ∧ (own.scheme = scheme → SameFor base own r)

/-- A location as written is as good as resolved: it is absolute, or no reference; and what has a
scheme alone is not meant relatively, or means the same. -/
def ChildBased (own : Components) : Option Reference → Prop
  | none | some (.absolute _) => True
  | some (.relative _) => False
  | some (.schemed scheme (some url) r) => own.scheme = scheme → merge own r = url
  | some (.schemed scheme none _) => own.scheme ≠ scheme

/-- The components of a URL given as a string. -/
def componentsOf (url : Str) : Option Components := (E.U.parse url).toOption.map R.components

/-- The condition on a location: on the reference that it is, and the URLs of the documents. -/
def WellBased : Consideration → Prop
  | .entry sitemap loc => ∀ own ∈ componentsOf R sitemap, EntryBased own own (R.reading loc)
  | .child index loc => ∀ own ∈ componentsOf R index, ChildBased own (R.reading loc)
  | .childEntry index child loc =>
    ∀ base ∈ componentsOf R index, ∀ own ∈ componentsOf R child,
      EntryBased base own (R.reading loc)

variable {R}

theorem eq_of_components {x y : Option E.U.Url} {c : Option Components}
    (hx : x.map R.components = c) (hy : y.map R.components = c)
    (hauthority : ∀ url ∈ c, url.authority.isSome = true) : x = y := by
  cases x with
  | none => exact (Option.map_eq_none_iff.mp (hy.trans hx.symm)).symm
  | some u =>
    obtain ⟨v, rfl, hv⟩ := Option.map_eq_some_iff.mp (hy.trans hx.symm)
    exact congrArg some (R.ext u v hv.symm (hauthority _ hx.symm))

section Bases

variable {b o : E.U.Url} (hb : IsWeb E.U b) (ho : IsWeb E.U o) {loc : Str}
include hb ho

/-- A relative reference means the same against two bases exactly when they agree on what it takes
from them. -/
theorem join_relative_iff {r : Relative} (hr : R.reading loc = some (.relative r)) :
    E.U.join b loc = E.U.join o loc ↔ SameFor (R.components b) (R.components o) r := by
  have hjoin : ∀ base, IsWeb E.U base →
      (E.U.join base loc).map R.components = some (merge (R.components base) r) := by
    intro base hbase
    rw [R.join_eq base loc hbase, hr]
    rfl
  rw [← merge_eq_merge_iff]
  constructor
  · intro h
    have hmap := congrArg (Option.map R.components) h
    rw [hjoin b hb, hjoin o ho] at hmap
    exact Option.some.inj hmap
  · intro h
    refine eq_of_components (hjoin b hb) (h ▸ hjoin o ho) ?_
    rintro url hurl
    obtain rfl := Option.some.inj hurl
    exact authority_merge (R.authority_of_isWeb b hb) r

/-- The same of a reference with a scheme alone that is no URL. -/
theorem join_schemed_iff {scheme : Str} {r : Relative}
    (hr : R.reading loc = some (.schemed scheme none r)) :
    E.U.join b loc = E.U.join o loc ↔
      ((R.components b).scheme = scheme ↔ (R.components o).scheme = scheme) ∧
        ((R.components o).scheme = scheme → SameFor (R.components b) (R.components o) r) := by
  have hjoin : ∀ base, IsWeb E.U base → (E.U.join base loc).map R.components =
      if (R.components base).scheme = scheme then some (merge (R.components base) r)
      else none := by
    intro base hbase
    rw [R.join_eq base loc hbase, hr]
    rfl
  have hiff : E.U.join b loc = E.U.join o loc ↔
      (E.U.join b loc).map R.components = (E.U.join o loc).map R.components := by
    refine ⟨congrArg _, fun h ↦ eq_of_components h rfl ?_⟩
    intro url hurl
    rw [hjoin o ho] at hurl
    split at hurl
    next =>
      obtain rfl := Option.some.inj hurl
      exact authority_merge (R.authority_of_isWeb o ho) r
    next => exact absurd hurl (by simp)
  rw [hiff, hjoin b hb, hjoin o ho]
  by_cases hsb : (R.components b).scheme = scheme
  · by_cases hso : (R.components o).scheme = scheme
    · simp [hsb, hso, merge_eq_merge_iff]
    · simp [hsb, hso]
  · by_cases hso : (R.components o).scheme = scheme
    · simp [hsb, hso]
    · simp [hsb, hso]

end Bases

section Documents

variable {base own loc : Str} {b o : E.U.Url}

theorem resolution_eq (hbase : E.U.parse base = .ok b) :
    resolution E base loc = E.U.join b loc := by
  rw [resolution, hbase]
  rfl

/-- What parses by itself and has a scheme alone means the same in a document exactly when it is
not meant relatively there, or means the same. -/
theorem schemed_eq_resolution_iff (ho : IsWeb E.U o) {scheme : Str} {url : Components}
    {r : Relative} (hr : R.reading loc = some (.schemed scheme (some url) r)) :
    (E.U.parse loc).toOption = E.U.join o loc ↔
      ((R.components o).scheme = scheme → merge (R.components o) r = url) := by
  have hparse : (E.U.parse loc).toOption.map R.components = some url := by
    rw [R.parse_eq, hr]
    rfl
  have hjoin : (E.U.join o loc).map R.components =
      if (R.components o).scheme = scheme then some (merge (R.components o) r)
      else some url := by
    rw [R.join_eq o loc ho, hr]
    rfl
  have hiff : (E.U.parse loc).toOption = E.U.join o loc ↔
      (E.U.join o loc).map R.components = some url := by
    refine ⟨fun h ↦ h ▸ hparse, fun h ↦ eq_of_components hparse h ?_⟩
    intro url' hurl
    obtain rfl := Option.some.inj hurl
    exact R.authority_of_schemed loc scheme _ r hr
  rw [hiff, hjoin]
  by_cases hs : (R.components o).scheme = scheme
  · simp [hs]
  · simp [hs]

/-- The URL that the code takes for an entry is the one meant exactly when the base used is as
good. -/
theorem entryUrl_eq_resolution_iff (hU : E.U.Lawful) (hbase : E.U.parse base = .ok b)
    (hown : E.U.parse own = .ok o) (hb : IsWeb E.U b) (ho : IsWeb E.U o) :
    entryUrl E base loc = resolution E own loc ↔
      EntryBased (R.components b) (R.components o) (R.reading loc) := by
  have hparse := R.parse_eq loc
  rw [entryUrl_eq hU, resolution_eq hbase, resolution_eq hown]
  cases hr : R.reading loc with
  | none =>
    rw [hr] at hparse
    have hjb := R.join_eq b loc hb
    have hjo := R.join_eq o loc ho
    rw [hr] at hjb hjo
    rw [Option.map_eq_none_iff.mp hparse, Option.map_eq_none_iff.mp hjb,
      Option.map_eq_none_iff.mp hjo]
    exact iff_of_true rfl trivial
  | some reference =>
    rw [hr] at hparse
    cases reference with
    | absolute url =>
      rw [R.join_absolute b loc url hb hr, R.join_absolute o loc url ho hr, ite_self,
        Option.or_self]
      exact iff_of_true rfl trivial
    | relative r =>
      rw [Option.map_eq_none_iff.mp hparse, Option.or_none]
      exact join_relative_iff hb ho hr
    | schemed scheme url r =>
      cases url with
      | none =>
        rw [Option.map_eq_none_iff.mp hparse, Option.or_none]
        exact join_schemed_iff hb ho hr
      | some url =>
        obtain ⟨u, hu, hcomponents⟩ := Option.map_eq_some_iff.mp hparse
        have hauthority : (E.U.parse loc).toOption.any E.U.hasAuthority = true := by
          rw [hu, Option.any_some, R.hasAuthority_eq, hcomponents]
          exact R.authority_of_schemed loc scheme url r hr
        rw [if_pos hauthority, Option.or_self]
        exact schemed_eq_resolution_iff ho hr

/-- A location that is fetched as written is the one meant exactly when it is as good as
resolved. -/
theorem parse_eq_resolution_iff (hown : E.U.parse own = .ok o) (ho : IsWeb E.U o) :
    (E.U.parse loc).toOption = resolution E own loc ↔
      ChildBased (R.components o) (R.reading loc) := by
  have hparse := R.parse_eq loc
  have hjoin := R.join_eq o loc ho
  rw [resolution_eq hown]
  cases hr : R.reading loc with
  | none =>
    rw [hr] at hparse hjoin
    rw [Option.map_eq_none_iff.mp hparse, Option.map_eq_none_iff.mp hjoin]
    exact iff_of_true rfl trivial
  | some reference =>
    rw [hr] at hparse hjoin
    cases reference with
    | absolute url =>
      rw [R.join_absolute o loc url ho hr]
      exact iff_of_true rfl trivial
    | relative r =>
      obtain ⟨v, hv, -⟩ := Option.map_eq_some_iff.mp hjoin
      rw [Option.map_eq_none_iff.mp hparse, hv]
      exact iff_of_false (by simp) id
    | schemed scheme url r =>
      cases url with
      | none =>
        rw [Option.map_eq_none_iff.mp hparse, eq_comm, ← Option.map_eq_none_iff, hjoin]
        simp [resolve, ChildBased]
      | some url => exact schemed_eq_resolution_iff ho hr

theorem componentsOf_eq (hown : E.U.parse own = .ok o) :
    componentsOf R own = some (R.components o) := by
  rw [componentsOf, hown]
  rfl

end Documents

/-- A document that comes back has a web URL. -/
theorem exists_isWeb_of_fetchText (hget : GetsWeb E) {url body : Str} {w w' : ω}
    (h : fetchText E url w = (.ok body, w')) : ∃ u, E.U.parse url = .ok u ∧ IsWeb E.U u := by
  unfold fetchText at h
  split at h
  next => exact absurd (Prod.mk.inj h).1 (by simp)
  next hanswer => exact hget _ _ _ _ hanswer

/-- A location gets the URL that it means in its document exactly when it is well based. -/
theorem considered_iff (hU : E.U.Lawful) (hget : GetsWeb E) {sitemapUrl : Str} {w : ω}
    {c : Consideration} (hc : c ∈ (considerations E sitemapUrl w).1) :
    considered E c = resolution E c.document c.loc ↔ WellBased R c := by
  unfold considerations at hc
  split at hc
  next => exact absurd hc List.not_mem_nil
  next body w' hfetch =>
    obtain ⟨b, hbase, hb⟩ := exists_isWeb_of_fetchText hget hfetch
    split at hc
    next =>
      obtain ⟨child, w₁, hc⟩ := exists_of_mem_flatMapThreaded hc
      unfold childConsiderations at hc
      rcases List.mem_cons.mp hc with rfl | hc
      · simp only [WellBased, componentsOf_eq hbase, Option.mem_some_iff, forall_eq']
        exact parse_eq_resolution_iff hbase hb
      · obtain ⟨loc, hloc, rfl⟩ := List.mem_map.mp hc
        rcases hchild : fetchText E child w₁ with ⟨_ | childBody, w₂⟩
        · rw [hchild] at hloc
          exact absurd hloc List.not_mem_nil
        · obtain ⟨o, hown, ho⟩ := exists_isWeb_of_fetchText hget hchild
          simp only [WellBased, componentsOf_eq hbase, componentsOf_eq hown, Option.mem_some_iff,
            forall_eq']
          exact entryUrl_eq_resolution_iff hU hbase hown hb ho
    next =>
      obtain ⟨loc, -, rfl⟩ := List.mem_map.mp hc
      simp only [WellBased, componentsOf_eq hbase, Option.mem_some_iff, forall_eq']
      exact entryUrl_eq_resolution_iff hU hbase hbase hb hb

/-- In every run, every location is resolved against its own sitemap exactly when every location
is well based. -/
theorem locs_resolved_iff (hU : E.U.Lawful) (R : UrlReading E.U) (hget : GetsWeb E)
    (req : MapRequest) (seed : E.U.Url) (w : ω) :
    (∀ c ∈ (runConsiderations E req seed w).1,
        considered E c = resolution E c.document c.loc) ↔
      ∀ c ∈ (runConsiderations E req seed w).1, WellBased R c := by
  refine forall₂_congr fun c hc ↦ ?_
  unfold runConsiderations at hc
  split at hc
  next => exact absurd hc List.not_mem_nil
  next =>
    obtain ⟨sitemapUrl, w', hc⟩ := exists_of_mem_flatMapThreaded hc
    exact considered_iff hU hget hc

end Right

section Runs

/-- The URLs of a small shop. -/
inductive ShopUrl where
  | front | sitemap | pages | cart
  deriving DecidableEq

namespace ShopUrl

def file : ShopUrl → Str
  | front => []
  | sitemap => "sitemap.xml"
  | pages => "pages.xml"
  | cart => "cart"

def toStr (u : ShopUrl) : Str := "https://shop.example/" ++ u.file

def components (u : ShopUrl) : Components := ⟨"https", some "shop.example", [u.file], none, none⟩

/-- The URL that a string is by itself. -/
def ofStr (s : Str) : Option ShopUrl := [front, sitemap, pages, cart].find? (·.toStr = s)

/-- The URL of a file beside the others. -/
def ofFile (s : Str) : Option ShopUrl := [sitemap, pages, cart].find? (·.file = s)

theorem ofStr_toStr (u : ShopUrl) : ofStr u.toStr = some u := by
  cases u <;> decide

theorem file_injective {u v : ShopUrl} (h : u.file = v.file) : u = v := by
  revert h
  cases u <;> cases v <;> decide

/-- A file lies beside every URL of the shop. -/
theorem merge_components (b u : ShopUrl) :
    merge b.components (.beside [u.file] none none) = u.components := by
  have hdots : ∀ s ∈ [u.file], s ≠ ".." ∧ s ≠ "." := by
    cases u <;> decide
  rw [merge, removeDotSegments_eq_append hdots]
  rfl

end ShopUrl

/-- The operations of `url::Url` on the URLs of the shop, and on the names of its files. -/
def MapUrlCrate.shop : MapUrlCrate where
  Url := ShopUrl
  parse s := (ShopUrl.ofStr s).elim (.error "relative URL without a base") .ok
  hostStr _ := some "shop.example"
  path u := '/' :: u.file
  toStr := ShopUrl.toStr
  dropFragment u := u
  dropQuery u := u
  hasAuthority _ := true
  join _ s := (ShopUrl.ofStr s).or (ShopUrl.ofFile s)
  scheme _ := "https"
  fragment _ := none
  query _ := none

theorem MapUrlCrate.lawful_shop : MapUrlCrate.shop.Lawful where
  parse_toStr u := congrArg (fun found : Option ShopUrl ↦
    found.elim (Except.error ("relative URL without a base" : Str)) .ok) (ShopUrl.ofStr_toStr u)
  hostStr_noSpace u h hh c hc := by
    have hall : (("shop.example" : Str).all fun c ↦ !isWhitespace c) = true := by decide
    obtain rfl := Option.some.inj hh
    exact Bool.not_eq_true' _ ▸ List.all_eq_true.mp hall c hc
  hostStr_dropFragment _ := rfl
  hostStr_dropQuery _ := rfl
  fragment_dropFragment _ := rfl
  fragment_dropQuery _ := rfl
  query_dropQuery _ := rfl

/-- The shop's strings as references. -/
def shopReading (s : Str) : Option Reference :=
  ((ShopUrl.ofStr s).map fun u ↦ .absolute u.components).or
    ((ShopUrl.ofFile s).map fun u ↦ .relative (.beside [u.file] none none))

def UrlReading.shop : UrlReading MapUrlCrate.shop where
  components := ShopUrl.components
  reading := shopReading
  parse_eq s := by
    show ((ShopUrl.ofStr s).elim (Except.error _) .ok).toOption.map _ = _
    unfold shopReading
    cases ShopUrl.ofStr s with
    | some u => rfl
    | none => cases ShopUrl.ofFile s <;> rfl
  join_eq b s _ := by
    show ((ShopUrl.ofStr s).or (ShopUrl.ofFile s)).map _ = _
    unfold shopReading
    cases ShopUrl.ofStr s with
    | some u => rfl
    | none =>
      cases ShopUrl.ofFile s with
      | none => rfl
      | some u => exact congrArg some (ShopUrl.merge_components b u).symm
  join_absolute b s url _ h := by
    show (ShopUrl.ofStr s).or (ShopUrl.ofFile s) =
      ((ShopUrl.ofStr s).elim (Except.error _) .ok).toOption
    unfold shopReading at h
    cases hs : ShopUrl.ofStr s with
    | some u => rfl
    | none =>
      rw [hs] at h
      cases hf : ShopUrl.ofFile s with
      | none => rfl
      | some u => simp [hf] at h
  hasAuthority_eq _ := rfl
  authority_of_isWeb _ _ := rfl
  authority_of_schemed s scheme url r h := by
    unfold shopReading at h
    cases hs : ShopUrl.ofStr s with
    | some u => simp [hs] at h
    | none => simp [hs] at h
  ext u v h _ := ShopUrl.file_injective (List.singleton_inj.mp (congrArg Components.path h))

/-- The shop with an index, and a child beside it with a relative location. -/
def shopCartSitemap : Document := oneEntry (field "loc" "cart" .nil)

def besideSite : MapEnv Unit where
  U := .shop
  reader xml :=
    if xml = pagesIndex.text then documentEvents pagesIndex else readerOf shopCartSitemap xml
  get url w :=
    if url = "https://shop.example/sitemap.xml" then (.ok (200, "200 OK", .ok pagesIndex.text), w)
    else if url = "https://shop.example/pages.xml" then
      (.ok (200, "200 OK", .ok shopCartSitemap.text), w)
    else (.error "connection refused", w)
  extractLinks _ _ := []

theorem getsWeb_besideSite : GetsWeb besideSite := by
  rintro url w answer w' h
  unfold besideSite at h
  dsimp only at h
  split at h
  next hurl =>
    subst hurl
    exact ⟨ShopUrl.sitemap, MapUrlCrate.lawful_shop.parse_toStr ShopUrl.sitemap, .inr rfl⟩
  next =>
    split at h
    next hurl =>
      subst hurl
      exact ⟨ShopUrl.pages, MapUrlCrate.lawful_shop.parse_toStr ShopUrl.pages, .inr rfl⟩
    next => exact absurd (Prod.mk.inj h).1 (by simp)

theorem locs_resolved_beside :
    (runConsiderations besideSite shopMap ShopUrl.front ()).1.map (considered besideSite) =
      (runConsiderations besideSite shopMap ShopUrl.front ()).1.map fun c ↦
        resolution besideSite c.document c.loc := by
  apply List.map_congr_left
  apply (locs_resolved_iff MapUrlCrate.lawful_shop UrlReading.shop getsWeb_besideSite shopMap
    ShopUrl.front ()).mpr
  have hrun : (runConsiderations besideSite shopMap ShopUrl.front ()).1 =
      [.child "https://shop.example/sitemap.xml" "https://shop.example/pages.xml",
        .childEntry "https://shop.example/sitemap.xml" "https://shop.example/pages.xml" "cart",
        .child "https://shop.example/sitemap.xml" "https://shop.example/pages.xml",
        .childEntry "https://shop.example/sitemap.xml" "https://shop.example/pages.xml"
          "cart"] := by
    decide
  rw [hrun]
  have hsitemap : @componentsOf _ besideSite UrlReading.shop "https://shop.example/sitemap.xml" =
      some ShopUrl.sitemap.components :=
    componentsOf_eq (MapUrlCrate.lawful_shop.parse_toStr ShopUrl.sitemap)
  have hpages : @componentsOf _ besideSite UrlReading.shop "https://shop.example/pages.xml" =
      some ShopUrl.pages.components :=
    componentsOf_eq (MapUrlCrate.lawful_shop.parse_toStr ShopUrl.pages)
  have hchild : @WellBased _ besideSite UrlReading.shop
      (.child "https://shop.example/sitemap.xml" "https://shop.example/pages.xml") := by
    have hreading : UrlReading.shop.reading "https://shop.example/pages.xml" =
        some (.absolute ShopUrl.pages.components) := rfl
    intro own _
    rw [hreading]
    trivial
  have hentry : @WellBased _ besideSite UrlReading.shop
      (.childEntry "https://shop.example/sitemap.xml" "https://shop.example/pages.xml" "cart") := by
    have hreading : UrlReading.shop.reading "cart" =
        some (.relative (.beside ["cart"] none none)) := rfl
    intro base hbase own hown
    obtain rfl := Option.some.inj (hsitemap.symm.trans hbase)
    obtain rfl := Option.some.inj (hpages.symm.trans hown)
    rw [hreading]
    exact (@sameFor_beside_iff _ _ ["cart"] none none (by decide)).mpr ⟨rfl, rfl, rfl⟩
  simp only [List.forall_mem_cons, List.not_mem_nil, false_implies, implies_true, and_true]
  exact ⟨hchild, hentry, hchild, hentry⟩

def shopSeed : shopSite.U.Url := ⟨shopMap.url, by decide⟩

/-- An index of one child in another directory. -/
def newsIndex : Document := oneChild [] "https://shop.example/news/map.xml"

/-- The child, with a relative location. -/
def newsSitemap : Document := oneEntry (field "loc" "today" .nil)

/-- The shop with the index and its child. -/
def newsSite : MapEnv Unit where
  U := .files
  reader xml := if xml = newsIndex.text then documentEvents newsIndex else readerOf newsSitemap xml
  get url w :=
    if url = "https://shop.example/sitemap.xml" then (.ok (200, "200 OK", .ok newsIndex.text), w)
    else if url = "https://shop.example/news/map.xml" then
      (.ok (200, "200 OK", .ok newsSitemap.text), w)
    else (.ok (404, "404 Not Found", .ok []), w)
  extractLinks _ _ := []

/-- The entry of the child is taken to stand beside the index. -/
theorem not_locs_resolved_news :
    ¬ ∀ c ∈ (runConsiderations newsSite shopMap shopSeed ()).1,
      considered newsSite c = resolution newsSite c.document c.loc := by
  intro h
  have hmem : Consideration.childEntry "https://shop.example/sitemap.xml"
      "https://shop.example/news/map.xml" "today" ∈
      (runConsiderations newsSite shopMap shopSeed ()).1 := by decide
  have hurls := congrArg (Option.map newsSite.U.toStr) (h _ hmem)
  exact absurd hurls (by decide)

end Runs
end CrwShield.Map
