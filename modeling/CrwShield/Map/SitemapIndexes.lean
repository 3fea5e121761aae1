import CrwShield.Map.Discover
import CrwShield.Map.SitemapLocs
import Mathlib.Data.List.Perm.Subperm

/-!
# Recognising a sitemap index

`src/crates/map/src/lib.rs:66–80,223–295`. A text is taken for an index by the letters after its
first `<`, so only a root element that comes first is seen, and only the letters its name begins
with.
-/

open CrwShield.Base CrwShield.Base.Str CrwShield.Base.Xml CrwShield.Core

namespace CrwShield.Map

section Looks

theorem trimStart_toAsciiLowercase (s : Str) :
    trimStart (toAsciiLowercase s) = toAsciiLowercase (trimStart s) := by
  unfold trimStart toAsciiLowercase
  rw [List.dropWhile_map]
  exact congrArg (List.map Char.toLower) (congrArg (List.dropWhile · s)
    (funext fun c ↦ isWhitespace_toLower c))

theorem takeWhile_append_cons {α : Type*} {p : α → Bool} {a : α} (h : p a = false) (l m : List α) :
    (l ++ a :: m).takeWhile p = l.takeWhile p := by
  induction l with
  | nil => simp [h]
  | cons b l ih => simp [List.takeWhile_cons, ih]

/-- A name that begins, in any letter case, with the letters of `sitemapindex` and no others. -/
def MimicsIndex (name : Str) : Prop :=
  (toAsciiLowercase name).takeWhile Char.isAlpha = "sitemapindex"

instance (name : Str) : Decidable (MimicsIndex name) :=
  inferInstanceAs
    (Decidable ((toAsciiLowercase name).takeWhile Char.isAlpha = "sitemapindex".toList))

theorem looksLikeSitemapIndex_cons {s : Str} {c : Char} {after : Str}
    (h : trimStart s = '<' :: c :: after) :
    looksLikeSitemapIndex s = true ↔
      (toAsciiLowercase (c :: after)).takeWhile Char.isAlpha = "sitemapindex" := by
  unfold looksLikeSitemapIndex
  rw [trimStart_toAsciiLowercase, h]
  exact decide_eq_true_iff

/-- A document is taken for an index exactly when its root comes first with a name that begins like
that of an index. -/
theorem looksLikeSitemapIndex_text (doc : Document) :
    looksLikeSitemapIndex doc.text = true ↔ doc.Bare ∧ MimicsIndex doc.root.name := by
  have hopening := doc.opening_trimStart_text
  generalize htext : trimStart doc.text = s at hopening
  cases hopening with
  | mark after hmark =>
    have hlooks : looksLikeSitemapIndex doc.text = false := by
      unfold looksLikeSitemapIndex
      rw [trimStart_toAsciiLowercase, htext]
      rfl
    rw [hlooks]
    exact iff_of_false Bool.false_ne_true fun h ↦ absurd (hmark.symm.trans h.1.1) (by decide)
  | markup c after hmark hbare hc =>
    have hletters : (toAsciiLowercase (c :: after)).takeWhile Char.isAlpha = [] := by
      rcases hc with rfl | rfl <;> rfl
    rw [looksLikeSitemapIndex_cons htext, hletters]
    exact iff_of_false (by decide) fun h ↦ hbare h.1
  | root c after hbare hc =>
    have hstop : c.toLower.isAlpha = false := by
      rcases hc with hspace | rfl | rfl
      · simp only [isSpace, Bool.or_eq_true, decide_eq_true_eq] at hspace
        obtain ((rfl | rfl) | rfl) | rfl := hspace <;> decide
      · decide
      · decide
    have hletters : (toAsciiLowercase (doc.root.name ++ c :: after)).takeWhile Char.isAlpha =
        (toAsciiLowercase doc.root.name).takeWhile Char.isAlpha := by
      unfold toAsciiLowercase
      rw [List.map_append, List.map_cons, takeWhile_append_cons hstop]
    obtain ⟨d, tail, hd⟩ : ∃ d tail, doc.root.name ++ c :: after = d :: tail :=
      List.exists_cons_of_ne_nil (List.append_ne_nil_of_right_ne_nil _ (List.cons_ne_nil _ _))
    rw [hd] at htext
    rw [looksLikeSitemapIndex_cons htext, ← hd, hletters]
    exact ⟨fun h ↦ ⟨hbare, h⟩, fun h ↦ h.2⟩

end Looks

section Recognised

variable (doc : Document)

/-- The document is taken for an index if it is one and only then. -/
def IndexRecognised : Prop :=
  looksLikeSitemapIndex doc.text = true ↔ doc.root.name = "sitemapindex"

/-- An index has its root first; what is none has no such root first. -/
def PlainlyNamed : Prop :=
  if doc.root.name = "sitemapindex" then doc.Bare
  else ¬ (doc.Bare ∧ MimicsIndex doc.root.name)

theorem indexRecognised_iff : IndexRecognised doc ↔ PlainlyNamed doc := by
  rw [IndexRecognised, looksLikeSitemapIndex_text, PlainlyNamed]
  split
  next hname =>
    have hmimics : MimicsIndex doc.root.name := by
      rw [hname]
      decide
    exact ⟨fun h ↦ (h.mpr hname).1, fun h ↦ iff_of_true ⟨h, hmimics⟩ hname⟩
  next hname => exact ⟨fun h hmimics ↦ hname (h.mp hmimics), fun h ↦ iff_of_false h hname⟩

end Recognised

section Followed

universe u
variable {ω : Type u} (E : MapEnv ω)

/-- The pages that child sitemaps list, fetched one after the other. A child that comes back is a
document that the reader reads, and plain; one that does not come back lists nothing. -/
inductive ChildPages : List Str → ω → List Str → ω → Prop
  | nil (w : ω) : ChildPages [] w [] w
  | failed {child : Str} {children pages : List Str} {w w' w'' : ω} {e : CrwError} :
      fetchText E child w = (.error e, w') → ChildPages children w' pages w'' →
      ChildPages (child :: children) w pages w''
  | fetched {child : Str} {children pages : List Str} {w w' w'' : ω} {d : Document} :
      fetchText E child w = (.ok d.text, w') → E.reader d.text = documentEvents d →
      PlainSitemap "url" d → ChildPages children w' pages w'' →
      ChildPages (child :: children) w (locs "url" d ++ pages) w''

variable {E}

/-- A location as the map takes it from a sitemap. -/
def takenFrom (E : MapEnv ω) (sitemapUrl loc : Str) : Str :=
  resolvedLoc E sitemapUrl ⟨loc, none, none⟩

theorem locsOf_plain {d : Document} (hreader : E.reader d.text = documentEvents d)
    (hplain : PlainSitemap "url" d) (sitemapUrl : Str) :
    locsOf E sitemapUrl (.ok d.text) = (locs "url" d).map (takenFrom E sitemapUrl) := by
  unfold locsOf
  dsimp only
  rw [(parsers_give_locs hreader).1.1 hplain]
  exact List.map_map

/-- The loop over the children of an index takes the pages that they list. -/
theorem ChildPages.flatMapThreaded_eq {children pages : List Str} {w w' : ω}
    (h : ChildPages E children w pages w') (sitemapUrl : Str) :
    flatMapThreaded (fun child w ↦
        (locsOf E sitemapUrl (fetchText E child w).1, (fetchText E child w).2)) children w =
      (pages.map (takenFrom E sitemapUrl), w') := by
  induction h with
  | nil w => rfl
  | failed hfetch _ ih =>
    rw [flatMapThreaded, hfetch, ih]
    rfl
  | fetched hfetch hreader hplain _ ih =>
    rw [flatMapThreaded, hfetch, ih, List.map_append, ← locsOf_plain hreader hplain]

/-- What a map finds in an index that is recognised: the pages of its children. -/
theorem sitemapLocs_of_index {doc : Document} {sitemapUrl : Str} {pages : List Str}
    {w w' w'' : ω} (hname : doc.root.name = "sitemapindex") (hbare : doc.Bare)
    (hplain : PlainSitemap "sitemap" doc) (hreader : E.reader doc.text = documentEvents doc)
    (hfetch : fetchText E sitemapUrl w = (.ok doc.text, w'))
    (hchildren : ChildPages E (locs "sitemap" doc) w' pages w'') :
    sitemapLocs E sitemapUrl w = (pages.map (takenFrom E sitemapUrl), w'') := by
  have hlooks : looksLikeSitemapIndex doc.text = true :=
    ((indexRecognised_iff doc).mpr (by rw [PlainlyNamed, if_pos hname]; exact hbare)).mpr hname
  unfold sitemapLocs
  rw [hfetch]
  dsimp only
  rw [if_pos hlooks, (parsers_give_locs hreader).2.1 hplain]
  exact hchildren.flatMapThreaded_eq sitemapUrl

/-- Behind other markup a map finds nothing in a document without page entries. -/
theorem sitemapLocs_of_hidden {doc : Document} {sitemapUrl : Str} {w w' : ω}
    (hhidden : ¬ doc.Bare)
    (hreader : E.reader doc.text = documentEvents doc) (hpages : isFreeOf "url" doc.body = true)
    (hfetch : fetchText E sitemapUrl w = (.ok doc.text, w')) :
    sitemapLocs E sitemapUrl w = ([], w') := by
  have hlooks : looksLikeSitemapIndex doc.text = false := by
    rw [Bool.eq_false_iff, ne_eq, looksLikeSitemapIndex_text]
    exact fun h ↦ hhidden h.1
  unfold sitemapLocs locsOf parseSitemap
  rw [hfetch]
  dsimp only
  rw [if_neg (by rw [hlooks]; exact Bool.false_ne_true),
    parseTexts_document "url" doc hreader, innermost_eq_nil_of_isFreeOf hpages]
  cases doc.byteOrderMark <;> rfl

/-- Links found by a map that are in scope and contain the search text are returned, if the limit
leaves room for all that is found. -/
theorem mem_discover {req : MapRequest} {seed : E.U.Url} {w : ω}
    (hseed : E.U.parse req.url = .ok seed)
    (hlimit : (foundLinks E req seed w).1.length ≤ req.limit) :
    ∃ links w', discover E req w = (.ok ⟨true, links⟩, w') ∧
      ∀ link ∈ (foundLinks E req seed w).1, ∀ url, admitted E req seed link = some url →
        Searched req url → url ∈ links.map MapLink.url := by
  refine ⟨_, _, discover_of_seed hseed, ?_⟩
  generalize (foundLinks E req seed w).1 = found at hlimit
  intro link hlink url hadmitted hsearched
  have hroom : ((found.filterMap (admitted E req seed)).eraseDups.filter
      fun url ↦ Searched req url).length ≤ req.limit := by
    calc _ ≤ (found.filterMap (admitted E req seed)).eraseDups.length := List.length_filter_le _ _
      _ ≤ (found.filterMap (admitted E req seed)).length :=
        ((nodup_eraseDups _).subperm fun _ h ↦ List.mem_eraseDups.mp h).length_le
      _ ≤ found.length := List.length_filterMap_le _ _
      _ ≤ req.limit := hlimit
  have hmem : url ∈ (found.filterMap (admitted E req seed)).eraseDups.filter
      fun url ↦ Searched req url :=
    List.mem_filter.mpr ⟨List.mem_eraseDups.mpr (List.mem_filterMap.mpr ⟨link, hlink, hadmitted⟩),
      decide_eq_true hsearched⟩
  rw [retainSearched_ofUrls]
  have htake := List.take_of_length_le (l := (Collected.ofUrls _).collected)
    ((List.length_map _).trans_le hroom)
  rw [htake]
  exact List.mem_map.mpr ⟨⟨url, none, none⟩, List.mem_map_of_mem hmem, rfl⟩

end Followed

section Runs

/-- A sitemap index of one child. -/
def oneChild (prolog : List Misc) (child : Str) : Document where
  byteOrderMark := false
  prolog := prolog
  root := .plain "sitemapindex"
  content := some (.element (.plain "sitemap") (field "loc" child .nil) .nil)
  epilog := []
  entities _ := none

/-- The index of a shop, and the child that it lists. -/
def pagesIndex : Document := oneChild [] "https://shop.example/pages.xml"

def pagesSitemap : Document := oneEntry (field "loc" "https://shop.example/cart" .nil)

/-- The shop, whose sitemap is the index. -/
def indexedSite : MapEnv Unit where
  U := .files
  reader xml :=
    if xml = pagesIndex.text then documentEvents pagesIndex else readerOf pagesSitemap xml
  get url w :=
    if url = "https://shop.example/sitemap.xml" then (.ok (200, "200 OK", .ok pagesIndex.text), w)
    else if url = "https://shop.example/pages.xml" then
      (.ok (200, "200 OK", .ok pagesSitemap.text), w)
    else (.error "connection refused", w)
  extractLinks _ _ := []

/-- An index as in the crate's own test: an XML declaration comes first. -/
def declaredIndex : Document :=
  oneChild [.instruction "xml version=\"1.0\"", .space "\n            " (by decide)]
    "https://a.com/s1.xml"

end Runs
end CrwShield.Map
