import CrwShield.Base.Json

/-!
# Search results

Crate `search`, `src/crates/search/src/lib.rs`. The results of SearXNG are sorted into three lists,
and the text of its answers and infoboxes is added to the first result of one of them.
-/

open CrwShield.Base CrwShield.Base.Str

namespace CrwShield.Search

/-- `types.rs:480–484`. -/
inductive SearchSource where
  | web
  | images
  | news
  deriving DecidableEq

/-- The part of a search request that decides about categories; `types.rs:488–514`. -/
structure SearchRequest where
  sources : List SearchSource

/-- `types.rs:522–530`. -/
structure SearchResultItem where
  title : Option Str
  description : Option Str
  url : Str
  markdown : Option Str
  deriving DecidableEq

/-- `types.rs:534–541`. -/
structure SearchData where
  web : List SearchResultItem
  images : List SearchResultItem
  news : List SearchResultItem
  deriving DecidableEq

/-- A result as the mapping reads it; `lib.rs:139–161`. -/
structure SearxngResult where
  url : Str
  title : Option Str
  content : Option Str
  snippet : Option Str
  category : Option Str
  imgSrc : Option Str
  deriving DecidableEq

/-- A response as the mapping reads it; `lib.rs:123–137`. -/
structure SearxngResponse where
  results : List SearxngResult
  answers : List Json
  infoboxes : List Json

/-- Some of the sources is this one. -/
def SearchRequest.wants (req : SearchRequest) (source : SearchSource) : Bool :=
  req.sources.any (· = source)

namespace SearxngResult

variable (r : SearxngResult)

/-- The category in lower case; `lib.rs:188–192`. -/
def categoryLower : Str := toAsciiLowercase (r.category.getD "general")

/-- `lib.rs:163–174`. -/
def pickDescription : Option Str :=
  (r.snippet.filter (!·.isEmpty)).or (r.content.filter (!·.isEmpty))

/-- The item for a result at some URL. -/
def item (url : Str) : SearchResultItem :=
  ⟨r.title.filter (!·.isEmpty), r.pickDescription, url, none⟩

end SearxngResult

/-- Sort one result in; `lib.rs:187–226`. -/
def place (req : SearchRequest) (data : SearchData) (r : SearxngResult) : SearchData :=
  if req.wants .images || r.categoryLower = "images" then
    { data with images := data.images ++ [r.item (r.imgSrc.getD r.url)] }
  else if req.wants .news || r.categoryLower = "news" then
    { data with news := data.news ++ [r.item r.url] }
  else { data with web := data.web ++ [r.item r.url] }

/-- The texts of the answers and the infoboxes; `lib.rs:230–241`. -/
def texts (parsed : SearxngResponse) : List Str :=
  parsed.answers.filterMap Json.asStr ++
    parsed.infoboxes.filterMap fun info ↦ (info.get? "content").bind Json.asStr

/-- These texts, a line each. -/
def summary (parsed : SearxngResponse) : Str := (texts parsed).flatMap (· ++ ['\n'])

/-- An item with a text added to its description; `lib.rs:243–247`. -/
def SearchResultItem.withSummary (item : SearchResultItem) (text : Str) : SearchResultItem :=
  { item with
    description := some (match item.description with
      | some existing => existing ++ '\n' :: text
      | none => text) }

/-- The results of a response, without its answers and infoboxes. -/
def sorted (req : SearchRequest) (results : List SearxngResult) : SearchData :=
  results.foldl (place req) ⟨[], [], []⟩

/-- The data of the answer to a request; `lib.rs:176–258`. -/
def mapResponse (req : SearchRequest) (parsed : SearxngResponse) : SearchData :=
  let data := sorted req parsed.results
  if !parsed.infoboxes.isEmpty || !parsed.answers.isEmpty then
    { data with web := data.web.modifyHead (·.withSummary (summary parsed)) }
  else data

/-- The list of a source. -/
def SearchData.bucket (data : SearchData) : SearchSource → List SearchResultItem
  | .web => data.web
  | .images => data.images
  | .news => data.news

/-- The item for a result in the list of a source. -/
def SearxngResult.itemFor (r : SearxngResult) : SearchSource → SearchResultItem
  | .images => r.item (r.imgSrc.getD r.url)
  | _ => r.item r.url

/-- The source of a category. -/
def ownSource (r : SearxngResult) : Option SearchSource :=
  if r.categoryLower = "general" then some .web
  else if r.categoryLower = "images" then some .images
  else if r.categoryLower = "news" then some .news
  else none

/-- The list in which the source puts a result. -/
def placeOf (req : SearchRequest) (r : SearxngResult) : SearchSource :=
  if req.wants .images || r.categoryLower = "images" then .images
  else if req.wants .news || r.categoryLower = "news" then .news
  else .web

/-- All items of an answer. -/
def SearchData.items (data : SearchData) : List SearchResultItem :=
  data.web ++ data.images ++ data.news

/-- An item without its description. -/
def SearchResultItem.bare (item : SearchResultItem) : SearchResultItem :=
  { item with description := none }

/-- Results are routed without loss: each has one list, in which the response's order is kept, the
one of its own category if that was requested; and texts of answers and infoboxes are added to some
item. -/
structure RoutedWithoutLoss (req : SearchRequest) (parsed : SearxngResponse) : Prop where
  routed : ∃ list : SearxngResult → SearchSource,
    (∀ source, ((mapResponse req parsed).bucket source).map SearchResultItem.bare =
      (parsed.results.filter fun r ↦ list r = source).map fun r ↦ (r.itemFor source).bare) ∧
    ∀ r ∈ parsed.results, ∀ source, ownSource r = some source → source ∈ req.sources →
      list r = source
  kept : texts parsed ≠ [] → ∃ (i : Nat) (item : SearchResultItem),
    (sorted req parsed.results).items[i]? = some item ∧
      (mapResponse req parsed).items[i]? = some (item.withSummary (summary parsed))

/-- No result of one requested category meets a request for another one, and texts meet a result
that goes to the web list. -/
structure Separable (req : SearchRequest) (parsed : SearxngResponse) : Prop where
  web : ∀ r ∈ parsed.results, ownSource r = some .web → .web ∈ req.sources →
    .images ∉ req.sources ∧ .news ∉ req.sources
  news : ∀ r ∈ parsed.results, ownSource r = some .news → .news ∈ req.sources →
    .images ∉ req.sources
  texts : texts parsed = [] ∨ .images ∉ req.sources ∧ .news ∉ req.sources ∧
    ∃ r ∈ parsed.results, r.categoryLower ≠ "images" ∧ r.categoryLower ≠ "news"

section Routing

variable {req : SearchRequest} {parsed : SearxngResponse} {r : SearxngResult}

theorem wants_iff {source : SearchSource} : req.wants source = true ↔ source ∈ req.sources := by
  simp [SearchRequest.wants]

/-- A result goes to the end of its list. -/
theorem bucket_place (data : SearchData) (r : SearxngResult) (source : SearchSource) :
    (place req data r).bucket source =
      data.bucket source ++ if placeOf req r = source then [r.itemFor source] else [] := by
  unfold place placeOf
  split
  · cases source <;> simp [SearchData.bucket, SearxngResult.itemFor]
  · split <;> cases source <;> simp [SearchData.bucket, SearxngResult.itemFor]

/-- The lists are the results of their sources, in order. -/
theorem bucket_sorted (results : List SearxngResult) (source : SearchSource) :
    (sorted req results).bucket source =
      (results.filter fun r ↦ placeOf req r = source).map (·.itemFor source) := by
  have hfold : ∀ data : SearchData, (results.foldl (place req) data).bucket source =
      data.bucket source ++
        (results.filter fun r ↦ placeOf req r = source).map (·.itemFor source) := by
    induction results with
    | nil => simp
    | cons r results ih =>
      intro data
      rw [List.foldl_cons, ih, bucket_place, List.filter_cons, List.append_assoc]
      by_cases h : placeOf req r = source <;> simp [h]
  rw [sorted, hfold]
  cases source <;> rfl

/-- The texts change no more than a description. -/
theorem bare_bucket_mapResponse (source : SearchSource) :
    ((mapResponse req parsed).bucket source).map SearchResultItem.bare =
      ((sorted req parsed.results).bucket source).map SearchResultItem.bare := by
  unfold mapResponse
  dsimp only
  split
  · cases source with
    | web =>
      show (((sorted req parsed.results).web.modifyHead _).map _) = _
      cases h : (sorted req parsed.results).web <;> simp [SearchData.bucket, h,
        SearchResultItem.withSummary, SearchResultItem.bare]
    | images => rfl
    | news => rfl
  · rfl

theorem placeOf_eq_web_iff : placeOf req r = .web ↔ .images ∉ req.sources ∧
    .news ∉ req.sources ∧ r.categoryLower ≠ "images" ∧ r.categoryLower ≠ "news" := by
  rw [← wants_iff, ← wants_iff, placeOf]
  by_cases himages : (req.wants .images || r.categoryLower = "images") = true
  · rw [if_pos himages]
    refine iff_of_false (by decide) fun h ↦ ?_
    rcases (Bool.or_eq_true _ _).mp himages with hwants | hcategory
    · exact h.1 hwants
    · exact h.2.2.1 (of_decide_eq_true hcategory)
  · rw [if_neg himages]
    simp only [Bool.or_eq_true, not_or, decide_eq_true_iff] at himages
    by_cases hnews : (req.wants .news || r.categoryLower = "news") = true
    · rw [if_pos hnews]
      refine iff_of_false (by decide) fun h ↦ ?_
      rcases (Bool.or_eq_true _ _).mp hnews with hwants | hcategory
      · exact h.2.1 hwants
      · exact h.2.2.2 (of_decide_eq_true hcategory)
    · rw [if_neg hnews]
      simp only [Bool.or_eq_true, not_or, decide_eq_true_iff] at hnews
      exact iff_of_true rfl ⟨himages.1, hnews.1, himages.2, hnews.2⟩

theorem placeOf_of_images (h : .images ∈ req.sources) : placeOf req r = .images := by
  rw [placeOf, wants_iff.mpr h]
  rfl

theorem placeOf_eq_own {source : SearchSource} (hown : ownSource r = some source)
    (hweb : source = .web → .images ∉ req.sources ∧ .news ∉ req.sources)
    (hnews : source = .news → .images ∉ req.sources) : placeOf req r = source := by
  unfold ownSource at hown
  split_ifs at hown with hgeneral himages hcategory
  · obtain rfl := Option.some.inj hown
    obtain ⟨hi, hn⟩ := hweb rfl
    refine placeOf_eq_web_iff.mpr ⟨hi, hn, ?_, ?_⟩
    · rw [hgeneral]
      decide
    · rw [hgeneral]
      decide
  · obtain rfl := Option.some.inj hown
    exact if_pos (by simp [himages])
  · obtain rfl := Option.some.inj hown
    have hwants : req.wants .images = false := by
      rw [Bool.eq_false_iff, ne_eq, wants_iff]
      exact hnews rfl
    have hother : ¬ (false || decide (r.categoryLower = "images")) = true := by
      rwa [Bool.false_or, decide_eq_true_iff]
    rw [placeOf, hwants, if_neg hother, if_pos (by simp [hcategory])]

theorem withSummary_ne (item : SearchResultItem) (text : Str) : item.withSummary text ≠ item := by
  intro h
  have hdescription := congrArg SearchResultItem.description h
  unfold SearchResultItem.withSummary at hdescription
  cases hd : item.description with
  | none => simp [hd] at hdescription
  | some existing => simp [hd] at hdescription

/-- A text is added exactly where there is a web result. -/
theorem kept_iff : (texts parsed ≠ [] → ∃ (i : Nat) (item : SearchResultItem),
    (sorted req parsed.results).items[i]? = some item ∧
      (mapResponse req parsed).items[i]? = some (item.withSummary (summary parsed))) ↔
    texts parsed = [] ∨ (sorted req parsed.results).web ≠ [] := by
  constructor
  · intro h
    by_contra hnot
    obtain ⟨htexts, hweb⟩ := not_or.mp hnot
    obtain ⟨i, item, hitem, hmapped⟩ := h htexts
    have hsame : (mapResponse req parsed).items = (sorted req parsed.results).items := by
      unfold mapResponse
      dsimp only
      split
      · rw [not_not.mp hweb, List.modifyHead_nil, ← not_not.mp hweb]
      · rfl
    rw [hsame, hitem] at hmapped
    exact withSummary_ne _ _ (Option.some.inj hmapped).symm
  · rintro (hnil | hweb) htexts
    · exact absurd hnil htexts
    · obtain ⟨first, rest, hcons⟩ := List.exists_cons_of_ne_nil hweb
      have hsome : (!parsed.infoboxes.isEmpty || !parsed.answers.isEmpty) = true := by
        by_contra hempty
        simp only [Bool.or_eq_true, Bool.not_eq_true', List.isEmpty_eq_false_iff, not_or,
          not_not] at hempty
        exact htexts (by rw [texts, hempty.1, hempty.2]; rfl)
      refine ⟨0, first, ?_, ?_⟩
      · rw [SearchData.items, hcons]
        rfl
      · rw [mapResponse, if_pos hsome, SearchData.items, hcons]
        rfl

/-- Results are routed without loss exactly where no request mixes their categories and a text meets
a web result. -/
theorem routedWithoutLoss_iff (req : SearchRequest) (parsed : SearxngResponse) :
    RoutedWithoutLoss req parsed ↔ Separable req parsed := by
  have hbare : ∀ source, ((mapResponse req parsed).bucket source).map SearchResultItem.bare =
      (parsed.results.filter fun r ↦ placeOf req r = source).map
        fun r ↦ (r.itemFor source).bare := by
    intro source
    rw [bare_bucket_mapResponse, bucket_sorted, List.map_map]
    rfl
  have hweb : (sorted req parsed.results).web ≠ [] ↔
      ∃ r ∈ parsed.results, placeOf req r = .web := by
    have hbucket := @bucket_sorted req parsed.results .web
    show (sorted req parsed.results).bucket .web ≠ [] ↔ _
    rw [hbucket, ne_eq, List.map_eq_nil_iff, List.filter_eq_nil_iff]
    simp
  constructor
  · rintro ⟨⟨list, hlists, hown⟩, hkept⟩
    -- a list that some result ought to be in is not empty
    have hplaced : ∀ r ∈ parsed.results, ∀ source, ownSource r = some source →
        source ∈ req.sources → ∃ r' ∈ parsed.results, placeOf req r' = source := by
      intro r hr source hsource hwanted
      by_contra hnone
      have hempty : (parsed.results.filter fun r ↦ placeOf req r = source) = [] := by
        rw [List.filter_eq_nil_iff]
        intro r' hr' hplace
        exact hnone ⟨r', hr', of_decide_eq_true hplace⟩
      have hlist := hlists source
      rw [hbare, hempty, List.map_nil, eq_comm, List.map_eq_nil_iff,
        List.filter_eq_nil_iff] at hlist
      exact hlist r hr (decide_eq_true (hown r hr source hsource hwanted))
    constructor
    case web =>
      intro r hr hsource hwanted
      obtain ⟨r', -, hplace⟩ := hplaced r hr .web hsource hwanted
      exact ⟨(placeOf_eq_web_iff.mp hplace).1, (placeOf_eq_web_iff.mp hplace).2.1⟩
    case news =>
      intro r hr hsource hwanted himages
      obtain ⟨r', -, hplace⟩ := hplaced r hr .news hsource hwanted
      rw [placeOf_of_images himages] at hplace
      cases hplace
    case texts =>
      rcases kept_iff.mp hkept with hnil | hsome
      · exact .inl hnil
      · obtain ⟨r, hr, hplace⟩ := hweb.mp hsome
        obtain ⟨himages, hnews, hcategory⟩ := placeOf_eq_web_iff.mp hplace
        exact .inr ⟨himages, hnews, r, hr, hcategory⟩
  · rintro ⟨hgeneral, hnews, htexts⟩
    constructor
    case routed =>
      refine ⟨placeOf req, hbare, fun r hr source hsource hwanted ↦ ?_⟩
      apply placeOf_eq_own hsource
      · rintro rfl
        exact hgeneral r hr hsource hwanted
      · rintro rfl
        exact hnews r hr hsource hwanted
    case kept =>
      apply kept_iff.mpr
      rcases htexts with hnil | ⟨himages, hnonews, r, hr, hcategory⟩
      · exact .inl hnil
      · exact .inr (hweb.mpr ⟨r, hr, placeOf_eq_web_iff.mpr ⟨himages, hnonews, hcategory⟩⟩)

end Routing

/-- A general result for a request that also asks for images. -/
def mixedRequest : SearchRequest := ⟨[.web, .images]⟩

/-- That result, with an answer. -/
def mixedResponse : SearxngResponse :=
  ⟨[⟨"https://a.example/", some "A", none, none, some "general", none⟩], [.str "42"], []⟩

/-- It is returned as an image, and the answer is dropped. -/
theorem not_routedWithoutLoss_mixed :
    mapResponse mixedRequest mixedResponse =
      ⟨[], [⟨some "A", none, "https://a.example/", none⟩], []⟩ ∧
      ¬ RoutedWithoutLoss mixedRequest mixedResponse := by
  have hmapped : mapResponse mixedRequest mixedResponse =
      ⟨[], [⟨some "A", none, "https://a.example/", none⟩], []⟩ := by decide
  refine ⟨hmapped, fun h ↦ ?_⟩
  obtain ⟨list, hlists, hown⟩ := h.routed
  have hweb := hlists .web
  rw [hmapped] at hweb
  have hfilter := List.map_eq_nil_iff.mp hweb.symm
  rw [List.filter_eq_nil_iff] at hfilter
  have hmem := List.mem_singleton_self
    (⟨"https://a.example/", some "A", none, none, some "general", none⟩ : SearxngResult)
  exact hfilter _ hmem (decide_eq_true (hown _ hmem .web (by decide) (by decide)))

end CrwShield.Search
