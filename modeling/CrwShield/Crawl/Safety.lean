import CrwShield.Crawl.Engine
import Mathlib.Data.List.Nodup

/-!
# Crawl safety and termination

What holds in every state of every crawl, whatever the runner answers and in whatever order tasks
complete. The tasks ever enqueued are the ones started followed by the queue; their keys are the
visited set.
-/

open CrwShield.Base CrwShield.Base.Str CrwShield.Core

namespace CrwShield.Crawl

section Discovery

variable {E : CrawlEnv} {req : CrawlRequest} {seed : E.U.Url}

/-- An admitted link is in scope and passes the patterns. -/
theorem admit_some {link : Str} {u : E.U.Url} (h : admitLink E req seed link = some u) :
    E.U.parse link = .ok u ∧
      E.isInScope seed u req.allowSubdomains req.allowExternalLinks = true ∧
      E.shouldVisit u req.includePaths req.excludePaths = true := by
  unfold admitLink at h
  split at h
  · exact absurd h (by simp)
  · next parsed hparse =>
    split at h
    · next hok =>
      obtain rfl := Option.some.inj h
      exact ⟨hparse, Bool.and_eq_true_iff.mp hok⟩
    · exact absurd h (by simp)

/-- What following a list of links at a depth adds: admitted URLs with new keys, and among the
visited keys in the end are those of all admitted links. -/
structure Discovered (E : CrawlEnv) (req : CrawlRequest) (seed : E.U.Url) (depth : UInt32)
    (links : List Str) (acc acc' : List Str × List CrawlTask) (new : List E.U.Url) : Prop where
  visited : acc'.1 = acc.1 ++ new.map (urlKey E req)
  queue : acc'.2 = acc.2 ++ new.map fun u ↦ ⟨E.U.toStr u, depth + 1⟩
  admitted : ∀ u ∈ new, ∃ link ∈ links, admitLink E req seed link = some u
  nodup : acc.1.Nodup → acc'.1.Nodup
  covers : ∀ link ∈ links, ∀ u, admitLink E req seed link = some u → urlKey E req u ∈ acc'.1

/-- Below the deepest depth there is room for one more. -/
theorem checkedSucc_of_lt {depth limit : UInt32} (h : depth < limit) :
    checkedSucc depth = some (depth + 1) := by
  have h1 := UInt32.lt_iff_toNat_lt.mp h
  have h2 := limit.toNat_lt
  exact if_pos (by omega)

/-- Following links below the deepest depth never overflows. -/
theorem discovered_foldlM {depth limit : UInt32} (hdepth : depth < limit) (links : List Str)
    (acc : List Str × List CrawlTask) :
    ∃ acc' new, links.foldlM (discover E req seed depth) acc = some acc' ∧
      Discovered E req seed depth links acc acc' new := by
  induction links generalizing acc with
  | nil => exact ⟨acc, [], rfl, by simp, by simp, by simp, id, by simp⟩
  | cons link links ih =>
    rw [List.foldlM_cons]
    cases ha : admitLink E req seed link with
    | none =>
      obtain ⟨acc', new, hfold, hnew⟩ := ih acc
      refine ⟨acc', new, by simp only [discover, ha]; exact hfold, hnew.visited, hnew.queue, ?_,
        hnew.nodup, ?_⟩
      · exact fun u hu ↦ (hnew.admitted u hu).imp fun l hl ↦ ⟨.tail _ hl.1, hl.2⟩
      · intro l hl u hu
        rcases List.mem_cons.mp hl with rfl | hl
        · rw [ha] at hu
          exact absurd hu (by simp)
        · exact hnew.covers l hl u hu
    | some parsed =>
      by_cases hseen : acc.1.contains (urlKey E req parsed)
      · obtain ⟨acc', new, hfold, hnew⟩ := ih acc
        refine ⟨acc', new, by simp only [discover, ha, hseen]; exact hfold, hnew.visited,
          hnew.queue, ?_, hnew.nodup, ?_⟩
        · exact fun u hu ↦ (hnew.admitted u hu).imp fun l hl ↦ ⟨.tail _ hl.1, hl.2⟩
        · intro l hl u hu
          rcases List.mem_cons.mp hl with rfl | hl
          · obtain rfl := Option.some.inj (ha.symm.trans hu)
            rw [hnew.visited]
            exact List.mem_append_left _ (List.contains_iff_mem.mp hseen)
          · exact hnew.covers l hl u hu
      · obtain ⟨acc', new, hfold, hnew⟩ := ih
          (acc.1 ++ [urlKey E req parsed], acc.2 ++ [⟨E.U.toStr parsed, depth + 1⟩])
        refine ⟨acc', parsed :: new, ?_, ?_, ?_, ?_, ?_, ?_⟩
        · simp only [discover, ha, hseen, checkedSucc_of_lt hdepth]
          exact hfold
        · rw [hnew.visited]
          simp
        · rw [hnew.queue]
          simp
        · intro u hu
          rcases List.mem_cons.mp hu with rfl | hu
          · exact ⟨link, .head _, ha⟩
          · exact (hnew.admitted u hu).imp fun l hl ↦ ⟨.tail _ hl.1, hl.2⟩
        · intro hnd
          refine hnew.nodup (List.nodup_append.mpr ⟨hnd, by simp, ?_⟩)
          rintro k hk k' hk' rfl
          rw [List.mem_singleton.mp hk'] at hk
          exact hseen (List.contains_iff_mem.mpr hk)
        · intro l hl u hu
          rcases List.mem_cons.mp hl with rfl | hl
          · obtain rfl := Option.some.inj (ha.symm.trans hu)
            rw [hnew.visited]
            simp
          · exact hnew.covers l hl u hu

/-- Links that a page contributes: none when links are not followed from its task. -/
def followed (E : CrawlEnv) (req : CrawlRequest) (task : CrawlTask) (data : ScrapeData) :
    List Str :=
  if req.sitemap ≠ .skip ∧ task.depth < maxDepth req then E.newLinks data task.url else []

/-- A completed task never overflows: a failure changes nothing, a page is collected and its links
are followed. -/
theorem complete_spec (task : CrawlTask) (result : Except CrwError ScrapeData) (s : CrawlState) :
    (∃ e, result = .error e ∧ complete E req seed task result s = some s) ∨
    ∃ data new acc', result = .ok data ∧
      Discovered E req seed task.depth (followed E req task data) (s.visited, s.queue) acc' new ∧
      (new ≠ [] → req.sitemap ≠ .skip ∧ task.depth < maxDepth req) ∧
      complete E req seed task result s = some
        { s with
          visited := acc'.1
          queue := acc'.2
          collected := s.collected ++ [data]
          returned := pageLimit req ≤ s.collected.length + 1
          scraped := s.scraped ++ [task] } := by
  cases result with
  | error e => exact .inl ⟨e, rfl, rfl⟩
  | ok data =>
    right
    by_cases hfollow : req.sitemap ≠ .skip ∧ task.depth < maxDepth req
    · obtain ⟨acc', new, hfold, hnew⟩ := discovered_foldlM
        hfollow.2 (E.newLinks data task.url) (s.visited, s.queue)
      refine ⟨data, new, acc', rfl, by rwa [followed, if_pos hfollow], fun _ ↦ hfollow, ?_⟩
      simp only [complete, if_pos hfollow, hfold, Option.map_some]
    · refine ⟨data, [], (s.visited, s.queue), rfl, ⟨by simp, by simp, by simp, id, ?_⟩,
        fun h ↦ absurd rfl h, by simp only [complete, if_neg hfollow, Option.map_some]⟩
      rw [followed, if_neg hfollow]
      simp

end Discovery

section Invariant

variable {E : CrawlEnv} {req : CrawlRequest} {seed : E.U.Url}

/-- Normalized form of a task's URL. -/
def taskKey (E : CrawlEnv) (req : CrawlRequest) (t : CrawlTask) : Option Str :=
  (E.U.parse t.url).toOption.map (urlKey E req)

/-- A task of an admitted link. -/
def AdmittedTask (E : CrawlEnv) (req : CrawlRequest) (seed : E.U.Url) (t : CrawlTask) : Prop :=
  ∃ u, E.U.parse t.url = .ok u ∧
    E.isInScope seed u req.allowSubdomains req.allowExternalLinks = true ∧
    E.shouldVisit u req.includePaths req.excludePaths = true

/-- What every state of the loop satisfies. -/
structure Inv (E : CrawlEnv) (req : CrawlRequest) (seed : E.U.Url) (s : CrawlState) : Prop where
  keys : (s.requested ++ s.queue).map (taskKey E req) = s.visited.map some
  nodup : s.visited.Nodup
  admitted : ∀ t ∈ s.requested ++ s.queue, t = seedTask E seed ∨
    (req.sitemap ≠ .skip ∧ AdmittedTask E req seed t)
  depth : ∀ t ∈ s.requested ++ s.queue, t.depth ≤ maxDepth req
  started : ∀ t ∈ s.inFlight, t ∈ s.requested
  room : s.returned = false → s.collected.length < pageLimit req
  pages : s.collected.length ≤ pageLimit req

theorem inv_initial (hU : E.U.Lawful) : Inv E req seed (initialState E req seed) where
  keys := by
    simp only [initialState, List.nil_append, List.map_cons, List.map_nil, taskKey, seedTask,
      hU.parse_toStr, Except.toOption, Option.map_some]
  nodup := by simp [initialState]
  admitted t ht := .inl (List.mem_singleton.mp ht)
  depth t ht := by
    rw [List.mem_singleton.mp ht, UInt32.le_iff_toNat_le]
    exact Nat.zero_le _
  started t ht := absurd ht (by simp [initialState])
  room _ := Nat.lt_of_lt_of_le Nat.zero_lt_one (Nat.le_max_right _ _)
  pages := Nat.zero_le _

/-- Starting a batch moves tasks from the queue to those started. -/
theorem Inv.batch {s : CrawlState} (h : Inv E req seed s) : Inv E req seed (startBatch req s) := by
  have hsame : (startBatch req s).requested ++ (startBatch req s).queue =
      s.requested ++ s.queue := by
    simp only [startBatch, List.append_assoc, List.take_append_drop]
  exact
    { keys := hsame ▸ h.keys
      nodup := h.nodup
      admitted := hsame ▸ h.admitted
      depth := hsame ▸ h.depth
      started := fun t ht ↦ List.mem_append_right _ ht
      room := h.room
      pages := h.pages }

/-- Below a limit the increment is exact. -/
theorem toNat_succ_of_lt {a b : UInt32} (h : a < b) : (a + 1).toNat = a.toNat + 1 := by
  rw [UInt32.lt_iff_toNat_lt] at h
  have hb := b.toNat_lt
  have h1 : (1 : UInt32).toNat = 1 := rfl
  rw [UInt32.toNat_add]
  omega

private theorem succ_le_of_lt {a b : UInt32} (h : a < b) : a + 1 ≤ b := by
  rw [UInt32.le_iff_toNat_le, toNat_succ_of_lt h]
  exact UInt32.lt_iff_toNat_lt.mp h

/-- Completing a task adds tasks of admitted links with new keys. -/
theorem Inv.complete (hU : E.U.Lawful) {s s' : CrawlState} {before after : List CrawlTask}
    {task : CrawlTask} {result : Except CrwError ScrapeData} (h : Inv E req seed s)
    (hrun : s.returned = false) (hflight : s.inFlight = before ++ task :: after)
    (hdone : Crawl.complete E req seed task result { s with inFlight := before ++ after } =
      some s') : Inv E req seed s' := by
  have hstarted : ∀ t ∈ before ++ after, t ∈ s.requested := by
    intro t ht
    refine h.started t ?_
    rw [hflight]
    rcases List.mem_append.mp ht with ht | ht
    · exact List.mem_append_left _ ht
    · exact List.mem_append_right _ (.tail _ ht)
  rcases complete_spec task result { s with inFlight := before ++ after } with
    ⟨e, -, hc⟩ | ⟨data, new, acc', -, hnew, hsome, hc⟩
  · obtain rfl := Option.some.inj (hc.symm.trans hdone)
    exact { h with started := hstarted }
  · obtain rfl := Option.some.inj (hc.symm.trans hdone)
    have hkey : ∀ u, taskKey E req ⟨E.U.toStr u, task.depth + 1⟩ = some (urlKey E req u) := by
      intro u
      simp only [taskKey, hU.parse_toStr, Except.toOption, Option.map_some]
    have hmem : ∀ t ∈ s.requested ++ acc'.2, t ∈ s.requested ++ s.queue ∨
        ∃ u ∈ new, t = ⟨E.U.toStr u, task.depth + 1⟩ := by
      intro t ht
      rw [hnew.queue, ← List.append_assoc, List.mem_append] at ht
      refine ht.imp id fun ht ↦ ?_
      obtain ⟨u, hu, rfl⟩ := List.mem_map.mp ht
      exact ⟨u, hu, rfl⟩
    constructor
    case keys =>
      dsimp only
      rw [hnew.queue, hnew.visited, ← List.append_assoc, List.map_append, h.keys, List.map_append,
        List.map_map, List.map_map]
      exact congrArg _ (List.map_congr_left fun u _ ↦ hkey u)
    case nodup => exact hnew.nodup h.nodup
    case admitted =>
      intro t ht
      rcases hmem t ht with ht | ⟨u, hu, rfl⟩
      · exact h.admitted t ht
      · obtain ⟨link, -, hlink⟩ := hnew.admitted u hu
        exact .inr ⟨(hsome (List.ne_nil_of_mem hu)).1, u, hU.parse_toStr u, (admit_some hlink).2⟩
    case depth =>
      intro t ht
      rcases hmem t ht with ht | ⟨u, hu, rfl⟩
      · exact h.depth t ht
      · exact succ_le_of_lt (hsome (List.ne_nil_of_mem hu)).2
    case started => exact hstarted
    case room =>
      intro hret
      simp only [List.length_append, List.length_cons, List.length_nil]
      simpa using hret
    case pages =>
      have := h.room hrun
      simp only [List.length_append, List.length_cons, List.length_nil]
      omega

/-- Every step keeps the invariant. -/
theorem Inv.step (hU : E.U.Lawful) {s s' : CrawlState} {e : CrawlEvent} (h : Inv E req seed s)
    (hstep : CrawlStep E req seed s e s') : Inv E req seed s' := by
  cases hstep with
  | batch => exact h.batch
  | complete hrun hflight hdone => exact h.complete hU hrun hflight hdone
  | finish => exact { h with room := fun hret ↦ absurd hret (by simp) }

end Invariant

section Termination

variable {E : CrawlEnv} {req : CrawlRequest} {seed : E.U.Url}

/-- Pages still wanted, then tasks not completed, then tasks not started. -/
def rank (req : CrawlRequest) (s : CrawlState) : ℕ × ℕ × ℕ :=
  (if s.returned then 0 else pageLimit req - s.collected.length + 1,
    s.queue.length + s.inFlight.length, s.queue.length)

/-- The lexicographic order of ranks. -/
def RankLt : ℕ × ℕ × ℕ → ℕ × ℕ × ℕ → Prop := Prod.Lex (· < ·) (Prod.Lex (· < ·) (· < ·))

theorem rankLt_wf : WellFounded RankLt :=
  Nat.lt_wfRel.wf.prod_lex (Nat.lt_wfRel.wf.prod_lex Nat.lt_wfRel.wf)

/-- Every step lowers the rank: a page is collected, a task is used up, or a batch is started. -/
theorem rank_step {s s' : CrawlState} {e : CrawlEvent} (hstep : CrawlStep E req seed s e s') :
    RankLt (rank req s') (rank req s) := by
  cases hstep with
  | batch hrun hidle hwork =>
    have hpos : 0 < s.queue.length := List.length_pos_iff.mpr hwork
    have hmax : 1 ≤ maxConcurrency req := Nat.le_max_right _ _
    have hsum : (startBatch req s).queue.length + (startBatch req s).inFlight.length =
        s.queue.length + s.inFlight.length := by
      simp only [startBatch, hidle, List.length_drop, List.length_take, List.length_nil]
      omega
    rw [rank, rank, hsum]
    refine .right _ (.right _ ?_)
    simp only [startBatch, List.length_drop]
    omega
  | @complete _ before after task result hrun hflight hdone =>
    rcases complete_spec task result { s with inFlight := before ++ after } with
      ⟨e, -, hc⟩ | ⟨data, new, acc', -, -, -, hc⟩
    · obtain rfl := Option.some.inj (hc.symm.trans hdone)
      refine .right _ (.left _ _ ?_)
      simp only [hflight, List.length_append, List.length_cons]
      omega
    · obtain rfl := Option.some.inj (hc.symm.trans hdone)
      refine .left _ _ ?_
      simp only [hrun, List.length_append, List.length_cons, List.length_nil, decide_eq_true_eq,
        Bool.false_eq_true, if_false]
      split <;> omega
  | finish hrun =>
    refine .left _ _ ?_
    simp only [hrun, if_true, Bool.false_eq_true, if_false]
    omega

/-- The loop cannot go on forever. -/
theorem crawlStep_wf : WellFounded fun s' s ↦ ∃ e, CrawlStep E req seed s e s' :=
  Subrelation.wf (fun ⟨_, hstep⟩ ↦ rank_step hstep) (InvImage.wf (rank req) rankLt_wf)

/-- The loop stops only by returning. -/
theorem returned_of_terminal {s : CrawlState} (h : Terminal (CrawlStep E req seed) s) :
    s.returned = true := by
  by_contra hret
  rw [Bool.not_eq_true] at hret
  cases hflight : s.inFlight with
  | cons task rest =>
    have hfirst : s.inFlight = [] ++ task :: rest := hflight
    exact h (.complete task (.error (.other []))) _ (.complete hret hfirst rfl)
  | nil =>
    by_cases hq : s.queue = []
    · exact h _ _ (.finish hret hflight hq)
    · exact h _ _ (.batch hret hflight hq)

/-- From every state the loop can run until it returns. -/
theorem exists_returned (s : CrawlState) :
    ∃ events t, Run (CrawlStep E req seed) s events t ∧ t.returned = true := by
  obtain ⟨events, t, hrun, hterminal⟩ := exists_terminal (crawlStep_wf (E := E)) s
  exact ⟨events, t, hrun, returned_of_terminal hterminal⟩

end Termination

/-- What a crawl promises in every state: few enough pages, no normalized URL started twice, every
task but the seed's for an admitted link, depths within the limit and counted without overflow, and
only the seed when links are not followed. -/
structure CrawlSafe (E : CrawlEnv) (req : CrawlRequest) (seed : E.U.Url) (s : CrawlState) :
    Prop where
  pages : s.collected.length ≤ max req.limit 1
  once : (s.requested.map (taskKey E req)).Nodup
  admitted : ∀ t ∈ s.requested, t = seedTask E seed ∨ AdmittedTask E req seed t
  depth : ∀ t ∈ s.requested, t.depth ≤ maxDepth req
  noOverflow : ∀ t ∈ s.inFlight, ∀ result, complete E req seed t result s ≠ none
  skip : req.sitemap = .skip → ∀ t ∈ s.requested, t = seedTask E seed

theorem Inv.crawlSafe {E : CrawlEnv} {req : CrawlRequest} {seed : E.U.Url} {s : CrawlState}
    (h : Inv E req seed s) : CrawlSafe E req seed s where
  pages := h.pages
  once := by
    have hnd : ((s.requested ++ s.queue).map (taskKey E req)).Nodup := by
      rw [h.keys]
      exact (List.nodup_map_iff (Option.some_injective _)).mpr h.nodup
    rw [List.map_append] at hnd
    exact (List.nodup_append.mp hnd).1
  admitted t ht := (h.admitted t (List.mem_append_left _ ht)).imp id And.right
  depth t ht := h.depth t (List.mem_append_left _ ht)
  noOverflow t _ result := by
    rcases complete_spec t result s with ⟨_, -, hc⟩ | ⟨_, _, _, -, -, -, hc⟩ <;> rw [hc] <;> simp
  skip hskip t ht := (h.admitted t (List.mem_append_left _ ht)).resolve_right fun ha ↦ ha.1 hskip

theorem initialState_of_crwCrawl {E : CrawlEnv} {req : CrawlRequest} {seed : E.U.Url}
    {s₀ : CrawlState} (h : crwCrawl E req = .ok (seed, s₀)) : s₀ = initialState E req seed := by
  unfold crwCrawl at h
  split at h
  · exact absurd h (by simp)
  · obtain ⟨rfl, rfl⟩ := Prod.mk.inj (Except.ok.inj h)
    rfl

/-- A crawl that is entered is safe in every state it reaches, cannot go on forever, and stops only
by returning. -/
theorem crwCrawl_safe {E : CrawlEnv} (hU : E.U.Lawful) {req : CrawlRequest} {seed : E.U.Url}
    {s₀ : CrawlState} (hstart : crwCrawl E req = .ok (seed, s₀)) :
    (∀ f : ℕ → CrawlState, ¬ ∀ n, ∃ e, CrawlStep E req seed (f n) e (f (n + 1))) ∧
    ∀ events s, Run (CrawlStep E req seed) s₀ events s →
      CrawlSafe E req seed s ∧ (Terminal (CrawlStep E req seed) s → s.returned = true) := by
  have hinit := initialState_of_crwCrawl hstart
  refine ⟨no_infinite_run crawlStep_wf, fun events s hrun ↦ ⟨?_, returned_of_terminal⟩⟩
  have hinv : Inv E req seed s := hrun.invariant (fun _ _ _ h hstep ↦ h.step hU hstep)
    (hinit ▸ inv_initial hU)
  exact hinv.crawlSafe

/-- Links that are already normal, patterns that compile, and no links in the text of a page. -/
def plainEnv : CrawlEnv where
  U := .plain
  regexMatch _ _ := some true
  extractLinks _ _ := []

/-- A crawl of `https://example.com/` with the defaults of the API. -/
def exampleCrawl (limit : Nat) (maxConcurrency : Option Nat) : CrawlRequest where
  url := "https://example.com/"
  excludePaths := []
  includePaths := []
  maxDiscoveryDepth := none
  sitemap := .includeSitemap
  ignoreQueryParameters := true
  limit := limit
  allowExternalLinks := false
  allowSubdomains := false
  maxConcurrency := maxConcurrency
  scrapeOptions := none

theorem isPlainUrl_example : isPlainUrl "https://example.com/" = true := by decide

theorem crwCrawl_example (limit : Nat) (maxConcurrency : Option Nat) :
    crwCrawl plainEnv (exampleCrawl limit maxConcurrency) =
      .ok (⟨"https://example.com/", isPlainUrl_example⟩,
        initialState plainEnv (exampleCrawl limit maxConcurrency)
          ⟨"https://example.com/", isPlainUrl_example⟩) := by
  have hparse : UrlCrate.plain.parse (exampleCrawl limit maxConcurrency).url =
      .ok ⟨"https://example.com/", isPlainUrl_example⟩ := UrlCrate.parse_plain _
  unfold crwCrawl
  rw [show plainEnv.U.parse (exampleCrawl limit maxConcurrency).url = _ from hparse]

theorem crwCrawl_safe_example :
    (∀ f : ℕ → CrawlState, ¬ ∀ n, ∃ e, CrawlStep plainEnv (exampleCrawl 10 none)
      ⟨"https://example.com/", isPlainUrl_example⟩ (f n) e (f (n + 1))) ∧
    ∀ events s, Run (CrawlStep plainEnv (exampleCrawl 10 none)
        ⟨"https://example.com/", isPlainUrl_example⟩)
        (initialState plainEnv (exampleCrawl 10 none) ⟨"https://example.com/", isPlainUrl_example⟩)
        events s →
      CrawlSafe plainEnv (exampleCrawl 10 none) ⟨"https://example.com/", isPlainUrl_example⟩ s ∧
        (Terminal (CrawlStep plainEnv (exampleCrawl 10 none)
          ⟨"https://example.com/", isPlainUrl_example⟩) s → s.returned = true) :=
  crwCrawl_safe UrlCrate.lawful_plain (crwCrawl_example 10 none)

end CrwShield.Crawl
