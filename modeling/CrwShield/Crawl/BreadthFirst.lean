import CrwShield.Base.Search
import CrwShield.Crawl.Safety

/-!
# Order of a crawl

A crawl of a fixed link graph is a search of it. Tasks of different depths share a batch, so a
deeper task can complete first: the crawl is breadth-first exactly when every task that completes
has the least depth in flight.
-/

open CrwShield.Base CrwShield.Base.Str CrwShield.Core

namespace CrwShield.Crawl

/-- A runner that always answers the same page for a URL. -/
structure LinkGraph (E : CrawlEnv) (req : CrawlRequest) where
  page : Str → ScrapeData

section Graph

variable {E : CrawlEnv} {req : CrawlRequest} {seed : E.U.Url} (G : LinkGraph E req)

/-- An admitted link. -/
def LinkGraph.Links (seed u v : E.U.Url) : Prop :=
  req.sitemap ≠ .skip ∧ ∃ link ∈ E.newLinks (G.page (E.U.toStr u)) (E.U.toStr u),
    admitLink E req seed link = some v

/-- An admitted link between normalized URLs. -/
def LinkGraph.Edge (seed : E.U.Url) : Str → Str → Prop :=
  LabelEdge (G.Links seed) seed (urlKey E req)

/-- URLs with one normalized form that the links lead to have admitted links to the same normalized
URLs. -/
def LinkGraph.Uniform (seed : E.U.Url) : Prop := LabelsAgree (G.Links seed) seed (urlKey E req)

/-- A normalized URL is that of one which a path of admitted links of some length leads to. -/
def LinkGraph.Leads (seed : E.U.Url) (n : ℕ) (k : Str) : Prop :=
  ∃ u, ReachesIn (G.Links seed) seed n u ∧ urlKey E req u = k

/-- The runner answers a completing task with the page of its URL. -/
def LinkGraph.Answers : CrawlEvent → Prop
  | .complete task result => result = .ok (G.page task.url)
  | _ => True

/-- Runs of a crawl of the graph. -/
def LinkGraph.Crawls (seed : E.U.Url) : CrawlState → List CrawlEvent → CrawlState → Prop :=
  Run (Guarded (fun _ e ↦ G.Answers e) (CrawlStep E req seed))

/-- The normalized URL of a task is at a distance from the seed. -/
def LinkGraph.At (seed : E.U.Url) (t : CrawlTask) (n : ℕ) : Prop :=
  ∃ k, taskKey E req t = some k ∧ G.Leads seed n k ∧ ∀ m, G.Leads seed m k → n ≤ m

variable {G} in
theorem LinkGraph.At.unique {t : CrawlTask} {m n : ℕ} (hm : G.At seed t m) (hn : G.At seed t n) :
    m = n := by
  obtain ⟨k, hk, hm, hleast⟩ := hm
  obtain ⟨k', hk', hn, hleast'⟩ := hn
  obtain rfl := Option.some.inj (hk.symm.trans hk')
  exact Nat.le_antisymm (hleast n hn) (hleast' m hm)

/-- The pages are those of the URLs within the depth limit, in nondecreasing distance. -/
structure LinkGraph.BreadthFirst (seed : E.U.Url) (s : CrawlState) : Prop where
  pages : s.collected = s.scraped.map fun t ↦ G.page t.url
  reachable : ∀ k, (∃ t ∈ s.scraped, taskKey E req t = some k) ↔
    ∃ n, n ≤ (maxDepth req).toNat ∧ G.Leads seed n k
  ordered : s.scraped.Pairwise fun t t' ↦ ∀ m n, G.At seed t m → G.At seed t' n → m ≤ n

/-- The task that completes has the least depth in flight. -/
def LeastFirst (s : CrawlState) : CrawlEvent → Prop
  | .complete task _ => ∀ t ∈ s.inFlight, task.depth ≤ t.depth
  | _ => True

variable {G}

/-- What every state of a crawl of the graph satisfies beside the safety invariant: the tasks
started are those scraped and those in flight, and an early return is due to the limit. -/
structure GraphInv (G : LinkGraph E req) (seed : E.U.Url) (s : CrawlState) : Prop where
  inv : Inv E req seed s
  urls : ∀ t ∈ s.requested ++ s.queue, ∃ u n, t.url = E.U.toStr u ∧
    ReachesIn (G.Links seed) seed n u
  perm : (s.scraped ++ s.inFlight).Perm s.requested
  pages : s.collected = s.scraped.map fun t ↦ G.page t.url
  stop : s.returned = true → s.collected.length < pageLimit req → s.inFlight = [] ∧ s.queue = []

theorem graphInv_initial (hU : E.U.Lawful) : GraphInv G seed (initialState E req seed) where
  inv := inv_initial hU
  urls t ht := ⟨seed, 0, by rw [List.mem_singleton.mp ht]; rfl, .root⟩
  perm := .refl _
  pages := rfl
  stop h := absurd h (by simp [initialState])

/-- A page of the graph that completes: it is collected and its new links are enqueued. -/
theorem complete_page {task : CrawlTask} {s s' : CrawlState} {result : Except CrwError ScrapeData}
    (hans : result = .ok (G.page task.url)) (hdone : complete E req seed task result s = some s') :
    ∃ new acc', Discovered E req seed task.depth (followed E req task (G.page task.url))
        (s.visited, s.queue) acc' new ∧
      (new ≠ [] → req.sitemap ≠ .skip ∧ task.depth < maxDepth req) ∧
      s' = { s with
        visited := acc'.1
        queue := acc'.2
        collected := s.collected ++ [G.page task.url]
        returned := pageLimit req ≤ s.collected.length + 1
        scraped := s.scraped ++ [task] } := by
  subst hans
  rcases complete_spec task (.ok (G.page task.url)) s with
    ⟨e, he, -⟩ | ⟨data, new, acc', hdata, hnew, hsome, hc⟩
  · exact absurd he (by simp)
  · obtain rfl := Except.ok.inj hdata
    exact ⟨new, acc', hnew, hsome, Option.some.inj (hdone.symm.trans hc)⟩

private theorem perm_complete {scraped before after requested : List CrawlTask} {task : CrawlTask}
    (h : (scraped ++ (before ++ task :: after)).Perm requested) :
    ((scraped ++ [task]) ++ (before ++ after)).Perm requested := by
  refine List.Perm.trans ?_ h
  rw [List.append_assoc, List.singleton_append]
  exact (List.perm_middle.symm).append_left scraped

/-- The links that a task follows are those of its page. -/
theorem mem_newLinks_of_followed {task : CrawlTask} {data : ScrapeData} {link : Str}
    (h : link ∈ followed E req task data) : link ∈ E.newLinks data task.url := by
  rw [followed] at h
  split at h
  · exact h
  · exact absurd h (by simp)

/-- A URL enqueued by a completing page is one that the links lead to. -/
private theorem GraphInv.newUrl_reached {s : CrawlState} (h : GraphInv G seed s)
    {before after : List CrawlTask} {task : CrawlTask} {acc' : List Str × List CrawlTask}
    {new : List E.U.Url} (hflight : s.inFlight = before ++ task :: after)
    (hnew : Discovered E req seed task.depth (followed E req task (G.page task.url))
      (s.visited, s.queue) acc' new)
    (hsome : new ≠ [] → req.sitemap ≠ .skip ∧ task.depth < maxDepth req) {u : E.U.Url}
    (hu : u ∈ new) : ∃ v n, E.U.toStr u = E.U.toStr v ∧ ReachesIn (G.Links seed) seed n v := by
  have htask : task ∈ s.requested ++ s.queue :=
    List.mem_append_left _ (h.perm.mem_iff.mp (List.mem_append_right _ (by rw [hflight]; simp)))
  obtain ⟨u₀, n, hurl, hreach⟩ := h.urls task htask
  obtain ⟨link, hlink, hadmit⟩ := hnew.admitted u hu
  have hlinks := mem_newLinks_of_followed hlink
  rw [hurl] at hlinks
  exact ⟨u, n + 1, rfl, hreach.step ⟨(hsome (List.ne_nil_of_mem hu)).1, link, hlinks, hadmit⟩⟩

/-- Every step of a crawl of the graph keeps the invariant. -/
theorem GraphInv.step (hU : E.U.Lawful) {s s' : CrawlState} {e : CrawlEvent}
    (h : GraphInv G seed s) (hans : G.Answers e) (hstep : CrawlStep E req seed s e s') :
    GraphInv G seed s' := by
  have hinv := h.inv.step hU hstep
  cases hstep with
  | batch hrun hidle hwork =>
    refine ⟨hinv, ?_, ?_, h.pages, fun hret ↦ absurd hret (by simp [startBatch, hrun])⟩
    · simp only [startBatch, List.append_assoc, List.take_append_drop]
      exact h.urls
    · have hperm := h.perm
      rw [hidle, List.append_nil] at hperm
      exact hperm.append_right _
  | complete hrun hflight hdone =>
    obtain ⟨new, acc', hnew, hsome, rfl⟩ := complete_page hans hdone
    refine ⟨hinv, ?_, perm_complete (hflight ▸ h.perm), ?_, ?_⟩
    · intro t ht
      dsimp only at ht
      rw [hnew.queue, ← List.append_assoc, List.mem_append] at ht
      rcases ht with ht | ht
      · exact h.urls t ht
      · obtain ⟨u, hu, rfl⟩ := List.mem_map.mp ht
        exact h.newUrl_reached hflight hnew hsome hu
    · rw [List.map_append, ← h.pages]
      rfl
    · intro hret hlen
      simp only [decide_eq_true_eq, List.length_append, List.length_cons, List.length_nil]
        at hret hlen
      omega
  | finish _ hidle hwork => exact ⟨hinv, h.urls, h.perm, h.pages, fun _ _ ↦ ⟨hidle, hwork⟩⟩

theorem graphInv_of_crawls (hU : E.U.Lawful) {events : List CrawlEvent} {s : CrawlState}
    (h : G.Crawls seed (initialState E req seed) events s) : GraphInv G seed s :=
  h.invariant (I := GraphInv G seed) (fun _ _ _ hinv hstep ↦ hinv.step hU hstep.1 hstep.2)
    (graphInv_initial hU)

/-- A task as a node of the search. -/
def node (E : CrawlEnv) (req : CrawlRequest) (t : CrawlTask) : Str × ℕ :=
  ((taskKey E req t).getD [], t.depth.toNat)

/-- A crawl as a search: what is in flight or queued is pending. -/
def asSearch (E : CrawlEnv) (req : CrawlRequest) (s : CrawlState) : Search Str where
  pending := {p | ∃ t ∈ s.inFlight ++ s.queue, p = node E req t}
  expanded := s.scraped.map (node E req)

section State

variable {s : CrawlState} (h : GraphInv G seed s)
include h

/-- The tasks of a state are those scraped, in flight and queued. -/
theorem GraphInv.mem_tasks {t : CrawlTask} :
    t ∈ s.requested ++ s.queue ↔ t ∈ s.scraped ∨ t ∈ s.inFlight ∨ t ∈ s.queue := by
  rw [List.mem_append, ← h.perm.mem_iff, List.mem_append, or_assoc]

/-- Every task has a key. -/
theorem GraphInv.taskKey_of_mem (hU : E.U.Lawful) {t : CrawlTask}
    (ht : t ∈ s.requested ++ s.queue) :
    ∃ u n, t.url = E.U.toStr u ∧ taskKey E req t = some (urlKey E req u) ∧
      ReachesIn (G.Links seed) seed n u := by
  obtain ⟨u, n, hu, hreach⟩ := h.urls t ht
  refine ⟨u, n, hu, ?_, hreach⟩
  simp only [taskKey, hu, hU.parse_toStr, Except.toOption, Option.map_some]

/-- No two tasks share a key. -/
theorem GraphInv.nodup_keys :
    ((s.scraped ++ s.inFlight ++ s.queue).map (taskKey E req)).Nodup := by
  have hperm : ((s.scraped ++ s.inFlight ++ s.queue).map (taskKey E req)).Perm
      ((s.requested ++ s.queue).map (taskKey E req)) := (h.perm.append_right s.queue).map _
  rw [hperm.nodup_iff, h.inv.keys]
  exact (List.nodup_map_iff (Option.some_injective _)).mpr h.inv.nodup

/-- The nodes discovered by the search are the visited keys. -/
theorem GraphInv.seen_iff (hU : E.U.Lawful) {k : Str} :
    (asSearch E req s).Seen k ↔ k ∈ s.visited := by
  have hkeys : (∃ t ∈ s.requested ++ s.queue, taskKey E req t = some k) ↔ k ∈ s.visited := by
    rw [← List.mem_map, h.inv.keys]
    simp
  rw [← hkeys]
  constructor
  · rintro ⟨d, ⟨t, ht, he⟩ | hd⟩
    · have hm := h.mem_tasks.mpr (.inr (List.mem_append.mp ht))
      obtain ⟨u, -, -, hu, -⟩ := h.taskKey_of_mem hU hm
      refine ⟨t, hm, ?_⟩
      rw [(Prod.mk.inj he).1, hu]
      rfl
    · obtain ⟨t, ht, he⟩ := List.mem_map.mp hd
      have hm := h.mem_tasks.mpr (.inl ht)
      obtain ⟨u, -, -, hu, -⟩ := h.taskKey_of_mem hU hm
      refine ⟨t, hm, ?_⟩
      rw [← (Prod.mk.inj he).1, hu]
      rfl
  · rintro ⟨t, hm, ht⟩
    have hnode : (k, t.depth.toNat) = node E req t := by rw [node, ht]; rfl
    rcases h.mem_tasks.mp hm with hs | hs
    · exact ⟨t.depth.toNat, .inr (List.mem_map.mpr ⟨t, hs, hnode.symm⟩)⟩
    · exact ⟨t.depth.toNat, .inl ⟨t, List.mem_append.mpr hs, hnode⟩⟩

/-- A completing task shares its node with no other pending one. -/
private theorem node_ne (hU : E.U.Lawful) {before after : List CrawlTask} {task t : CrawlTask}
    (hflight : s.inFlight = before ++ task :: after)
    (ht : t ∈ before ++ after ++ s.queue) : node E req t ≠ node E req task := by
  have hmiddle : s.scraped ++ s.inFlight ++ s.queue =
      s.scraped ++ before ++ task :: (after ++ s.queue) := by
    rw [hflight]
    simp
  have hnd := h.nodup_keys
  rw [hmiddle, (List.perm_middle.map _).nodup_iff, List.map_cons, List.nodup_cons] at hnd
  have hmem : t ∈ s.scraped ++ before ++ (after ++ s.queue) := by
    simp only [List.mem_append] at ht ⊢
    tauto
  have htasks : ∀ t' ∈ s.scraped ++ before ++ task :: (after ++ s.queue),
      ∃ k, taskKey E req t' = some k := by
    intro t' ht'
    rw [← hmiddle, List.append_assoc] at ht'
    have hm := h.mem_tasks.mpr (by simpa only [List.mem_append] using ht')
    obtain ⟨u, -, -, hu, -⟩ := h.taskKey_of_mem hU hm
    exact ⟨_, hu⟩
  obtain ⟨k, hk⟩ := htasks t (List.perm_middle.mem_iff.mpr (.tail _ hmem))
  obtain ⟨k', hk'⟩ := htasks task (by simp)
  intro he
  have hkk : k = k' := by simpa [node, hk, hk'] using congrArg Prod.fst he
  exact hnd.1 (List.mem_map.mpr ⟨t, hmem, by rw [hk, hk', hkk]⟩)

/-- A completing page of the graph is the expansion of its node. -/
theorem GraphInv.expands (hU : E.U.Lawful) (hG : G.Uniform seed) {s' : CrawlState}
    {before after : List CrawlTask} {task : CrawlTask} {result : Except CrwError ScrapeData}
    (hflight : s.inFlight = before ++ task :: after) (hans : result = .ok (G.page task.url))
    (hinv' : Inv E req seed s')
    (hdone : Crawl.complete E req seed task result { s with inFlight := before ++ after } =
      some s') :
    Search.Expands (G.Edge seed) (maxDepth req).toNat (asSearch E req s) (node E req task)
      (asSearch E req s') := by
  obtain ⟨new, acc', hnew, hsome, rfl⟩ := complete_page hans hdone
  have htask : task ∈ s.inFlight := by rw [hflight]; simp
  obtain ⟨u₀, n₀, hurl, hkey₀, hreach⟩ :=
    h.taskKey_of_mem hU (h.mem_tasks.mpr (.inr (.inl htask)))
  have hnode : (node E req task).1 = urlKey E req u₀ := by rw [node, hkey₀]; rfl
  have hnewNode : ∀ u ∈ new, node E req ⟨E.U.toStr u, task.depth + 1⟩ =
      (urlKey E req u, task.depth.toNat + 1) := by
    intro u hu
    have hlt := (hsome (List.ne_nil_of_mem hu)).2
    simp only [node, taskKey, hU.parse_toStr, Except.toOption, Option.map_some, Option.getD_some]
    rw [toNat_succ_of_lt hlt]
  have hlinks : ∀ link, link ∈ followed E req task (G.page task.url) →
      link ∈ E.newLinks (G.page (E.U.toStr u₀)) (E.U.toStr u₀) :=
    fun link hlink ↦ hurl ▸ mem_newLinks_of_followed hlink
  refine ⟨⟨task, List.mem_append_left _ htask, rfl⟩, fun q ↦ ⟨?_, ?_⟩, ?_⟩
  · rintro ⟨t, ht, rfl⟩
    dsimp only at ht
    rw [hnew.queue, ← List.append_assoc, List.mem_append] at ht
    rcases ht with ht | ht
    · refine .inl ⟨⟨t, ?_, rfl⟩, node_ne h hU hflight ht⟩
      rw [hflight]
      simp only [List.mem_append, List.mem_cons] at ht ⊢
      tauto
    · obtain ⟨u, hu, rfl⟩ := List.mem_map.mp ht
      obtain ⟨hskip, hlt⟩ := hsome (List.ne_nil_of_mem hu)
      obtain ⟨link, hlink, hadmit⟩ := hnew.admitted u hu
      rw [hnewNode u hu, h.seen_iff hU, hnode]
      refine .inr ⟨UInt32.lt_iff_toNat_lt.mp hlt, rfl,
        ⟨n₀, u₀, u, hreach, rfl, ⟨hskip, link, hlinks link hlink, hadmit⟩, rfl⟩, ?_⟩
      have hnd := hinv'.nodup
      dsimp only at hnd
      rw [hnew.visited] at hnd
      exact fun hv ↦ (List.nodup_append.mp hnd).2.2 _ hv _ (List.mem_map.mpr ⟨u, hu, rfl⟩) rfl
  · rintro (⟨⟨t, ht, rfl⟩, hne⟩ |
      ⟨hlt, hdepth, ⟨n₁, u₁, v₁, hreach₁, hu₁, hedge, hv₁⟩, hseen⟩)
    · refine ⟨t, ?_, rfl⟩
      have htask : t ≠ task := fun he ↦ hne (by rw [he])
      dsimp only
      rw [hnew.queue]
      rw [hflight] at ht
      simp only [List.mem_append, List.mem_cons] at ht ⊢
      tauto
    · -- the URL at hand is one of the node, so it has a link to the same normalized URL
      rw [hnode] at hu₁
      obtain ⟨v, ⟨hskip, link, hlink, hadmit⟩, hv⟩ := hG n₁ n₀ u₁ u₀ hreach₁ hreach hu₁ v₁ hedge
      rw [hv₁] at hv
      rw [← hurl] at hlink
      have hfollowed : link ∈ followed E req task (G.page task.url) := by
        rw [followed, if_pos ⟨hskip, UInt32.lt_iff_toNat_lt.mpr hlt⟩]
        exact hlink
      have hcovered := hnew.covers link hfollowed v hadmit
      rw [hnew.visited, List.mem_append, hv] at hcovered
      obtain ⟨u, hu, hq⟩ := List.mem_map.mp
        (hcovered.resolve_left fun hvis ↦ hseen ((h.seen_iff hU).mpr hvis))
      refine ⟨⟨E.U.toStr u, task.depth + 1⟩, ?_, ?_⟩
      · dsimp only
        rw [hnew.queue]
        exact List.mem_append_right _ (List.mem_append_right _ (List.mem_map.mpr ⟨u, hu, rfl⟩))
      · rw [hnewNode u hu]
        exact Prod.ext hq.symm hdepth
  · simp only [asSearch, List.map_append, List.map_cons, List.map_nil]

end State

/-- Steps of a crawl of the graph in which tasks of least depth complete first. -/
def LinkGraph.CrawlsInOrder (G : LinkGraph E req) (seed : E.U.Url) :
    CrawlState → List CrawlEvent → CrawlState → Prop :=
  Run (Guarded (fun s e ↦ G.Answers e ∧ LeastFirst s e) (CrawlStep E req seed))

/-- The crawl so far is a least-depth-first search, and tasks were enqueued in the order of their
depths. -/
structure Orderly (G : LinkGraph E req) (seed : E.U.Url) (s : CrawlState) : Prop where
  graph : GraphInv G seed s
  search : ∃ ps, Run (Guarded Search.Least (Search.Expands (G.Edge seed) (maxDepth req).toNat))
    (Search.start (urlKey E req seed)) ps (asSearch E req s)
  sorted : (s.requested ++ s.queue).Pairwise fun t t' ↦ t.depth ≤ t'.depth

theorem orderly_initial (hU : E.U.Lawful) : Orderly G seed (initialState E req seed) where
  graph := graphInv_initial hU
  search := by
    refine ⟨[], ?_⟩
    have hnode : node E req (seedTask E seed) = (urlKey E req seed, 0) := by
      simp only [node, seedTask, taskKey, hU.parse_toStr, Except.toOption, Option.map_some,
        Option.getD_some]
      rfl
    have heq : asSearch E req (initialState E req seed) = .start (urlKey E req seed) := by
      simp only [asSearch, initialState, Search.start, List.nil_append, List.mem_singleton,
        exists_eq_left, hnode, List.map_nil]
      rfl
    rw [heq]
    exact .nil
  sorted := List.pairwise_singleton _ _

section State

variable {s : CrawlState} (h : Orderly G seed s)
include h

theorem Orderly.correct : Search.Correct (G.Edge seed) (urlKey E req seed) (maxDepth req).toNat
    (asSearch E req s) :=
  h.search.elim fun _ hrun ↦ Search.correct_of_run hrun

/-- A task of the state is a node of the search. -/
private theorem node_mem {t : CrawlTask} (ht : t ∈ s.requested ++ s.queue) :
    node E req t ∈ (asSearch E req s).pending ∨ node E req t ∈ (asSearch E req s).expanded := by
  rcases h.graph.mem_tasks.mp ht with hs | hs
  · exact .inr (List.mem_map.mpr ⟨t, hs, rfl⟩)
  · exact .inl ⟨t, List.mem_append.mpr hs, rfl⟩

/-- The depth of a task is the distance of its URL. -/
theorem Orderly.at_depth (hU : E.U.Lawful) (hG : G.Uniform seed) {t : CrawlTask}
    (ht : t ∈ s.requested ++ s.queue) : G.At seed t t.depth.toNat := by
  obtain ⟨u, -, -, hu, -⟩ := h.graph.taskKey_of_mem hU ht
  have hdist := h.correct.distance _ (node_mem h ht)
  rw [node, hu] at hdist
  exact ⟨_, hu, (reachesIn_label_iff hG).mp hdist.1,
    fun m hm ↦ hdist.2 m ((reachesIn_label_iff hG).mpr hm)⟩

/-- A task of least depth in flight has the least depth of all that are pending. -/
private theorem least_of_leastFirst {before after : List CrawlTask} {task : CrawlTask}
    (hflight : s.inFlight = before ++ task :: after)
    (hleast : ∀ t ∈ s.inFlight, task.depth ≤ t.depth) :
    (asSearch E req s).Least (node E req task) := by
  rintro _ ⟨t, ht, rfl⟩
  have htask : task ∈ s.requested := h.graph.inv.started task (by rw [hflight]; simp)
  have hle : task.depth ≤ t.depth := by
    rcases List.mem_append.mp ht with ht | ht
    · exact hleast t ht
    · exact (List.pairwise_append.mp h.sorted).2.2 task htask t ht
  exact UInt32.le_iff_toNat_le.mp hle

/-- Steps that complete tasks of least depth first keep the crawl orderly. -/
theorem Orderly.step (hU : E.U.Lawful) (hG : G.Uniform seed) {s' : CrawlState} {e : CrawlEvent}
    (hans : G.Answers e) (hleast : LeastFirst s e) (hstep : CrawlStep E req seed s e s') : Orderly G seed s' := by
  have hgraph := h.graph.step hU hans hstep
  cases hstep with
  | batch hrun hidle hwork =>
    refine ⟨hgraph, ?_, ?_⟩
    · have heq : asSearch E req (startBatch req s) = asSearch E req s := by
        simp only [asSearch, startBatch, hidle, List.nil_append, List.take_append_drop]
      rw [heq]
      exact h.search
    · simp only [startBatch, List.append_assoc, List.take_append_drop]
      exact h.sorted
  | @complete _ before after task result hrun hflight hdone =>
    have hexp := h.graph.expands hU hG hflight hans hgraph.inv hdone
    have hnode := least_of_leastFirst h hflight hleast
    obtain ⟨ps, hsearch⟩ := h.search
    refine ⟨hgraph, ⟨_, hsearch.snoc ⟨hnode, hexp⟩⟩, ?_⟩
    obtain ⟨new, acc', hnew, hsome, rfl⟩ := complete_page hans hdone
    dsimp only
    rw [hnew.queue, ← List.append_assoc, List.pairwise_append, List.pairwise_map]
    refine ⟨h.sorted, List.pairwise_of_forall fun _ _ ↦ UInt32.le_refl _, ?_⟩
    rintro t ht _ hn
    obtain ⟨u, hu, rfl⟩ := List.mem_map.mp hn
    have htask : node E req task ∈ (asSearch E req s).pending :=
      ⟨task, List.mem_append_left _ (by rw [hflight]; simp), rfl⟩
    have hle := h.correct.le_succ (node_mem h ht) htask
    rw [UInt32.le_iff_toNat_le, toNat_succ_of_lt (hsome (List.ne_nil_of_mem hu)).2]
    exact hle
  | finish _ hidle hwork => exact ⟨hgraph, h.search, h.sorted⟩

/-- An orderly crawl that returns below the page limit is breadth-first. -/
theorem Orderly.breadthFirst (hU : E.U.Lawful) (hG : G.Uniform seed) (hret : s.returned = true)
    (hlimit : s.collected.length < pageLimit req) : G.BreadthFirst seed s := by
  obtain ⟨hidle, hwork⟩ := h.graph.stop hret hlimit
  have hdone : (asSearch E req s).pending = ∅ := by
    simp only [asSearch, hidle, hwork, List.append_nil, List.not_mem_nil, false_and, exists_false,
      Set.ofPred_false]
  have hmem : ∀ t ∈ s.scraped, t ∈ s.requested ++ s.queue :=
    fun t ht ↦ h.graph.mem_tasks.mpr (.inl ht)
  refine ⟨h.graph.pages, fun k ↦ ?_, ?_⟩
  · have hleads : (∃ n, n ≤ (maxDepth req).toNat ∧ G.Leads seed n k) ↔
        ∃ d, (k, d) ∈ (asSearch E req s).expanded := by
      rw [h.correct.mem_expanded_iff hdone]
      exact exists_congr fun n ↦ and_congr_right fun _ ↦ (reachesIn_label_iff hG).symm
    rw [hleads]
    constructor
    · rintro ⟨t, ht, hk⟩
      exact ⟨t.depth.toNat, List.mem_map.mpr ⟨t, ht, by rw [node, hk]; rfl⟩⟩
    · rintro ⟨d, hd⟩
      obtain ⟨t, ht, he⟩ := List.mem_map.mp hd
      obtain ⟨u, -, -, hu, -⟩ := h.graph.taskKey_of_mem hU (hmem t ht)
      refine ⟨t, ht, ?_⟩
      rw [← (Prod.mk.inj he).1, hu]
      rfl
  · have hsorted := h.correct.ordered
    rw [asSearch, List.pairwise_map] at hsorted
    refine hsorted.imp_of_mem fun {t t'} ht ht' hle m n hm hn ↦ ?_
    rw [hm.unique (h.at_depth hU hG (hmem t ht)), hn.unique (h.at_depth hU hG (hmem t' ht'))]
    exact hle

end State

/-- A page at a larger distance is ahead of one at a smaller distance that is collected later or
still to come. -/
def Overtaken (G : LinkGraph E req) (seed : E.U.Url) (s : CrawlState) : Prop :=
  ∃ t t' m n, G.At seed t m ∧ G.At seed t' n ∧ n < m ∧
    ((t ∈ s.scraped ∧ t' ∈ s.inFlight) ∨ [t, t'].Sublist s.scraped)

/-- Once overtaken, a crawl stays overtaken. -/
theorem Overtaken.step {s s' : CrawlState} {e : CrawlEvent} (h : Overtaken G seed s)
    (hans : G.Answers e) (hstep : CrawlStep E req seed s e s') : Overtaken G seed s' := by
  obtain ⟨t, t', m, n, hm, hn, hlt, hahead⟩ := h
  refine ⟨t, t', m, n, hm, hn, hlt, ?_⟩
  cases hstep with
  | batch hrun hidle hwork =>
    rcases hahead with ⟨-, ht'⟩ | hsub
    · rw [hidle] at ht'
      exact absurd ht' (by simp)
    · exact .inr hsub
  | @complete _ before after task result hrun hflight hdone =>
    obtain ⟨new, acc', -, -, rfl⟩ := complete_page hans hdone
    rcases hahead with ⟨ht, ht'⟩ | hsub
    · by_cases he : t' = task
      · subst he
        exact .inr ((List.singleton_sublist.mpr ht).append (.refl [t']))
      · refine .inl ⟨List.mem_append_left _ ht, ?_⟩
        rw [hflight] at ht'
        simp only [List.mem_append, List.mem_cons] at ht' ⊢
        tauto
    · exact .inr (hsub.trans (List.sublist_append_left _ _))
  | finish => exact hahead

/-- A run either takes tasks of least depth first or is overtaken. -/
theorem inOrder_or_overtaken (hU : E.U.Lawful) (hG : G.Uniform seed) {events : List CrawlEvent}
    {s : CrawlState} (h : G.Crawls seed (initialState E req seed) events s) :
    (G.CrawlsInOrder seed (initialState E req seed) events s ∧ Orderly G seed s) ∨
      Overtaken G seed s := by
  induction h with
  | nil => exact .inl ⟨.nil, orderly_initial hU⟩
  | @snoc events s e s' _ hlast ih =>
    obtain ⟨hans, hstep⟩ := hlast
    rcases ih with ⟨hrun, horder⟩ | hover
    · by_cases hleast : LeastFirst s e
      · exact .inl ⟨hrun.snoc ⟨⟨hans, hleast⟩, hstep⟩, horder.step hU hG hans hleast hstep⟩
      · -- a task completes ahead of one of smaller depth, and depths are still distances
        right
        cases hstep with
        | batch => exact absurd trivial hleast
        | finish => exact absurd trivial hleast
        | @complete _ before after task result hrunning hflight hdone =>
          simp only [LeastFirst, not_forall, UInt32.not_le] at hleast
          obtain ⟨t', ht', hlt⟩ := hleast
          have hmem : ∀ t ∈ s.inFlight, t ∈ s.requested ++ s.queue :=
            fun t ht ↦ horder.graph.mem_tasks.mpr (.inr (.inl ht))
          have htask : task ∈ s.inFlight := by rw [hflight]; simp
          obtain ⟨new, acc', -, -, rfl⟩ := complete_page hans hdone
          refine ⟨task, t', _, _, horder.at_depth hU hG (hmem task htask),
            horder.at_depth hU hG (hmem t' ht'), UInt32.lt_iff_toNat_lt.mp hlt, .inl ⟨by simp, ?_⟩⟩
          have hne : t' ≠ task := fun he ↦ UInt32.lt_irrefl _ (he ▸ hlt)
          rw [hflight] at ht'
          simp only [List.mem_append, List.mem_cons] at ht' ⊢
          tauto
    · exact .inr (hover.step hans hstep)

/-- Runs that take tasks of least depth first are orderly. -/
theorem orderly_of_crawlsInOrder (hU : E.U.Lawful) (hG : G.Uniform seed)
    {events : List CrawlEvent} {s : CrawlState}
    (h : G.CrawlsInOrder seed (initialState E req seed) events s) : Orderly G seed s :=
  h.invariant (I := Orderly G seed)
    (fun _ _ _ horder hstep ↦ horder.step hU hG hstep.1.1 hstep.1.2 hstep.2) (orderly_initial hU)

/-- A crawl of a uniform link graph that returns below the page limit is breadth-first exactly when
in every step the task that completes has the least depth in flight. -/
theorem crwCrawl_breadthFirst_iff (hU : E.U.Lawful) (G : LinkGraph E req) (hG : G.Uniform seed)
    {s₀ s : CrawlState} (hstart : crwCrawl E req = .ok (seed, s₀)) {events : List CrawlEvent}
    (hrun : G.Crawls seed s₀ events s) (hret : s.returned = true)
    (hlimit : s.collected.length < pageLimit req) :
    G.BreadthFirst seed s ↔ G.CrawlsInOrder seed s₀ events s := by
  obtain rfl := initialState_of_crwCrawl hstart
  constructor
  · intro hbfs
    rcases inOrder_or_overtaken hU hG hrun with ⟨horder, -⟩ | ⟨t, t', m, n, hm, hn, hlt, hahead⟩
    · exact horder
    · have hidle : s.inFlight = [] := (graphInv_of_crawls hU hrun).stop hret hlimit |>.1
      rcases hahead with ⟨-, ht'⟩ | hsub
      · rw [hidle] at ht'
        exact absurd ht' (by simp)
      · have hle := List.pairwise_iff_forall_sublist.mp hbfs.ordered hsub m n hm hn
        omega
  · exact fun horder ↦ (orderly_of_crawlsInOrder hU hG horder).breadthFirst hU hG hret hlimit

/-- One step of a schedule: the completion of a task in flight by its position, or else the next
batch or the end. -/
def LinkGraph.tick (G : LinkGraph E req) (seed : E.U.Url) (s : CrawlState) :
    Option ℕ → Option CrawlState
  | some i => if s.returned then none else s.inFlight[i]?.bind fun task ↦
      complete E req seed task (.ok (G.page task.url)) { s with inFlight := s.inFlight.eraseIdx i }
  | none =>
    if s.returned || !s.inFlight.isEmpty then none
    else if s.queue.isEmpty then some { s with returned := true }
    else some (startBatch req s)

/-- The task at a position has the least depth in flight. -/
def leastAt (s : CrawlState) : Option ℕ → Bool
  | some i => s.inFlight[i]?.all fun task ↦ s.inFlight.all (task.depth ≤ ·.depth)
  | none => true

/-- A step of a schedule is a step of a crawl. -/
theorem exists_of_tick {s s' : CrawlState} {choice : Option ℕ}
    (h : G.tick seed s choice = some s') :
    ∃ e, G.Answers e ∧ (leastAt s choice = true → LeastFirst s e) ∧
      CrawlStep E req seed s e s' := by
  cases choice with
  | some i =>
    simp only [LinkGraph.tick] at h
    split at h
    · exact absurd h (by simp)
    · next hrun =>
      obtain ⟨task, hi, hdone⟩ := Option.bind_eq_some_iff.mp h
      obtain ⟨hlt, rfl⟩ := List.getElem?_eq_some_iff.mp hi
      have hflight :
          s.inFlight = s.inFlight.take i ++ s.inFlight[i] :: s.inFlight.drop (i + 1) := by
        rw [List.getElem_cons_drop, List.take_append_drop]
      rw [List.eraseIdx_eq_take_drop_succ] at hdone
      refine ⟨.complete s.inFlight[i] _, rfl, fun hleast t ht ↦ ?_,
        .complete (by simpa using hrun) hflight hdone⟩
      simp only [leastAt, hi, Option.all_some, List.all_eq_true, decide_eq_true_eq] at hleast
      exact hleast t ht
  | none =>
    simp only [LinkGraph.tick] at h
    split at h
    · exact absurd h (by simp)
    · next hidle =>
      simp only [Bool.or_eq_true, Bool.not_eq_true', not_or, Bool.not_eq_true,
        Bool.not_eq_false, List.isEmpty_iff] at hidle
      split at h
      · next hq =>
        obtain rfl := Option.some.inj h
        exact ⟨.finish, trivial, fun _ ↦ trivial, .finish hidle.1 hidle.2 (List.isEmpty_iff.mp hq)⟩
      · next hq =>
        obtain rfl := Option.some.inj h
        exact ⟨.batch, trivial, fun _ ↦ trivial,
          .batch hidle.1 hidle.2 fun he ↦ hq (List.isEmpty_iff.mpr he)⟩

/-- A schedule is a run. -/
theorem exists_run_of_ticks {choices : List (Option ℕ)} {s s' : CrawlState}
    (h : choices.foldlM (G.tick seed) s = some s') : ∃ events, G.Crawls seed s events s' := by
  refine Run.exists_of_foldlM (fun s choice s' htick ↦ ?_) h
  obtain ⟨e, hans, -, hstep⟩ := exists_of_tick htick
  exact ⟨e, hans, hstep⟩

/-- A schedule that takes tasks of least depth first is a run in order. -/
theorem exists_inOrder_of_ticks {choices : List (Option ℕ)} {s s' : CrawlState}
    (h : choices.foldlM (fun s choice ↦ if leastAt s choice then G.tick seed s choice else none) s =
      some s') : ∃ events, G.CrawlsInOrder seed s events s' := by
  refine Run.exists_of_foldlM (fun s choice s' htick ↦ ?_) h
  split at htick
  · next hleast =>
    obtain ⟨e, hans, hfirst, hstep⟩ := exists_of_tick htick
    exact ⟨e, ⟨hans, hfirst hleast⟩, hstep⟩
  · exact absurd htick (by simp)

end Graph

/-- A page of `example.com`. -/
def examplePage (path : Char) : Str := ("https://example.com/" : Str) ++ [path]

/-- A site whose front page links to `a`, `b` and `c`, and whose page `a` links to `d`. -/
def siteLinks (url : Str) : List Str :=
  if url = "https://example.com/" then [examplePage 'a', examplePage 'b', examplePage 'c']
  else if url = examplePage 'a' then [examplePage 'd']
  else []

/-- The link graph of that site, crawled two pages at a time. -/
def site : LinkGraph plainEnv (exampleCrawl 10 (some 2)) where
  page url := { links := some (siteLinks url) }

/-- URLs of that site are their normalized forms. -/
theorem uniform_site (seed : plainEnv.U.Url) : site.Uniform seed := by
  intro m n u u' _ _ hkey v hv
  have huu' : u = u' := Subtype.ext hkey
  exact ⟨v, huu' ▸ hv, rfl⟩

/-- The front page. -/
def frontPage : plainEnv.U.Url := ⟨"https://example.com/", isPlainUrl_example⟩

/-- State in which the crawl of the site is entered. -/
def siteStart : CrawlState := initialState plainEnv (exampleCrawl 10 (some 2)) frontPage

/-- The schedule up to the batch of `c` and `d`. -/
def firstBatches : List (Option ℕ) := [none, some 0, none, some 0, some 0, none]

theorem crwCrawl_breadthFirst_site :
    ∃ events s, s.scraped.map CrawlTask.depth = [0, 1, 1, 1, 2] ∧
      (site.BreadthFirst frontPage s ↔ site.CrawlsInOrder frontPage siteStart events s) := by
  have hticks : ((firstBatches ++ [some 0, some 0, none]).foldlM (site.tick frontPage)
      siteStart).map (fun s : CrawlState ↦
        (s.returned, s.collected.length, s.scraped.map CrawlTask.depth)) =
      some (true, 5, [0, 1, 1, 1, 2]) := by decide
  obtain ⟨s, hs, heq⟩ := Option.map_eq_some_iff.mp hticks
  simp only [Prod.mk.injEq] at heq
  obtain ⟨events, hrun⟩ := exists_run_of_ticks hs
  refine ⟨events, s, heq.2.2, crwCrawl_breadthFirst_iff UrlCrate.lawful_plain site
    (uniform_site _) (crwCrawl_example 10 (some 2)) hrun heq.1 ?_⟩
  rw [heq.2.1]
  decide

/-- The task of `c` and that of `d`, which is one link further away. -/
def taskC : CrawlTask := ⟨examplePage 'c', 1⟩

def taskD : CrawlTask := ⟨examplePage 'd', 2⟩

/-- `c` is one link from the front page and `d` is two. -/
theorem at_tasks : site.At frontPage taskC 1 ∧ site.At frontPage taskD 2 := by
  have hticks : (firstBatches.foldlM (fun s choice ↦
      if leastAt s choice then site.tick frontPage s choice else none) siteStart).map
        CrawlState.inFlight = some [taskC, taskD] := by decide
  obtain ⟨s, hs, hflight⟩ := Option.map_eq_some_iff.mp hticks
  obtain ⟨events, hrun⟩ := exists_inOrder_of_ticks hs
  have horder := orderly_of_crawlsInOrder UrlCrate.lawful_plain (uniform_site _) hrun
  have hmem : ∀ t ∈ [taskC, taskD], t ∈ s.requested ++ s.queue := fun t ht ↦
    horder.graph.mem_tasks.mpr (.inr (.inl (hflight ▸ ht)))
  exact ⟨horder.at_depth UrlCrate.lawful_plain (uniform_site _) (hmem taskC (by simp)),
    horder.at_depth UrlCrate.lawful_plain (uniform_site _) (hmem taskD (by simp))⟩

/-- Where `d` completes before `c`, it is returned before `c`. -/
theorem not_crwCrawl_breadthFirst_overtaken :
    ¬ ∀ (E : CrawlEnv) (req : CrawlRequest) (seed : E.U.Url) (G : LinkGraph E req)
        (s₀ s : CrawlState) (events : List CrawlEvent), E.U.Lawful →
      crwCrawl E req = .ok (seed, s₀) → G.Crawls seed s₀ events s → s.returned = true →
      s.collected.length < pageLimit req → G.BreadthFirst seed s := by
  intro hclaim
  have hticks : ((firstBatches ++ [some 1, some 0, none]).foldlM (site.tick frontPage)
      siteStart).map (fun s : CrawlState ↦
        (s.returned, s.collected.length, s.scraped.drop 3)) =
      some (true, 5, [taskD, taskC]) := by decide
  obtain ⟨s, hs, heq⟩ := Option.map_eq_some_iff.mp hticks
  simp only [Prod.mk.injEq] at heq
  obtain ⟨events, hrun⟩ := exists_run_of_ticks hs
  have hbfs := hclaim plainEnv (exampleCrawl 10 (some 2)) frontPage site siteStart s events
    UrlCrate.lawful_plain (crwCrawl_example 10 (some 2)) hrun heq.1 (by rw [heq.2.1]; decide)
  have hsub : [taskD, taskC].Sublist s.scraped := heq.2.2 ▸ List.drop_sublist 3 s.scraped
  have hle := List.pairwise_iff_forall_sublist.mp hbfs.ordered hsub 2 1 at_tasks.2 at_tasks.1
  omega

end CrwShield.Crawl
