import CrwShield.Crawl.Safety
import CrwShield.Server.CrawlRegistry

/-!
# The crawl service

Crate `server`, `src/crates/server/src/handlers.rs:1091–1254`, over crate `crawl`,
`src/crates/crawl/src/lib.rs:189–286`: every accepted request has a task that crawls between its two
critical sections. Requests and the steps of all crawls interleave.
-/

open CrwShield.Base CrwShield.Base.Str CrwShield.Core CrwShield.Crawl

namespace CrwShield.Server

/-- The crawl of a task, `run_crawl_job`: its request, and where `crw_crawl` stands;
`handlers.rs:1150–1170`. -/
structure JobCrawl (E : CrawlEnv) where
  req : CrawlRequest
  crawl : Except CrwError (E.U.Url × CrawlState)

/-- What `crw_crawl` has returned, once it has. -/
def JobCrawl.result {E : CrawlEnv} (c : JobCrawl E) :
    Option (Except CrwError (List ScrapeData)) :=
  match c.crawl with
  | .error e => some (.error e)
  | .ok (_, s) => if s.returned then some (.ok s.collected) else none

/-- The registry of the jobs, and the crawls of their tasks. -/
structure CrawlService (E : CrawlEnv) where
  registry : Registry
  crawls : Str → Option (JobCrawl E)

/-- A request to the endpoints, or something that the task of a job does. -/
inductive ServiceLabel where
  | start (id : Str) (now : Int) (req : CrawlRequest)
  | begin (id : Str)
  | crawl (id : Str) (e : CrawlEvent)
  | finish (id : Str) (now : Int)
  | status (id : Str)
  | cancel (id : Str) (now : Int)

namespace ServiceLabel

/-- The job that a label is about. -/
def owner : ServiceLabel → Str
  | start id _ _ | begin id | crawl id _ | finish id _ | status id | cancel id _ => id

/-- The task of a job does something. -/
def Works (id : Str) : ServiceLabel → Prop
  | begin k | crawl k _ | finish k _ => k = id
  | _ => False

/-- A step in the crawl of a job. -/
def crawlEvent (id : Str) : ServiceLabel → Option CrawlEvent
  | crawl k e => if k = id then some e else none
  | _ => none

end ServiceLabel

namespace CrawlService

variable {E : CrawlEnv}

/-- No job yet. -/
def empty : CrawlService E := ⟨.empty, fun _ ↦ none⟩

/-- One request, one critical section or one step of a crawl. -/
inductive Step : CrawlService E → ServiceLabel → CrawlService E → Prop
  | start {s : CrawlService E} {id : Str} {now : Int} {req : CrawlRequest} {r : Registry}
      (hstep : Registry.step E.U s.registry (.start id now req) = some r) :
      Step s (.start id now req)
        ⟨r, if id ∈ r.jobs then Function.update s.crawls id (some ⟨req, crwCrawl E req⟩)
          else s.crawls⟩
  | begin {s : CrawlService E} {id : Str} {r : Registry}
      (hstep : Registry.step E.U s.registry (.job id .begin) = some r) :
      Step s (.begin id) ⟨r, s.crawls⟩
  | crawl {s : CrawlService E} {id : Str} {req : CrawlRequest} {seed : E.U.Url}
      {c c' : CrawlState} {e : CrawlEvent} (htask : s.registry.tasks id = .crawling)
      (hcrawl : s.crawls id = some ⟨req, .ok (seed, c)⟩) (hstep : CrawlStep E req seed c e c') :
      Step s (.crawl id e)
        ⟨s.registry, Function.update s.crawls id (some ⟨req, .ok (seed, c')⟩)⟩
  | finish {s : CrawlService E} {id : Str} {now : Int} {c : JobCrawl E} {r : Registry}
      {result : Except CrwError (List ScrapeData)} (hcrawl : s.crawls id = some c)
      (hresult : c.result = some result)
      (hstep : Registry.step E.U s.registry (.job id (.finish now result)) = some r) :
      Step s (.finish id now) ⟨r, s.crawls⟩
  | status {s : CrawlService E} {id : Str} {r : Registry}
      (hstep : Registry.step E.U s.registry (.job id .status) = some r) :
      Step s (.status id) ⟨r, s.crawls⟩
  | cancel {s : CrawlService E} {id : Str} {now : Int} {r : Registry}
      (hstep : Registry.step E.U s.registry (.job id (.cancel now)) = some r) :
      Step s (.cancel id now) ⟨r, s.crawls⟩

/-- Where a job stands that was accepted: its crawl, its task and its record. -/
structure Served (labels : List ServiceLabel) (s : CrawlService E) (id : Str)
    (req : CrawlRequest) (seed : E.U.Url) (c : CrawlState) (job : CrawlJob) : Prop where
  asked : ∃ now, .start id now req ∈ labels
  parsed : E.U.parse req.url = .ok seed
  crawl : s.crawls id = some ⟨req, .ok (seed, c)⟩
  reached : Run (CrawlStep E req seed) (initialState E req seed)
    (labels.filterMap (ServiceLabel.crawlEvent id)) c
  record : s.registry.jobs[id]? = some job
  noError : job.status ≠ .failed ∧ job.error = none
  data : job.data = [] ∨ c.returned = true ∧ job.data = c.collected
  completed : job.status = .completed → c.returned = true ∧ job.data = c.collected
  pending : s.registry.tasks id ≠ .over → job.data = [] ∧
    (job.status.isTerminal → job.status = .cancelled)
  ended : s.registry.tasks id = .over → job.status.isTerminal

/-- Where any job stands. -/
inductive Stands (labels : List ServiceLabel) (s : CrawlService E) (id : Str) : Prop
  | absent (hrecord : s.registry.jobs[id]? = none) (htask : s.registry.tasks id = .over)
      (hquiet : labels.filterMap (ServiceLabel.crawlEvent id) = [])
  | served {req : CrawlRequest} {seed : E.U.Url} {c : CrawlState} {job : CrawlJob}
      (h : Served labels s id req seed c job)

end CrawlService

section Registry

variable {U : UrlCrate} {s t : Registry} {id : Str}

/-- A start is refused, or records a job that waits for its task. -/
theorem step_start {now : Int} {req : CrawlRequest}
    (h : Registry.step U s (.start id now req) = some t) :
    s.jobs[id]? = none ∧ ((t = s ∧ ∃ e, U.parse req.url = .error e) ∨
      ∃ u, U.parse req.url = .ok u ∧ id ∈ t.jobs ∧ t.tasks id = .spawned ∧
        t.jobs[id]? = some ⟨id, req.url, .queued, now, none, [], none⟩) := by
  obtain ⟨hfresh, hcases⟩ := Registry.step_start_cases h
  refine ⟨by simpa using hfresh, hcases.imp_right ?_⟩
  rintro ⟨⟨u, hu⟩, rfl⟩
  exact ⟨u, hu, Std.ExtTreeMap.mem_insert_self, Function.update_self ..,
    Std.ExtTreeMap.getElem?_insert_self⟩

theorem step_begin (h : Registry.step U s (.job id .begin) = some t) :
    s.tasks id = .spawned ∧ t.jobs[id]? = s.jobs[id]?.map CrawlJob.begun ∧
      t.tasks id = if s.jobs[id]?.any (·.status ≠ .cancelled) then .crawling else .over := by
  obtain ⟨c, hc, rfl⟩ := Option.map_eq_some_iff.mp h
  rw [jobStep] at hc
  split at hc
  · next htask =>
    obtain rfl := Option.some.inj hc
    have hrecord := changes_beginCrawlJob id s.jobs id
    rw [if_pos rfl] at hrecord
    refine ⟨htask, hrecord, ?_⟩
    rw [← goesOn_beginCrawlJob]
    exact Function.update_self ..
  · exact absurd hc (by simp)

theorem step_finish {now : Int} {result : Except CrwError (List ScrapeData)}
    (h : Registry.step U s (.job id (.finish now result)) = some t) :
    s.tasks id = .crawling ∧ t.jobs[id]? = s.jobs[id]?.map (CrawlJob.finished now result) ∧
      t.tasks id = .over := by
  obtain ⟨c, hc, rfl⟩ := Option.map_eq_some_iff.mp h
  rw [jobStep] at hc
  split at hc
  · next htask =>
    obtain rfl := Option.some.inj hc
    have hrecord := changes_finishCrawlJob id now result s.jobs id
    rw [if_pos rfl] at hrecord
    exact ⟨htask, hrecord, Function.update_self ..⟩
  · exact absurd hc (by simp)

theorem step_status (h : Registry.step U s (.job id .status) = some t) :
    t.jobs[id]? = s.jobs[id]? ∧ t.tasks id = s.tasks id := by
  obtain ⟨c, hc, rfl⟩ : ∃ c, jobStep id (s.component id) .status = some c ∧ s.update id c = t :=
    Option.map_eq_some_iff.mp h
  obtain rfl := Option.some.inj hc
  exact ⟨rfl, Function.update_self ..⟩

theorem step_cancel {now : Int} (h : Registry.step U s (.job id (.cancel now)) = some t) :
    t.jobs[id]? = s.jobs[id]?.map (CrawlJob.cancelled now) ∧ t.tasks id = s.tasks id := by
  obtain ⟨c, hc, rfl⟩ : ∃ c, jobStep id (s.component id) (.cancel now) = some c ∧
      s.update id c = t := Option.map_eq_some_iff.mp h
  obtain rfl := Option.some.inj hc
  have hrecord := changes_handleCrawlCancel id now s.jobs id
  rw [if_pos rfl] at hrecord
  exact ⟨hrecord, Function.update_self ..⟩

end Registry

namespace CrawlService

variable {E : CrawlEnv} {s t : CrawlService E} {l : ServiceLabel} {labels : List ServiceLabel}
  {id k : Str}

/-- What can be observed of one job of the service. -/
def view (k : Str) (s : CrawlService E) : Option CrawlJob × RunCrawlJob × Option (JobCrawl E) :=
  (s.registry.jobs[k]?, s.registry.tasks k, s.crawls k)

/-- A step is about one job. -/
theorem Step.frame (h : Step s l t) (hk : l.owner ≠ k) : t.view k = s.view k := by
  have hregistry {r : Registry} {e : RegistryLabel} (howner : e.owner = l.owner)
      (hstep : Registry.step E.U s.registry e = some r) :
      r.jobs[k]? = s.registry.jobs[k]? ∧ r.tasks k = s.registry.tasks k := by
    have hview := (Registry.isLocal E.U).frame hstep (howner ▸ hk)
    exact ⟨congrArg (·.1) hview, congrArg (·.2.1) hview⟩
  cases h with
  | @start id now req r hstep =>
    obtain ⟨hrecord, htask⟩ := hregistry rfl hstep
    have hne : k ≠ id := Ne.symm hk
    rw [view, view, hrecord, htask]
    congr 2
    show (if id ∈ r.jobs then _ else s.crawls) k = s.crawls k
    split
    · exact Function.update_of_ne hne ..
    · rfl
  | begin hstep | finish _ _ hstep | status hstep | cancel hstep =>
    obtain ⟨hrecord, htask⟩ := hregistry rfl hstep
    rw [view, view, hrecord, htask]
  | @crawl id req seed c c' e htask hcrawl hstep =>
    have hne : k ≠ id := Ne.symm hk
    rw [view, view]
    congr 2
    exact Function.update_of_ne hne ..

section Own

variable {req : CrawlRequest} {seed : E.U.Url} {c c' : CrawlState} {job job' : CrawlJob}

theorem events_concat (hevent : l.crawlEvent id = none) :
    (labels ++ [l]).filterMap (ServiceLabel.crawlEvent id) =
      labels.filterMap (ServiceLabel.crawlEvent id) := by
  rw [List.filterMap_append, List.filterMap_cons_none hevent, List.filterMap_nil, List.append_nil]

/-- A job keeps standing through a label that does not touch it. -/
theorem Stands.congr (h : Stands labels s id) (hview : t.view id = s.view id)
    (hevent : l.crawlEvent id = none) : Stands (labels ++ [l]) t id := by
  obtain ⟨hrecord, htask, hcrawl⟩ : t.registry.jobs[id]? = s.registry.jobs[id]? ∧
      t.registry.tasks id = s.registry.tasks id ∧ t.crawls id = s.crawls id := by
    simpa [view] using hview
  cases h with
  | absent hnone hover hquiet =>
    exact .absent (hrecord.trans hnone) (htask.trans hover) ((events_concat hevent).trans hquiet)
  | served h =>
    exact .served
      { asked := h.asked.imp fun _ hmem ↦ List.mem_append_left _ hmem
        parsed := h.parsed
        crawl := hcrawl.trans h.crawl
        reached := by
          rw [events_concat hevent]
          exact h.reached
        record := hrecord.trans h.record
        noError := h.noError
        data := h.data
        completed := h.completed
        pending := fun hopen ↦ h.pending (htask ▸ hopen)
        ended := fun hover ↦ h.ended (htask ▸ hover) }

/-- A job with a new record, its crawl being where it was. -/
theorem Served.rewrite (h : Served labels s id req seed c job) (hcrawl : t.crawls id = s.crawls id)
    (hevent : l.crawlEvent id = none) (hrecord : t.registry.jobs[id]? = some job')
    (hnoError : job'.status ≠ .failed ∧ job'.error = none)
    (hdata : job'.data = [] ∨ c.returned = true ∧ job'.data = c.collected)
    (hcompleted : job'.status = .completed → c.returned = true ∧ job'.data = c.collected)
    (hpending : t.registry.tasks id ≠ .over → job'.data = [] ∧
      (job'.status.isTerminal → job'.status = .cancelled))
    (hended : t.registry.tasks id = .over → job'.status.isTerminal) :
    Stands (labels ++ [l]) t id :=
  .served
    { asked := h.asked.imp fun _ hmem ↦ List.mem_append_left _ hmem
      parsed := h.parsed
      crawl := hcrawl.trans h.crawl
      reached := by
        rw [events_concat hevent]
        exact h.reached
      record := hrecord
      noError := hnoError
      data := hdata
      completed := hcompleted
      pending := hpending
      ended := hended }

/-- A start records a new job, or is refused. -/
theorem Stands.start {now : Int} {r : Registry} (h : Stands labels s id)
    (hstep : Registry.step E.U s.registry (.start id now req) = some r) :
    Stands (labels ++ [.start id now req])
      (⟨r, if id ∈ r.jobs then Function.update s.crawls id (some ⟨req, crwCrawl E req⟩)
        else s.crawls⟩ : CrawlService E) id := by
  obtain ⟨hfresh, hcases⟩ := step_start hstep
  have hevent : (ServiceLabel.start id now req).crawlEvent id = none := rfl
  cases h with
  | served h => exact absurd (h.record.symm.trans hfresh) (by simp)
  | absent hrecord htask hquiet =>
    rcases hcases with ⟨rfl, -⟩ | ⟨seed, hseed, hmem, hspawned, hqueued⟩
    · have hnone : id ∉ s.registry.jobs := by simpa using hfresh
      rw [if_neg hnone]
      exact .absent hrecord htask ((events_concat hevent).trans hquiet)
    · rw [if_pos hmem]
      exact .served
        { asked := ⟨now, by simp⟩
          parsed := hseed
          crawl := by
            show Function.update s.crawls id _ id = _
            rw [Function.update_self, crwCrawl, hseed]
          reached := by
            rw [events_concat hevent, hquiet]
            exact .nil
          record := hqueued
          noError := ⟨by simp, rfl⟩
          data := .inl rfl
          completed := fun h ↦ absurd h (by simp)
          pending := fun _ ↦ ⟨rfl, fun h ↦ absurd h (by simp [CrawlStatus.isTerminal])⟩
          ended := fun h ↦ absurd (hspawned.symm.trans h) (by simp) }

/-- The first critical section ends a cancelled job, and lets any other crawl. -/
theorem Stands.begin {r : Registry} (h : Stands labels s id)
    (hstep : Registry.step E.U s.registry (.job id .begin) = some r) :
    Stands (labels ++ [.begin id]) (⟨r, s.crawls⟩ : CrawlService E) id := by
  obtain ⟨hspawned, hrecord, htask⟩ := step_begin hstep
  cases h with
  | absent _ hover => exact absurd (hspawned.symm.trans hover) (by simp)
  | @served req seed c job h =>
    have hopen : s.registry.tasks id ≠ .over := by simp [hspawned]
    rw [h.record, Option.map_some] at hrecord
    rw [h.record, Option.any_some] at htask
    by_cases hcancelled : job.status = .cancelled
    · rw [CrawlJob.begun, if_pos hcancelled] at hrecord
      simp only [hcancelled, ne_eq, not_true_eq_false, decide_false, Bool.false_eq_true,
        if_false] at htask
      refine h.rewrite rfl rfl hrecord h.noError h.data h.completed ?_ ?_
      · exact fun hne ↦ absurd htask hne
      · exact fun _ ↦ by rw [hcancelled]; rfl
    · rw [CrawlJob.begun, if_neg hcancelled] at hrecord
      simp only [hcancelled, ne_eq, not_false_eq_true, decide_true, if_true] at htask
      refine h.rewrite rfl rfl hrecord ⟨by simp, h.noError.2⟩ h.data ?_ ?_ ?_
      · exact fun hdone ↦ absurd hdone (by simp)
      · intro _
        exact ⟨(h.pending hopen).1, fun hterm ↦ absurd hterm (by simp [CrawlStatus.isTerminal])⟩
      · exact fun hover ↦ absurd (htask.symm.trans hover) (by simp)

/-- A step of a crawl goes on from where the crawl was. -/
theorem Stands.crawl {e : CrawlEvent} (h : Stands labels s id)
    (htask : s.registry.tasks id = .crawling)
    (hcrawl : s.crawls id = some ⟨req, .ok (seed, c)⟩) (hstep : CrawlStep E req seed c e c') :
    Stands (labels ++ [.crawl id e])
      ⟨s.registry, Function.update s.crawls id (some ⟨req, .ok (seed, c')⟩)⟩ id := by
  cases h with
  | absent _ hover => exact absurd (htask.symm.trans hover) (by simp)
  | @served req' seed' c₀ job h =>
    obtain ⟨rfl, hsame⟩ := JobCrawl.mk.inj (Option.some.inj (hcrawl.symm.trans h.crawl))
    obtain ⟨rfl, rfl⟩ := Prod.mk.inj (Except.ok.inj hsame)
    have hopen : s.registry.tasks id ≠ .over := by simp [htask]
    obtain ⟨hempty, hpending⟩ := h.pending hopen
    exact .served
      { asked := h.asked.imp fun _ hmem ↦ List.mem_append_left _ hmem
        parsed := h.parsed
        crawl := Function.update_self ..
        reached := by
          have hown : (ServiceLabel.crawl id e).crawlEvent id = some e := if_pos rfl
          rw [List.filterMap_append, List.filterMap_cons_some hown, List.filterMap_nil]
          exact h.reached.snoc hstep
        record := h.record
        noError := h.noError
        data := .inl hempty
        completed := fun hdone ↦ by
          have hcancelled := hpending (by rw [hdone]; rfl)
          exact absurd (hdone.symm.trans hcancelled) (by simp)
        pending := h.pending
        ended := fun hover ↦ absurd hover hopen }

/-- The second critical section hands the pages over, unless the job was cancelled. -/
theorem Stands.finish {now : Int} {jc : JobCrawl E} {r : Registry}
    {result : Except CrwError (List ScrapeData)} (h : Stands labels s id)
    (hcrawl : s.crawls id = some jc) (hresult : jc.result = some result)
    (hstep : Registry.step E.U s.registry (.job id (.finish now result)) = some r) :
    Stands (labels ++ [.finish id now]) (⟨r, s.crawls⟩ : CrawlService E) id := by
  obtain ⟨hcrawling, hrecord, htask⟩ := step_finish hstep
  cases h with
  | absent _ hover => exact absurd (hcrawling.symm.trans hover) (by simp)
  | @served req seed c job h =>
    obtain rfl := Option.some.inj (hcrawl.symm.trans h.crawl)
    rw [h.record, Option.map_some] at hrecord
    unfold CrawlJob.finished at hrecord
    by_cases hcancelled : job.status = .cancelled
    · rw [if_pos hcancelled] at hrecord
      refine h.rewrite rfl rfl hrecord h.noError h.data h.completed ?_ ?_
      · exact fun hne ↦ absurd htask hne
      · exact fun _ ↦ by rw [hcancelled]; rfl
    · rw [if_neg hcancelled] at hrecord
      rw [JobCrawl.result] at hresult
      dsimp only at hresult
      split at hresult
      · next hreturned =>
        obtain rfl := Option.some.inj hresult
        refine h.rewrite rfl rfl hrecord ⟨by simp, h.noError.2⟩ (.inr ⟨hreturned, rfl⟩) ?_ ?_ ?_
        · exact fun _ ↦ ⟨hreturned, rfl⟩
        · exact fun hne ↦ absurd htask hne
        · exact fun _ ↦ rfl
      · exact absurd hresult (by simp)

/-- A status request leaves the job alone. -/
theorem Stands.status {r : Registry} (h : Stands labels s id)
    (hstep : Registry.step E.U s.registry (.job id .status) = some r) :
    Stands (labels ++ [.status id]) (⟨r, s.crawls⟩ : CrawlService E) id := by
  obtain ⟨hrecord, htask⟩ := step_status hstep
  exact h.congr (by simp [view, hrecord, htask]) rfl

/-- A cancel leaves the pages. -/
theorem Stands.cancel {now : Int} {r : Registry} (h : Stands labels s id)
    (hstep : Registry.step E.U s.registry (.job id (.cancel now)) = some r) :
    Stands (labels ++ [.cancel id now]) (⟨r, s.crawls⟩ : CrawlService E) id := by
  obtain ⟨hrecord, htask⟩ := step_cancel hstep
  cases h with
  | absent hnone hover hquiet =>
    rw [hnone] at hrecord
    exact .absent hrecord (htask.trans hover) ((events_concat rfl).trans hquiet)
  | @served req seed c job h =>
    rw [h.record, Option.map_some] at hrecord
    refine h.rewrite rfl rfl hrecord ⟨by simp [CrawlJob.cancelled], h.noError.2⟩ h.data ?_ ?_ ?_
    · exact fun hdone ↦ absurd hdone (by simp [CrawlJob.cancelled])
    · exact fun hopen ↦ ⟨(h.pending (htask ▸ hopen)).1, fun _ ↦ rfl⟩
    · exact fun _ ↦ rfl

end Own

/-- Every step leaves every job standing. -/
theorem Stands.step (h : ∀ id, Stands labels s id) (hstep : Step s l t) (id : Str) :
    Stands (labels ++ [l]) t id := by
  by_cases howner : l.owner = id
  · subst howner
    cases hstep with
    | start hstep => exact (h _).start hstep
    | begin hstep => exact (h _).begin hstep
    | crawl htask hcrawl hstep => exact (h _).crawl htask hcrawl hstep
    | finish hcrawl hresult hstep => exact (h _).finish hcrawl hresult hstep
    | status hstep => exact (h _).status hstep
    | cancel hstep => exact (h _).cancel hstep
  · refine (h id).congr (hstep.frame howner) ?_
    cases l with
    | crawl k e => exact if_neg howner
    | _ => rfl

/-- Every job stands in every run. -/
theorem stands (h : Run Step (empty : CrawlService E) labels s) (id : Str) :
    Stands labels s id := by
  refine h.history (I := fun labels s ↦ ∀ id, Stands labels s id)
    (fun labels s e t ih hstep ↦ Stands.step ih hstep) (fun id ↦ ?_) id
  exact .absent (by simp [empty, Registry.empty]) rfl rfl

/-- How many critical sections of its task a job still has before it, counting its start. -/
def sectionsLeft : Option CrawlJob → RunCrawlJob → ℕ
  | none, _ => 3
  | some _, .spawned => 2
  | some _, .crawling => 1
  | some _, .over => 0

/-- What a crawl still has to do. -/
def crawlLeft : Option (JobCrawl E) → ℕ × ℕ × ℕ
  | some ⟨req, .ok (_, c)⟩ => rank req c
  | _ => (0, 0, 0)

/-- What is left to do for a job. -/
def workLeft (v : Option CrawlJob × RunCrawlJob × Option (JobCrawl E)) : ℕ × (ℕ × ℕ × ℕ) :=
  (sectionsLeft v.1 v.2.1, crawlLeft v.2.2)

/-- Fewer critical sections are left, or the rank of the crawl is less. -/
def WorkLt : ℕ × (ℕ × ℕ × ℕ) → ℕ × (ℕ × ℕ × ℕ) → Prop := Prod.Lex (· < ·) RankLt

theorem workLt_wf : WellFounded WorkLt := Nat.lt_wfRel.wf.prod_lex rankLt_wf

theorem sectionsLeft_map (f : CrawlJob → CrawlJob) (job : Option CrawlJob) (task : RunCrawlJob) :
    sectionsLeft (job.map f) task = sectionsLeft job task := by
  cases job with
  | none => rfl
  | some job => cases task <;> rfl

/-- No step leaves more to do for its job, and a step of the task leaves less. -/
theorem Step.workLeft (hrun : Stands labels s l.owner) (h : Step s l t) :
    (workLeft (t.view l.owner) = workLeft (s.view l.owner) ∧ ¬ l.Works l.owner) ∨
      WorkLt (workLeft (t.view l.owner)) (workLeft (s.view l.owner)) := by
  cases h with
  | @start id now req r hstep =>
    obtain ⟨hfresh, ⟨rfl, -⟩ | ⟨seed, -, -, hspawned, hqueued⟩⟩ := step_start hstep
    · have hnone : id ∉ s.registry.jobs := by simpa using hfresh
      refine .inl ⟨?_, fun h ↦ h⟩
      simp only [view, if_neg hnone]
    · refine .inr ?_
      simp only [view, CrawlService.workLeft, ServiceLabel.owner, hfresh, hqueued, hspawned]
      exact .left _ _ (by simp [sectionsLeft])
  | @begin id r hstep =>
    obtain ⟨hspawned, hrecord, htask⟩ := step_begin hstep
    cases hrun with
    | absent _ hover => exact absurd (hspawned.symm.trans hover) (by simp)
    | @served req seed c job h =>
      have hjob : s.registry.jobs[id]? = some job := h.record
      refine .inr (.left _ _ ?_)
      simp only [view, ServiceLabel.owner, hrecord, sectionsLeft_map, htask, hspawned, hjob]
      split <;> simp [sectionsLeft]
  | @crawl id req seed c c' e htask hcrawl hstep =>
    refine .inr ?_
    simp only [view, CrawlService.workLeft, ServiceLabel.owner, Function.update_self, hcrawl,
      crawlLeft]
    exact .right _ (rank_step hstep)
  | @finish id now jc r result hcrawl hresult hstep =>
    obtain ⟨hcrawling, hrecord, htask⟩ := step_finish hstep
    cases hrun with
    | absent _ hover => exact absurd (hcrawling.symm.trans hover) (by simp)
    | @served req seed c job h =>
      have hjob : s.registry.jobs[id]? = some job := h.record
      refine .inr (.left _ _ ?_)
      simp only [view, ServiceLabel.owner, hrecord, sectionsLeft_map, htask, hcrawling, hjob]
      simp [sectionsLeft]
  | @status id r hstep =>
    obtain ⟨hrecord, htask⟩ := step_status hstep
    refine .inl ⟨?_, fun h ↦ h⟩
    simp only [view, ServiceLabel.owner, hrecord, htask]
  | @cancel id now r hstep =>
    obtain ⟨hrecord, htask⟩ := step_cancel hstep
    refine .inl ⟨?_, fun h ↦ h⟩
    simp only [view, CrawlService.workLeft, ServiceLabel.owner, hrecord, htask, sectionsLeft_map]

/-- A task that cannot do anything has ended its job. -/
theorem Served.ended_of_stuck {req : CrawlRequest} {seed : E.U.Url} {c : CrawlState}
    {job : CrawlJob} (h : Served labels s id req seed c job)
    (hstuck : ∀ l t, l.Works id → ¬ Step s l t) : s.registry.tasks id = .over := by
  cases htask : s.registry.tasks id with
  | spawned =>
    have hstep : Registry.step E.U s.registry (.job id .begin) =
        some (s.registry.update id ((s.registry.component id).record id
          (beginCrawlJob id s.registry.jobs).2
          (if (beginCrawlJob id s.registry.jobs).1 then .crawling else .over))) := by
      have hspawned : (s.registry.component id).task = .spawned := htask
      rw [Registry.step, jobStep, if_pos hspawned]
      rfl
    exact absurd (.begin hstep) (hstuck (.begin id) _ rfl)
  | crawling =>
    by_cases hreturned : c.returned = true
    · have hresult : (⟨req, .ok (seed, c)⟩ : JobCrawl E).result = some (.ok c.collected) :=
        if_pos hreturned
      have hstep : Registry.step E.U s.registry (.job id (.finish 0 (.ok c.collected))) =
          some (s.registry.update id ((s.registry.component id).record id
            (finishCrawlJob id 0 (.ok c.collected) s.registry.jobs) .over)) := by
        have hcrawling : (s.registry.component id).task = .crawling := htask
        rw [Registry.step, jobStep, if_pos hcrawling]
        rfl
      exact absurd (.finish h.crawl hresult hstep) (hstuck (.finish id 0) _ rfl)
    · have hterminal : Terminal (CrawlStep E req seed) c := fun e c' hstep ↦
        hstuck (.crawl id e) _ rfl (.crawl htask h.crawl hstep)
      exact absurd (returned_of_terminal hterminal) hreturned
  | _ => rfl

/-- A step of the service is at most one step of the registry. -/
theorem Step.registry (h : Step s l t) :
    t.registry = s.registry ∨ ∃ e, Registry.step E.U s.registry e = some t.registry := by
  cases h with
  | start hstep | begin hstep | finish _ _ hstep | status hstep | cancel hstep =>
    exact .inr ⟨_, hstep⟩
  | crawl => exact .inl rfl

end CrawlService

/-- What a status answer tells of a crawl: it never failed, and the pages are those of a crawl that
has returned, or none. -/
structure Tells (answer : CrawlStatusResponse) (c : CrawlState) : Prop where
  noError : answer.status ≠ .failed ∧ answer.error = none
  data : answer.data = [] ∨ c.returned = true ∧ answer.data = c.collected
  completed : answer.status = .completed → c.returned = true ∧ answer.data = c.collected

/-- What the service promises of a run: its jobs are those of the registry; an answered job has been
asked for, and its crawl is the safe one that its own steps make; and a job whose task cannot go on
has ended. -/
structure ServiceSound {E : CrawlEnv} (labels : List ServiceLabel) (s : CrawlService E) : Prop where
  registry : ∃ ls, Run (PartialSteps (Registry.step E.U)) .empty ls s.registry
  answers : ∀ id answer, handleCrawlStatus id s.registry.jobs = .ok answer →
    ∃ now req seed c, .start id now req ∈ labels ∧ E.U.parse req.url = .ok seed ∧
      Run (CrawlStep E req seed) (initialState E req seed)
        (labels.filterMap (ServiceLabel.crawlEvent id)) c ∧
      CrawlSafe E req seed c ∧ Tells answer c
  ended : ∀ id ∈ s.registry.jobs, (∀ l t, l.Works id → ¬ CrawlService.Step s l t) →
    ∃ answer, handleCrawlStatus id s.registry.jobs = .ok answer ∧ answer.status.isTerminal

namespace CrawlService

variable {E : CrawlEnv}

theorem serviceSound (hU : E.U.Lawful) {labels : List ServiceLabel} {s : CrawlService E}
    (h : Run Step empty labels s) : ServiceSound labels s where
  registry := by
    refine h.invariant (I := fun s ↦ ∃ ls, Run (PartialSteps (Registry.step E.U)) .empty ls
      s.registry) ?_ ⟨[], .nil⟩
    rintro s l t ⟨ls, hrun⟩ hstep
    rcases hstep.registry with hsame | ⟨e, he⟩
    · exact ⟨ls, hsame ▸ hrun⟩
    · exact ⟨ls ++ [e], hrun.snoc he⟩
  answers id answer hanswer := by
    unfold handleCrawlStatus at hanswer
    cases stands h id with
    | absent hrecord =>
      rw [hrecord] at hanswer
      exact absurd hanswer (by simp)
    | @served req seed c job hserved =>
      rw [hserved.record] at hanswer
      obtain rfl := Except.ok.inj hanswer
      obtain ⟨now, hmem⟩ := hserved.asked
      have hinv : Inv E req seed c := hserved.reached.invariant
        (fun _ _ _ hinv hstep ↦ hinv.step hU hstep) (inv_initial hU)
      exact ⟨now, req, seed, c, hmem, hserved.parsed, hserved.reached, hinv.crawlSafe,
        hserved.noError, hserved.data, hserved.completed⟩
  ended id hmem hstuck := by
    rw [Std.ExtTreeMap.mem_iff_isSome_getElem?] at hmem
    unfold handleCrawlStatus
    cases stands h id with
    | absent hrecord =>
      rw [hrecord] at hmem
      exact absurd hmem (by simp)
    | @served req seed c job hserved =>
      rw [hserved.record]
      exact ⟨_, rfl, hserved.ended (hserved.ended_of_stuck hstuck)⟩

/-- In an infinite run the task of every job does something finitely often. -/
theorem works_cease {f : ℕ → CrawlService E} {l : ℕ → ServiceLabel} (hstart : f 0 = empty)
    (hrun : ∀ n, Step (f n) (l n) (f (n + 1))) (id : Str) : ∃ N, ∀ n, N ≤ n → ¬ (l n).Works id := by
  have hreached : ∀ n, ∃ labels, Run Step empty labels (f n) := by
    intro n
    induction n with
    | zero => exact ⟨[], hstart ▸ .nil⟩
    | succ n ih => exact ih.elim fun labels hlabels ↦ ⟨_, hlabels.snoc (hrun n)⟩
  have hown (l : ServiceLabel) (h : l.Works id) : l.owner = id := by
    cases l with
    | begin | crawl | finish => exact h
    | start | status | cancel => exact h.elim
  have hwork {s t : CrawlService E} {l : ServiceLabel}
      (h : (∃ labels, Run Step empty labels s) ∧ Step s l t) (howner : l.owner = id) :
      (workLeft (t.view id) = workLeft (s.view id) ∧ ¬ l.Works id) ∨
        WorkLt (workLeft (t.view id)) (workLeft (s.view id)) := by
    obtain ⟨⟨labels, hlabels⟩, hstep⟩ := h
    subst howner
    exact hstep.workLeft (stands hlabels _)
  refine labels_cease (fun s l t ↦ (∃ labels, Run Step empty labels s) ∧ Step s l t)
    (fun h howner ↦ h.2.frame howner) workLt_wf (fun h howner ↦ (hwork h howner).imp_left And.left)
    (fun h hworks ↦ ?_) fun n ↦ ⟨hreached n, hrun n⟩
  exact (hwork h (hown _ hworks)).resolve_left fun hsame ↦ hsame.2 hworks

/-- The service is sound in every run, with any number of jobs and their steps in any order, and no
task of it goes on forever. -/
theorem crawlService_sound (hU : E.U.Lawful) :
    (∀ (labels : List ServiceLabel) (s : CrawlService E), Run Step empty labels s →
      ServiceSound labels s) ∧
    ∀ (f : ℕ → CrawlService E) (l : ℕ → ServiceLabel), f 0 = empty →
      (∀ n, Step (f n) (l n) (f (n + 1))) → ∀ id, ∃ N, ∀ n, N ≤ n → ¬ (l n).Works id :=
  ⟨fun _ _ h ↦ serviceSound hU h, fun _ _ hstart hrun id ↦ works_cease hstart hrun id⟩

/-- Two crawls side by side: the first is finished, the second is cancelled on the way. -/
def finishedAndCancelled : List ServiceLabel :=
  [.start "a" 0 (exampleCrawl 10 none), .start "b" 1 (exampleCrawl 10 none), .begin "a", .begin "b",
    .crawl "b" .batch, .crawl "a" .batch, .cancel "b" 5,
    .crawl "a" (.complete ⟨"https://example.com/", 0⟩ (.ok {})), .crawl "a" .finish, .finish "a" 9]

/-- A job whose status is asked for over and over, while it waits for its turn. -/
def askedForever : ℕ → ServiceLabel
  | 0 => .start "a" 0 (exampleCrawl 10 none)
  | _ + 1 => .status "a"

theorem crawlService_sound_twoJobs :
    (∃ s : CrawlService plainEnv, Run Step empty finishedAndCancelled s ∧
      (handleCrawlStatus "a" s.registry.jobs).toOption.map (fun r ↦ (r.status, r.data)) =
        some (.completed, [{}]) ∧
      (handleCrawlStatus "b" s.registry.jobs).toOption.map (fun r ↦ (r.status, r.data)) =
        some (.cancelled, []) ∧
      ServiceSound finishedAndCancelled s) ∧
    ∃ f : ℕ → CrawlService plainEnv, f 0 = empty ∧ (∀ n, Step (f n) (askedForever n) (f (n + 1))) ∧
      ∀ id, ∃ N, ∀ n, N ≤ n → ¬ (askedForever n).Works id := by
  have hrun : ∃ s : CrawlService plainEnv, Run Step empty finishedAndCancelled s ∧
      (handleCrawlStatus "a" s.registry.jobs).toOption.map (fun r ↦ (r.status, r.data)) =
        some (.completed, [{}]) ∧
      (handleCrawlStatus "b" s.registry.jobs).toOption.map (fun r ↦ (r.status, r.data)) =
        some (.cancelled, []) := by
    refine ⟨_, .snoc (.snoc (.snoc (.snoc (.snoc (.snoc (.snoc (.snoc (.snoc (.snoc .nil
      (.start rfl)) (.start rfl)) (.begin rfl)) (.begin rfl))
      (.crawl rfl rfl (.batch rfl rfl (List.cons_ne_nil _ _))))
      (.crawl rfl rfl (.batch rfl rfl (List.cons_ne_nil _ _)))) (.cancel rfl))
      (.crawl rfl rfl (@CrawlStep.complete plainEnv _ _ _ _ [] [] _ _ rfl rfl rfl)))
      (.crawl rfl rfl (.finish rfl rfl rfl))) (.finish rfl rfl rfl), ?_, ?_⟩ <;> rfl
  obtain ⟨s, hs, ha, hb⟩ := hrun
  refine ⟨⟨s, hs, ha, hb, (crawlService_sound UrlCrate.lawful_plain).1 _ s hs⟩, ?_⟩
  have hforever : ∃ f : ℕ → CrawlService plainEnv, f 0 = empty ∧
      ∀ n, Step (f n) (askedForever n) (f (n + 1)) := by
    have hstatus : ∀ s : CrawlService plainEnv, ∃ t, Step s (.status "a") t :=
      fun _ ↦ ⟨_, .status rfl⟩
    choose next hnext using hstatus
    obtain ⟨s, hstart⟩ : ∃ s : CrawlService plainEnv, Step empty (askedForever 0) s :=
      ⟨_, .start rfl⟩
    let f : ℕ → CrawlService plainEnv
      | 0 => empty
      | n + 1 => next^[n] s
    refine ⟨f, rfl, fun n ↦ ?_⟩
    cases n with
    | zero => exact hstart
    | succ n =>
      show Step (next^[n] s) (.status "a") (next^[n + 1] s)
      rw [Function.iterate_succ_apply']
      exact hnext _
  obtain ⟨f, hf, hsteps⟩ := hforever
  exact ⟨f, hf, hsteps, (crawlService_sound UrlCrate.lawful_plain).2 f askedForever hf hsteps⟩

end CrawlService
end CrwShield.Server
