import CrwShield.Base.Interleaving
import CrwShield.Server.CrawlJobs

/-!
# The registry of crawl jobs

Crate `server`, `src/crates/server/src/handlers.rs:1091–1254`. All jobs share one map; every request
starts, reads or cancels one of them, and every started job has a task of its own. A job goes
through what its own labels make of it, whatever happens to the others.
-/

open CrwShield.Base CrwShield.Base.Str CrwShield.Core

namespace CrwShield.Server

/-- The jobs, the crawling task of each and its records so far, oldest first. -/
structure Registry where
  jobs : Jobs
  tasks : Str → RunCrawlJob
  history : Str → List CrawlJob

/-- A crawl request under the id it is given, or what happens to one job. -/
inductive RegistryLabel where
  | start (id : Str) (now : Int) (req : CrawlRequest)
  | job (id : Str) (l : JobLabel)

/-- The job that a label is about. -/
def RegistryLabel.owner : RegistryLabel → Str
  | start id _ _ => id
  | job id _ => id

namespace Registry

/-- No job yet; `state.rs:138`. -/
def empty : Registry := ⟨∅, fun _ ↦ .over, fun _ ↦ []⟩

/-- One job among the others. -/
def component (s : Registry) (id : Str) : JobState := ⟨s.jobs, s.tasks id, s.history id⟩

/-- The registry after a change to one job. -/
def update (s : Registry) (id : Str) (j : JobState) : Registry :=
  ⟨j.jobs, Function.update s.tasks id j.task, Function.update s.history id j.history⟩

/-- What can be observed of one job: its record, its task and its history. -/
def view (id : Str) (s : Registry) : Option CrawlJob × RunCrawlJob × List CrawlJob :=
  (s.jobs[id]?, s.tasks id, s.history id)

/-- One request or one critical section. A job is started under a new id, unless its URL is
refused; `handlers.rs:1104–1145`. -/
def step (U : UrlCrate) (s : Registry) : RegistryLabel → Option Registry
  | .start id now req =>
    if id ∈ s.jobs then none
    else
      match handleCrawlStart U id now req s.jobs with
      | (.error _, _) => some s
      | (.ok _, jobs) => some (s.update id (.start id jobs))
  | .job id l => (jobStep id (s.component id) l).map (s.update id)

end Registry

section Records

variable {id k : Str} {jobs jobs' : Jobs}

/-- What the first critical section makes of a record. -/
def CrawlJob.begun (job : CrawlJob) : CrawlJob :=
  if job.status = .cancelled then job else { job with status := .scraping }

/-- What the second critical section makes of a record. -/
def CrawlJob.finished (now : Int) (result : Except CrwError (List ScrapeData)) (job : CrawlJob) :
    CrawlJob :=
  if job.status = .cancelled then job
  else
    match result with
    | .ok data => { job with data := data, status := .completed, completedAt := some now }
    | .error e => { job with status := .failed, error := some e.toStr, completedAt := some now }

/-- What a cancel makes of a record. -/
def CrawlJob.cancelled (now : Int) (job : CrawlJob) : CrawlJob :=
  { job with status := .cancelled, completedAt := some now }

/-- The map with one record changed. -/
def Changes (id : Str) (f : CrawlJob → CrawlJob) (jobs jobs' : Jobs) : Prop :=
  ∀ k, jobs'[k]? = if k = id then jobs[id]?.map f else jobs[k]?

theorem changes_insert {job : CrawlJob} {f : CrawlJob → CrawlJob} (h : jobs[id]? = some job) :
    Changes id f jobs (jobs.insert id (f job)) := by
  intro k
  rw [Std.ExtTreeMap.getElem?_insert]
  by_cases hk : k = id
  · subst hk
    simp [h]
  · simp [hk, Ne.symm hk]

theorem changes_same {f : CrawlJob → CrawlJob} (h : jobs[id]?.map f = jobs[id]?) :
    Changes id f jobs jobs := by
  intro k
  split
  · next hk => rw [hk, h]
  · rfl

theorem changes_beginCrawlJob (id : Str) (jobs : Jobs) :
    Changes id CrawlJob.begun jobs (beginCrawlJob id jobs).2 := by
  unfold beginCrawlJob
  cases h : jobs[id]? with
  | none => exact changes_same (by rw [h]; rfl)
  | some job =>
    dsimp only
    by_cases hc : job.status = .cancelled
    · rw [if_pos hc]
      exact changes_same (by rw [h, Option.map_some, CrawlJob.begun, if_pos hc])
    · rw [if_neg hc]
      have hchanges := changes_insert (f := CrawlJob.begun) h
      rw [CrawlJob.begun, if_neg hc] at hchanges
      exact hchanges

theorem changes_finishCrawlJob (id : Str) (now : Int)
    (result : Except CrwError (List ScrapeData)) (jobs : Jobs) :
    Changes id (CrawlJob.finished now result) jobs (finishCrawlJob id now result jobs) := by
  unfold finishCrawlJob
  cases h : jobs[id]? with
  | none => exact changes_same (by rw [h]; rfl)
  | some job =>
    dsimp only
    by_cases hc : job.status = .cancelled
    · rw [if_pos hc]
      refine changes_same ?_
      rw [h, Option.map_some]
      unfold CrawlJob.finished
      rw [if_pos hc]
    · rw [if_neg hc]
      have hchanges := changes_insert (f := CrawlJob.finished now result) h
      unfold CrawlJob.finished at hchanges
      rw [if_neg hc] at hchanges
      cases result <;> exact hchanges

theorem changes_handleCrawlCancel (id : Str) (now : Int) (jobs : Jobs) :
    Changes id (CrawlJob.cancelled now) jobs (handleCrawlCancel id now jobs).2 := by
  unfold handleCrawlCancel
  cases h : jobs[id]? with
  | none => exact changes_same (by rw [h]; rfl)
  | some job => exact changes_insert h

/-- Whether the task goes on depends on the record of its job. -/
theorem goesOn_beginCrawlJob (id : Str) (jobs : Jobs) :
    (beginCrawlJob id jobs).1 = jobs[id]?.any (·.status ≠ .cancelled) := by
  unfold beginCrawlJob
  cases jobs[id]? with
  | none => rfl
  | some job =>
    by_cases hc : job.status = .cancelled
    · simp [hc]
    · simp [hc]

/-- Two maps that agree on a record agree on it after the same change. -/
theorem Changes.congr {f : CrawlJob → CrawlJob} {after after' : Jobs}
    (h : Changes id f jobs after) (h' : Changes id f jobs' after')
    (hsame : jobs'[id]? = jobs[id]?) : after'[id]? = after[id]? := by
  rw [h id, h' id, if_pos rfl, if_pos rfl, hsame]

end Records

namespace Registry

variable {U : UrlCrate} {s t : Registry} {id k : Str}

@[simp] theorem component_update (s : Registry) (id : Str) (j : JobState) :
    (s.update id j).component id = j := by
  simp [component, update]

@[simp] theorem history_update (s : Registry) (id : Str) (j : JobState) :
    (s.update id j).history id = j.history := by
  simp [update]

@[simp] theorem view_update_self (s : Registry) (id : Str) (j : JobState) :
    (s.update id j).view id = (j.jobs[id]?, j.task, j.history) := by
  simp [view, update]

theorem view_update_ne {j : JobState} (hk : k ≠ id) (hjobs : j.jobs[k]? = s.jobs[k]?) :
    (s.update id j).view k = s.view k := by
  simp [view, update, hk, hjobs]

/-- A step on one job leaves the records of the others. -/
theorem jobStep_frame {c c' : JobState} {l : JobLabel} (h : jobStep id c l = some c')
    (hk : k ≠ id) : c'.jobs[k]? = c.jobs[k]? := by
  cases l with
  | begin =>
    rw [jobStep] at h
    split at h
    · obtain rfl := Option.some.inj h
      have hchanges := changes_beginCrawlJob id c.jobs k
      rwa [if_neg hk] at hchanges
    · exact absurd h (by simp)
  | finish now result =>
    rw [jobStep] at h
    split at h
    · obtain rfl := Option.some.inj h
      have hchanges := changes_finishCrawlJob id now result c.jobs k
      rwa [if_neg hk] at hchanges
    · exact absurd h (by simp)
  | status =>
    obtain rfl := Option.some.inj h
    rfl
  | cancel now =>
    obtain rfl := Option.some.inj h
    have hchanges := changes_handleCrawlCancel id now c.jobs k
    rwa [if_neg hk] at hchanges

/-- A step on one job depends on its own record. -/
theorem jobStep_depends {jobs : Jobs} {c c' : JobState} {l : JobLabel}
    (h : jobStep id c l = some c') (hsame : jobs[id]? = c.jobs[id]?) :
    ∃ c'', jobStep id ⟨jobs, c.task, c.history⟩ l = some c'' ∧
      (c''.jobs[id]?, c''.task, c''.history) = (c'.jobs[id]?, c'.task, c'.history) := by
  cases l with
  | begin =>
    rw [jobStep] at h ⊢
    split at h
    · next htask =>
      obtain rfl := Option.some.inj h
      have hrecord := (changes_beginCrawlJob id c.jobs).congr
        (changes_beginCrawlJob id jobs) hsame
      have hgoes : (beginCrawlJob id jobs).1 = (beginCrawlJob id c.jobs).1 := by
        rw [goesOn_beginCrawlJob, goesOn_beginCrawlJob, hsame]
      refine ⟨_, if_pos htask, ?_⟩
      simp only [JobState.record, hrecord, hgoes]
    · exact absurd h (by simp)
  | finish now result =>
    rw [jobStep] at h ⊢
    split at h
    · next htask =>
      obtain rfl := Option.some.inj h
      have hrecord := (changes_finishCrawlJob id now result c.jobs).congr
        (changes_finishCrawlJob id now result jobs) hsame
      refine ⟨_, if_pos htask, ?_⟩
      simp only [JobState.record, hrecord]
    · exact absurd h (by simp)
  | status =>
    obtain rfl := Option.some.inj h
    refine ⟨_, rfl, ?_⟩
    simp only [JobState.record, hsame]
  | cancel now =>
    obtain rfl := Option.some.inj h
    have hrecord := (changes_handleCrawlCancel id now c.jobs).congr
      (changes_handleCrawlCancel id now jobs) hsame
    refine ⟨_, rfl, ?_⟩
    simp only [JobState.record, hrecord]

/-- A start either is refused or records a queued job. -/
theorem step_start_cases {now : Int} {req : CrawlRequest}
    (h : step U s (.start id now req) = some t) :
    id ∉ s.jobs ∧
      ((t = s ∧ ∃ e, U.parse req.url = .error e) ∨
        (∃ u, U.parse req.url = .ok u) ∧
          t = s.update id (.start id
            (s.jobs.insert id ⟨id, req.url, .queued, now, none, [], none⟩))) := by
  rw [step] at h
  split at h
  · exact absurd h (by simp)
  · next hfresh =>
    refine ⟨hfresh, ?_⟩
    unfold handleCrawlStart at h
    cases hparse : U.parse req.url with
    | error e =>
      rw [hparse] at h
      exact .inl ⟨(Option.some.inj h).symm, e, rfl⟩
    | ok u =>
      rw [hparse] at h
      exact .inr ⟨⟨u, rfl⟩, (Option.some.inj h).symm⟩

/-- Every step is about one job. -/
theorem isLocal (U : UrlCrate) :
    Local (PartialSteps (step U)) RegistryLabel.owner Registry.view where
  frame := by
    intro s e t k hstep hk
    cases e with
    | start id now req =>
      obtain ⟨-, ⟨rfl, -⟩ | ⟨-, rfl⟩⟩ := step_start_cases hstep
      · rfl
      · apply view_update_ne (Ne.symm hk)
        have hne : id ≠ k := hk
        simp [JobState.start, Std.ExtTreeMap.getElem?_insert, hne]
    | job id l =>
      obtain ⟨c, hc, rfl⟩ := Option.map_eq_some_iff.mp hstep
      exact view_update_ne (Ne.symm hk) (jobStep_frame hc (Ne.symm hk))
  depends := by
    intro s s' e t hstep hview
    cases e with
    | start id now req =>
      obtain ⟨hjob, htask, hhistory⟩ : s'.jobs[id]? = s.jobs[id]? ∧ s'.tasks id = s.tasks id ∧
          s'.history id = s.history id := by simpa [view, RegistryLabel.owner] using hview
      obtain ⟨hfresh, hcases⟩ := step_start_cases hstep
      have hfresh' : id ∉ s'.jobs := by
        rw [Std.ExtTreeMap.mem_iff_isSome_getElem?] at hfresh ⊢
        rwa [hjob]
      rcases hcases with ⟨rfl, e, he⟩ | ⟨⟨u, hu⟩, rfl⟩
      · refine ⟨s', ?_, hview⟩
        show step U s' _ = _
        rw [step, if_neg hfresh', handleCrawlStart, he]
      · refine ⟨s'.update id (.start id
          (s'.jobs.insert id ⟨id, req.url, .queued, now, none, [], none⟩)), ?_, ?_⟩
        · show step U s' _ = _
          rw [step, if_neg hfresh', handleCrawlStart, hu]
        · simp [RegistryLabel.owner, JobState.start]
    | job id l =>
      obtain ⟨hjob, htask, hhistory⟩ : s'.jobs[id]? = s.jobs[id]? ∧ s'.tasks id = s.tasks id ∧
          s'.history id = s.history id := by simpa [view, RegistryLabel.owner] using hview
      obtain ⟨c, hc, rfl⟩ := Option.map_eq_some_iff.mp hstep
      obtain ⟨c', hc', hsame⟩ : ∃ c', jobStep id ⟨s'.jobs, s.tasks id, s.history id⟩ l = some c' ∧
          (c'.jobs[id]?, c'.task, c'.history) = (c.jobs[id]?, c.task, c.history) :=
        jobStep_depends hc hjob
      refine ⟨s'.update id c', ?_, ?_⟩
      · show (jobStep id (s'.component id) l).map _ = _
        rw [component, htask, hhistory]
        rw [hc']
        rfl
      · show (s'.update id c').view id = (s.update id c).view id
        rw [view_update_self, view_update_self]
        exact hsame

/-- A cancel finds its job under way, or cancelled at that very instant. -/
def CancelsInTime (s : Registry) : RegistryLabel → Prop
  | .start _ _ _ => True
  | .job id l => Server.CancelsInTime id (s.component id) l

/-- A job has not been started, or goes through its life. -/
inductive Standing (id : Str) (s : Registry) : Prop
  | absent (h : s.view id = (none, .over, []))
  | started (job : CrawlJob) (h : JobInv id (s.component id) job)

theorem jobInv_congr {job : CrawlJob} (hview : t.view id = s.view id)
    (h : JobInv id (s.component id) job) : JobInv id (t.component id) job := by
  obtain ⟨hjob, htask, hhistory⟩ : t.jobs[id]? = s.jobs[id]? ∧ t.tasks id = s.tasks id ∧
      t.history id = s.history id := by simpa [view] using hview
  constructor
  case current => exact hjob.trans h.current
  case last => exact (congrArg List.getLast? hhistory).trans h.last
  case stamped => exact h.stamped
  case empty => exact h.empty
  case pending =>
    intro htask'
    exact h.pending (by rwa [component, ← htask])

theorem Standing.congr (hview : t.view id = s.view id) (h : Standing id s) : Standing id t := by
  cases h with
  | absent habsent => exact .absent (hview.trans habsent)
  | started job hinv => exact .started job (jobInv_congr hview hinv)

/-- A job that has just been recorded. -/
theorem jobInv_start (id url : Str) (now : Int) (jobs : Jobs) :
    JobInv id (.start id (jobs.insert id ⟨id, url, .queued, now, none, [], none⟩))
      ⟨id, url, .queued, now, none, [], none⟩ := by
  constructor
  case current => exact Std.ExtTreeMap.getElem?_insert_self
  case last => simp [JobState.start]
  case stamped => rfl
  case empty => exact fun _ ↦ rfl
  case pending => exact fun _ hterm ↦ absurd hterm (by simp [CrawlStatus.isTerminal])

theorem lifecycle_nil : Lifecycle [] := ⟨fun _ h ↦ absurd h List.not_mem_nil, .nil⟩

theorem lifecycle_start (id url : Str) (now : Int) (jobs : Jobs) :
    Lifecycle (JobState.start id
      (jobs.insert id ⟨id, url, .queued, now, none, [], none⟩)).history := by
  have hhistory : (JobState.start id (jobs.insert id
      ⟨id, url, .queued, now, none, [], none⟩)).history =
        [⟨id, url, .queued, now, none, [], none⟩] := by simp [JobState.start]
  rw [hhistory]
  refine ⟨fun job hjob ↦ ?_, List.pairwise_singleton _ _⟩
  rw [List.mem_singleton.mp hjob]
  exact ⟨rfl, fun hdata ↦ absurd rfl hdata⟩

/-- A step leaves its own job standing, and keeps its life cycle exactly when it is no late
cancel. -/
theorem standing_step {e : RegistryLabel} (hstep : step U s e = some t)
    (h : Standing e.owner s) :
    Standing e.owner t ∧
      (Lifecycle (t.history e.owner) ↔ Lifecycle (s.history e.owner) ∧ s.CancelsInTime e) := by
  cases e with
  | start id now req =>
    obtain ⟨hfresh, ⟨rfl, -⟩ | ⟨-, rfl⟩⟩ := step_start_cases hstep
    · exact ⟨h, (and_iff_left trivial).symm⟩
    · have hempty : s.history id = [] := by
        cases h with
        | absent habsent => exact congrArg (·.2.2) habsent
        | started job hinv =>
          refine absurd ?_ hfresh
          rw [Std.ExtTreeMap.mem_iff_isSome_getElem?]
          exact Option.isSome_iff_exists.mpr ⟨job, hinv.current⟩
      have hinv := jobInv_start id req.url now s.jobs
      have hlife := lifecycle_start id req.url now s.jobs
      constructor
      · rw [← component_update s id (.start id _)] at hinv
        exact .started _ hinv
      · show Lifecycle ((s.update id _).history id) ↔ Lifecycle (s.history id) ∧ True
        rw [hempty, history_update]
        exact ⟨fun _ ↦ ⟨lifecycle_nil, trivial⟩, fun _ ↦ hlife⟩
  | job id l =>
    obtain ⟨c, hc, rfl⟩ := Option.map_eq_some_iff.mp hstep
    show Standing id _ ∧ (Lifecycle ((s.update id c).history id) ↔ Lifecycle (s.history id) ∧ _)
    rw [history_update]
    cases h with
    | started job hinv =>
      obtain ⟨job', hinv', hlife⟩ := lifecycle_step hinv hc
      refine ⟨.started job' (?_ : JobInv id ((s.update id c).component id) job'), hlife⟩
      rw [component_update]
      exact hinv'
    | absent habsent =>
      -- nothing happens to a job that has not been started
      obtain ⟨hjob, htask, hempty⟩ : s.jobs[id]? = none ∧ s.tasks id = .over ∧
          s.history id = [] := by simpa [view, RegistryLabel.owner] using habsent
      have hsame : c.jobs[id]? = none ∧ c.task = .over ∧ c.history = [] := by
        cases l with
        | begin =>
          rw [jobStep, component, htask] at hc
          exact absurd hc (by simp)
        | finish now result =>
          rw [jobStep, component, htask] at hc
          exact absurd hc (by simp)
        | status =>
          obtain rfl := Option.some.inj hc
          simp [JobState.record, component, hjob, htask, hempty]
        | cancel now =>
          obtain rfl := Option.some.inj hc
          simp [JobState.record, component, handleCrawlCancel, hjob, htask, hempty]
      obtain ⟨hjob', htask', hempty'⟩ := hsame
      refine ⟨.absent ?_, ?_⟩
      · show (s.update id c).view id = _
        rw [view_update_self, hjob', htask', hempty']
      · rw [hempty', hempty]
        refine ⟨fun hlife ↦ ⟨hlife, ?_⟩, And.left⟩
        cases l with
        | cancel now =>
          intro job hsome
          rw [component, hjob] at hsome
          exact absurd hsome (by simp)
        | begin => trivial
        | finish now result => trivial
        | status => trivial

/-- A job is recorded once a request for it has been accepted, and never forgotten. -/
theorem mem_jobs_step {e : RegistryLabel} (hstep : step U s e = some t) :
    id ∈ t.jobs ↔ id ∈ s.jobs ∨ ∃ now req u, e = .start id now req ∧ U.parse req.url = .ok u := by
  simp only [Std.ExtTreeMap.mem_iff_isSome_getElem?]
  cases e with
  | start id' now req =>
    obtain ⟨hfresh, ⟨rfl, err, herr⟩ | ⟨⟨u, hu⟩, rfl⟩⟩ := step_start_cases hstep
    · refine ⟨.inl, fun h ↦ h.resolve_right ?_⟩
      rintro ⟨now', req', u, heq, hu⟩
      obtain ⟨rfl, rfl, rfl⟩ := RegistryLabel.start.inj heq
      rw [herr] at hu
      exact absurd hu (by simp)
    · show ((s.jobs.insert id' _)[id]?).isSome ↔ _
      rw [Std.ExtTreeMap.getElem?_insert]
      by_cases hid : id' = id
      · subst hid
        simp [hu]
      · simp [hid]
  | job id' l =>
    obtain ⟨c, hc, rfl⟩ := Option.map_eq_some_iff.mp hstep
    have hnone : ¬ ∃ now req u, RegistryLabel.job id' l = .start id now req ∧
        U.parse req.url = .ok u := by
      rintro ⟨now, req, u, heq, -⟩
      exact absurd heq (by simp)
    rw [or_iff_left hnone]
    show (c.jobs[id]?).isSome ↔ _
    by_cases hid : id = id'
    · subst hid
      have hsome : ∀ {f : CrawlJob → CrawlJob} {jobs : Jobs}, Changes id f s.jobs jobs →
          ((jobs[id]?).isSome ↔ (s.jobs[id]?).isSome) := by
        intro f jobs hchanges
        rw [hchanges id, if_pos rfl, Option.isSome_map]
      cases l with
      | begin =>
        rw [jobStep] at hc
        split at hc
        · obtain rfl := Option.some.inj hc
          exact hsome (changes_beginCrawlJob id s.jobs)
        · exact absurd hc (by simp)
      | finish now result =>
        rw [jobStep] at hc
        split at hc
        · obtain rfl := Option.some.inj hc
          exact hsome (changes_finishCrawlJob id now result s.jobs)
        · exact absurd hc (by simp)
      | status =>
        obtain rfl := Option.some.inj hc
        exact Iff.rfl
      | cancel now =>
        obtain rfl := Option.some.inj hc
        exact hsome (changes_handleCrawlCancel id now s.jobs)
    · rw [jobStep_frame hc hid]
      exact Iff.rfl

end Registry

/-- What the registry promises of a run: a job is what its own labels make of it, it is recorded
exactly if a request for it has been accepted, and the life cycles of all jobs are kept exactly when
no cancel comes late. -/
structure RegistrySound (U : UrlCrate) (labels : List RegistryLabel) (s : Registry) : Prop where
  independent : ∀ id, ∃ s', Run (PartialSteps (Registry.step U)) .empty
    (labels.filter (·.owner = id)) s' ∧ s'.view id = s.view id
  recorded : ∀ id, id ∈ s.jobs ↔
    ∃ now req u, .start id now req ∈ labels ∧ U.parse req.url = .ok u
  lifecycles : (∀ id, Lifecycle (s.history id)) ↔
    Run (Guarded Registry.CancelsInTime (PartialSteps (Registry.step U))) .empty labels s

/-- The registry is sound in every run, with any number of jobs and their labels in any order. -/
theorem registry_sound {U : UrlCrate} {labels : List RegistryLabel} {s : Registry}
    (h : Run (PartialSteps (Registry.step U)) .empty labels s) : RegistrySound U labels s := by
  have hlocal := Registry.isLocal U
  constructor
  case independent => exact fun id ↦ hlocal.project id h rfl
  case recorded =>
    intro id
    refine h.history (I := fun labels s ↦ id ∈ s.jobs ↔
      ∃ now req u, RegistryLabel.start id now req ∈ labels ∧ U.parse req.url = .ok u) ?_ ?_
    · intro labels s e t ih hstep
      rw [Registry.mem_jobs_step hstep, ih]
      simp only [List.mem_append, List.mem_singleton]
      constructor
      · rintro (⟨now, req, u, hmem, hu⟩ | ⟨now, req, u, rfl, hu⟩)
        · exact ⟨now, req, u, .inl hmem, hu⟩
        · exact ⟨now, req, u, .inr rfl, hu⟩
      · rintro ⟨now, req, u, hmem | rfl, hu⟩
        · exact .inl ⟨now, req, u, hmem, hu⟩
        · exact .inr ⟨now, req, u, rfl, hu⟩
    · simp [Registry.empty]
  case lifecycles =>
    refine h.guarded_iff (I := fun s ↦ ∀ id, Registry.Standing id s)
      (P := fun s ↦ ∀ id, Lifecycle (s.history id)) ?_ ?_
      (fun _ ↦ .absent (by simp [Registry.view, Registry.empty])) (fun _ ↦ Registry.lifecycle_nil)
    · intro s e t hs hstep id
      by_cases howner : e.owner = id
      · subst howner
        exact (Registry.standing_step hstep (hs _)).1
      · exact (hs id).congr (hlocal.frame hstep howner)
    · intro s e t hs hstep
      have hown := (Registry.standing_step hstep (hs e.owner)).2
      have hothers (id : Str) (howner : e.owner ≠ id) : t.history id = s.history id :=
        congrArg (·.2.2) (hlocal.frame hstep howner)
      constructor
      · intro hlife
        obtain ⟨hbefore, hcond⟩ := hown.mp (hlife e.owner)
        refine ⟨fun id ↦ ?_, hcond⟩
        by_cases howner : e.owner = id
        · exact howner ▸ hbefore
        · exact hothers id howner ▸ hlife id
      · rintro ⟨hlife, hcond⟩ id
        by_cases howner : e.owner = id
        · exact howner ▸ hown.mpr ⟨hlife e.owner, hcond⟩
        · rw [hothers id howner]
          exact hlife id

/-- Two jobs side by side; the first is cancelled while it crawls. -/
def twoJobs : List RegistryLabel :=
  [.start "a" 0 exampleJob, .start "b" 1 exampleJob, .job "a" .begin, .job "b" .begin,
    .job "a" (.cancel 5), .job "b" (.finish 6 (.ok [{}])), .job "a" (.finish 7 (.ok [{}]))]

theorem registry_sound_twoJobs :
    ∃ s, (s.history "a").map CrawlJob.status = [.queued, .scraping, .cancelled, .cancelled] ∧
      (s.history "b").map CrawlJob.status = [.queued, .scraping, .completed] ∧
      RegistrySound .plain twoJobs s := by
  have hrun : (twoJobs.foldlM (Registry.step .plain) .empty).map (fun s : Registry ↦
      ((s.history "a").map CrawlJob.status, (s.history "b").map CrawlJob.status)) =
      some ([.queued, .scraping, .cancelled, .cancelled], [.queued, .scraping, .completed]) := by
    decide
  obtain ⟨s, hs, hstatus⟩ := Option.map_eq_some_iff.mp hrun
  obtain ⟨ha, hb⟩ := Prod.mk.inj hstatus
  exact ⟨s, ha, hb, registry_sound (.of_foldlM hs)⟩

end CrwShield.Server
