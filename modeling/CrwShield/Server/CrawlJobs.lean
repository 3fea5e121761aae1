import CrwShield.Base.Runs
import CrwShield.Base.UrlCrate
import CrwShield.Core.Types

/-!
# Crawl jobs

Crate `server`, `src/crates/server/src/handlers.rs:1080–1254`. The record of a job is shared by the
task that crawls, which changes it in two critical sections, and by requests that read or cancel
it. Times are nanoseconds since the epoch.
-/

open CrwShield.Base CrwShield.Base.Str CrwShield.Core

namespace CrwShield.Server

/-- Status of a job; `types.rs:371–377`. -/
inductive CrawlStatus where
  | scraping
  | completed
  | failed
  | cancelled
  | queued
  deriving DecidableEq

/-- Nothing more is to happen to the job. -/
def CrawlStatus.isTerminal : CrawlStatus → Bool
  | .completed | .failed | .cancelled => true
  | .scraping | .queued => false

/-- Record of a job; `handlers.rs:1081–1089`. -/
structure CrawlJob where
  id : Str
  url : Str
  status : CrawlStatus
  createdAt : Int
  completedAt : Option Int
  data : List ScrapeData
  error : Option Str

/-- Answer to a crawl request; `types.rs:381–387`. -/
structure CrawlResponse where
  success : Bool
  id : Str
  url : Str
  creditsUsed : Nat

/-- Answer to a status request, less the fields that are always absent; `types.rs:391–423`. -/
structure CrawlStatusResponse where
  status : CrawlStatus
  total : UInt32
  completed : UInt32
  creditsUsed : UInt32
  createdAt : Option Int
  completedAt : Option Int
  duration : Option ℚ
  data : List ScrapeData
  error : Option Str

/-- The jobs by id. -/
abbrev Jobs := Std.ExtTreeMap Str CrawlJob

/-- Record a job under a fresh id; `handlers.rs:1104–1145`. -/
def handleCrawlStart (U : UrlCrate) (id : Str) (now : Int) (req : CrawlRequest) (jobs : Jobs) :
    Except ErrorResponse CrawlResponse × Jobs :=
  match U.parse req.url with
  | .error _ => (.error (.new "INVALID_URL" "url is not valid"), jobs)
  | .ok _ =>
    (.ok ⟨true, id, req.url, 1⟩,
      jobs.insert id ⟨id, req.url, .queued, now, none, [], none⟩)

/-- First critical section of the crawling task: whether to go on; `handlers.rs:1157–1167`. -/
def beginCrawlJob (id : Str) (jobs : Jobs) : Bool × Jobs :=
  match jobs[id]? with
  | none => (false, jobs)
  | some job =>
    if job.status = .cancelled then (false, jobs)
    else (true, jobs.insert id { job with status := .scraping })

/-- Second critical section of the crawling task, with the outcome of the crawl;
`handlers.rs:1172–1193`. -/
def finishCrawlJob (id : Str) (now : Int) (result : Except CrwError (List ScrapeData))
    (jobs : Jobs) : Jobs :=
  match jobs[id]? with
  | none => jobs
  | some job =>
    if job.status = .cancelled then jobs
    else
      match result with
      | .ok data =>
        jobs.insert id { job with data := data, status := .completed, completedAt := some now }
      | .error e =>
        jobs.insert id
          { job with status := .failed, error := some e.toStr, completedAt := some now }

/-- Read a job; `handlers.rs:1209–1230`. -/
def handleCrawlStatus (id : Str) (jobs : Jobs) : Except ErrorResponse CrawlStatusResponse :=
  match jobs[id]? with
  | none => .error (.new "NOT_FOUND" "crawl job not found")
  | some job =>
    let total := UInt32.ofNat job.data.length
    .ok
      { status := job.status
        total := total
        completed := total
        creditsUsed := total
        createdAt := some job.createdAt
        completedAt := job.completedAt
        duration := job.completedAt.map fun c ↦
          (((c - job.createdAt).tdiv 1000000 : Int) : ℚ) / 1000
        data := job.data
        error := job.error }

/-- Cancel a job; `handlers.rs:1245–1254`. -/
def handleCrawlCancel (id : Str) (now : Int) (jobs : Jobs) : Except ErrorResponse Json × Jobs :=
  match jobs[id]? with
  | none => (.error (.new "NOT_FOUND" "crawl job not found"), jobs)
  | some job =>
    (.ok (.ofMembers [("success", .bool true), ("id", .str id), ("status", .str "cancelled")]),
      jobs.insert id { job with status := .cancelled, completedAt := some now })

/-- Where the crawling task of a job stands. -/
inductive RunCrawlJob where
  | spawned
  | crawling
  | over
  deriving DecidableEq

/-- The jobs, the crawling task of one of them, and the record of that job at the start and after
every critical section, oldest first. -/
structure JobState where
  jobs : Jobs
  task : RunCrawlJob
  history : List CrawlJob

/-- A critical section of the task, or a request for the job. -/
inductive JobLabel where
  | begin
  | finish (now : Int) (result : Except CrwError (List ScrapeData))
  | status
  | cancel (now : Int)

/-- The state with new jobs, the record of the job being added to its history. -/
def JobState.record (s : JobState) (id : Str) (jobs : Jobs) (task : RunCrawlJob) : JobState :=
  ⟨jobs, task, s.history ++ jobs[id]?.toList⟩

/-- One critical section; `run_crawl_job` takes its two in turn. -/
def jobStep (id : Str) (s : JobState) : JobLabel → Option JobState
  | .begin =>
    if s.task = .spawned then
      let out := beginCrawlJob id s.jobs
      some (s.record id out.2 (if out.1 then .crawling else .over))
    else none
  | .finish now result =>
    if s.task = .crawling then some (s.record id (finishCrawlJob id now result s.jobs) .over)
    else none
  | .status => some (s.record id s.jobs s.task)
  | .cancel now => some (s.record id (handleCrawlCancel id now s.jobs).2 s.task)

/-- State of a job that has just been recorded. -/
def JobState.start (id : Str) (jobs : Jobs) : JobState := ⟨jobs, .spawned, jobs[id]?.toList⟩

/-- What may become of a record: once terminal, its status and completion time stay. -/
def CrawlJob.Absorbs (job later : CrawlJob) : Prop :=
  job.status.isTerminal → later.status = job.status ∧ later.completedAt = job.completedAt

/-- A record has a completion time exactly when it is terminal, and data only when completed. -/
structure CrawlJob.Sound (job : CrawlJob) : Prop where
  stamped : job.completedAt.isSome = job.status.isTerminal
  data : job.data ≠ [] → job.status = .completed

/-- The life cycle of a job: every record is sound, and terminal ones are final. -/
structure Lifecycle (history : List CrawlJob) : Prop where
  sound : ∀ job ∈ history, job.Sound
  absorbing : history.Pairwise CrawlJob.Absorbs

theorem absorbs_trans (a b c : CrawlJob) (hab : a.Absorbs b) (hbc : b.Absorbs c) :
    a.Absorbs c := by
  intro ha
  obtain ⟨hstatus, hstamp⟩ := hab ha
  obtain ⟨hstatus', hstamp'⟩ := hbc (by rw [hstatus]; exact ha)
  exact ⟨hstatus'.trans hstatus, hstamp'.trans hstamp⟩

theorem lifecycle_concat {history : List CrawlJob} {last job : CrawlJob}
    (hlast : history.getLast? = some last) :
    Lifecycle (history ++ [job]) ↔ Lifecycle history ∧ job.Sound ∧ last.Absorbs job := by
  have hpair : (history ++ [job]).Pairwise CrawlJob.Absorbs ↔
      history.Pairwise CrawlJob.Absorbs ∧ last.Absorbs job := by
    rw [pairwise_concat absorbs_trans, hlast]
    simp
  constructor
  · rintro ⟨hsound, habs⟩
    obtain ⟨habs, hjob⟩ := hpair.mp habs
    exact ⟨⟨fun j hj ↦ hsound j (List.mem_append_left _ hj), habs⟩, hsound job (by simp), hjob⟩
  · rintro ⟨⟨hsound, habs⟩, hjob, hfinal⟩
    refine ⟨fun j hj ↦ ?_, hpair.mpr ⟨habs, hfinal⟩⟩
    rcases List.mem_append.mp hj with hj | hj
    · exact hsound j hj
    · rw [List.mem_singleton.mp hj]
      exact hjob

/-- A cancel finds the job under way, or cancelled at that very instant. -/
def CancelsInTime (id : Str) (s : JobState) : JobLabel → Prop
  | .cancel now => ∀ job, s.jobs[id]? = some job → job.status.isTerminal →
      job.status = .cancelled ∧ job.completedAt = some now
  | _ => True

/-- What holds of a job and its task in every run. -/
structure JobInv (id : Str) (s : JobState) (job : CrawlJob) : Prop where
  current : s.jobs[id]? = some job
  last : s.history.getLast? = some job
  stamped : job.completedAt.isSome = job.status.isTerminal
  empty : job.status.isTerminal = false → job.data = []
  pending : s.task ≠ .over → job.status.isTerminal → job.status = .cancelled

section Step

variable {id : Str} {s : JobState} {job : CrawlJob}

theorem lifecycle_same (h : JobInv id s job) :
    Lifecycle (s.history ++ [job]) ↔ Lifecycle s.history := by
  rw [lifecycle_concat h.last]
  constructor
  · exact fun hlife ↦ hlife.1
  · exact fun hlife ↦ ⟨hlife, hlife.sound job (List.mem_of_getLast? h.last), fun _ ↦ ⟨rfl, rfl⟩⟩

/-- A section that leaves the record alone keeps the life cycle. -/
private theorem unchanged (h : JobInv id s job) (task : RunCrawlJob)
    (htask : task ≠ .over → s.task ≠ .over) :
    JobInv id (s.record id s.jobs task) job ∧
      (Lifecycle (s.record id s.jobs task).history ↔ Lifecycle s.history) := by
  simp only [JobState.record, h.current, Option.toList_some]
  exact ⟨⟨h.current, by simp, h.stamped, h.empty, fun hover ↦ h.pending (htask hover)⟩,
    lifecycle_same h⟩

/-- A section that changes the record of a job under way keeps the life cycle. -/
private theorem changed (h : JobInv id s job) (hopen : job.status.isTerminal = false)
    (job' : CrawlJob) (task : RunCrawlJob) (hsound : job'.Sound)
    (hpending : task ≠ .over → job'.status.isTerminal → job'.status = .cancelled) :
    JobInv id (s.record id (s.jobs.insert id job') task) job' ∧
      (Lifecycle (s.record id (s.jobs.insert id job') task).history ↔ Lifecycle s.history) := by
  simp only [JobState.record, Std.ExtTreeMap.getElem?_insert_self, Option.toList_some]
  refine ⟨⟨Std.ExtTreeMap.getElem?_insert_self, by simp, hsound.stamped, ?_, hpending⟩, ?_⟩
  · intro hopen'
    by_contra hdata
    rw [hsound.data hdata] at hopen'
    exact absurd hopen' (by decide)
  · rw [lifecycle_concat h.last]
    refine ⟨And.left, fun hlife ↦ ⟨hlife, hsound, fun hterm ↦ ?_⟩⟩
    rw [hopen] at hterm
    exact absurd hterm (by decide)

/-- A cancel keeps the life cycle exactly when it comes in time. -/
private theorem cancelled (h : JobInv id s job) (now : Int) :
    ∃ job', JobInv id (s.record id (handleCrawlCancel id now s.jobs).2 s.task) job' ∧
      (Lifecycle (s.record id (handleCrawlCancel id now s.jobs).2 s.task).history ↔
        Lifecycle s.history ∧ CancelsInTime id s (.cancel now)) := by
  have hlate : CancelsInTime id s (.cancel now) ↔
      (job.status.isTerminal → job.status = .cancelled ∧ job.completedAt = some now) := by
    simp only [CancelsInTime, h.current, Option.some.injEq, forall_eq']
  rw [hlate]
  simp only [handleCrawlCancel, h.current, JobState.record, Std.ExtTreeMap.getElem?_insert_self,
    Option.toList_some]
  refine ⟨_, ⟨Std.ExtTreeMap.getElem?_insert_self, by simp, rfl, fun hopen ↦ ?_, fun _ _ ↦ rfl⟩, ?_⟩
  · exact absurd hopen (by simp [CrawlStatus.isTerminal])
  · rw [lifecycle_concat h.last]
    refine and_congr_right fun hlife ↦ ⟨?_, fun hin ↦ ⟨⟨rfl, ?_⟩, ?_⟩⟩
    · rintro ⟨-, habs⟩ hterm
      obtain ⟨hstatus, hstamp⟩ := habs hterm
      exact ⟨hstatus.symm, hstamp.symm⟩
    · -- a record with data is completed, so the cancel would come too late
      intro hdata
      have hdone := (hlife.sound job (List.mem_of_getLast? h.last)).data hdata
      have hcancelled := (hin (by rw [hdone]; rfl)).1
      exact absurd (hdone.symm.trans hcancelled) (by decide)
    · intro hterm
      obtain ⟨hstatus, hstamp⟩ := hin hterm
      exact ⟨hstatus.symm, hstamp.symm⟩

/-- Every critical section keeps the invariant, and keeps the life cycle exactly when it meets the
condition. -/
theorem lifecycle_step {s' : JobState} {l : JobLabel} (h : JobInv id s job)
    (hstep : jobStep id s l = some s') :
    ∃ job', JobInv id s' job' ∧
      (Lifecycle s'.history ↔ Lifecycle s.history ∧ CancelsInTime id s l) := by
  cases l with
  | status =>
    obtain rfl := Option.some.inj hstep
    obtain ⟨hinv, hlife⟩ := unchanged h _ fun hover ↦ hover
    exact ⟨job, hinv, hlife.trans (and_iff_left trivial).symm⟩
  | cancel now =>
    obtain rfl := Option.some.inj hstep
    exact cancelled h now
  | begin =>
    simp only [jobStep] at hstep
    split at hstep
    · next htask =>
      obtain rfl := Option.some.inj hstep
      have hover : s.task ≠ .over := by simp [htask]
      simp only [beginCrawlJob, h.current]
      by_cases hc : job.status = .cancelled
      · rw [if_pos hc]
        obtain ⟨hinv, hlife⟩ := unchanged h .over fun _ ↦ hover
        exact ⟨job, hinv, hlife.trans (and_iff_left trivial).symm⟩
      · rw [if_neg hc]
        have hopen : job.status.isTerminal = false := by
          by_contra hterm
          exact hc (h.pending hover (by simpa using hterm))
        obtain ⟨hinv, hlife⟩ := changed h hopen { job with status := .scraping } .crawling
          ⟨by rw [h.stamped, hopen]; rfl, fun hdata ↦ absurd (h.empty hopen) hdata⟩
          (fun _ hterm ↦ absurd hterm (by simp [CrawlStatus.isTerminal]))
        exact ⟨_, hinv, hlife.trans (and_iff_left trivial).symm⟩
    · exact absurd hstep (by simp)
  | finish now result =>
    simp only [jobStep] at hstep
    split at hstep
    · next htask =>
      obtain rfl := Option.some.inj hstep
      have hover : s.task ≠ .over := by simp [htask]
      simp only [finishCrawlJob, h.current]
      by_cases hc : job.status = .cancelled
      · rw [if_pos hc]
        obtain ⟨hinv, hlife⟩ := unchanged h .over fun _ ↦ hover
        exact ⟨job, hinv, hlife.trans (and_iff_left trivial).symm⟩
      · rw [if_neg hc]
        have hopen : job.status.isTerminal = false := by
          by_contra hterm
          exact hc (h.pending hover (by simpa using hterm))
        cases result with
        | ok data =>
          obtain ⟨hinv, hlife⟩ := changed h hopen
            { job with data := data, status := .completed, completedAt := some now } .over
            ⟨rfl, fun _ ↦ rfl⟩ (fun hne ↦ absurd rfl hne)
          exact ⟨_, hinv, hlife.trans (and_iff_left trivial).symm⟩
        | error e =>
          obtain ⟨hinv, hlife⟩ := changed h hopen
            { job with status := .failed, error := some e.toStr, completedAt := some now } .over
            ⟨rfl, fun hdata ↦ absurd (h.empty hopen) hdata⟩ (fun hne ↦ absurd rfl hne)
          exact ⟨_, hinv, hlife.trans (and_iff_left trivial).symm⟩
    · exact absurd hstep (by simp)

end Step

/-- A job that has been recorded goes through its life cycle, with its task and any requests
interleaved in any way, exactly when every cancel comes in time. -/
theorem lifecycle_iff {U : UrlCrate} {id : Str} {now : Int} {req : CrawlRequest} {jobs jobs' : Jobs}
    {resp : CrawlResponse} (hstart : handleCrawlStart U id now req jobs = (.ok resp, jobs'))
    {labels : List JobLabel} {s : JobState}
    (h : Run (PartialSteps (jobStep id)) (.start id jobs') labels s) :
    Lifecycle s.history ↔
      Run (Guarded (CancelsInTime id) (PartialSteps (jobStep id))) (.start id jobs') labels s := by
  obtain ⟨job, hjob, hqueued, hnone, hempty⟩ : ∃ job, jobs'[id]? = some job ∧
      job.status = .queued ∧ job.completedAt = none ∧ job.data = [] := by
    unfold handleCrawlStart at hstart
    split at hstart
    · exact absurd hstart (by simp)
    · obtain ⟨-, rfl⟩ := Prod.mk.inj hstart
      exact ⟨_, Std.ExtTreeMap.getElem?_insert_self, rfl, rfl, rfl⟩
  have hopen : job.status.isTerminal = false := by rw [hqueued]; rfl
  have hinv : JobInv id (.start id jobs') job :=
    ⟨hjob, by simp [JobState.start, hjob], by rw [hnone, hopen]; rfl, fun _ ↦ hempty,
      fun _ hterm ↦ absurd hterm (by simp [hopen])⟩
  have hlife : Lifecycle (JobState.start id jobs').history := by
    simp only [JobState.start, hjob, Option.toList_some]
    refine ⟨fun j hj ↦ ?_, List.pairwise_singleton _ _⟩
    rw [List.mem_singleton.mp hj]
    exact ⟨by rw [hnone, hopen]; rfl, fun hdata ↦ absurd hempty hdata⟩
  refine h.guarded_iff (I := fun s ↦ ∃ job, JobInv id s job) (P := fun s ↦ Lifecycle s.history)
    ?_ ?_ ⟨job, hinv⟩ hlife
  · rintro s l t ⟨job, hs⟩ hstep
    obtain ⟨job', ht, -⟩ := lifecycle_step hs hstep
    exact ⟨job', ht⟩
  · rintro s l t ⟨job, hs⟩ hstep
    obtain ⟨job', -, hiff⟩ := lifecycle_step hs hstep
    exact hiff

/-- A crawl of `https://example.com/` with no options. -/
def exampleJob : CrawlRequest where
  url := "https://example.com/"
  excludePaths := []
  includePaths := []
  maxDiscoveryDepth := none
  sitemap := .includeSitemap
  ignoreQueryParameters := true
  limit := 10000
  allowExternalLinks := false
  allowSubdomains := false
  maxConcurrency := none
  scrapeOptions := none

/-- The store in which that job is recorded. -/
def exampleJobs : Jobs := (handleCrawlStart .plain "job" 0 exampleJob ∅).2

private theorem handleCrawlStart_example :
    handleCrawlStart .plain "job" 0 exampleJob ∅ =
      (.ok ⟨true, "job", exampleJob.url, 1⟩, exampleJobs) := by
  have hparse : UrlCrate.plain.parse exampleJob.url =
      .ok ⟨"https://example.com/", by decide⟩ := UrlCrate.parse_plain _
  unfold exampleJobs handleCrawlStart
  rw [hparse]

/-- The task runs to its end; a status request comes last. -/
def completedJob : List JobLabel := [.begin, .finish 5 (.ok [{}]), .status]

theorem lifecycle_iff_completed :
    ∃ s, s.history.map CrawlJob.status = [.queued, .scraping, .completed, .completed] ∧
      (Lifecycle s.history ↔ Run (Guarded (CancelsInTime "job") (PartialSteps (jobStep "job")))
        (.start "job" exampleJobs) completedJob s) := by
  have hrun : (completedJob.foldlM (jobStep "job") (.start "job" exampleJobs)).map
      (fun s : JobState ↦ s.history.map CrawlJob.status) =
      some [.queued, .scraping, .completed, .completed] := by decide
  obtain ⟨s, hs, hstatus⟩ := Option.map_eq_some_iff.mp hrun
  exact ⟨s, hstatus, lifecycle_iff handleCrawlStart_example (.of_foldlM hs)⟩

/-- A completed job that is cancelled becomes cancelled. -/
theorem not_lifecycle_cancelledLate :
    ¬ ∀ (U : UrlCrate) (id : Str) (now : Int) (req : CrawlRequest) (jobs jobs' : Jobs)
        (resp : CrawlResponse) (labels : List JobLabel) (s : JobState),
      handleCrawlStart U id now req jobs = (.ok resp, jobs') →
      Run (PartialSteps (jobStep id)) (.start id jobs') labels s → Lifecycle s.history := by
  intro hclaim
  have hrun : ((completedJob ++ [JobLabel.cancel 9]).foldlM (jobStep "job")
      (.start "job" exampleJobs)).map (fun s : JobState ↦ s.history.map CrawlJob.status) =
      some [.queued, .scraping, .completed, .completed, .cancelled] := by decide
  obtain ⟨s, hs, hstatus⟩ := Option.map_eq_some_iff.mp hrun
  have hlife := hclaim _ _ _ _ _ _ _ _ s handleCrawlStart_example (.of_foldlM hs)
  have hpair : (s.history.map CrawlJob.status).Pairwise fun a b ↦ a.isTerminal → b = a :=
    List.pairwise_map.mpr (hlife.absorbing.imp fun habs hterm ↦ (habs hterm).1)
  rw [hstatus] at hpair
  exact absurd hpair (by decide)

end CrwShield.Server
