import CrwShield.Base.Files
import CrwShield.Base.Runs
import CrwShield.Server.Hitl

/-!
# Concurrent saves of the cookie file

The background loop, `src/crates/server/src/state.rs:303–328`, and the solve handlers,
`src/crates/server/src/handlers.rs:297–314`, save the shared jar to one path with `save_to_path`,
`src/crates/antibot/src/cookie_jar.rs:399–447`: take a snapshot, empty or create the temporary
file, write it, rename it over the target. Nothing orders the saves, and they share the temporary
file. Jar states are numbered by their place in the history of the jar.
-/

open CrwShield.Base CrwShield.Base.Str CrwShield.Antibot

namespace CrwShield.Server

/-- A cookie under its bucket and name. -/
structure StoredCookie where
  bucket : Str
  name : Str
  entry : Entry

/-- A solve that has set its cookies: the number of the state in which the last was set, and what
it stored. -/
structure Solve where
  set : ℕ
  cookies : List StoredCookie

/-- A snapshot to be saved: its bytes, the number of the jar state it was taken from, and the solve
if a solve handler took it. -/
structure PendingSave where
  bytes : List UInt8
  version : ℕ
  solve : Option Solve

/-- Where a handler or the background loop stands. -/
inductive SaveTask where
  /-- A solve handler has cookies left to set, and has stored some; `handlers.rs:298–301`. -/
  | injecting (host : Str) (cookies : List HitlCookie) (stored : List StoredCookie)
  /-- A solve handler has set its last cookie. -/
  | injected (solve : Solve)
  /-- The snapshot is taken and serialised; `cookie_jar.rs:410–436`. -/
  | taken (save : PendingSave)
  /-- The temporary file is open and empty; the first half of `std::fs::write`. -/
  | opened (handle : ℕ) (save : PendingSave)
  /-- The temporary file is written; `cookie_jar.rs:437–438`. -/
  | written (save : PendingSave)

/-- A solve whose save returned with `Ok`, and the number of the state that was saved. -/
structure Acknowledged where
  solve : Solve
  taken : ℕ

/-- What the saves act on. -/
structure SaveState where
  files : Files Str UInt8
  /-- Jar states so far, the current one last. -/
  history : List CookieJar
  tasks : ℕ → Option SaveTask
  /-- The number of the state whose save was renamed last. -/
  saved : Option ℕ
  /-- The solves whose saves returned. -/
  acknowledged : List Acknowledged

/-- What happens, for the task of a number. -/
inductive SaveEvent where
  /-- Anybody changes the jar. -/
  | changeJar (jar : CookieJar)
  /-- A solve handler begins to set its cookies. -/
  | beginSolve (task : ℕ) (host : Str) (cookies : List HitlCookie)
  | setCookie (task : ℕ) (now : Option ℕ)
  | takeSnapshot (task : ℕ)
  | openTmp (task : ℕ)
  | writeTmp (task : ℕ)
  | renameTmp (task : ℕ)
  /-- A task ends with an error. -/
  | giveUp (task : ℕ)

/-- The temporary file; `cookie_jar.rs:429–433`. -/
def tmpPath (path : Str) : Str := path ++ ".tmp"

section Save

variable (toVecPretty : OnDiskJar → Except Str (List UInt8)) (path : Str)

/-- The snapshot that a task takes of the current jar. -/
def takeSnapshot (history : List CookieJar) (solve : Option Solve) : Option SaveTask :=
  history.getLast?.bind fun jar ↦
    (toVecPretty jar.snapshot).toOption.map fun bytes ↦
      .taken ⟨bytes, history.length - 1, solve⟩

/-- What a solve has stored, once it has stored a further cookie. -/
def storing (stored : List StoredCookie) (c : StoredCookie) : List StoredCookie :=
  (stored.filter fun c' ↦ ¬ (c'.bucket = c.bucket ∧ c'.name = c.name)) ++ [c]

/-- The cookie that a solve handler stores for a posted one. -/
def storedFor (now : Option ℕ) (host : Str) (c : HitlCookie) : StoredCookie :=
  ⟨normalizeHost (c.domain.getD host), c.name, ⟨c.value, CookieJar.expiry now c.maxAgeSecs⟩⟩

/-- One step of the saves. -/
def saveStep (s : SaveState) : SaveEvent → Option SaveState
  | .changeJar jar => some { s with history := s.history ++ [jar] }
  | .beginSolve n host cookies =>
    match s.tasks n with
    | none => some { s with tasks := Function.update s.tasks n (some (.injecting host cookies [])) }
    | some _ => none
  | .setCookie n now =>
    match s.tasks n with
    | some (.injecting host (c :: rest) stored) =>
      s.history.getLast?.map fun jar ↦
        let stored := storing stored (storedFor now host c)
        { s with
          history := s.history ++
            [jar.setCookie now (c.domain.getD host) c.name c.value c.maxAgeSecs]
          tasks := Function.update s.tasks n (some
            (if rest.isEmpty then .injected ⟨s.history.length, stored⟩
            else .injecting host rest stored)) }
    | _ => none
  | .takeSnapshot n =>
    match s.tasks n with
    | none => (takeSnapshot toVecPretty s.history none).map fun task ↦
        { s with tasks := Function.update s.tasks n (some task) }
    | some (.injected solve) => (takeSnapshot toVecPretty s.history (some solve)).map fun task ↦
        { s with tasks := Function.update s.tasks n (some task) }
    | _ => none
  | .openTmp n =>
    match s.tasks n with
    | some (.taken save) =>
      let opened := s.files.openTruncate (tmpPath path)
      some
        { s with
          files := opened.2
          tasks := Function.update s.tasks n (some (.opened opened.1 save)) }
    | _ => none
  | .writeTmp n =>
    match s.tasks n with
    | some (.opened handle save) =>
      some
        { s with
          files := s.files.write handle save.bytes
          tasks := Function.update s.tasks n (some (.written save)) }
    | _ => none
  | .renameTmp n =>
    match s.tasks n with
    | some (.written save) =>
      (s.files.rename (tmpPath path) path).map fun files ↦
        { s with
          files := files
          tasks := Function.update s.tasks n none
          saved := some save.version
          acknowledged := s.acknowledged ++ (save.solve.map (⟨·, save.version⟩)).toList }
    | _ => none
  | .giveUp n =>
    match s.tasks n with
    | some _ => some { s with tasks := Function.update s.tasks n none }
    | none => none

/-- The cookies are in a snapshot of the jar. -/
def Holds (jar : CookieJar) (cookies : List StoredCookie) : Prop :=
  ∀ c ∈ cookies, jar.snapshot.lookup c.bucket c.name = some c.entry

/-- Bytes that are the complete serialisation of the jar state of a number. -/
def Serialises (history : List CookieJar) (version : ℕ) (bytes : List UInt8) : Prop :=
  ∃ jar, history[version]? = some jar ∧ toVecPretty jar.snapshot = .ok bytes

/-- The target, if it exists, is the complete serialisation of some jar state. Once the save of a
solve has returned, the target is the state that was renamed last, which is none from before the
solve's cookies were set; and up to the one that the solve saved itself, the state has them. -/
structure WholeSnapshot (s : SaveState) : Prop where
  whole : ∀ bytes, s.files.read path = some bytes → ∃ k, Serialises toVecPretty s.history k bytes
  fresh : ∀ a ∈ s.acknowledged, ∃ k jar bytes, s.saved = some k ∧ s.history[k]? = some jar ∧
    toVecPretty jar.snapshot = .ok bytes ∧ s.files.read path = some bytes ∧
    a.solve.set ≤ k ∧ (k ≤ a.taken → Holds jar a.solve.cookies)

/-- A state in which no save is under way and none was acknowledged. -/
structure SaveStart (s : SaveState) : Prop where
  sound : s.files.Sound
  idle : ∀ n, s.tasks n = none
  none_acknowledged : s.acknowledged = []
  whole : ∀ bytes, s.files.read path = some bytes → ∃ k, Serialises toVecPretty s.history k bytes

/-- The temporary file is open or written, and not yet renamed. -/
def SaveTask.holdsTmp : SaveTask → Bool
  | .opened .. | .written _ => true
  | .injecting .. | .injected _ | .taken _ => false

/-- The snapshot that a task has taken and not yet renamed. -/
def SaveTask.pending : SaveTask → Option PendingSave
  | .taken save | .opened _ save | .written save => some save
  | .injecting .. | .injected _ => none

/-- The cookies that a solve handler has stored, before its snapshot. -/
def SaveTask.unsaved : SaveTask → List StoredCookie
  | .injecting _ _ stored => stored
  | .injected solve => solve.cookies
  | .taken _ | .opened .. | .written _ => []

/-- The cookies that solve handlers have stored stay as they are until these take their snapshots;
the temporary file is opened while no other save has it; and a solve's save is renamed while no
other save has a snapshot from before the solve's cookies were set. -/
def Undisturbed (s : SaveState) : SaveEvent → Prop
  | .changeJar jar => ∀ m task, s.tasks m = some task → Holds jar task.unsaved
  | .setCookie n now => ∀ host c rest stored,
      s.tasks n = some (.injecting host (c :: rest) stored) →
      ∀ m task, m ≠ n → s.tasks m = some task → ∀ c' ∈ task.unsaved,
        c'.bucket = (storedFor now host c).bucket → c'.name = c.name →
          c'.entry = (storedFor now host c).entry
  | .openTmp n => ∀ m task, m ≠ n → s.tasks m = some task → task.holdsTmp = false
  | .renameTmp n => ∀ save solve, s.tasks n = some (.written save) → save.solve = some solve →
      ∀ m task other, m ≠ n → s.tasks m = some task → task.pending = some other →
        solve.set ≤ other.version
  | .beginSolve .. | .takeSnapshot _ | .writeTmp _ | .giveUp _ => True

variable {toVecPretty path}

theorem tmpPath_ne : tmpPath path ≠ path := by
  intro h
  have hlen := congrArg List.length h
  simp [tmpPath] at hlen

theorem getElem?_append_of_some {history : List CookieJar} {k : ℕ} {jar : CookieJar}
    (h : history[k]? = some jar) (jars : List CookieJar) : (history ++ jars)[k]? = some jar := by
  rw [List.getElem?_append_left (List.getElem?_eq_some_iff.mp h).1]
  exact h

theorem Serialises.append {history : List CookieJar} {k : ℕ} {bytes : List UInt8}
    (h : Serialises toVecPretty history k bytes) (jar : CookieJar) :
    Serialises toVecPretty (history ++ [jar]) k bytes := by
  obtain ⟨state, hstate, hbytes⟩ := h
  exact ⟨state, getElem?_append_of_some hstate _, hbytes⟩

/-- Between two states of a history the cookies of a solve are there. -/
def HeldUntil (history : List CookieJar) (solve : Solve) (last : ℕ) : Prop :=
  ∀ k jar, solve.set ≤ k → k ≤ last → history[k]? = some jar → Holds jar solve.cookies

theorem HeldUntil.append {history : List CookieJar} {solve : Solve} {last : ℕ}
    (h : HeldUntil history solve last) (hlast : last < history.length) (jar : CookieJar) :
    HeldUntil (history ++ [jar]) solve last := by
  intro k state hset hk hstate
  rw [List.getElem?_append_left (Nat.lt_of_le_of_lt hk hlast)] at hstate
  exact h k state hset hk hstate

/-- What a task has in hand: a solve's cookies are in the jar until its snapshot, and a snapshot is
the serialisation of its state. -/
def TaskSound (toVecPretty : OnDiskJar → Except Str (List UInt8)) (history : List CookieJar) :
    SaveTask → Prop
  | .injecting _ _ stored => ∀ jar, history.getLast? = some jar → Holds jar stored
  | .injected solve => solve.set < history.length ∧ HeldUntil history solve (history.length - 1)
  | .taken save | .opened _ save | .written save =>
    Serialises toVecPretty history save.version save.bytes ∧
      ∀ solve, save.solve = some solve →
        solve.set ≤ save.version ∧ HeldUntil history solve save.version

/-- What is in the temporary file of a task that has it. -/
def TmpSound (path : Str) (files : Files Str UInt8) : SaveTask → Prop
  | .opened handle _ => files.dir (tmpPath path) = some handle ∧
      files.read (tmpPath path) = some []
  | .written save => files.read (tmpPath path) = some save.bytes
  | .injecting .. | .injected _ | .taken _ => True

/-- The invariant: one save at a time has the temporary file, and no snapshot is pending from
before the cookies of an acknowledged solve were set. -/
structure SaveInv (toVecPretty : OnDiskJar → Except Str (List UInt8)) (path : Str)
    (s : SaveState) : Prop extends WholeSnapshot toVecPretty path s where
  sound : s.files.Sound
  tasks : ∀ n task, s.tasks n = some task → TaskSound toVecPretty s.history task
  tmp : ∀ n task, s.tasks n = some task → TmpSound path s.files task
  alone : ∀ n m task task', s.tasks n = some task → s.tasks m = some task' →
    task.holdsTmp = true → task'.holdsTmp = true → n = m
  later : ∀ a ∈ s.acknowledged, ∀ m task save, s.tasks m = some task →
    task.pending = some save → a.solve.set ≤ save.version
  held : ∀ a ∈ s.acknowledged, a.solve.set ≤ a.taken ∧ a.taken < s.history.length ∧
    HeldUntil s.history a.solve a.taken

theorem TaskSound.version_lt {history : List CookieJar} {task : SaveTask} {save : PendingSave}
    (h : TaskSound toVecPretty history task) (hsave : task.pending = some save) :
    save.version < history.length ∧ Serialises toVecPretty history save.version save.bytes ∧
      ∀ solve, save.solve = some solve →
        solve.set ≤ save.version ∧ HeldUntil history solve save.version := by
  have hsound : Serialises toVecPretty history save.version save.bytes ∧
      ∀ solve, save.solve = some solve →
        solve.set ≤ save.version ∧ HeldUntil history solve save.version := by
    cases task with
    | injecting host cookies stored => exact absurd hsave (by simp [SaveTask.pending])
    | injected solve => exact absurd hsave (by simp [SaveTask.pending])
    | taken save' | opened handle save' | written save' =>
      obtain rfl := Option.some.inj hsave
      exact h
  obtain ⟨jar, hjar, -⟩ := hsound.1
  exact ⟨(List.getElem?_eq_some_iff.mp hjar).1, hsound⟩

/-- A change of the jar that leaves the stored cookies as they are. -/
theorem TaskSound.append {history : List CookieJar} {task : SaveTask}
    (h : TaskSound toVecPretty history task) {jar : CookieJar} (hholds : Holds jar task.unsaved) :
    TaskSound toVecPretty (history ++ [jar]) task := by
  have hpending : ∀ save : PendingSave, (Serialises toVecPretty history save.version save.bytes ∧
      ∀ solve, save.solve = some solve →
        solve.set ≤ save.version ∧ HeldUntil history solve save.version) →
      Serialises toVecPretty (history ++ [jar]) save.version save.bytes ∧
        ∀ solve, save.solve = some solve →
          solve.set ≤ save.version ∧ HeldUntil (history ++ [jar]) solve save.version := by
    rintro save ⟨hserial, hsolve⟩
    obtain ⟨state, hstate, hbytes⟩ := hserial
    have hlt := (List.getElem?_eq_some_iff.mp hstate).1
    exact ⟨Serialises.append ⟨state, hstate, hbytes⟩ jar, fun solve hs ↦
      ⟨(hsolve solve hs).1, (hsolve solve hs).2.append hlt jar⟩⟩
  cases task with
  | injecting host cookies stored =>
    intro jar' hjar'
    rw [List.getLast?_append, List.getLast?_singleton, Option.some_or] at hjar'
    obtain rfl := Option.some.inj hjar'
    exact hholds
  | injected solve =>
    obtain ⟨hset, hheld⟩ := h
    refine ⟨by rw [List.length_append]; omega, fun k state hk hlast hstate ↦ ?_⟩
    by_cases hlt : k < history.length
    · rw [List.getElem?_append_left hlt] at hstate
      exact hheld k state hk (by omega) hstate
    · rw [List.getElem?_append_right (Nat.le_of_not_lt hlt)] at hstate
      obtain ⟨hzero, rfl⟩ := List.getElem?_eq_some_iff.mp hstate
      rw [List.length_singleton] at hzero
      have hk0 : k - history.length = 0 := by omega
      simp only [hk0, List.getElem_cons_zero]
      exact hholds
  | taken save | opened handle save | written save => exact hpending save h

variable {s : SaveState}

/-- The jar has what a solve has stored and not saved. -/
theorem TaskSound.holds_unsaved {history : List CookieJar} {task : SaveTask} {jar : CookieJar}
    (h : TaskSound toVecPretty history task) (hjar : history.getLast? = some jar) :
    Holds jar task.unsaved := by
  cases task with
  | injecting host cookies stored => exact h jar hjar
  | injected solve =>
    rw [List.getLast?_eq_getElem?] at hjar
    exact h.2 _ jar (Nat.le_sub_one_of_lt h.1) (Nat.le_refl _) hjar
  | taken save | opened handle save | written save => exact fun c hc ↦ absurd hc List.not_mem_nil

theorem tmpSound_of_not_holdsTmp {task : SaveTask} (h : task.holdsTmp = false)
    (files : Files Str UInt8) : TmpSound path files task := by
  cases task with
  | injecting host cookies stored | injected solve | taken save => trivial
  | opened handle save | written save => exact absurd h (by simp [SaveTask.holdsTmp])

/-- The jar changes, and the cookies that solves have stored stay. -/
theorem SaveInv.append (h : SaveInv toVecPretty path s) {jar : CookieJar}
    (hholds : ∀ m task, s.tasks m = some task → Holds jar task.unsaved) :
    SaveInv toVecPretty path { s with history := s.history ++ [jar] } where
  whole bytes hbytes := (h.whole bytes hbytes).imp fun k hk ↦ hk.append jar
  fresh a ha := by
    obtain ⟨k, state, bytes, hsaved, hstate, hrest⟩ := h.fresh a ha
    exact ⟨k, state, bytes, hsaved, getElem?_append_of_some hstate _, hrest⟩
  sound := h.sound
  tasks n task htask := (h.tasks n task htask).append (hholds n task htask)
  tmp := h.tmp
  alone := h.alone
  later := h.later
  held a ha := by
    obtain ⟨hset, htaken, hheld⟩ := h.held a ha
    exact ⟨hset, by rw [List.length_append]; omega, hheld.append htaken jar⟩

/-- A task takes its next step, the jar and the target staying as they are. -/
theorem SaveInv.update (h : SaveInv toVecPretty path s) {files : Files Str UInt8} {n : ℕ}
    {next : Option SaveTask} (hsound : files.Sound)
    (hread : files.read path = s.files.read path)
    (hothers : ∀ m task, m ≠ n → s.tasks m = some task → task.holdsTmp = true →
      TmpSound path files task)
    (hnext : ∀ task, next = some task → TaskSound toVecPretty s.history task ∧
      TmpSound path files task ∧
      (task.holdsTmp = true → ∀ m task', m ≠ n → s.tasks m = some task' →
        task'.holdsTmp = false) ∧
      ∀ save, task.pending = some save → ∀ a ∈ s.acknowledged, a.solve.set ≤ save.version) :
    SaveInv toVecPretty path
      { s with files := files, tasks := Function.update s.tasks n next } := by
  have htasks : ∀ m task, Function.update s.tasks n next m = some task →
      (m = n ∧ next = some task) ∨ (m ≠ n ∧ s.tasks m = some task) := by
    intro m task htask
    by_cases hm : m = n
    · exact .inl ⟨hm, by simpa [hm] using htask⟩
    · exact .inr ⟨hm, by simpa [hm] using htask⟩
  constructor
  case toWholeSnapshot =>
    refine ⟨fun bytes hbytes ↦ h.whole bytes (hread ▸ hbytes), fun a ha ↦ ?_⟩
    obtain ⟨k, jar, bytes, hsaved, hjar, hserial, htarget, hrest⟩ := h.fresh a ha
    exact ⟨k, jar, bytes, hsaved, hjar, hserial, hread.trans htarget, hrest⟩
  case sound => exact hsound
  case tasks =>
    intro m task htask
    rcases htasks m task htask with ⟨-, hnew⟩ | ⟨-, hold⟩
    · exact (hnext task hnew).1
    · exact h.tasks m task hold
  case tmp =>
    intro m task htask
    rcases htasks m task htask with ⟨-, hnew⟩ | ⟨hm, hold⟩
    · exact (hnext task hnew).2.1
    · cases hholds : task.holdsTmp with
      | true => exact hothers m task hm hold hholds
      | false => exact tmpSound_of_not_holdsTmp hholds files
  case alone =>
    intro a b task task' ha hb hholds hholds'
    rcases htasks a task ha with ⟨rfl, hnew⟩ | ⟨hne, hold⟩
    · rcases htasks b task' hb with ⟨hbn, -⟩ | ⟨hne', hold'⟩
      · exact hbn.symm
      · exact absurd hholds' (by simp [(hnext task hnew).2.2.1 hholds b task' hne' hold'])
    · rcases htasks b task' hb with ⟨hbn, hnew'⟩ | ⟨-, hold'⟩
      · exact absurd hholds (by simp [(hnext task' hnew').2.2.1 hholds' a task hne hold])
      · exact h.alone a b task task' hold hold' hholds hholds'
  case later =>
    intro a ha m task save htask hsave
    rcases htasks m task htask with ⟨-, hnew⟩ | ⟨-, hold⟩
    · exact (hnext task hnew).2.2.2 save hsave a ha
    · exact h.later a ha m task save hold hsave
  case held => exact h.held

/-- A task ends or waits; the files stay as they are. -/
theorem SaveInv.rest (h : SaveInv toVecPretty path s) {n : ℕ} {next : Option SaveTask}
    (hnext : ∀ task, next = some task → TaskSound toVecPretty s.history task ∧
      task.holdsTmp = false ∧
      ∀ save, task.pending = some save → ∀ a ∈ s.acknowledged, a.solve.set ≤ save.version) :
    SaveInv toVecPretty path { s with tasks := Function.update s.tasks n next } := by
  refine h.update h.sound rfl (fun m task _ htask _ ↦ h.tmp m task htask) fun task ht ↦ ?_
  obtain ⟨htask, hfree, hlater⟩ := hnext task ht
  exact ⟨htask, tmpSound_of_not_holdsTmp hfree _, fun hholds ↦ absurd hholds (by simp [hfree]),
    hlater⟩

/-- A snapshot is of the current state, which is none from before an acknowledged solve. -/
theorem SaveInv.takeSnapshot (h : SaveInv toVecPretty path s) {n : ℕ} {solve : Option Solve}
    {task : SaveTask} (htake : Server.takeSnapshot toVecPretty s.history solve = some task)
    (hsolve : ∀ v, solve = some v →
      v.set < s.history.length ∧ HeldUntil s.history v (s.history.length - 1)) :
    SaveInv toVecPretty path { s with tasks := Function.update s.tasks n (some task) } := by
  obtain ⟨jar, hjar, hmap⟩ := Option.bind_eq_some_iff.mp htake
  obtain ⟨bytes, hbytes, rfl⟩ := Option.map_eq_some_iff.mp hmap
  have hok : toVecPretty jar.snapshot = .ok bytes := by
    cases hvec : toVecPretty jar.snapshot with
    | error e => simp [hvec, Except.toOption] at hbytes
    | ok b => simpa [hvec, Except.toOption] using hbytes
  rw [List.getLast?_eq_getElem?] at hjar
  refine h.rest fun task ht ↦ ?_
  obtain rfl := Option.some.inj ht
  refine ⟨⟨⟨jar, hjar, hok⟩, fun v hv ↦ ?_⟩, rfl, fun save hsave a ha ↦ ?_⟩
  · obtain ⟨hset, hheld⟩ := hsolve v hv
    exact ⟨Nat.le_sub_one_of_lt hset, hheld⟩
  · obtain rfl := Option.some.inj hsave
    obtain ⟨hset, htaken, -⟩ := h.held a ha
    show a.solve.set ≤ s.history.length - 1
    omega

/-- What a solve has stored is in the jar after it has stored a further cookie. -/
theorem holds_storing {jar : CookieJar} {stored : List StoredCookie} (h : Holds jar stored)
    (now : Option ℕ) (host : Str) (c : HitlCookie) :
    Holds (jar.setCookie now (c.domain.getD host) c.name c.value c.maxAgeSecs)
      (storing stored (storedFor now host c)) := by
  intro c' hc'
  show (jar.setCookie now (c.domain.getD host) c.name c.value c.maxAgeSecs).lookup c'.bucket
    c'.name = some c'.entry
  rw [CookieJar.lookup_setCookie]
  rcases List.mem_append.mp hc' with hold | hnew
  · obtain ⟨hmem, hother⟩ := List.mem_filter.mp hold
    rw [if_neg]
    · exact h c' hmem
    · rintro ⟨hb, hn⟩
      exact of_decide_eq_true hother ⟨hb.symm, hn.symm⟩
  · obtain rfl := List.mem_singleton.mp hnew
    rw [if_pos ⟨rfl, rfl⟩]
    rfl

/-- A solve handler sets a cookie, which replaces none that another has stored and not saved. -/
theorem SaveInv.setCookie (h : SaveInv toVecPretty path s) {n : ℕ} {now : Option ℕ} {host : Str}
    {c : HitlCookie} {rest : List HitlCookie} {stored : List StoredCookie} {jar : CookieJar}
    (htask : s.tasks n = some (.injecting host (c :: rest) stored))
    (hjar : s.history.getLast? = some jar)
    (hcond : ∀ m task, m ≠ n → s.tasks m = some task → ∀ c' ∈ task.unsaved,
      c'.bucket = (storedFor now host c).bucket → c'.name = c.name →
        c'.entry = (storedFor now host c).entry) :
    SaveInv toVecPretty path
      { s with
        history := s.history ++
          [jar.setCookie now (c.domain.getD host) c.name c.value c.maxAgeSecs]
        tasks := Function.update s.tasks n (some
          (if rest.isEmpty then .injected ⟨s.history.length, storing stored (storedFor now host c)⟩
          else .injecting host rest (storing stored (storedFor now host c)))) } := by
  have hstored : Holds (jar.setCookie now (c.domain.getD host) c.name c.value c.maxAgeSecs)
      (storing stored (storedFor now host c)) := by
    have hbefore := h.tasks n _ htask jar hjar
    exact holds_storing hbefore now host c
  have hlast : ∀ jar', (s.history ++
      [jar.setCookie now (c.domain.getD host) c.name c.value c.maxAgeSecs]).getLast? = some jar' →
      jar' = jar.setCookie now (c.domain.getD host) c.name c.value c.maxAgeSecs := by
    intro jar' hjar'
    rw [List.getLast?_append, List.getLast?_singleton, Option.some_or] at hjar'
    exact (Option.some.inj hjar').symm
  have hidle : SaveInv toVecPretty path
      { s with tasks := Function.update s.tasks n none } := h.rest (by simp)
  have happend : SaveInv toVecPretty path
      { s with
        history := s.history ++
          [jar.setCookie now (c.domain.getD host) c.name c.value c.maxAgeSecs]
        tasks := Function.update s.tasks n none } := by
    refine hidle.append fun m task htask' c' hc' ↦ ?_
    have hm : m ≠ n := by
      rintro rfl
      simp at htask'
    have hold : s.tasks m = some task := by simpa [hm] using htask'
    show (jar.setCookie now (c.domain.getD host) c.name c.value c.maxAgeSecs).lookup c'.bucket
      c'.name = some c'.entry
    rw [CookieJar.lookup_setCookie]
    split
    · next hsame => exact congrArg some (hcond m task hm hold c' hc' hsame.1.symm hsame.2.symm).symm
    · exact (h.tasks m task hold).holds_unsaved hjar c' hc'
  have hidem : ∀ next, Function.update s.tasks n next =
      Function.update (Function.update s.tasks n none) n next :=
    fun _ ↦ (Function.update_idem _ _ _).symm
  rw [hidem]
  refine happend.rest fun task ht ↦ ?_
  obtain rfl := Option.some.inj ht
  split
  · refine ⟨⟨by simp, fun k jar' hset hk hjar' ↦ ?_⟩, rfl, by simp [SaveTask.pending]⟩
    refine hlast jar' ?_ ▸ hstored
    have hk : k = (s.history ++
        [jar.setCookie now (c.domain.getD host) c.name c.value c.maxAgeSecs]).length - 1 :=
      Nat.le_antisymm hk (by simpa using hset)
    rw [List.getLast?_eq_getElem?, ← hk]
    exact hjar'
  · exact ⟨fun jar' hjar' ↦ hlast jar' hjar' ▸ hstored, rfl, by simp [SaveTask.pending]⟩

/-- While a save has the temporary file no other one has it. -/
theorem SaveInv.free (h : SaveInv toVecPretty path s) {n : ℕ} {own : SaveTask}
    (htask : s.tasks n = some own) (hholds : own.holdsTmp = true) :
    ∀ m task, m ≠ n → s.tasks m = some task → task.holdsTmp = false := by
  intro m task hm hold
  rw [Bool.eq_false_iff]
  exact fun hother ↦ hm (h.alone m n task own hold htask hother hholds)

/-- The temporary file is opened while no other save has it. -/
theorem SaveInv.openTmp (h : SaveInv toVecPretty path s) {n : ℕ} {save : PendingSave}
    (htask : s.tasks n = some (.taken save))
    (hcond : ∀ m task, m ≠ n → s.tasks m = some task → task.holdsTmp = false) :
    SaveInv toVecPretty path
      { s with
        files := (s.files.openTruncate (tmpPath path)).2
        tasks := Function.update s.tasks n
          (some (.opened (s.files.openTruncate (tmpPath path)).1 save)) } := by
  refine h.update (h.sound.openTruncate _) ?_ (fun m task hm hold hholds ↦ ?_) fun task ht ↦ ?_
  · rw [Files.read_openTruncate h.sound, if_neg tmpPath_ne.symm]
  · exact absurd hholds (by simp [hcond m task hm hold])
  · obtain rfl := Option.some.inj ht
    have hsave := h.tasks n _ htask
    refine ⟨hsave, ⟨Files.dir_openTruncate _ _, ?_⟩, fun _ ↦ hcond,
      fun save' hsave' a ha ↦ h.later a ha n _ save' htask hsave'⟩
    rw [Files.read_openTruncate h.sound, if_pos rfl]

/-- The open temporary file is not the target, and is written whole. -/
theorem SaveInv.writeTmp (h : SaveInv toVecPretty path s) {n handle : ℕ} {save : PendingSave}
    (htask : s.tasks n = some (.opened handle save)) :
    SaveInv toVecPretty path
      { s with
        files := s.files.write handle save.bytes
        tasks := Function.update s.tasks n (some (.written save)) } := by
  obtain ⟨hdir, hempty⟩ := h.tmp n _ htask
  have hfree := h.free htask rfl
  refine h.update (h.sound.write _ _) ?_ (fun m task hm hold hholds ↦ ?_) fun task ht ↦ ?_
  · rw [Files.read_write, if_neg]
    exact fun hpath ↦ tmpPath_ne (h.sound.once _ _ handle hdir hpath)
  · exact absurd hholds (by simp [hfree m task hm hold])
  · obtain rfl := Option.some.inj ht
    have hsave := h.tasks n _ htask
    refine ⟨hsave, ?_, fun _ ↦ hfree, fun save' hsave' a ha ↦ h.later a ha n _ save' htask hsave'⟩
    show (s.files.write handle save.bytes).read (tmpPath path) = some save.bytes
    rw [Files.read_write, if_pos hdir, hempty]
    simp

/-- A save renames what it wrote, and when it is a solve's no snapshot is pending from before the
solve's cookies were set. -/
theorem SaveInv.renameTmp (h : SaveInv toVecPretty path s) {n : ℕ} {save : PendingSave}
    {files : Files Str UInt8} (htask : s.tasks n = some (.written save))
    (hren : s.files.rename (tmpPath path) path = some files)
    (hcond : ∀ solve, save.solve = some solve → ∀ m task other, m ≠ n → s.tasks m = some task →
      task.pending = some other → solve.set ≤ other.version) :
    SaveInv toVecPretty path { s with
      files := files
      tasks := Function.update s.tasks n none
      saved := some save.version
      acknowledged := s.acknowledged ++ (save.solve.map (⟨·, save.version⟩)).toList } := by
  obtain ⟨hlt, ⟨jar, hjar, hserial⟩, hsolve⟩ := (h.tasks n _ htask).version_lt rfl
  have hread : files.read path = some save.bytes := by
    rw [Files.read_rename hren, if_pos rfl]
    exact h.tmp n _ htask
  have hfree := h.free htask rfl
  have htasks : ∀ m task, Function.update s.tasks n none m = some task →
      m ≠ n ∧ s.tasks m = some task := by
    intro m task hm
    by_cases hmn : m = n
    · exact absurd hm (by simp [hmn])
    · exact ⟨hmn, by simpa [hmn] using hm⟩
  have hacked : ∀ a ∈ s.acknowledged ++ (save.solve.map (⟨·, save.version⟩)).toList,
      a.solve.set ≤ save.version ∧ a.taken < s.history.length ∧ a.solve.set ≤ a.taken ∧
        HeldUntil s.history a.solve a.taken ∧
        ∀ m task other, m ≠ n → s.tasks m = some task → task.pending = some other →
          a.solve.set ≤ other.version := by
    intro a ha
    rcases List.mem_append.mp ha with ha | ha
    · obtain ⟨hset, htaken, hheld⟩ := h.held a ha
      exact ⟨h.later a ha n _ save htask rfl, htaken, hset, hheld,
        fun m task other _ hold hother ↦ h.later a ha m task other hold hother⟩
    · obtain ⟨solve, hs, rfl⟩ := Option.map_eq_some_iff.mp (Option.mem_toList.mp ha)
      exact ⟨(hsolve solve hs).1, hlt, (hsolve solve hs).1, (hsolve solve hs).2, hcond solve hs⟩
  constructor
  case toWholeSnapshot =>
    refine ⟨fun bytes hbytes ↦ ⟨save.version, jar, hjar, ?_⟩, fun a ha ↦ ?_⟩
    · exact Option.some.inj (hread.symm.trans hbytes) ▸ hserial
    · obtain ⟨hset, -, -, hheld, -⟩ := hacked a ha
      exact ⟨save.version, jar, save.bytes, rfl, hjar, hserial, hread, hset,
        fun hle ↦ hheld save.version jar hset hle hjar⟩
  case sound => exact h.sound.rename hren
  case tasks => exact fun m task hm ↦ h.tasks m task (htasks m task hm).2
  case tmp =>
    intro m task hm
    obtain ⟨hmn, hold⟩ := htasks m task hm
    exact tmpSound_of_not_holdsTmp (hfree m task hmn hold) files
  case alone =>
    intro a b task task' ha hb hholds _
    obtain ⟨hne, hold⟩ := htasks a task ha
    exact absurd hholds (by simp [hfree a task hne hold])
  case later =>
    intro a ha m task other hm hother
    obtain ⟨hmn, hold⟩ := htasks m task hm
    exact (hacked a ha).2.2.2.2 m task other hmn hold hother
  case held =>
    intro a ha
    obtain ⟨-, htaken, hset, hheld, -⟩ := hacked a ha
    exact ⟨hset, htaken, hheld⟩

/-- An undisturbed step keeps the invariant. -/
theorem SaveInv.step (h : SaveInv toVecPretty path s) {e : SaveEvent} {t : SaveState}
    (hcond : Undisturbed s e) (hstep : saveStep toVecPretty path s e = some t) :
    SaveInv toVecPretty path t := by
  cases e with
  | changeJar jar =>
    obtain rfl := Option.some.inj hstep
    exact h.append hcond
  | beginSolve n host cookies =>
    simp only [saveStep] at hstep
    split at hstep
    · obtain rfl := Option.some.inj hstep
      refine h.rest fun task ht ↦ ?_
      obtain rfl := Option.some.inj ht
      exact ⟨fun jar _ c hc ↦ absurd hc List.not_mem_nil, rfl, by simp [SaveTask.pending]⟩
    · exact absurd hstep (by simp)
  | setCookie n now =>
    simp only [saveStep] at hstep
    split at hstep
    · next host c rest stored htask =>
      obtain ⟨jar, hjar, rfl⟩ := Option.map_eq_some_iff.mp hstep
      exact h.setCookie htask hjar (hcond host c rest stored htask)
    · exact absurd hstep (by simp)
  | takeSnapshot n =>
    simp only [saveStep] at hstep
    split at hstep
    · obtain ⟨task, htake, rfl⟩ := Option.map_eq_some_iff.mp hstep
      exact h.takeSnapshot htake (by simp)
    · next solve htask =>
      obtain ⟨task, htake, rfl⟩ := Option.map_eq_some_iff.mp hstep
      refine h.takeSnapshot htake fun v hv ↦ ?_
      obtain rfl := Option.some.inj hv
      exact h.tasks n _ htask
    · exact absurd hstep (by simp)
  | openTmp n =>
    simp only [saveStep] at hstep
    split at hstep
    · next save htask =>
      obtain rfl := Option.some.inj hstep
      exact h.openTmp htask hcond
    · exact absurd hstep (by simp)
  | writeTmp n =>
    simp only [saveStep] at hstep
    split at hstep
    · next handle save htask =>
      obtain rfl := Option.some.inj hstep
      exact h.writeTmp htask
    · exact absurd hstep (by simp)
  | renameTmp n =>
    simp only [saveStep] at hstep
    split at hstep
    · next save htask =>
      obtain ⟨files, hren, rfl⟩ := Option.map_eq_some_iff.mp hstep
      exact h.renameTmp htask hren fun solve hs ↦ hcond save solve htask hs
    · exact absurd hstep (by simp)
  | giveUp n =>
    simp only [saveStep] at hstep
    split at hstep
    · obtain rfl := Option.some.inj hstep
      exact h.rest (by simp)
    · exact absurd hstep (by simp)

/-- In every run whose saves are undisturbed the target is, in every state, a complete snapshot
that no acknowledged solve is missing from. -/
theorem cookieFile_wholeSnapshot {s₀ : SaveState} (hstart : SaveStart toVecPretty path s₀)
    {events : List SaveEvent}
    (hrun : Run (Guarded Undisturbed (PartialSteps (saveStep toVecPretty path))) s₀ events s) :
    WholeSnapshot toVecPretty path s := by
  have hinit : SaveInv toVecPretty path s₀ :=
    { whole := hstart.whole
      fresh := fun a ha ↦ absurd ha (by simp [hstart.none_acknowledged])
      sound := hstart.sound
      tasks := fun n task htask ↦ absurd htask (by simp [hstart.idle])
      tmp := fun n task htask ↦ absurd htask (by simp [hstart.idle])
      alone := fun n m task task' htask ↦ absurd htask (by simp [hstart.idle])
      later := fun a ha ↦ absurd ha (by simp [hstart.none_acknowledged])
      held := fun a ha ↦ absurd ha (by simp [hstart.none_acknowledged]) }
  have hinv : SaveInv toVecPretty path s :=
    hrun.invariant (fun _ _ _ h hstep ↦ h.step hstep.1 hstep.2) hinit
  exact hinv.toWholeSnapshot

end Save

/-- The bytes of ASCII text. -/
def asciiBytes (text : Str) : List UInt8 := text.map fun c ↦ UInt8.ofNat c.toNat

/-- The empty snapshot as JSON. -/
def emptyJson : List UInt8 :=
  asciiBytes "\x7b\n  \"version\": 1,\n  \"cookies\": \x7b\x7d\n\x7d"

/-- The snapshot with the cookie `id=7` of `shop.example` as JSON. -/
def shopJson : List UInt8 :=
  asciiBytes ("\x7b\n  \"version\": 1,\n  \"cookies\": \x7b\n    \"shop.example\": \x7b\n" ++
    "      \"id\": \x7b\n        \"value\": \"7\",\n        \"expires_at_unix\": null\n" ++
    "      \x7d\n    \x7d\n  \x7d\n\x7d")

/-- What `to_vec_pretty` makes of these two snapshots. -/
def shopVec (snapshot : OnDiskJar) : Except Str (List UInt8) :=
  .ok (if snapshot.cookies.isEmpty then emptyJson else shopJson)

/-- No cookie and no file. -/
def emptyStart : SaveState := ⟨.empty, [.new], fun _ ↦ none, none, []⟩

theorem saveStart_emptyStart (path : Str) : SaveStart shopVec path emptyStart where
  sound := Files.sound_empty
  idle _ := rfl
  none_acknowledged := rfl
  whole bytes h := absurd h (by simp [emptyStart, Files.read, Files.empty])

/-- The path of the cookie file. -/
def cookiesJson : Str := "c.json"

/-- A solve handler stores the cookie `id=7` and saves the jar. -/
def solveAndSave : List SaveEvent :=
  [.beginSolve 1 "shop.example" [⟨"id", "7", none, none⟩], .setCookie 1 (some 0), .takeSnapshot 1,
   .openTmp 1, .writeTmp 1, .renameTmp 1]

/-- The background loop saves the snapshot it has taken. -/
def loopSave : List SaveEvent := [.openTmp 0, .writeTmp 0, .renameTmp 0]

/-- The task that an event is for. -/
def SaveEvent.task : SaveEvent → Option ℕ
  | .changeJar _ => none
  | .beginSolve n _ _ | .setCookie n _ | .takeSnapshot n | .openTmp n | .writeTmp n | .renameTmp n
  | .giveUp n => some n

section Alone

variable {toVecPretty : OnDiskJar → Except Str (List UInt8)} {path : Str} {s t : SaveState}
  {e : SaveEvent} {n m : ℕ}

theorem tasks_saveStep (h : saveStep toVecPretty path s e = some t) (he : e.task = some n)
    (hm : m ≠ n) : t.tasks m = s.tasks m := by
  have hother (next : Option SaveTask) : Function.update s.tasks n next m = s.tasks m :=
    Function.update_of_ne hm _ _
  cases e with
  | changeJar jar => exact absurd he (by simp [SaveEvent.task])
  | beginSolve k host cookies | openTmp k | writeTmp k | giveUp k =>
    obtain rfl := Option.some.inj he
    simp only [saveStep] at h
    split at h
    · exact Option.some.inj h ▸ hother _
    · exact absurd h (by simp)
  | setCookie k now | renameTmp k =>
    obtain rfl := Option.some.inj he
    simp only [saveStep] at h
    split at h
    · obtain ⟨_, -, rfl⟩ := Option.map_eq_some_iff.mp h
      exact hother _
    · exact absurd h (by simp)
  | takeSnapshot k =>
    obtain rfl := Option.some.inj he
    simp only [saveStep] at h
    split at h
    · obtain ⟨_, -, rfl⟩ := Option.map_eq_some_iff.mp h
      exact hother _
    · obtain ⟨_, -, rfl⟩ := Option.map_eq_some_iff.mp h
      exact hother _
    · exact absurd h (by simp)

theorem undisturbed_of_alone (halone : ∀ m, m ≠ n → s.tasks m = none) (he : e.task = some n) :
    Undisturbed s e := by
  have hnone : ∀ m task, m ≠ n → s.tasks m = some task → False := by
    intro m task hm hold
    rw [halone m hm] at hold
    cases hold
  cases e with
  | changeJar jar => exact absurd he (by simp [SaveEvent.task])
  | beginSolve k host cookies | takeSnapshot k | writeTmp k | giveUp k => trivial
  | setCookie k now =>
    obtain rfl := Option.some.inj he
    exact fun host c rest stored _ m task hm hold ↦ (hnone m task hm hold).elim
  | openTmp k =>
    obtain rfl := Option.some.inj he
    exact fun m task hm hold ↦ (hnone m task hm hold).elim
  | renameTmp k =>
    obtain rfl := Option.some.inj he
    exact fun save solve _ _ m task other hm hold ↦ (hnone m task hm hold).elim

/-- A task that is alone is undisturbed, and stays alone. -/
theorem guarded_of_alone {es : List SaveEvent}
    (h : Run (PartialSteps (saveStep toVecPretty path)) s es t)
    (hes : ∀ e ∈ es, e.task = some n) (halone : ∀ m, m ≠ n → s.tasks m = none) :
    Run (Guarded Undisturbed (PartialSteps (saveStep toVecPretty path))) s es t ∧
      ∀ m, m ≠ n → t.tasks m = none := by
  induction h with
  | nil => exact ⟨.nil, halone⟩
  | snoc hrun hlast ih =>
    obtain ⟨hguarded, hidle⟩ := ih fun e he ↦ hes e (List.mem_append_left _ he)
    have he := hes _ (List.mem_append_right _ (List.mem_singleton_self _))
    exact ⟨.snoc hguarded ⟨undisturbed_of_alone hidle he, hlast⟩,
      fun m hm ↦ (tasks_saveStep hlast he hm).trans (hidle m hm)⟩

end Alone

/-- A solve handler saves the jar, and then the background loop. -/
theorem cookieFile_wholeSnapshot_solve :
    ∃ events s, s.acknowledged.map Acknowledged.taken = [1] ∧
      WholeSnapshot shopVec cookiesJson s ∧
      Run (PartialSteps (saveStep shopVec cookiesJson)) emptyStart events s := by
  have hfold : ((solveAndSave ++ .takeSnapshot 0 :: loopSave).foldlM (saveStep shopVec cookiesJson)
      emptyStart).map (fun s ↦ s.acknowledged.map Acknowledged.taken) = some [1] := by
    decide +kernel
  obtain ⟨s, hs, hack⟩ := Option.map_eq_some_iff.mp hfold
  rw [List.foldlM_append] at hs
  obtain ⟨s₁, hsolve, hloop⟩ := Option.bind_eq_some_iff.mp hs
  have hdone : (solveAndSave.foldlM (saveStep shopVec cookiesJson) emptyStart).map
      (fun s ↦ (s.tasks 1).isNone) = some true := by
    decide +kernel
  rw [hsolve, Option.map_some, Option.some.injEq, Option.isNone_iff_eq_none] at hdone
  obtain ⟨hfirst, hidle⟩ := @guarded_of_alone _ _ _ _ 1 _ (.of_foldlM hsolve)
    (by simp [solveAndSave, SaveEvent.task]) fun _ _ ↦ rfl
  have hall : ∀ m, m ≠ 0 → s₁.tasks m = none := by
    intro m _
    by_cases hm : m = 1
    · exact hm ▸ hdone
    · exact hidle m hm
  obtain ⟨hsecond, -⟩ := @guarded_of_alone _ _ _ _ 0 _ (.of_foldlM hloop) (by simp [loopSave,
    SaveEvent.task]) hall
  have hrun := hfirst.append hsecond
  exact ⟨_, s, hack, cookieFile_wholeSnapshot (saveStart_emptyStart cookiesJson) hrun,
    hrun.of_guarded⟩

/-- The background loop takes its snapshot, a solve handler stores a cookie and saves the jar, and
the loop's save is renamed over it. -/
theorem not_cookieFile_wholeSnapshot_overtaken :
    ¬ ∀ (toVecPretty : OnDiskJar → Except Str (List UInt8)) (path : Str) (s₀ s : SaveState)
        (events : List SaveEvent), SaveStart toVecPretty path s₀ →
      Run (PartialSteps (saveStep toVecPretty path)) s₀ events s →
      WholeSnapshot toVecPretty path s := by
  intro hall
  have hfold : ((.takeSnapshot 0 :: solveAndSave ++ loopSave).foldlM
      (saveStep shopVec cookiesJson) emptyStart).map (fun s : SaveState ↦
        (s.acknowledged.map fun a ↦ (a.solve.set, a.taken), s.files.read cookiesJson,
          s.history.map fun jar ↦ (shopVec jar.snapshot).toOption)) =
      some ([(1, 1)], some emptyJson, [some emptyJson, some shopJson]) := by decide +kernel
  obtain ⟨s, hs, heq⟩ := Option.map_eq_some_iff.mp hfold
  simp only [Prod.mk.injEq] at heq
  obtain ⟨hack, hread, hhistory⟩ := heq
  have hwhole := hall _ _ _ _ _ (saveStart_emptyStart cookiesJson) (.of_foldlM hs)
  obtain ⟨a, rest, ha⟩ : ∃ a rest, s.acknowledged = a :: rest :=
    List.exists_cons_of_ne_nil fun hnil ↦ by simp [hnil] at hack
  rw [ha, List.map_cons, List.cons_eq_cons, Prod.mk.injEq] at hack
  obtain ⟨k, jar, bytes, -, hjar, hvec, hbytes, hk, -⟩ := hwhole.fresh a (ha ▸ .head _)
  rw [hack.1.1] at hk
  obtain rfl := Option.some.inj (hread.symm.trans hbytes)
  have hentry : [some emptyJson, some shopJson][k]? = some (some emptyJson) := by
    rw [← hhistory, List.getElem?_map, hjar, Option.map_some, hvec]
    rfl
  obtain ⟨hlt, hget⟩ := List.getElem?_eq_some_iff.mp hentry
  obtain rfl : k = 1 := by
    simp only [List.length_cons, List.length_nil] at hlt
    omega
  have hne : shopJson ≠ emptyJson := by decide
  exact hne (Option.some.inj hget)

end CrwShield.Server
