import CrwShield.Base.Files
import CrwShield.Base.Runs
import CrwShield.Server.HitlEntries

/-!
# Enqueues and solves on one queue file

Crate `server`, `src/crates/server/src/handlers.rs:101–366`. An enqueue opens the queue for
appending and writes its line. A solve reads the whole file, writes the new text to the temporary
file, which every solve shares, and renames that over the queue. Handlers run concurrently, so that
the steps of any number of them interleave.
-/

open CrwShield.Base CrwShield.Base.Str CrwShield.Antibot

namespace CrwShield.Server

/-- The temporary file of a rewrite; `handlers.rs:353`. -/
def queueTmpPath (path : Str) : Str := withExtension "json.tmp" path

/-- The file name of a path is its last part. -/
theorem fileName_suffix (path : Str) :
    (path.reverse.takeWhile (· ≠ '/')).reverse <:+ path := by
  rw [← List.reverse_prefix, List.reverse_reverse]
  exact List.takeWhile_prefix _

/-- The extension of the temporary file has two parts, so that no path has it already. -/
theorem queueTmpPath_ne (path : Str) : queueTmpPath path ≠ path := by
  intro h
  unfold queueTmpPath withExtension at h
  set file := (path.reverse.takeWhile (· ≠ '/')).reverse
  set stem := (file.reverse.dropWhile (· ≠ '.')).tail.reverse with hstem
  set kept : Str := if stem.isEmpty then file else stem with hkept
  set dir := path.take (path.length - file.length)
  have hdrop : path.drop (path.length - file.length) = file :=
    (List.suffix_iff_eq_drop.mp (fileName_suffix path)).symm
  have hend : kept ++ ".json.tmp" = file := by
    have hsplit : dir ++ (kept ++ ".json.tmp") = dir ++ file := by
      calc dir ++ (kept ++ ".json.tmp") = dir ++ kept ++ "." ++ "json.tmp" := by simp
        _ = path := h
        _ = dir ++ file := by rw [← hdrop, List.take_append_drop]
    exact List.append_cancel_left hsplit
  have hback : file.reverse = "pmt.nosj." ++ kept.reverse := by
    rw [← hend]
    simp
  have hlonger : stem = kept ++ ".json" := by
    rw [hstem, hback]
    simp
  have hsame : kept = stem := by
    rw [hkept, if_neg (by simp [hlonger])]
  have hlen := congrArg List.length hlonger
  simp [hsame] at hlen

/-- A solve that has read the queue. -/
structure PendingRewrite where
  id : Str
  content : Str
  newContent : Str

/-- What a handler has in hand between its steps on files. -/
inductive QueueTask
  /-- An enqueue has opened the queue. -/
  | opened (handle : ℕ) (entry : Json) (line : Str)
  /-- A solve has read the queue. -/
  | read (rewrite : PendingRewrite)
  /-- A solve has opened the temporary file. -/
  | openedTmp (handle : ℕ) (rewrite : PendingRewrite)
  /-- A solve has written the temporary file. -/
  | writtenTmp (rewrite : PendingRewrite)

/-- The files, the ids handed out, the handlers under way, and what was acknowledged: the entries
entered and the ids solved. -/
structure QueueState where
  files : Files Str Char
  issued : List Str
  tasks : ℕ → Option QueueTask
  entered : List Json
  solved : List Str

/-- A handler takes its next step on files. -/
inductive QueueEvent (ω : Type u)
  /-- `OpenOptions::open` of an enqueue. -/
  | openQueue (task : ℕ) (id createdAt : Str) (req : HitlRequest)
  /-- `write_all` of an enqueue. -/
  | writeLine (task : ℕ)
  /-- `read_to_string` of a solve, and its work on the lines. -/
  | readQueue (task : ℕ) (id : Str) (req : HitlSolveRequest) (persistencePath : Option Str)
      (jar : CookieJar) (w : ω)
  /-- `fs::write` of a solve opens the temporary file. -/
  | openTmp (task : ℕ)
  /-- `fs::write` of a solve writes the temporary file. -/
  | writeTmp (task : ℕ)
  /-- `fs::rename` of a solve. -/
  | renameTmp (task : ℕ)
  /-- A step on files fails, and the handler returns its error. -/
  | giveUp (task : ℕ)

/-- The handler that takes the step. -/
def QueueEvent.task {ω : Type u} : QueueEvent ω → ℕ
  | .openQueue n .. | .writeLine n | .readQueue n .. | .openTmp n | .writeTmp n | .renameTmp n
  | .giveUp n => n

section Queue

variable {ω : Type u} (io : HitlIo ω)

/-- The queue file of the handlers. -/
def queuePath : Str := hitlQueuePath io.queuePathVar

/-- What a step on files does; `handlers.rs:105–129`, `243–366`. -/
def queueStep (s : QueueState) : QueueEvent ω → Option QueueState
  | .openQueue n id createdAt req =>
    match s.tasks n, io.printJson (hitlEntry id createdAt req) with
    | none, .ok line =>
      -- `Uuid::new_v4` hands out an id once
      if s.issued.contains id then none
      else
        some { s with
          files := (s.files.openAppend (queuePath io)).2
          issued := s.issued ++ [id]
          tasks := Function.update s.tasks n
            (some (.opened (s.files.openAppend (queuePath io)).1 (hitlEntry id createdAt req)
              line)) }
    | _, _ => none
  | .writeLine n =>
    match s.tasks n with
    | some (.opened handle entry line) =>
      some { s with
        files := s.files.append handle (line ++ "\n")
        tasks := Function.update s.tasks n none
        entered := s.entered ++ [entry] }
    | _ => none
  | .readQueue n id req persistencePath jar w =>
    match s.tasks n, s.files.read (queuePath io) with
    | none, some content =>
      if req.cookies.isEmpty then none
      else
        (rewrittenQueue io persistencePath id req.cookies jar w content).map fun newContent ↦
          { s with
            tasks := Function.update s.tasks n (some (.read ⟨id, content, newContent⟩)) }
    | _, _ => none
  | .openTmp n =>
    match s.tasks n with
    | some (.read rewrite) =>
      some { s with
        files := (s.files.openTruncate (queueTmpPath (queuePath io))).2
        tasks := Function.update s.tasks n
          (some (.openedTmp (s.files.openTruncate (queueTmpPath (queuePath io))).1 rewrite)) }
    | _ => none
  | .writeTmp n =>
    match s.tasks n with
    | some (.openedTmp handle rewrite) =>
      some { s with
        files := s.files.write handle rewrite.newContent
        tasks := Function.update s.tasks n (some (.writtenTmp rewrite)) }
    | _ => none
  | .renameTmp n =>
    match s.tasks n with
    | some (.writtenTmp rewrite) =>
      (s.files.rename (queueTmpPath (queuePath io)) (queuePath io)).map fun files ↦
        { s with
          files := files
          tasks := Function.update s.tasks n none
          solved := s.solved ++ [rewrite.id] }
    | _ => none
  | .giveUp n =>
    match s.tasks n with
    | some _ => some { s with tasks := Function.update s.tasks n none }
    | none => none

/-- The world in which files are read from the given ones. -/
def onFiles (files : Files Str Char) : HitlIo ω :=
  { io with
    readToString := fun name _ ↦
      match files.read name with
      | some content => .ok content
      | none => .error "No such file or directory (os error 2)" }

/-- `handle_hitl_result` finds every entry whose enqueue was acknowledged, as it was entered if no
solve of it was acknowledged, and marked solved if one was. -/
structure Intact (s : QueueState) : Prop where
  kept : ∀ e ∈ s.entered, ∀ id, entryId e = some id → id ∉ s.solved →
    ∀ w, handleHitlResult (onFiles io s.files) id w = .ok e
  marked : ∀ id ∈ s.solved, ∀ w, ∃ e,
    handleHitlResult (onFiles io s.files) id w = .ok e ∧
      entryId e = some id ∧ e.get? "status" = some (.str "solved")

/-- No handler is under way, and the file holds the entries entered, each under an id of its own. -/
structure QueueStart (s : QueueState) : Prop where
  sound : s.files.Sound
  idle : ∀ n, s.tasks n = none
  text : Represents io ((s.files.read (queuePath io)).getD []) s.entered
  issued : ∀ e ∈ s.entered, ∃ id ∈ s.issued, entryId e = some id
  distinct : (s.entered.map entryId).Nodup
  none_solved : s.solved = []

/-- A line goes to the file that is the queue, a temporary file is written under its own name, and
it is renamed with the text of the solve while the queue is the one the solve has read. -/
def Unraced (s : QueueState) : QueueEvent ω → Prop
  | .writeLine n =>
    match s.tasks n with
    | some (.opened handle _ _) => s.files.dir (queuePath io) = some handle
    | _ => True
  | .writeTmp n =>
    match s.tasks n with
    | some (.openedTmp handle _) => s.files.dir (queuePath io) ≠ some handle
    | _ => True
  | .renameTmp n =>
    match s.tasks n with
    | some (.writtenTmp rewrite) =>
      s.files.read (queueTmpPath (queuePath io)) = some rewrite.newContent ∧
        s.files.read (queuePath io) = some rewrite.content
    | _ => True
  | _ => True

instance (s : QueueState) (e : QueueEvent ω) : Decidable (Unraced io s e) := by
  unfold Unraced
  split
  · split <;> infer_instance
  · split <;> infer_instance
  · split <;> infer_instance
  · infer_instance

variable {io}

/-- A lookup in the entries of the file is the answer of `handle_hitl_result`. -/
theorem handleHitlResult_of_lookup {files : Files Str Char} {entries : List Json} {id : Str}
    {e : Json} (htext : Represents io ((files.read (queuePath io)).getD []) entries)
    (hfind : lookup entries id = some e) (w : ω) :
    handleHitlResult (onFiles io files) id w = .ok e := by
  have hread : (onFiles io files).readToString (hitlQueuePath (onFiles io files).queuePathVar) w =
      match files.read (queuePath io) with
      | some content => .ok content
      | none => .error "No such file or directory (os error 2)" := rfl
  unfold handleHitlResult
  simp only [hread]
  cases hfile : files.read (queuePath io) with
  | none =>
    rw [hfile] at htext
    have hnil : entries = [] := by
      have hlines := htext.lines
      simpa [lines, split] using hlines
    simp [hnil, lookup] at hfind
  | some content =>
    rw [hfile] at htext
    have hlines : List.Forall₂ (LineOf (onFiles io files)) (lines content) entries := htext.lines
    exact findEntry_of_lookup hlines hfind

/-- What a handler has in hand: the line of an entry that the queue does not have yet, or a text
that marks the first entry with the id. -/
def QueueTaskSound (io : HitlIo ω) (issued : List Str) (entries : List Json) : QueueTask → Prop
  | .opened _ entry line =>
    LineOf io line entry ∧ entryId entry ∉ entries.map entryId ∧
      ∃ id ∈ issued, entryId entry = some id
  | .read rewrite | .openedTmp _ rewrite | .writtenTmp rewrite =>
    ∀ entries, Represents io rewrite.content entries →
      ∃ entries', Represents io rewrite.newContent entries' ∧ Marks rewrite.id entries entries'

/-- The id of the entry that a handler is about to append. -/
def QueueTask.entering : QueueTask → Option Str
  | .opened _ entry _ => entryId entry
  | _ => none

/-- The invariant: what the file stands for has everything that was acknowledged, and what is still
to be entered has ids of its own. -/
structure QueueInv (io : HitlIo ω) (s : QueueState) (entries : List Json) : Prop where
  sound : s.files.Sound
  text : Represents io ((s.files.read (queuePath io)).getD []) entries
  kept : ∀ e ∈ s.entered, ∀ id, entryId e = some id → id ∉ s.solved → lookup entries id = some e
  marked : ∀ id ∈ s.solved, ∃ e, lookup entries id = some e ∧
    e.get? "status" = some (.str "solved")
  issued : ∀ id, some id ∈ entries.map entryId → id ∈ s.issued
  tasks : ∀ n task, s.tasks n = some task → QueueTaskSound io s.issued entries task
  distinct : ∀ n m id, (s.tasks n).bind QueueTask.entering = some id →
    (s.tasks m).bind QueueTask.entering = some id → n = m

/-- What the invariant says of the answers. -/
theorem QueueInv.intact {s : QueueState} {entries : List Json} (h : QueueInv io s entries) :
    Intact io s where
  kept e he id hid hsolved w := handleHitlResult_of_lookup h.text (h.kept e he id hid hsolved) w
  marked id hid w := by
    obtain ⟨e, hfind, hstatus⟩ := h.marked id hid
    refine ⟨e, handleHitlResult_of_lookup h.text hfind w, ?_, hstatus⟩
    simpa using List.find?_some hfind

theorem QueueStart.inv {s : QueueState} (h : QueueStart io s) : QueueInv io s s.entered where
  sound := h.sound
  text := h.text
  kept e he id hid _ := lookup_of_nodup h.distinct he hid
  marked id hid := absurd hid (by simp [h.none_solved])
  issued id hid := by
    obtain ⟨e, he, heq⟩ := List.mem_map.mp hid
    obtain ⟨id', hissued, hid'⟩ := h.issued e he
    obtain rfl := Option.some.inj (heq.symm.trans hid')
    exact hissued
  tasks n task htask := absurd htask (by simp [h.idle])
  distinct n _ _ htask := absurd htask (by simp [h.idle])

section Steps

variable {s t : QueueState} {entries : List Json}

/-- A task stays sound when ids are handed out and no entry gets the id that it is entering. -/
theorem QueueTaskSound.mono {issued issued' : List Str} {entries' : List Json} {task : QueueTask}
    (h : QueueTaskSound io issued entries task) (hissued : ∀ id ∈ issued, id ∈ issued')
    (hentries : ∀ id, task.entering = some id → some id ∉ entries.map entryId →
      some id ∉ entries'.map entryId) :
    QueueTaskSound io issued' entries' task := by
  cases task with
  | opened handle entry line =>
    obtain ⟨hline, hnew, id, hid, heq⟩ := h
    rw [heq] at hnew
    refine ⟨hline, ?_, id, hissued id hid, heq⟩
    rw [heq]
    exact hentries id heq hnew
  | read rewrite => exact h
  | openedTmp handle rewrite => exact h
  | writtenTmp rewrite => exact h

/-- The id that a task is entering was handed out. -/
theorem QueueTaskSound.issued {issued : List Str} {task : QueueTask} {id : Str}
    (h : QueueTaskSound io issued entries task) (hid : task.entering = some id) : id ∈ issued := by
  cases task with
  | opened handle entry line =>
    obtain ⟨-, -, id', hissued, heq⟩ := h
    obtain rfl := Option.some.inj (heq.symm.trans hid)
    exact hissued
  | read rewrite => exact absurd hid (by simp [QueueTask.entering])
  | openedTmp handle rewrite => exact absurd hid (by simp [QueueTask.entering])
  | writtenTmp rewrite => exact absurd hid (by simp [QueueTask.entering])

/-- Ids stay apart when a handler takes a step that enters none. -/
theorem QueueInv.distinct_update (h : QueueInv io s entries) {n : ℕ} {task : Option QueueTask}
    (hentering : task.bind QueueTask.entering = none) (m m' : ℕ) (id : Str)
    (hm : (Function.update s.tasks n task m).bind QueueTask.entering = some id)
    (hm' : (Function.update s.tasks n task m').bind QueueTask.entering = some id) : m = m' := by
  have hbefore : ∀ k, (Function.update s.tasks n task k).bind QueueTask.entering = some id →
      (s.tasks k).bind QueueTask.entering = some id := by
    intro k hk
    by_cases hkn : k = n
    · rw [hkn, Function.update_self, hentering] at hk
      exact absurd hk (by simp)
    · rwa [Function.update_of_ne hkn] at hk
  exact h.distinct m m' id (hbefore m hm) (hbefore m' hm')

/-- A handler takes its next step, what the queue holds staying as it is. -/
theorem QueueInv.update (h : QueueInv io s entries) {files : Files Str Char} {n : ℕ}
    {task : Option QueueTask} (hsound : files.Sound)
    (hread : files.read (queuePath io) = s.files.read (queuePath io))
    (htask : ∀ t, task = some t → QueueTaskSound io s.issued entries t)
    (hentering : task.bind QueueTask.entering = none) :
    QueueInv io { s with files := files, tasks := Function.update s.tasks n task } entries where
  sound := hsound
  text := hread ▸ h.text
  kept := h.kept
  marked := h.marked
  issued := h.issued
  tasks m t ht := by
    by_cases hm : m = n
    · subst hm
      exact htask t (by simpa using ht)
    · exact h.tasks m t (by simpa [hm] using ht)
  distinct := h.distinct_update hentering

/-- An enqueue opens the queue with a new id. -/
theorem QueueInv.openQueue (h : QueueInv io s entries) (hlines : JsonLines io) {n : ℕ}
    {id createdAt line : Str} {req : HitlRequest} (hnew : id ∉ s.issued)
    (hprint : io.printJson (hitlEntry id createdAt req) = .ok line) :
    QueueInv io { s with
      files := (s.files.openAppend (queuePath io)).2
      issued := s.issued ++ [id]
      tasks := Function.update s.tasks n (some (.opened (s.files.openAppend (queuePath io)).1
        (hitlEntry id createdAt req) line)) } entries := by
  have hid : entryId (hitlEntry id createdAt req) = some id := rfl
  have hother : ∀ m id', (s.tasks m).bind QueueTask.entering = some id' → id' ∈ s.issued := by
    intro m id' hm
    obtain ⟨task, htask, hentering⟩ := Option.bind_eq_some_iff.mp hm
    exact (h.tasks m task htask).issued hentering
  refine ⟨h.sound.openAppend _, ?_, h.kept, h.marked, ?_, ?_, ?_⟩
  · show Represents io (((s.files.openAppend (queuePath io)).2.read (queuePath io)).getD []) entries
    rw [Files.read_openAppend h.sound, if_pos rfl]
    exact h.text
  · intro id' hid'
    exact List.mem_append_left _ (h.issued id' hid')
  · intro m task htask
    by_cases hm : m = n
    · subst hm
      obtain rfl : QueueTask.opened _ (hitlEntry id createdAt req) line = task := by
        simpa using htask
      refine ⟨hlines _ _ hprint, ?_, id, by simp, hid⟩
      rw [hid]
      exact fun hmem ↦ hnew (h.issued id hmem)
    · have hbefore : s.tasks m = some task := by simpa [hm] using htask
      exact (h.tasks m task hbefore).mono (fun _ hi ↦ List.mem_append_left _ hi)
        fun _ _ hfree ↦ hfree
  · intro m m' id' hm hm'
    dsimp only at hm hm'
    by_cases hmn : m = n
    · by_cases hmn' : m' = n
      · rw [hmn, hmn']
      · rw [hmn, Function.update_self] at hm
        rw [Function.update_of_ne hmn'] at hm'
        obtain rfl : id = id' := Option.some.inj (hid.symm.trans hm)
        exact absurd (hother m' id hm') hnew
    · rw [Function.update_of_ne hmn] at hm
      by_cases hmn' : m' = n
      · rw [hmn', Function.update_self] at hm'
        obtain rfl : id = id' := Option.some.inj (hid.symm.trans hm')
        exact absurd (hother m id hm) hnew
      · rw [Function.update_of_ne hmn'] at hm'
        exact h.distinct m m' id' hm hm'

/-- An enqueue writes its line to the file that is the queue. -/
theorem QueueInv.writeLine (h : QueueInv io s entries) {n handle : ℕ} {entry : Json} {line : Str}
    (htask : s.tasks n = some (.opened handle entry line))
    (hqueue : s.files.dir (queuePath io) = some handle) :
    QueueInv io { s with
      files := s.files.append handle (line ++ "\n")
      tasks := Function.update s.tasks n none
      entered := s.entered ++ [entry] } (entries ++ [entry]) := by
  obtain ⟨hline, hnew, id, hissued, hid⟩ := h.tasks n _ htask
  have hentering : (s.tasks n).bind QueueTask.entering = some id := by
    rw [htask]
    exact hid
  have hold : ∀ id' e, lookup entries id' = some e → lookup (entries ++ [entry]) id' = some e := by
    intro id' e hfind
    rw [lookup_append, hfind]
    rfl
  refine ⟨h.sound.append _ _, ?_, ?_, ?_, ?_, ?_, ?_⟩
  · show Represents io (((s.files.append handle (line ++ "\n")).read (queuePath io)).getD []) _
    obtain ⟨content, hcontent⟩ : ∃ content, s.files.read (queuePath io) = some content :=
      ⟨_, congrArg (Option.map s.files.data) hqueue⟩
    have htext : Represents io content entries := by
      have := h.text
      rwa [hcontent] at this
    rw [Files.read_append, if_pos hqueue, hcontent]
    exact htext.append hline
  · intro e he id' hid' hsolved
    rcases List.mem_append.mp he with he | he
    · exact hold id' e (h.kept e he id' hid' hsolved)
    · obtain rfl := List.mem_singleton.mp he
      have hfree : lookup entries id' = none := by
        rw [lookup_eq_none, ← hid']
        exact hnew
      rw [lookup_append, hfree, if_pos hid']
      rfl
  · intro id' hid'
    obtain ⟨e, hfind, hstatus⟩ := h.marked id' hid'
    exact ⟨e, hold id' e hfind, hstatus⟩
  · intro id' hmem
    rw [List.map_append] at hmem
    rcases List.mem_append.mp hmem with hmem | hmem
    · exact h.issued id' hmem
    · have heq : some id' = entryId entry := by simpa using hmem
      obtain rfl := Option.some.inj (heq.trans hid)
      exact hissued
  · intro m task hm
    by_cases hmn : m = n
    · exact absurd hm (by simp [hmn])
    · have hbefore : s.tasks m = some task := by simpa [hmn] using hm
      refine (h.tasks m task hbefore).mono (fun _ hi ↦ hi) ?_
      intro id' hid' hfree hmem
      rw [List.map_append] at hmem
      rcases List.mem_append.mp hmem with hmem | hmem
      · exact hfree hmem
      · have heq : some id' = entryId entry := by simpa using hmem
        obtain rfl := Option.some.inj (heq.trans hid)
        have hsame : m = n := h.distinct m n id' (by rw [hbefore]; exact hid') hentering
        exact hmn hsame
  · exact h.distinct_update rfl

/-- A solve renames the text that it made of what the queue holds. -/
theorem QueueInv.renameTmp (h : QueueInv io s entries) {n : ℕ} {rewrite : PendingRewrite}
    {files : Files Str Char} (htask : s.tasks n = some (.writtenTmp rewrite))
    (hren : s.files.rename (queueTmpPath (queuePath io)) (queuePath io) = some files)
    (htmp : s.files.read (queueTmpPath (queuePath io)) = some rewrite.newContent)
    (hcontent : s.files.read (queuePath io) = some rewrite.content) :
    ∃ entries', QueueInv io { s with
      files := files
      tasks := Function.update s.tasks n none
      solved := s.solved ++ [rewrite.id] } entries' := by
  have hsound : ∀ entries, Represents io rewrite.content entries →
      ∃ entries', Represents io rewrite.newContent entries' ∧ Marks rewrite.id entries entries' :=
    h.tasks n _ htask
  have htext : Represents io rewrite.content entries := by
    have := h.text
    rwa [hcontent] at this
  obtain ⟨entries', htext', hmarks⟩ := hsound entries htext
  refine ⟨entries', h.sound.rename hren, ?_, ?_, ?_, ?_, ?_, h.distinct_update rfl⟩
  · show Represents io ((files.read (queuePath io)).getD []) entries'
    rw [Files.read_rename hren, if_pos rfl, htmp]
    exact htext'
  · intro e he id hid hsolved
    have hsolved' : id ∉ s.solved ∧ id ≠ rewrite.id := by simpa using hsolved
    rw [hmarks.lookup_ne hsolved'.2]
    exact h.kept e he id hid hsolved'.1
  · intro id hid
    by_cases hself : id = rewrite.id
    · subst hself
      exact hmarks.lookup_self
    · have hbefore : id ∈ s.solved := by simpa [hself] using hid
      rw [hmarks.lookup_ne hself]
      exact h.marked id hbefore
  · intro id hid
    rw [hmarks.map_entryId] at hid
    exact h.issued id hid
  · intro m task hm
    by_cases hmn : m = n
    · exact absurd hm (by simp [hmn])
    · have hbefore : s.tasks m = some task := by simpa [hmn] using hm
      refine (h.tasks m task hbefore).mono (fun _ hi ↦ hi) ?_
      intro id _ hfree
      rw [hmarks.map_entryId]
      exact hfree

/-- An unraced step keeps the invariant. -/
theorem QueueInv.step (h : QueueInv io s entries) (hlines : JsonLines io) {e : QueueEvent ω}
    (hcond : Unraced io s e) (hstep : queueStep io s e = some t) :
    ∃ entries', QueueInv io t entries' := by
  cases e with
  | openQueue n id createdAt req =>
    simp only [queueStep] at hstep
    split at hstep
    · next line _ hprint =>
      split at hstep
      · exact absurd hstep (by simp)
      · next hnew =>
        have hfresh : id ∉ s.issued := by simpa using hnew
        obtain rfl := Option.some.inj hstep
        exact ⟨entries, h.openQueue hlines hfresh hprint⟩
    · exact absurd hstep (by simp)
  | writeLine n =>
    simp only [queueStep] at hstep
    split at hstep
    · next handle entry line htask =>
      obtain rfl := Option.some.inj hstep
      simp only [Unraced, htask] at hcond
      exact ⟨entries ++ [entry], h.writeLine htask hcond⟩
    · exact absurd hstep (by simp)
  | readQueue n id req persistencePath jar w =>
    simp only [queueStep] at hstep
    split at hstep
    · next content _ _ =>
      split at hstep
      · exact absurd hstep (by simp)
      · obtain ⟨newContent, hnew, rfl⟩ := Option.map_eq_some_iff.mp hstep
        refine ⟨entries, h.update h.sound rfl (fun task htask ↦ ?_) rfl⟩
        obtain rfl := Option.some.inj htask
        exact fun entries hcontent ↦ rewrittenQueue_marks hlines hnew hcontent
    · exact absurd hstep (by simp)
  | openTmp n =>
    simp only [queueStep] at hstep
    split at hstep
    · next rewrite hbefore =>
      obtain rfl := Option.some.inj hstep
      refine ⟨entries, h.update (h.sound.openTruncate _) ?_ (fun task htask ↦ ?_) rfl⟩
      · rw [Files.read_openTruncate h.sound, if_neg (queueTmpPath_ne _).symm]
      · obtain rfl := Option.some.inj htask
        have hsound := h.tasks n _ hbefore
        exact hsound
    · exact absurd hstep (by simp)
  | writeTmp n =>
    simp only [queueStep] at hstep
    split at hstep
    · next handle rewrite hbefore =>
      obtain rfl := Option.some.inj hstep
      simp only [Unraced, hbefore] at hcond
      refine ⟨entries, h.update (h.sound.write _ _) ?_ (fun task htask ↦ ?_) rfl⟩
      · rw [Files.read_write, if_neg hcond]
      · obtain rfl := Option.some.inj htask
        have hsound := h.tasks n _ hbefore
        exact hsound
    · exact absurd hstep (by simp)
  | renameTmp n =>
    simp only [queueStep] at hstep
    split at hstep
    · next rewrite hbefore =>
      obtain ⟨files, hren, rfl⟩ := Option.map_eq_some_iff.mp hstep
      simp only [Unraced, hbefore] at hcond
      exact h.renameTmp hbefore hren hcond.1 hcond.2
    · exact absurd hstep (by simp)
  | giveUp n =>
    simp only [queueStep] at hstep
    split at hstep
    · obtain rfl := Option.some.inj hstep
      exact ⟨entries, h.update h.sound rfl (fun task htask ↦ absurd htask (by simp)) rfl⟩
    · exact absurd hstep (by simp)

/-- In every run of unraced steps the answers have, in every state, all that was acknowledged. -/
theorem hitlQueue_intact (hlines : JsonLines io) {s₀ : QueueState} (hstart : QueueStart io s₀)
    {events : List (QueueEvent ω)}
    (hrun : Run (Guarded (Unraced io) (PartialSteps (queueStep io))) s₀ events s) :
    Intact io s := by
  have hinv : ∃ entries, QueueInv io s entries :=
    hrun.invariant (I := fun s ↦ ∃ entries, QueueInv io s entries)
      (fun _ _ _ h hstep ↦ h.elim fun _ h ↦ h.step hlines hstep.1 hstep.2) ⟨_, hstart.inv⟩
  obtain ⟨entries, hinv⟩ := hinv
  exact hinv.intact

/-- A step of one handler leaves the others where they are. -/
theorem queueStep_tasks {e : QueueEvent ω} {n : ℕ} (hstep : queueStep io s e = some t)
    (hn : n ≠ e.task) : t.tasks n = s.tasks n := by
  cases e with
  | openQueue m id createdAt req =>
    simp only [queueStep] at hstep
    split at hstep
    · split at hstep
      · exact absurd hstep (by simp)
      · obtain rfl := Option.some.inj hstep
        exact Function.update_of_ne hn _ _
    · exact absurd hstep (by simp)
  | readQueue m id req persistencePath jar w =>
    simp only [queueStep] at hstep
    split at hstep
    · split at hstep
      · exact absurd hstep (by simp)
      · obtain ⟨newContent, -, rfl⟩ := Option.map_eq_some_iff.mp hstep
        exact Function.update_of_ne hn _ _
    · exact absurd hstep (by simp)
  | renameTmp m =>
    simp only [queueStep] at hstep
    split at hstep
    · obtain ⟨files, -, rfl⟩ := Option.map_eq_some_iff.mp hstep
      exact Function.update_of_ne hn _ _
    · exact absurd hstep (by simp)
  | writeLine m | openTmp m | writeTmp m | giveUp m =>
    simp only [queueStep] at hstep
    split at hstep
    · obtain rfl := Option.some.inj hstep
      exact Function.update_of_ne hn _ _
    · exact absurd hstep (by simp)

end Steps
end Queue

/-- The time of the entries below. -/
def deskTime : Str := "2025-01-01T00:00:00+00:00"

/-- The id of a first entry. -/
def idA : Str := "4f2c1d9e-7a3b-4c58-9e10-2b6d8f0a1c37"

/-- The id of a second entry. -/
def idB : Str := "b81e6f02-55d4-4f6a-8c7b-90a1d2e3f4c5"

/-- A request for a page without further data. -/
def deskRequest (url : Str) : HitlRequest := ⟨url, none, none⟩

/-- The line of a pending entry. -/
def pendingLine (id url : Str) : Str :=
  "\x7b\"challenge_kind\":null,\"created_at\":\"" ++ deskTime ++ "\",\"id\":\"" ++ id ++
    "\",\"note\":null,\"status\":\"pending\",\"url\":\"" ++ url ++ "\"\x7d"

/-- The line of an entry solved with one cookie. -/
def solvedLine (id url host : Str) : Str :=
  "\x7b\"challenge_kind\":null,\"cookies_stored\":1,\"created_at\":\"" ++ deskTime ++
    "\",\"host\":\"" ++ host ++ "\",\"id\":\"" ++ id ++
    "\",\"note\":null,\"solved_at\":\"" ++ deskTime ++
    "\",\"status\":\"solved\",\"url\":\"" ++ url ++ "\"\x7d"

/-- Three entries and their lines. -/
def deskTable : List (Json × Str) :=
  [(hitlEntry idA deskTime (deskRequest "https://a.example/"),
    pendingLine idA "https://a.example/"),
   (hitlEntry idB deskTime (deskRequest "https://b.example/"),
    pendingLine idB "https://b.example/"),
   (solvedEntry (hitlEntry idA deskTime (deskRequest "https://a.example/")) deskTime "a.example" 1,
    solvedLine idA "https://a.example/" "a.example")]

/-- A world that prints and parses these entries. -/
def deskIo : HitlIo Unit where
  queuePathVar := none
  now _ := some 0
  nowRfc3339 _ := deskTime
  newId w := (idA, w)
  parseJson line :=
    match deskTable.find? (·.2 = line) with
    | some entry => .ok entry.1
    | none => .error "expected value at line 1 column 1"
  printJson v :=
    match deskTable.find? (·.1 = v) with
    | some entry => .ok entry.2
    | none => .error "recursion limit exceeded"
  openAppend _ w := (.ok (), w)
  writeAll _ _ w := (.ok (), w)
  readToString _ _ := .error "No such file or directory (os error 2)"
  write _ _ w := (.ok (), w)
  rename _ _ w := (.ok (), w)
  saveJar _ _ w := (.ok (), w)

-- Below, literals are turned into lists of characters before they are compared, the kernel is slow
-- to read them.
theorem jsonLines_desk : JsonLines deskIo := by
  have htable : ∀ entry ∈ deskTable,
      CleanLine entry.2 ∧ deskTable.find? (·.2 = entry.2) = some entry := by
    unfold deskTable pendingLine solvedLine solvedEntry hitlEntry idA idB deskTime
    repeat rw [String.toList_ofList]
    decide +kernel
  intro v line hprint
  simp only [deskIo] at hprint
  split at hprint
  · next entry hfind =>
    obtain rfl := Except.ok.inj hprint
    obtain ⟨hclean, hparse⟩ := htable entry (List.mem_of_find?_eq_some hfind)
    refine ⟨hclean, ?_⟩
    have hv : entry.1 = v := by simpa using List.find?_some hfind
    simp only [deskIo, hparse, hv]
  · exact absurd hprint (by simp)

/-- No file and no entry. -/
def deskStart : QueueState := ⟨.empty, [], fun _ ↦ none, [], []⟩

theorem queueStart_desk : QueueStart deskIo deskStart where
  sound := Files.sound_empty
  idle _ := rfl
  text := represents_nil
  issued e he := absurd he (by simp [deskStart])
  distinct := by simp [deskStart]
  none_solved := rfl

/-- An enqueue of a page. -/
def enqueueSteps (task : ℕ) (id url : Str) : List (QueueEvent Unit) :=
  [.openQueue task id deskTime (deskRequest url), .writeLine task]

/-- A solve of an entry reads the queue. -/
def readStep (task : ℕ) (id : Str) : QueueEvent Unit :=
  .readQueue task id ⟨[⟨"cf", "1", none, none⟩]⟩ none .new ()

/-- A solve rewrites the queue. -/
def rewriteSteps (task : ℕ) : List (QueueEvent Unit) :=
  [.openTmp task, .writeTmp task, .renameTmp task]

theorem hitlQueue_intact_desk :
    ∃ events s, s.entered.map entryId = [some idA, some idB] ∧
      s.solved = [idA] ∧ Intact deskIo s ∧
      Run (PartialSteps (queueStep deskIo)) deskStart events s := by
  have hfold : ((enqueueSteps 0 idA "https://a.example/" ++
      enqueueSteps 2 idB "https://b.example/" ++ readStep 1 idA :: rewriteSteps 1).foldlM
      (fun s e ↦ if Unraced deskIo s e then queueStep deskIo s e else none) deskStart).map
        (fun s : QueueState ↦ (s.entered.map entryId, s.solved)) =
      some ([some idA, some idB], [idA]) := by
    unfold enqueueSteps readStep rewriteSteps deskIo deskTable pendingLine solvedLine idA idB
      deskTime
    repeat rw [String.toList_ofList]
    decide +kernel
  obtain ⟨s, hs, heq⟩ := Option.map_eq_some_iff.mp hfold
  obtain ⟨hentered, hsolved⟩ := Prod.mk.inj heq
  have hrun := Run.guarded_of_foldlM hs
  exact ⟨_, s, hentered, hsolved, hitlQueue_intact jsonLines_desk queueStart_desk hrun,
    hrun.of_guarded⟩

/-- An entry is enqueued between the read and the rename of a solve of another, and is lost. -/
theorem not_hitlQueue_intact_overtaken :
    ¬ ∀ (io : HitlIo Unit) (s₀ s : QueueState) (events : List (QueueEvent Unit)),
      JsonLines io → QueueStart io s₀ → Run (PartialSteps (queueStep io)) s₀ events s →
      (∀ n, s.tasks n = none) → Intact io s := by
  intro hall
  have hfold : ((enqueueSteps 0 idA "https://a.example/" ++ readStep 1 idA ::
      enqueueSteps 2 idB "https://b.example/" ++ rewriteSteps 1).foldlM
      (queueStep deskIo) deskStart).map (fun s : QueueState ↦
        (s.entered.map entryId, s.solved, (List.range 3).all fun n ↦ (s.tasks n).isNone,
          (handleHitlResult (onFiles deskIo s.files) idB ()).toOption)) =
      some ([some idA, some idB], [idA], true, none) := by
    unfold enqueueSteps readStep rewriteSteps deskIo deskTable pendingLine solvedLine idA idB
      deskTime
    repeat rw [String.toList_ofList]
    decide +kernel
  obtain ⟨s, hs, heq⟩ := Option.map_eq_some_iff.mp hfold
  simp only [Prod.mk.injEq] at heq
  obtain ⟨hentered, hsolved, hidle, hresult⟩ := heq
  have hrun := Run.of_foldlM hs
  have hquiet : ∀ n, s.tasks n = none := by
    intro n
    by_cases hn : n < 3
    · exact Option.isNone_iff_eq_none.mp (List.all_eq_true.mp hidle n (List.mem_range.mpr hn))
    · have hstay : ∀ s e t, n ≠ e.task → PartialSteps (queueStep deskIo) s e t →
          t.tasks n = s.tasks n := fun _ _ _ hn hstep ↦ queueStep_tasks hstep hn
      have hsame : s.tasks n = deskStart.tasks n := by
        refine hrun.unchanged (f := fun s : QueueState ↦ s.tasks n) hstay ?_
        intro e he
        have htask : ∀ e ∈ (enqueueSteps 0 idA "https://a.example/" ++ readStep 1 idA ::
            enqueueSteps 2 idB "https://b.example/" ++ rewriteSteps 1), e.task < 3 := by
          simp [enqueueSteps, readStep, rewriteSteps, QueueEvent.task]
        have := htask e he
        omega
      exact hsame
  have hintact := hall deskIo deskStart s _ jsonLines_desk queueStart_desk hrun hquiet
  have hmem : some idB ∈ s.entered.map entryId := by simp [hentered]
  obtain ⟨e, he, hid⟩ := List.mem_map.mp hmem
  have hfound := hintact.kept e he idB hid (by rw [hsolved]; decide) ()
  rw [hfound] at hresult
  exact absurd hresult (by simp [Except.toOption])

end CrwShield.Server
