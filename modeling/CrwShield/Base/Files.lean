import Mathlib.Logic.Function.Basic
import Mathlib.Data.Nat.Notation

/-!
# Files behind names

A directory leads from names to files, so a file can outlive its name: a handle opened before a
rename still writes to the file it was opened for. Handles are file numbers. A write goes to the
start of a file and leaves what lies beyond its end.
-/

namespace CrwShield.Base

universe u v

/-- A directory and the contents of the files; `next` is the first unused file number. -/
structure Files (ν : Type u) (β : Type v) where
  dir : ν → Option ℕ
  data : ℕ → List β
  next : ℕ

namespace Files

variable {ν : Type u} {β : Type v}

/-- No file. -/
def empty : Files ν β := ⟨fun _ ↦ none, fun _ ↦ [], 0⟩

/-- What is found under a name. -/
def read (fs : Files ν β) (name : ν) : Option (List β) := (fs.dir name).map fs.data

/-- Write at the end of an open file. -/
def append (fs : Files ν β) (handle : ℕ) (bytes : List β) : Files ν β :=
  { fs with data := Function.update fs.data handle (fs.data handle ++ bytes) }

/-- Write at the start of an open file. -/
def write (fs : Files ν β) (handle : ℕ) (bytes : List β) : Files ν β :=
  { fs with
    data := Function.update fs.data handle (bytes ++ (fs.data handle).drop bytes.length) }

/-- Used numbers are below the first unused one, and no file has two names. -/
structure Sound (fs : Files ν β) : Prop where
  fresh : ∀ name handle, fs.dir name = some handle → handle < fs.next
  once : ∀ a b handle, fs.dir a = some handle → fs.dir b = some handle → a = b

theorem sound_empty : (empty : Files ν β).Sound where
  fresh _ _ h := absurd h (by simp [empty])
  once _ _ _ h := absurd h (by simp [empty])

theorem Sound.append {fs : Files ν β} (h : fs.Sound) (handle : ℕ) (bytes : List β) :
    (fs.append handle bytes).Sound := ⟨h.fresh, h.once⟩

theorem Sound.write {fs : Files ν β} (h : fs.Sound) (handle : ℕ) (bytes : List β) :
    (fs.write handle bytes).Sound := ⟨h.fresh, h.once⟩

@[simp] theorem dir_append (fs : Files ν β) (handle : ℕ) (bytes : List β) :
    (fs.append handle bytes).dir = fs.dir := rfl

@[simp] theorem dir_write (fs : Files ν β) (handle : ℕ) (bytes : List β) :
    (fs.write handle bytes).dir = fs.dir := rfl

/-- Appending shows under the name of the file, if it still has one. -/
theorem read_append (fs : Files ν β) (handle : ℕ) (bytes : List β) (name : ν) :
    (fs.append handle bytes).read name =
      if fs.dir name = some handle then (fs.read name).map (· ++ bytes) else fs.read name := by
  unfold read append
  cases hname : fs.dir name with
  | none => simp
  | some file =>
    by_cases hfile : file = handle
    · simp [hfile]
    · simp [hfile]

/-- Writing shows under the name of the file, if it still has one. -/
theorem read_write (fs : Files ν β) (handle : ℕ) (bytes : List β) (name : ν) :
    (fs.write handle bytes).read name =
      if fs.dir name = some handle then
        (fs.read name).map fun old ↦ bytes ++ old.drop bytes.length
      else fs.read name := by
  unfold read write
  cases hname : fs.dir name with
  | none => simp
  | some file =>
    by_cases hfile : file = handle
    · simp [hfile]
    · simp [hfile]

variable [DecidableEq ν]

/-- Put a new empty file under a name. -/
def create (fs : Files ν β) (name : ν) : ℕ × Files ν β :=
  (fs.next,
    ⟨Function.update fs.dir name (some fs.next), Function.update fs.data fs.next [], fs.next + 1⟩)

/-- Open for appending, creating the file if there is none. -/
def openAppend (fs : Files ν β) (name : ν) : ℕ × Files ν β :=
  match fs.dir name with
  | some handle => (handle, fs)
  | none => fs.create name

/-- Open for writing, emptying the file or creating it. -/
def openTruncate (fs : Files ν β) (name : ν) : ℕ × Files ν β :=
  match fs.dir name with
  | some handle => (handle, { fs with data := Function.update fs.data handle [] })
  | none => fs.create name

/-- Put the file of one name under another, in place of what was there. -/
def rename (fs : Files ν β) (source target : ν) : Option (Files ν β) :=
  (fs.dir source).map fun handle ↦
    { fs with
      dir := Function.update (Function.update fs.dir source none) target (some handle) }

section Names

variable {fs : Files ν β}

theorem dir_create (fs : Files ν β) (name a : ν) :
    (fs.create name).2.dir a = if a = name then some fs.next else fs.dir a := by
  simp [create, Function.update_apply]

/-- A file opened for writing is the one under its name. -/
theorem dir_openTruncate (fs : Files ν β) (name : ν) :
    (fs.openTruncate name).2.dir name = some (fs.openTruncate name).1 := by
  unfold openTruncate
  split
  · next handle hname => exact hname
  · rw [dir_create, if_pos rfl]
    rfl

theorem dir_rename {fs' : Files ν β} {source target : ν}
    (h : fs.rename source target = some fs') (a : ν) :
    fs'.dir a = if a = target then fs.dir source else if a = source then none else fs.dir a := by
  obtain ⟨moved, hsource, rfl⟩ := Option.map_eq_some_iff.mp h
  simp [Function.update_apply, hsource]

theorem Sound.create (h : fs.Sound) (name : ν) : (fs.create name).2.Sound where
  fresh a handle ha := by
    rw [dir_create] at ha
    show handle < fs.next + 1
    split at ha
    · obtain rfl := Option.some.inj ha
      omega
    · exact Nat.lt_succ_of_lt (h.fresh a handle ha)
  once a b handle ha hb := by
    rw [dir_create] at ha hb
    split at ha
    · next hname =>
      obtain rfl := Option.some.inj ha
      split at hb
      · next hname' => rw [hname, hname']
      · exact absurd (h.fresh b _ hb) (by omega)
    · split at hb
      · obtain rfl := Option.some.inj hb
        exact absurd (h.fresh a _ ha) (by omega)
      · exact h.once a b handle ha hb

theorem Sound.openAppend (h : fs.Sound) (name : ν) : (fs.openAppend name).2.Sound := by
  unfold Files.openAppend
  split
  · exact h
  · exact h.create name

theorem Sound.openTruncate (h : fs.Sound) (name : ν) : (fs.openTruncate name).2.Sound := by
  unfold Files.openTruncate
  split
  · exact ⟨h.fresh, h.once⟩
  · exact h.create name

theorem Sound.rename (h : fs.Sound) {source target : ν} {fs' : Files ν β}
    (hren : fs.rename source target = some fs') : fs'.Sound where
  fresh a handle ha := by
    have hnext : fs'.next = fs.next := by
      obtain ⟨moved, -, rfl⟩ := Option.map_eq_some_iff.mp hren
      rfl
    rw [dir_rename hren] at ha
    rw [hnext]
    split at ha
    · exact h.fresh source handle ha
    · split at ha
      · exact absurd ha (by simp)
      · exact h.fresh a handle ha
  once a b handle ha hb := by
    rw [dir_rename hren] at ha hb
    split at ha
    · next hname =>
      split at hb
      · next hname' => rw [hname, hname']
      · split at hb
        · exact absurd hb (by simp)
        · next hne => exact absurd (h.once source b handle ha hb).symm hne
    · split at ha
      · exact absurd ha (by simp)
      · next hne =>
        split at hb
        · exact absurd (h.once source a handle hb ha).symm hne
        · split at hb
          · exact absurd hb (by simp)
          · exact h.once a b handle ha hb

/-- A created file is empty, and the others are as they were. -/
theorem read_create (h : fs.Sound) (name a : ν) :
    (fs.create name).2.read a = if a = name then some [] else fs.read a := by
  unfold read
  rw [dir_create]
  by_cases hname : a = name
  · simp [hname, Files.create]
  · rw [if_neg hname, if_neg hname]
    cases ha : fs.dir a with
    | none => rfl
    | some file =>
      have hlt := h.fresh a file ha
      simp [Files.create, Nat.ne_of_lt hlt]

/-- Opening for appending leaves what there is to read, but for a new file that is empty. -/
theorem read_openAppend (h : fs.Sound) (name a : ν) :
    (fs.openAppend name).2.read a =
      if a = name then some ((fs.read name).getD []) else fs.read a := by
  unfold Files.openAppend
  split
  · next handle hname =>
    split
    · next heq => rw [heq, read, hname]; rfl
    · rfl
  · next hname =>
    rw [read_create h, show fs.read name = none by rw [read, hname]; rfl]
    rfl

/-- A file opened for writing is empty, and the others are as they were. -/
theorem read_openTruncate (h : fs.Sound) (name a : ν) :
    (fs.openTruncate name).2.read a = if a = name then some [] else fs.read a := by
  unfold Files.openTruncate
  split
  · next handle hname =>
    unfold read
    by_cases heq : a = name
    · simp [heq, hname]
    · rw [if_neg heq]
      cases ha : fs.dir a with
      | none => rfl
      | some file =>
        have hne : file ≠ handle := fun hfile ↦ heq (h.once a name file ha (hfile ▸ hname))
        simp [hne]
  · exact read_create h name a

/-- The renamed file is found under its new name. -/
theorem read_rename {source target : ν} {fs' : Files ν β}
    (h : fs.rename source target = some fs') (a : ν) :
    fs'.read a = if a = target then fs.read source else if a = source then none else fs.read a := by
  have hdata : fs'.data = fs.data := by
    obtain ⟨moved, -, rfl⟩ := Option.map_eq_some_iff.mp h
    rfl
  unfold read
  rw [dir_rename h, hdata]
  split
  · rfl
  · split
    · rfl
    · rfl

end Names
end Files
end CrwShield.Base
