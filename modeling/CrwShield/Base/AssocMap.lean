import Mathlib.Data.List.Nodup

/-!
# Maps as lists of entries with distinct keys

A hash map whose iteration order is left open is a list of entries in which no key occurs twice. A
map keeps its keys as given, so a coarser reading of the keys may find two entries for one key.
-/

namespace CrwShield.Base

universe u v w

/-- Entries of a map, in some order. -/
structure AssocMap (κ : Type u) (ν : Type v) where
  entries : List (κ × ν)
  nodup_keys : (entries.map Prod.fst).Nodup

namespace AssocMap

variable {κ : Type u} {ν : Type v} {l : List (κ × ν)} {e : κ × ν}

/-- A map without entries. -/
def empty : AssocMap κ ν := ⟨[], List.nodup_nil⟩

@[simp] theorem entries_empty : (empty : AssocMap κ ν).entries = [] := rfl

/-- The keys of a map. -/
def keys (m : AssocMap κ ν) : List κ := m.entries.map Prod.fst

@[simp] theorem keys_empty : (empty : AssocMap κ ν).keys = [] := rfl

/-- No two entries have keys that read alike, if keys that read alike are equal. -/
theorem nodup_map_keys_iff {α : Type w} (read : κ → α) (m : AssocMap κ ν) :
    (m.entries.map fun e ↦ read e.1).Nodup ↔
      ∀ a ∈ m.keys, ∀ b ∈ m.keys, read a = read b → a = b := by
  rw [show (m.entries.map fun e ↦ read e.1) = m.keys.map read from by simp [keys]]
  exact List.nodup_map_iff_inj_on m.nodup_keys

variable [DecidableEq κ]

/-- Set the value of a key. -/
def insert (m : AssocMap κ ν) (k : κ) (x : ν) : AssocMap κ ν where
  entries := m.entries.filter (·.1 ≠ k) ++ [(k, x)]
  nodup_keys := by
    have hsub : (m.entries.filter (·.1 ≠ k)).map Prod.fst |>.Nodup :=
      (List.filter_sublist.map Prod.fst).nodup m.nodup_keys
    rw [List.map_append]
    refine List.nodup_append.mpr ⟨hsub, by simp, ?_⟩
    intro a ha b hb
    obtain ⟨e, he, rfl⟩ := List.mem_map.mp ha
    obtain rfl : b = k := by simpa using hb
    simpa using (List.mem_filter.mp he).2

/-- Set the values of keys one after the other. -/
def extend (m : AssocMap κ ν) (l : List (κ × ν)) : AssocMap κ ν :=
  l.foldl (fun m e ↦ m.insert e.1 e.2) m

/-- The map of a list of entries; a later entry replaces an earlier one. -/
def ofList (l : List (κ × ν)) : AssocMap κ ν := empty.extend l

@[simp] theorem mem_insert {m : AssocMap κ ν} {k : κ} {x : ν} :
    e ∈ (m.insert k x).entries ↔ e = (k, x) ∨ e ∈ m.entries ∧ e.1 ≠ k := by
  simp [insert, or_comm]

@[simp] theorem extend_nil (m : AssocMap κ ν) : m.extend [] = m := rfl

@[simp] theorem extend_cons (m : AssocMap κ ν) (e : κ × ν) (l : List (κ × ν)) :
    m.extend (e :: l) = (m.insert e.1 e.2).extend l := rfl

/-- Entries with distinct keys are all set, and the others of the map stay. -/
theorem mem_extend (hl : (l.map Prod.fst).Nodup) (m : AssocMap κ ν) :
    e ∈ (m.extend l).entries ↔ e ∈ l ∨ e ∈ m.entries ∧ e.1 ∉ l.map Prod.fst := by
  induction l generalizing m with
  | nil => simp
  | cons a l ih =>
    obtain ⟨ha, hl⟩ := List.nodup_cons.mp hl
    have hcons : e.1 ∉ (a :: l).map Prod.fst ↔ e.1 ≠ a.1 ∧ e.1 ∉ l.map Prod.fst := by
      rw [List.map_cons, List.mem_cons, not_or]
    rw [extend_cons, ih hl, mem_insert, hcons]
    constructor
    · rintro (h | ⟨rfl | ⟨h, hne⟩, hnot⟩)
      · exact .inl (List.mem_cons_of_mem _ h)
      · exact .inl List.mem_cons_self
      · exact .inr ⟨h, hne, hnot⟩
    · rintro (h | ⟨h, hne, hnot⟩)
      · cases h with
        | head => exact .inr ⟨.inl rfl, ha⟩
        | tail _ h => exact .inl h
      · exact .inr ⟨.inr ⟨h, hne⟩, hnot⟩

/-- The keys after setting entries with distinct keys. -/
theorem mem_keys_extend (hl : (l.map Prod.fst).Nodup) (m : AssocMap κ ν) {k : κ} :
    k ∈ (m.extend l).keys ↔ k ∈ l.map Prod.fst ∨ k ∈ m.keys := by
  simp only [keys, List.mem_map, mem_extend hl]
  constructor
  · rintro ⟨e, h | ⟨h, -⟩, rfl⟩
    · exact .inl ⟨e, h, rfl⟩
    · exact .inr ⟨e, h, rfl⟩
  · rintro (⟨e, h, rfl⟩ | ⟨e, h, rfl⟩)
    · exact ⟨e, .inl h, rfl⟩
    · by_cases hk : e.1 ∈ l.map Prod.fst
      · obtain ⟨e', h', heq⟩ := List.mem_map.mp hk
        exact ⟨e', .inl h', heq⟩
      · refine ⟨e, .inr ⟨h, fun ⟨e', h', heq⟩ ↦ hk ?_⟩, rfl⟩
        exact heq ▸ List.mem_map_of_mem h'

/-- The keys of a map made of entries with distinct keys. -/
theorem mem_keys_ofList (hl : (l.map Prod.fst).Nodup) {k : κ} :
    k ∈ (ofList l).keys ↔ k ∈ l.map Prod.fst := by
  simp [ofList, mem_keys_extend hl]

end AssocMap
end CrwShield.Base
