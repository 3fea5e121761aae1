import CrwShield.Base.Bytes

/-!
# Buffered reading

A buffered reader over a stream that arrives in reads of any size: `bufio.Reader` fills its buffer
with one read at a time, and no more of them than it takes to find what it was asked for. What it
returns depends on the bytes alone; what it is left with, on where the reads end.
-/

namespace CrwShield.Base

/-- A buffered reader: the bytes in its buffer, and the reads still to come from the stream. -/
structure Reader where
  buf : Bytes
  reads : List Bytes
  deriving DecidableEq

namespace Reader

/-- `bufio.NewReader` on a stream. -/
def new (reads : List Bytes) : Reader := ⟨[], reads⟩

/-- The bytes that a reader has not returned yet. -/
def content (r : Reader) : Bytes := r.buf ++ r.reads.flatten

@[simp] theorem content_new (reads : List Bytes) : (new reads).content = reads.flatten := rfl

/-- Fill the buffer until a piece can be split off; none at the end of the stream. -/
def fillUntil (split : Bytes → Option (Bytes × Bytes)) (buf : Bytes) :
    List Bytes → Option (Bytes × Reader)
  | [] => (split buf).map fun p ↦ (p.1, ⟨p.2, []⟩)
  | read :: reads =>
    match split buf with
    | some (piece, rest) => some (piece, ⟨rest, read :: reads⟩)
    | none => fillUntil split (buf ++ read) reads

/-- Everything up to and with the first line feed. -/
def splitLine : Bytes → Option (Bytes × Bytes)
  | [] => none
  | b :: bs => if b = 10 then some ([10], bs) else (splitLine bs).map fun p ↦ (b :: p.1, p.2)

/-- A number of bytes. -/
def splitAt (n : Nat) (buf : Bytes) : Option (Bytes × Bytes) :=
  if n ≤ buf.length then some (buf.take n, buf.drop n) else none

/-- `ReadString('\n')`; none at the end of the stream. -/
def readString (r : Reader) : Option (Bytes × Reader) := fillUntil splitLine r.buf r.reads

/-- `io.ReadFull` of a number of bytes; none at the end of the stream. -/
def readFull (n : Nat) (r : Reader) : Option (Bytes × Reader) := fillUntil (splitAt n) r.buf r.reads

/-- A piece that is split off wherever the bytes that follow it end, and not before it is whole. -/
structure Delimits (split : Bytes → Option (Bytes × Bytes)) (piece : Bytes) : Prop where
  whole : ∀ rest, split (piece ++ rest) = some (piece, rest)
  short : ∀ start, start <+: piece → start ≠ piece → split start = none

theorem delimits_line {line : Bytes} (h : 10 ∉ line) : Delimits splitLine (line ++ [10]) where
  whole rest := by
    induction line with
    | nil => rfl
    | cons b line ih =>
      obtain ⟨hb, hline⟩ := not_or.mp (mt List.mem_cons.mpr h)
      have hrest := ih hline
      simp only [List.cons_append, splitLine, if_neg (Ne.symm hb), hrest, Option.map_some]
  short start hstart hne := by
    have hnone : ∀ s : Bytes, 10 ∉ s → splitLine s = none := by
      intro s
      induction s with
      | nil => exact fun _ ↦ rfl
      | cons b s ih =>
        intro hs
        obtain ⟨hb, hs⟩ := not_or.mp (mt List.mem_cons.mpr hs)
        simp only [splitLine, if_neg (Ne.symm hb), ih hs, Option.map_none]
    refine hnone start fun hmem ↦ ?_
    rcases List.prefix_concat_iff.mp hstart with heq | hstart
    · exact hne heq
    · exact h (hstart.subset hmem)

theorem delimits_length (piece : Bytes) : Delimits (splitAt piece.length) piece where
  whole rest := by simp [splitAt]
  short start hstart hne := by
    have hlength : ¬ piece.length ≤ start.length := fun hle ↦ hne (hstart.eq_of_length_le hle)
    exact if_neg hlength

/-- A reader takes bytes off its stream, with no more reads than it takes to have them. -/
structure Consumes (r : Reader) (bytes : Bytes) (r' : Reader) : Prop where
  exists_taken : ∃ taken, r.reads = taken ++ r'.reads ∧
    r.buf ++ taken.flatten = bytes ++ r'.buf ∧
    (taken ≠ [] → (r.buf ++ taken.dropLast.flatten).length < bytes.length)

theorem Consumes.refl (r : Reader) : Consumes r [] r :=
  ⟨[], rfl, List.append_nil _, fun h ↦ absurd rfl h⟩

theorem Consumes.content {r r' : Reader} {bytes : Bytes} (h : Consumes r bytes r') :
    r.content = bytes ++ r'.content := by
  obtain ⟨taken, hreads, hbytes, -⟩ := h.exists_taken
  rw [Reader.content, hreads, List.flatten_append, ← List.append_assoc, hbytes, List.append_assoc]
  rfl

theorem Consumes.trans {r r' r'' : Reader} {a b : Bytes} (h : Consumes r a r')
    (h' : Consumes r' b r'') : Consumes r (a ++ b) r'' := by
  obtain ⟨taken, hreads, hbytes, hneed⟩ := h.exists_taken
  obtain ⟨taken', hreads', hbytes', hneed'⟩ := h'.exists_taken
  refine ⟨taken ++ taken', by rw [hreads, hreads', List.append_assoc], ?_, fun hne ↦ ?_⟩
  · rw [List.flatten_append, ← List.append_assoc, hbytes, List.append_assoc, hbytes',
      List.append_assoc]
  · rcases List.eq_nil_or_concat taken' with rfl | ⟨before, last, rfl⟩
    · rw [List.append_nil] at hne ⊢
      have hlt := hneed hne
      simp only [List.length_append] at hlt ⊢
      omega
    · have hlt := hneed' (by simp)
      rw [List.concat_eq_append, List.dropLast_concat] at hlt
      rw [List.concat_eq_append, ← List.append_assoc, List.dropLast_concat, List.flatten_append,
        ← List.append_assoc, hbytes]
      simp only [List.length_append] at hlt ⊢
      omega

theorem fillUntil_eq {split : Bytes → Option (Bytes × Bytes)} {piece : Bytes}
    (h : Delimits split piece) (reads : List Bytes) {buf rest : Bytes}
    (hcontent : buf ++ reads.flatten = piece ++ rest) :
    ∃ r', fillUntil split buf reads = some (piece, r') ∧ Consumes ⟨buf, reads⟩ piece r' := by
  induction reads generalizing buf with
  | nil =>
    rw [List.flatten_nil, List.append_nil] at hcontent
    subst hcontent
    refine ⟨⟨rest, []⟩, by simp [fillUntil, h.whole], [], rfl, List.append_nil _, fun h ↦ ?_⟩
    exact absurd rfl h
  | cons read reads ih =>
    rcases List.append_eq_append_iff.mp hcontent with ⟨more, hpiece, hrest⟩ | ⟨left, rfl, hleft⟩
    · cases hmore : more with
      | nil =>
        -- the buffer holds the piece and nothing else
        rw [hmore, List.append_nil] at hpiece
        refine ⟨⟨[], read :: reads⟩, ?_, [], rfl, by simp [hpiece], fun h ↦ absurd rfl h⟩
        have hwhole := h.whole []
        rw [List.append_nil, hpiece] at hwhole
        simp [fillUntil, hwhole, hpiece]
      | cons b bs =>
        have hshort : split buf = none := h.short buf ⟨more, hpiece.symm⟩ fun heq ↦ by
          rw [heq, hmore] at hpiece
          simpa using congrArg List.length hpiece
        have hlength : buf.length < piece.length := by simp [hpiece, hmore]
        obtain ⟨r', hfill, htaken⟩ := @ih (buf ++ read) (by
          rw [List.append_assoc]
          exact hcontent)
        obtain ⟨taken, hreads, hbytes, hneed⟩ := htaken.exists_taken
        dsimp only at hreads hbytes hneed
        refine ⟨r', by simp only [fillUntil, hshort, hfill], read :: taken, by simp [hreads],
          by simpa using hbytes, fun _ ↦ ?_⟩
        cases taken with
        | nil => simpa using hlength
        | cons t ts => simpa using hneed (by simp)
    · -- the buffer holds more than the piece
      refine ⟨⟨left, read :: reads⟩, by simp [fillUntil, h.whole], [], rfl,
        List.append_nil _, fun h ↦ absurd rfl h⟩

theorem readString_eq {r : Reader} {line rest : Bytes} (h : 10 ∉ line)
    (hcontent : r.content = line ++ [10] ++ rest) :
    ∃ r', r.readString = some (line ++ [10], r') ∧ Consumes r (line ++ [10]) r' :=
  fillUntil_eq (delimits_line h) r.reads hcontent

theorem readFull_eq {r : Reader} {piece rest : Bytes} (hcontent : r.content = piece ++ rest) :
    ∃ r', r.readFull piece.length = some (piece, r') ∧ Consumes r piece r' :=
  fillUntil_eq (delimits_length piece) r.reads hcontent

/-- A new reader is left with an empty buffer exactly when a read ends where the bytes it was asked
for end. -/
theorem Consumes.buf_eq_nil_iff {reads : List Bytes} {bytes : Bytes} {r' : Reader}
    (h : Consumes (new reads) bytes r') :
    r'.buf = [] ↔ ∃ group rest, reads = group ++ rest ∧ group.flatten = bytes := by
  obtain ⟨taken, htaken, hbytes, hneed⟩ := h.exists_taken
  simp only [new, List.nil_append] at htaken hbytes hneed
  constructor
  · intro hnil
    rw [hnil, List.append_nil] at hbytes
    exact ⟨taken, r'.reads, htaken, hbytes⟩
  · rintro ⟨group, rest, hgroup, rfl⟩
    have hlength : taken.flatten.length = group.flatten.length + r'.buf.length := by
      rw [hbytes, List.length_append]
    rcases List.append_eq_append_iff.mp (htaken.symm.trans hgroup) with
      ⟨more, hmore, -⟩ | ⟨more, rfl, -⟩
    · have hle : taken.flatten.length ≤ group.flatten.length := by
        rw [hmore, List.flatten_append, List.length_append]
        omega
      exact List.eq_nil_of_length_eq_zero (by omega)
    · rcases List.eq_nil_or_concat more with rfl | ⟨before, last, rfl⟩
      · rw [List.append_nil] at hlength
        exact List.eq_nil_of_length_eq_zero (by omega)
      · -- the last read would not have been needed
        have hlt := hneed (by simp)
        rw [List.concat_eq_append, ← List.append_assoc, List.dropLast_concat, List.flatten_append,
          List.length_append] at hlt
        omega

/-- The reads that remain after a group of them that holds exactly the bytes asked for. -/
theorem Consumes.reads_eq {reads : List Bytes} {bytes : Bytes} {r' : Reader}
    (h : Consumes (new reads) bytes r') (hnil : r'.buf = []) :
    ∃ group, reads = group ++ r'.reads ∧ group.flatten = bytes := by
  obtain ⟨taken, htaken, hbytes, -⟩ := h.exists_taken
  rw [hnil, List.append_nil] at hbytes
  exact ⟨taken, htaken, hbytes⟩

/-- Two initial groups of nonempty reads with the same bytes are the same reads. -/
theorem group_unique {a b rest rest' : List Bytes} (hne : ∀ read ∈ a ++ rest, read ≠ [])
    (h : a ++ rest = b ++ rest') (hbytes : a.flatten = b.flatten) : a = b ∧ rest = rest' := by
  have hnil : ∀ c : List Bytes, (∀ read ∈ c, read ≠ []) → c.flatten = [] → c = [] := by
    intro c hc hflat
    cases c with
    | nil => rfl
    | cons read c =>
      exact absurd (List.flatten_eq_nil_iff.mp hflat read List.mem_cons_self)
        (hc read List.mem_cons_self)
  rcases List.append_eq_append_iff.mp h with ⟨c, rfl, rfl⟩ | ⟨c, rfl, rfl⟩
  · have hc := hnil c (fun read hread ↦ hne read (by simp [hread])) (by simpa using hbytes)
    simp [hc]
  · have hc := hnil c (fun read hread ↦ hne read (by simp [hread])) (by simpa using hbytes)
    simp [hc]

/-- The reads fall apart into groups that hold one piece each. -/
def Aligned (pieces reads : List Bytes) : Prop :=
  ∃ groups : List (List Bytes), groups.flatten = reads ∧ groups.map List.flatten = pieces

/-- A reader that has taken the first piece stands between two groups exactly when it has an empty
buffer. -/
theorem Consumes.aligned_cons_iff {pieces reads : List Bytes} {piece : Bytes} {r' : Reader}
    (hreads : ∀ read ∈ reads, read ≠ []) (h : Consumes (new reads) piece r') :
    Aligned (piece :: pieces) reads ↔ r'.buf = [] ∧ Aligned pieces r'.reads := by
  constructor
  · rintro ⟨groups, hgroups, hpieces⟩
    cases groups with
    | nil => exact absurd hpieces (by simp)
    | cons group groups =>
      obtain ⟨hgroup, hrest⟩ := List.cons.inj hpieces
      rw [List.flatten_cons] at hgroups
      have hnil := h.buf_eq_nil_iff.mpr ⟨group, groups.flatten, hgroups.symm, hgroup⟩
      obtain ⟨taken, htaken, hbytes⟩ := h.reads_eq hnil
      have hunique := group_unique (fun read hread ↦ hreads read (hgroups ▸ hread))
        (hgroups.trans htaken) (hgroup.trans hbytes.symm)
      exact ⟨hnil, groups, hunique.2, hrest⟩
  · rintro ⟨hnil, groups, hgroups, hpieces⟩
    obtain ⟨taken, htaken, hbytes⟩ := h.reads_eq hnil
    exact ⟨taken :: groups, by rw [List.flatten_cons, hgroups, htaken], by
      rw [List.map_cons, hbytes, hpieces]⟩

end Reader
end CrwShield.Base
