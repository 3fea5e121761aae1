import Mathlib.Algebra.Order.Ring.Nat
import Mathlib.Data.List.DropRight
import Mathlib.Data.List.Infix

/-!
# Text

Rust `str` values as lists of Unicode scalar values, with the `std` operations used by the
crates. Byte lengths and byte offsets are recovered from `Char.utf8Size`, so a limit that the
source states in bytes stays a limit in bytes.
-/

namespace CrwShield.Base

/-- UTF-8 text as the list of its scalar values. -/
abbrev Str := List Char

/-- A string literal denotes its text. -/
instance : Coe String Str := ⟨String.toList⟩

/-- Texts are equal where their test says so. -/
instance : LawfulBEq Str := inferInstanceAs (LawfulBEq (List Char))

namespace Str

/-- `str::len`: the number of UTF-8 bytes. -/
def len (s : Str) : Nat := (s.map Char.utf8Size).sum

theorem len_append (s t : Str) : len (s ++ t) = len s + len t := by
  rw [len, List.map_append, List.sum_append]
  rfl

theorem len_replicate (n : Nat) (c : Char) : len (List.replicate n c) = n * c.utf8Size := by
  rw [len, List.map_replicate, List.sum_replicate_nat]

/-- `char::is_whitespace`: the Unicode `White_Space` property. -/
def isWhitespace (c : Char) : Bool :=
  let n := c.toNat
  (9 ≤ n && n ≤ 13) || n == 0x20 || n == 0x85 || n == 0xA0 || n == 0x1680 ||
    (0x2000 ≤ n && n ≤ 0x200A) || n == 0x2028 || n == 0x2029 || n == 0x202F || n == 0x205F ||
    n == 0x3000

/-- `str::trim`. -/
def trim (s : Str) : Str := (s.dropWhile isWhitespace).rdropWhile isWhitespace

/-- `str::trim_start`. -/
def trimStart (s : Str) : Str := s.dropWhile isWhitespace

/-- `str::trim_start_matches` of one character. -/
def trimStartMatches (c : Char) (s : Str) : Str := s.dropWhile (· == c)

/-- `str::trim_end_matches` of one character. -/
def trimEndMatches (c : Char) (s : Str) : Str := s.rdropWhile (· == c)

/-- `str::to_ascii_lowercase`; `Char.toLower` moves the basic Latin capitals only. -/
def toAsciiLowercase (s : Str) : Str := s.map Char.toLower

/-- The lowercase mapping of one scalar value as far as it can produce ASCII: the Kelvin sign and
the dotted capital I are the two characters outside ASCII whose mapping contains an ASCII letter.
The other characters outside ASCII map to text outside ASCII and are left as they are. -/
def charToLowercase (c : Char) : Str :=
  if c = '\u212A' then ['k'] else if c = '\u0130' then ['i', '\u0307'] else [c.toLower]

/-- `str::to_lowercase`, exact for the question asked of it here, whether an ASCII phrase occurs. -/
def toLowercase (s : Str) : Str := s.flatMap charToLowercase

/-- Text before the first occurrence of `needle`, and the text from that occurrence on. -/
def breakOn (needle : Str) : Str → Option (Str × Str)
  | [] => if needle.isEmpty then some ([], []) else none
  | c :: cs =>
    if needle.isPrefixOf (c :: cs) then some ([], c :: cs)
    else (breakOn needle cs).map fun p ↦ (c :: p.1, p.2)

/-- `str::find`: the byte offset of the first occurrence. -/
def find (needle s : Str) : Option Nat := (breakOn needle s).map fun p ↦ len p.1

/-- `str::contains`. -/
def contains (needle s : Str) : Bool := (breakOn needle s).isSome

/-- `str::split_once`. -/
def splitOnce (needle s : Str) : Option (Str × Str) :=
  (breakOn needle s).map fun p ↦ (p.1, p.2.drop needle.length)

/-- `str::starts_with`. -/
def startsWith (pre s : Str) : Bool := pre.isPrefixOf s

/-- `str::ends_with`. -/
def endsWith (suf s : Str) : Bool := suf.isSuffixOf s

/-- `str::split` on one character. -/
def split (sep : Char) (s : Str) : List Str := s.splitOn sep

/-- `str::split_whitespace`. -/
def splitWhitespace (s : Str) : List Str := (s.splitOnP isWhitespace).filter (!·.isEmpty)

/-- `str::eq_ignore_ascii_case`. -/
def eqIgnoreAsciiCase (s t : Str) : Bool := toAsciiLowercase s = toAsciiLowercase t

/-- `str::replace` of one character by another. -/
def replaceChar (c d : Char) (s : Str) : Str := s.map fun x ↦ if x = c then d else x

/-- `[_]::join`. -/
def join (sep : Str) (parts : List Str) : Str := sep.intercalate parts

-- `skip` counts the characters still covered by the previous occurrence.
private def matchesFrom (needle : Str) : Nat → Str → Nat
  | _, [] => 0
  | skip + 1, _ :: cs => matchesFrom needle skip cs
  | 0, c :: cs =>
    if needle.isPrefixOf (c :: cs) then matchesFrom needle (needle.length - 1) cs + 1
    else matchesFrom needle 0 cs

/-- `str::matches(needle).count()`: disjoint occurrences from the left. -/
def matchesCount (needle s : Str) : Nat := matchesFrom needle 0 s

/-- `str::lines`: a final empty piece is no line, and only a terminated line loses its `'\r'`. -/
def lines (s : Str) : List Str :=
  let pieces := split '\n' s
  let terminated := pieces.dropLast.map fun l ↦ if l.getLast? = some '\r' then l.dropLast else l
  match pieces.getLast? with
  | none | some [] => terminated
  | some l => terminated ++ [l]

/-- Decimal rendering of a natural number, as `format!("{n}")` gives it. -/
def ofNat (n : Nat) : Str := Nat.toDigits 10 n

/-- Value of a nonempty run of ASCII digits. -/
def parseDigits (s : Str) : Option Nat :=
  if s.isEmpty || !s.all Char.isDigit then none
  else some (s.foldl (fun acc c ↦ acc * 10 + (c.toNat - 48)) 0)

/-- `str::parse::<u64>`: an optional plus sign, digits, and a value in range. -/
def parseU64 (s : Str) : Option Nat :=
  let body := if s.head? = some '+' then s.tail else s
  (parseDigits body).bind fun n ↦ if n < 2 ^ 64 then some n else none

/-- `str::parse::<i64>`: an optional sign, digits, and a value in range. -/
def parseI64 (s : Str) : Option Int :=
  let negative := s.head? = some '-'
  let body := if s.head? = some '-' ∨ s.head? = some '+' then s.tail else s
  (parseDigits body).bind fun n ↦
    if negative then (if n ≤ 2 ^ 63 then some (-(n : Int)) else none)
    else if n < 2 ^ 63 then some (n : Int) else none

theorem trim_cons {c : Char} (s : Str) (hc : isWhitespace c = true) : trim (c :: s) = trim s := by
  rw [trim, List.dropWhile_cons_of_pos hc, trim]

theorem trim_concat {c : Char} (s : Str) (hc : isWhitespace c = true) :
    trim (s ++ [c]) = trim s := by
  unfold trim
  rw [List.dropWhile_append]
  split
  · next h =>
    rw [List.isEmpty_iff.mp h, List.dropWhile_cons_of_pos hc]
    rfl
  · rw [List.rdropWhile_concat_pos _ _ _ hc]

/-- White space around a text is trimmed. -/
theorem trim_padded {pre post : Str} (s : Str) (hpre : ∀ c ∈ pre, isWhitespace c = true)
    (hpost : ∀ c ∈ post, isWhitespace c = true) : trim (pre ++ s ++ post) = trim s := by
  induction post using List.reverseRecOn with
  | nil =>
    rw [List.append_nil]
    induction pre with
    | nil => rfl
    | cons c pre ih =>
      rw [List.cons_append, trim_cons _ (hpre c List.mem_cons_self)]
      exact ih fun d hd ↦ hpre d (List.mem_cons_of_mem _ hd)
  | append_singleton post c ih =>
    rw [← List.append_assoc, trim_concat _ (hpost c (by simp))]
    exact ih fun d hd ↦ hpost d (List.mem_append_left _ hd)

theorem splitOnce_char {c : Char} {s : Str} (t : Str) (hs : c ∉ s) :
    splitOnce [c] (s ++ c :: t) = some (s, t) := by
  induction s with
  | nil => simp [splitOnce, breakOn]
  | cons d s ih =>
    have hd : c ≠ d := fun h ↦ hs (h ▸ List.mem_cons_self)
    have hrest := ih fun h ↦ hs (List.mem_cons_of_mem _ h)
    unfold splitOnce at hrest ⊢
    obtain ⟨p, hp, hpair⟩ := Option.map_eq_some_iff.mp hrest
    obtain ⟨hfst, hsnd⟩ := Prod.mk.inj hpair
    have hprefix : ¬ List.isPrefixOf [c] (d :: (s ++ c :: t)) = true := by simpa using hd
    rw [List.cons_append, breakOn, if_neg hprefix, hp]
    simp only [Option.map_some, hfst, hsnd]

theorem toNat_toLower (c : Char) :
    c.toLower.toNat = if 65 ≤ c.toNat ∧ c.toNat ≤ 90 then c.toNat + 32 else c.toNat := by
  unfold Char.toLower
  split
  · next h =>
    have h1 : 65 ≤ c.toNat ∧ c.toNat ≤ 90 := h
    rw [if_pos h1]
    show (c.val + ('a'.val - 'A'.val)).toNat = _
    have hc : c.val.toNat = c.toNat := rfl
    rw [UInt32.toNat_add, hc]
    have h2 : ('a'.val - 'A'.val).toNat = 32 := rfl
    rw [h2]
    omega
  · next h =>
    have h1 : ¬ (65 ≤ c.toNat ∧ c.toNat ≤ 90) := h
    rw [if_neg h1]

theorem toLower_toLower (c : Char) : c.toLower.toLower = c.toLower := by
  apply Char.toNat_inj.mp
  rw [toNat_toLower c.toLower, toNat_toLower c]
  split
  · next h => rw [if_neg (by omega)]
  · rfl

/-- A character below the letters is the lowercase of itself only. -/
theorem toLower_eq_iff {c d : Char} (hd : d.toNat < 65) : c.toLower = d ↔ c = d := by
  rw [← Char.toNat_inj, ← Char.toNat_inj, toNat_toLower]
  split <;> omega

theorem isWhitespace_toLower (c : Char) : isWhitespace c.toLower = isWhitespace c := by
  rw [Bool.eq_iff_iff]
  simp only [isWhitespace, Bool.or_eq_true, Bool.and_eq_true, decide_eq_true_eq, beq_iff_eq,
    toNat_toLower]
  split <;> omega

/-- Folding twice is folding once. -/
theorem toAsciiLowercase_idem (s : Str) :
    toAsciiLowercase (toAsciiLowercase s) = toAsciiLowercase s := by
  rw [toAsciiLowercase, toAsciiLowercase, List.map_map]
  exact List.map_congr_left fun c _ ↦ toLower_toLower c

/-- A part of a folded text is folded. -/
theorem toAsciiLowercase_of_suffix {s t : Str} (h : s <:+ toAsciiLowercase t) :
    toAsciiLowercase s = s := by
  obtain ⟨u, hu⟩ := h
  have hfold := toAsciiLowercase_idem t
  rw [← hu, toAsciiLowercase, List.map_append] at hfold
  exact (List.append_inj hfold (by simp)).2

/-- An occurrence splits the text around the needle. -/
theorem contains_iff {needle s : Str} : contains needle s = true ↔ needle <:+: s := by
  induction s with
  | nil =>
    cases needle with
    | nil => simp [contains, breakOn]
    | cons c cs => simp [contains, breakOn]
  | cons c cs ih =>
    rw [List.infix_cons_iff, ← ih, ← List.isPrefixOf_iff_prefix]
    unfold contains
    rw [breakOn]
    by_cases hpre : needle.isPrefixOf (c :: cs) = true
    · simp [hpre]
    · simp [hpre]

/-- A needle without the separator does not cross it. -/
theorem contains_append_cons {needle s t : Str} {sep : Char} (hsep : sep ∉ needle) :
    contains needle (s ++ sep :: t) = (contains needle s || contains needle t) := by
  rw [Bool.eq_iff_iff, Bool.or_eq_true, contains_iff, contains_iff, contains_iff]
  constructor
  · rintro ⟨pre, post, h⟩
    rw [List.append_assoc] at h
    rcases List.append_eq_append_iff.mp h with ⟨a, rfl, ha⟩ | ⟨a, rfl, ha⟩
    · -- the needle starts within the first part
      rcases List.append_eq_append_iff.mp ha with ⟨b, rfl, -⟩ | ⟨b, rfl, hb⟩
      · exact .inl ⟨pre, b, by simp⟩
      · cases b with
        | nil => exact .inl ⟨pre, [], by simp⟩
        | cons c b =>
          rw [List.cons_append, List.cons.injEq] at hb
          exact absurd (by simp [hb.1]) hsep
    · cases a with
      | nil =>
        cases needle with
        | nil => exact .inl ⟨[], s, by simp⟩
        | cons c cs =>
          rw [List.nil_append, List.cons_append, List.cons.injEq] at ha
          exact absurd (by simp [ha.1]) hsep
      | cons c a =>
        rw [List.cons_append, List.cons.injEq] at ha
        exact .inr ⟨a, post, by rw [List.append_assoc, ha.2]⟩
  · rintro (h | h)
    · exact h.trans (List.prefix_append s (sep :: t)).isInfix
    · exact h.trans ((List.suffix_cons sep t).trans (List.suffix_append s (sep :: t))).isInfix

/-- Repetitions of a separator after a text hold no needle without it. -/
theorem contains_append_replicate {needle s : Str} {sep : Char} (hsep : sep ∉ needle)
    (hne : needle ≠ []) (n : Nat) :
    contains needle (s ++ List.replicate n sep) = contains needle s := by
  induction n generalizing s with
  | zero => rw [List.replicate_zero, List.append_nil]
  | succ n ih =>
    have hnil : contains needle [] = false := by
      cases needle with
      | nil => exact absurd rfl hne
      | cons c cs => rfl
    have htail : contains needle (List.replicate n sep) = false := by
      rw [← List.nil_append (List.replicate n sep), ih, hnil]
    rw [List.replicate_succ, contains_append_cons hsep, htail, Bool.or_false]

/-- The byte offset falls between two characters, or at an end of the text;
`str::is_char_boundary`. -/
def IsCharBoundary (offset : Nat) (s : Str) : Prop := ∃ a b, s = a ++ b ∧ len a = offset

end Str
end CrwShield.Base
