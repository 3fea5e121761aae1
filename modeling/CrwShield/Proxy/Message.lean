import CrwShield.Base.Bufio

/-!
# Header sections

Header fields of HTTP/1.1 messages as they stand on the wire, and the parts of Go's `net/http` and
`net/textproto` that the sidecar `src/tls-proxy/main.go` reads and names them with.
-/

open CrwShield.Base CrwShield.Base.Bytes

namespace CrwShield.Proxy

/-- A header field. -/
structure Field where
  name : Bytes
  value : Bytes
  deriving DecidableEq

/-- Bytes of a `token`. -/
def isTokenByte (b : UInt8) : Bool :=
  (48 ≤ b && b ≤ 57) || (65 ≤ b && b ≤ 90) || (97 ≤ b && b ≤ 122) ||
    (ascii "!#$%&'*+-.^_\x60|~").contains b

/-- Bytes of a field value. -/
def isValueByte (b : UInt8) : Bool := b == 9 || (32 ≤ b && b != 127)

/-- Blanks around a field value. -/
def isBlank (b : UInt8) : Bool := b == 32 || b == 9

/-- A field value without the blanks around it. -/
def trimBlanks (s : Bytes) : Bytes := (s.dropWhile isBlank).rdropWhile isBlank

/-- A field that HTTP allows: a token, and a value without line ends or blanks around it. -/
structure Field.WellFormed (f : Field) : Prop where
  name_ne_nil : f.name ≠ []
  name_token : f.name.all isTokenByte = true
  value_bytes : f.value.all isValueByte = true
  value_trimmed : trimBlanks f.value = f.value

/-- Letter case of a canonical key, `up` at the start of a word. -/
def canonicalBytes : Bool → Bytes → Bytes
  | _, [] => []
  | up, b :: bs => (if up then upper b else lower b) :: canonicalBytes (b == 45) bs

/-- `http.CanonicalHeaderKey`; a key that is no token stays as it is. -/
def canonicalHeaderKey (k : Bytes) : Bytes :=
  if k.all isTokenByte then canonicalBytes true k else k

/-- A field as it is written. -/
def Field.line (f : Field) : Bytes := f.name ++ ascii ": " ++ f.value ++ crlf

/-- A header section as it is written, with the empty line after it. -/
def headerText (fields : List Field) : Bytes := fields.flatMap Field.line ++ crlf

/-- A line without its line end; `textproto.Reader.ReadLine`. -/
def dropLineEnd (line : Bytes) : Bytes :=
  if line.dropLast.getLast? = some 13 then line.dropLast.dropLast else line.dropLast

/-- Fields up to the empty line, with `fuel` for their number. -/
def readFieldLines : Nat → List Field → Reader → Option (List Field × Reader)
  | 0, _, _ => none
  | fuel + 1, fields, r =>
    match r.readString with
    | none => none
    | some (line, r) =>
      match dropLineEnd line with
      | [] => some (fields, r)
      | b :: bs =>
        if isBlank b then
          -- a line that starts with a blank continues the value above
          match fields.getLast? with
          | none => none
          | some f =>
            let value := f.value ++ ascii " " ++ trimBlanks (b :: bs)
            readFieldLines fuel (fields.dropLast ++ [{ f with value := value }]) r
        else
          match cut 58 (b :: bs) with
          | none => none
          | some (k, v) =>
            if k.isEmpty || !k.all isTokenByte || !v.all isValueByte then none
            else readFieldLines fuel (fields ++ [⟨canonicalHeaderKey k, trimBlanks v⟩]) r

/-- `textproto.Reader.ReadMIMEHeader`, with the fields in their order. -/
def readFields (r : Reader) : Option (List Field × Reader) :=
  readFieldLines (r.content.length + 1) [] r

/-- Values of a key; `Header.Values`. -/
def valuesOf (key : Bytes) (fields : List Field) : List Bytes :=
  (fields.filter fun f ↦ f.name = key).map Field.value

/-- Length that the fields announce, if any; none of it where they contradict each other. -/
def announcedLength (fields : List Field) : Option (Option Nat) :=
  match valuesOf "Content-Length" fields with
  | [] => some none
  | v :: vs => if vs.all (· = v) then (parseDecimal v).map some else none

/-- Value of a hexadecimal digit. -/
def hexDigit (b : UInt8) : Option Nat :=
  if 48 ≤ b ∧ b ≤ 57 then some (b.toNat - 48)
  else if 97 ≤ b ∧ b ≤ 102 then some (b.toNat - 87)
  else if 65 ≤ b ∧ b ≤ 70 then some (b.toNat - 55)
  else none

/-- `parseHexUint` of `net/http/internal`. -/
def parseHexUint (s : Bytes) : Option Nat :=
  if 16 < s.length then none else parseDigits 16 hexDigit s

/-- Chunks up to the last one, with `fuel` for their number, and the trailer after it;
`chunkedReader` of `net/http/internal`. -/
def readChunks : Nat → Bytes → Reader → Option (Bytes × Reader)
  | 0, _, _ => none
  | fuel + 1, body, r =>
    match r.readString with
    | none => none
    | some (line, r) =>
      let line := line.rdropWhile fun b ↦ b == 32 || b == 9 || b == 10 || b == 13
      match parseHexUint (((cut 59 line).map Prod.fst).getD line) with
      | none => none
      | some 0 => (readFields r).map fun p ↦ (body, p.2)
      | some n =>
        match r.readFull n with
        | none => none
        | some (data, r) =>
          match r.readFull 2 with
          | none => none
          | some (lineEnd, r) =>
            if lineEnd = crlf then readChunks fuel (body ++ data) r else none

/-- A chunked body. -/
def readChunked (r : Reader) : Option (Bytes × Reader) := readChunks (r.content.length + 1) [] r

/-- A field under its canonical key. -/
def Field.canonical (f : Field) : Field := ⟨canonicalHeaderKey f.name, f.value⟩

theorem valuesOf_append (key : Bytes) (fields fields' : List Field) :
    valuesOf key (fields ++ fields') = valuesOf key fields ++ valuesOf key fields' := by
  simp [valuesOf]

theorem not_lineEnd_of_tokenByte {b : UInt8} (h : isTokenByte b = true) : b ≠ 10 ∧ b ≠ 13 ∧
    b ≠ 58 ∧ isBlank b = false := by
  refine ⟨?_, ?_, ?_, ?_⟩
  · rintro rfl
    exact absurd h (by decide)
  · rintro rfl
    exact absurd h (by decide)
  · rintro rfl
    exact absurd h (by decide)
  · rw [isBlank, Bool.or_eq_false_iff, beq_eq_false_iff_ne, beq_eq_false_iff_ne]
    refine ⟨?_, ?_⟩ <;> rintro rfl <;> exact absurd h (by decide)

theorem not_lineEnd_of_valueByte {b : UInt8} (h : isValueByte b = true) : b ≠ 10 ∧ b ≠ 13 := by
  constructor <;> rintro rfl <;> exact absurd h (by decide)

theorem dropLineEnd_crlf (s : Bytes) : dropLineEnd (s ++ [13] ++ [10]) = s := by
  simp [dropLineEnd]

theorem trimBlanks_space (s : Bytes) : trimBlanks (32 :: s) = trimBlanks s := by
  have hblank : isBlank 32 = true := by decide
  rw [trimBlanks, List.dropWhile_cons_of_pos hblank, trimBlanks]

section Read

variable {f : Field} {fields : List Field} {rest : Bytes}

theorem Field.WellFormed.line_eq (h : f.WellFormed) :
    ∃ line, f.line = line ++ [10] ∧ 10 ∉ line ∧ dropLineEnd (line ++ [10]) =
      f.name ++ 58 :: 32 :: f.value := by
  refine ⟨f.name ++ 58 :: 32 :: f.value ++ [13], ?_, ?_, dropLineEnd_crlf _⟩
  · simp [Field.line, crlf, ascii]
  · have hname : 10 ∉ f.name := fun hmem ↦
      (not_lineEnd_of_tokenByte (List.all_eq_true.mp h.name_token _ hmem)).1 rfl
    have hvalue : 10 ∉ f.value := fun hmem ↦
      (not_lineEnd_of_valueByte (List.all_eq_true.mp h.value_bytes _ hmem)).1 rfl
    simp [hname, hvalue]

theorem Field.WellFormed.cut_eq (h : f.WellFormed) :
    cut 58 (f.name ++ 58 :: 32 :: f.value) = some (f.name, 32 :: f.value) :=
  cut_append (fun hmem ↦
    (not_lineEnd_of_tokenByte (List.all_eq_true.mp h.name_token _ hmem)).2.2.1 rfl) _

theorem readFieldLines_eq (hfields : ∀ f ∈ fields, f.WellFormed) {r : Reader} {acc : List Field}
    {fuel : Nat} (hfuel : fields.length < fuel)
    (hcontent : r.content = headerText fields ++ rest) :
    ∃ r', readFieldLines fuel acc r = some (acc ++ fields.map Field.canonical, r') ∧
      r.Consumes (headerText fields) r' := by
  induction fields generalizing r acc fuel with
  | nil =>
    obtain ⟨fuel, rfl⟩ := Nat.exists_eq_succ_of_ne_zero (Nat.ne_of_gt hfuel)
    obtain ⟨r', hline, htaken⟩ := @Reader.readString_eq _ [13] _ (by decide) hcontent
    have hdrop : dropLineEnd ([13] ++ [10]) = [] := by decide
    refine ⟨r', ?_, htaken⟩
    simp only [readFieldLines, hline, hdrop, List.map_nil, List.append_nil]
  | cons f fields ih =>
    obtain ⟨fuel, rfl⟩ := Nat.exists_eq_succ_of_ne_zero (Nat.ne_of_gt (Nat.zero_lt_of_lt hfuel))
    have hf := hfields f List.mem_cons_self
    obtain ⟨line, hline, hnoend, hdrop⟩ := hf.line_eq
    have htext : headerText (f :: fields) = line ++ [10] ++ headerText fields := by
      simp [headerText, hline]
    rw [htext, List.append_assoc] at hcontent
    obtain ⟨r₁, hread, htaken⟩ := Reader.readString_eq hnoend hcontent
    have hrest : r₁.content = headerText fields ++ rest :=
      List.append_cancel_left (htaken.content.symm.trans hcontent)
    obtain ⟨r', hlines, htaken'⟩ := @ih (fun g hg ↦ hfields g (List.mem_cons_of_mem f hg)) _
      (acc ++ [f.canonical]) _ (Nat.lt_of_succ_lt_succ hfuel) hrest
    refine ⟨r', ?_, htext ▸ htaken.trans htaken'⟩
    obtain ⟨b, bs, hname⟩ := List.exists_cons_of_ne_nil hf.name_ne_nil
    have hcut := hf.cut_eq
    have hblank : isBlank b = false :=
      (not_lineEnd_of_tokenByte (List.all_eq_true.mp hf.name_token b (by simp [hname]))).2.2.2
    have hvalue : (32 :: f.value).all isValueByte = true := by
      rw [List.all_cons, hf.value_bytes]
      decide
    have hok : (f.name.isEmpty || !f.name.all isTokenByte || !(32 :: f.value).all isValueByte) =
        false := by
      rw [hf.name_token, hvalue]
      simpa using hf.name_ne_nil
    have hfield : (⟨canonicalHeaderKey f.name, trimBlanks (32 :: f.value)⟩ : Field) =
        f.canonical := by
      rw [trimBlanks_space, hf.value_trimmed, Field.canonical]
    simp only [readFieldLines, hread, hdrop]
    rw [hname] at hcut hok hfield ⊢
    simp only [List.cons_append] at hcut ⊢
    simp only [hblank, hcut, hok, hfield, hlines, Bool.false_eq_true, if_false, List.map_cons,
      List.append_assoc, List.singleton_append]

theorem length_lt_headerText (fields : List Field) :
    fields.length < (headerText fields).length := by
  induction fields with
  | nil => decide
  | cons f fields ih =>
    have htext : headerText (f :: fields) = f.line ++ headerText fields := by simp [headerText]
    have hline : 2 ≤ f.line.length := by
      simp only [Field.line, crlf, List.length_append, List.length_cons, List.length_nil]
      omega
    rw [htext, List.length_append, List.length_cons]
    omega

/-- A header section reads back to its fields, and takes its own bytes off the stream. -/
theorem readFields_eq (hfields : ∀ f ∈ fields, f.WellFormed) {r : Reader}
    (hcontent : r.content = headerText fields ++ rest) :
    ∃ r', readFields r = some (fields.map Field.canonical, r') ∧
      r.Consumes (headerText fields) r' := by
  have hlength := length_lt_headerText fields
  refine readFieldLines_eq hfields ?_ hcontent
  rw [hcontent, List.length_append]
  omega

end Read
end CrwShield.Proxy
