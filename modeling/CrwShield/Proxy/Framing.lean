import CrwShield.Proxy.Request

/-!
# What reaches the upstream server

Requests as a client writes them, read by `src/tls-proxy/main.go` from a stream cut into reads
anywhere. A reader finds every request whatever the cuts; what the cuts decide is whether bytes of
the next one are in a buffer that is given up.
-/

open CrwShield.Base CrwShield.Base.Bytes

namespace CrwShield.Proxy

/-- A chunk: its size in hexadecimal digits, and its bytes. -/
structure Chunk where
  size : Bytes
  data : Bytes
  deriving DecidableEq

/-- A chunk states its size, which is not zero. -/
structure Chunk.WellFormed (c : Chunk) : Prop where
  size : parseHexUint c.size = some c.data.length
  data : c.data ≠ []

/-- A chunk as it is written. -/
def Chunk.text (c : Chunk) : Bytes := c.size ++ crlf ++ c.data ++ crlf

/-- How a request delimits its body, with the spelling of the field that says so. -/
inductive Framing where
  | none
  | length (key body : Bytes)
  | chunked (key : Bytes) (chunks : List Chunk)
  deriving DecidableEq

namespace Framing

/-- The body. -/
def body : Framing → Bytes
  | .none => []
  | .length _ body => body
  | .chunked _ chunks => chunks.flatMap Chunk.data

/-- The field that announces the body. -/
def fields : Framing → List Field
  | .none => []
  | .length key body => [⟨key, ofNat body.length⟩]
  | .chunked key _ => [⟨key, ascii "chunked"⟩]

/-- The body as it is written. -/
def text : Framing → Bytes
  | .none => []
  | .length _ body => body
  | .chunked _ chunks => chunks.flatMap Chunk.text ++ (ascii "0" ++ crlf ++ crlf)

/-- A field of the right name, and a body that it describes; a length fits the `int64` of
`net/http`. -/
def WellFormed : Framing → Prop
  | .none => True
  | .length key body => canonicalHeaderKey key = ascii "Content-Length" ∧ body.length < 2 ^ 63
  | .chunked key chunks =>
    canonicalHeaderKey key = ascii "Transfer-Encoding" ∧ ∀ c ∈ chunks, c.WellFormed

end Framing

/-- A request of a client. -/
structure Request where
  method : Bytes
  target : Bytes
  before : List Field
  framing : Framing
  after : List Field
  deriving DecidableEq

namespace Request

/-- Its fields. -/
def fields (q : Request) : List Field := q.before ++ q.framing.fields ++ q.after

/-- Its request line. -/
def line (method target : Bytes) : Bytes :=
  method ++ ascii " " ++ target ++ ascii " HTTP/1.1" ++ crlf

/-- Request line and header. -/
def head (q : Request) : Bytes := line q.method q.target ++ headerText q.fields

/-- The request as it is written. -/
def text (q : Request) : Bytes := q.head ++ q.framing.text

/-- Whether it is the last one that the client sends. -/
def closes (q : Request) : Bool :=
  equalFold ((valuesOf "Connection" (q.fields.map Field.canonical)).headD []) "close"

/-- The request that should be issued upstream for it. -/
def upstream (origin : Bytes) (q : Request) : Upstream :=
  ⟨q.method, origin ++ q.target, q.framing.body⟩

/-- A request that HTTP allows. -/
structure WellFormed (q : Request) : Prop where
  method_ne_nil : q.method ≠ []
  method_token : q.method.all isTokenByte = true
  target_bytes : ∀ b ∈ q.target, 32 < b
  fields : ∀ f ∈ q.fields, f.WellFormed
  framing : q.framing.WellFormed
  others : ∀ f ∈ q.before ++ q.after, canonicalHeaderKey f.name ≠ ascii "Content-Length" ∧
    canonicalHeaderKey f.name ≠ ascii "Transfer-Encoding"

end Request

/-! ## Reading one request -/

section Read

variable {q : Request} {r : Reader} {rest : Bytes}

theorem parseRequestLine_line {method target : Bytes} (hmethod : method.all isTokenByte = true)
    (htarget : ∀ b ∈ target, 32 < b) :
    ∃ line, Request.line method target = line ++ [10] ∧ 10 ∉ line ∧
      dropLineEnd (line ++ [10]) = trimLineEnd (line ++ [10]) ∧
      parseRequestLine (dropLineEnd (line ++ [10])) = some (method, target, ascii "HTTP/1.1") := by
  have hspace : ascii " " = [32] ∧ ascii " HTTP/1.1" = 32 :: ascii "HTTP/1.1" := by decide
  have hm : ∀ b ∈ method, b ≠ 32 ∧ b ≠ 10 := by
    intro b hb
    have htoken := not_lineEnd_of_tokenByte (List.all_eq_true.mp hmethod b hb)
    refine ⟨?_, htoken.1⟩
    rintro rfl
    exact absurd htoken.2.2.2 (by decide)
  have ht : ∀ b ∈ target, b ≠ 32 ∧ b ≠ 10 := by
    intro b hb
    have hgt := htarget b hb
    constructor <;> rintro rfl <;> exact absurd hgt (by decide)
  refine ⟨method ++ 32 :: (target ++ 32 :: ascii "HTTP/1.1") ++ [13], ?_, ?_, ?_, ?_⟩
  · simp [Request.line, hspace, crlf]
  · have hversion : 10 ∉ ascii "HTTP/1.1" := by decide
    have hm10 : 10 ∉ method := fun hmem ↦ (hm 10 hmem).2 rfl
    have ht10 : 10 ∉ target := fun hmem ↦ (ht 10 hmem).2 rfl
    simp [hm10, ht10, hversion]
  · have hlast : (method ++ 32 :: (target ++ 32 :: ascii "HTTP/1.1")).getLast? = some 49 := by
      have hascii : ascii "HTTP/1.1" = ascii "HTTP/1." ++ [49] := by decide
      simp [hascii, List.getLast?_append, List.getLast?_cons]
    rw [dropLineEnd_crlf, trimLineEnd, List.append_assoc, rdropWhile_append]
    · rw [hlast]
      rintro _ ⟨⟩
      decide
    · exact List.all_eq_true.mp rfl
  · rw [dropLineEnd_crlf, parseRequestLine, cut_append fun hmem ↦ (hm 32 hmem).1 rfl]
    dsimp only
    rw [cut_append fun hmem ↦ (ht 32 hmem).1 rfl, Option.map_some]

theorem hexDigits_of_parseHexUint {s : Bytes} {n : Nat} (h : parseHexUint s = some n) :
    s ≠ [] ∧ ∀ b ∈ s, (hexDigit b).isSome := by
  have hall : ∀ (s : Bytes) (acc : Nat),
      s.foldlM (fun acc b ↦ (hexDigit b).map fun d ↦ acc * 16 + d) acc = some n →
        ∀ b ∈ s, (hexDigit b).isSome := by
    intro s
    induction s with
    | nil => simp
    | cons b s ih =>
      intro acc h
      obtain ⟨acc', hb, hs⟩ := Option.bind_eq_some_iff.mp (List.foldlM_cons.symm.trans h)
      obtain ⟨d, hd, -⟩ := Option.map_eq_some_iff.mp hb
      exact List.forall_mem_cons.mpr ⟨by simp [hd], ih acc' hs⟩
  unfold parseHexUint at h
  split at h
  next => exact absurd h (by simp)
  next =>
    unfold parseDigits at h
    split at h
    next => exact absurd h (by simp)
    next hne => exact ⟨by simpa using hne, hall s 0 h⟩

/-- A chunk's size stands alone on its line. -/
theorem Chunk.WellFormed.size_line {c : Chunk} (h : c.WellFormed) :
    10 ∉ c.size ++ [13] ∧ 59 ∉ c.size ∧
      (c.size ++ [13] ++ [10]).rdropWhile (fun b ↦ b == 32 || b == 9 || b == 10 || b == 13) =
        c.size := by
  obtain ⟨hne, hhex⟩ := hexDigits_of_parseHexUint h.size
  have hnot : ∀ x : UInt8, hexDigit x = none → x ∉ c.size := by
    intro x hx hmem
    have hsome := hhex x hmem
    rw [hx] at hsome
    exact absurd hsome (by simp)
  have h10 := hnot 10 (by decide)
  refine ⟨by simp [h10], hnot 59 (by decide), ?_⟩
  rw [List.append_assoc]
  refine rdropWhile_append (fun b hb ↦ ?_) (List.all_eq_true.mp rfl)
  have hmem : b ∈ c.size := List.mem_of_getLast? hb
  have hb : ∀ x : UInt8, hexDigit x = none → b ≠ x := fun x hx heq ↦ hnot x hx (heq ▸ hmem)
  simp [hb 32 (by decide), hb 9 (by decide), hb 10 (by decide), hb 13 (by decide)]

theorem readChunks_eq {chunks : List Chunk} (h : ∀ c ∈ chunks, c.WellFormed) {fuel : Nat}
    (hfuel : chunks.length < fuel) (body : Bytes)
    (hcontent : r.content = chunks.flatMap Chunk.text ++ (ascii "0" ++ crlf ++ crlf) ++ rest) :
    ∃ r', readChunks fuel body r = some (body ++ chunks.flatMap Chunk.data, r') ∧
      r.Consumes (chunks.flatMap Chunk.text ++ (ascii "0" ++ crlf ++ crlf)) r' := by
  obtain ⟨fuel, rfl⟩ := Nat.exists_eq_succ_of_ne_zero (Nat.ne_of_gt (Nat.zero_lt_of_lt hfuel))
  induction chunks generalizing fuel body r with
  | nil =>
    have hzero : ascii "0" = [48] := by decide
    have hlast : r.content = [48, 13] ++ [10] ++ (headerText [] ++ rest) := by
      rw [hcontent]
      simp [hzero, crlf, headerText]
    obtain ⟨r₁, hline, htaken⟩ := Reader.readString_eq (by decide) hlast
    have hrest := List.append_cancel_left (htaken.content.symm.trans hlast)
    obtain ⟨r', hread, htaken'⟩ := @readFields_eq [] _ (by simp) _ hrest
    have htext : ([] : List Chunk).flatMap Chunk.text ++ (ascii "0" ++ crlf ++ crlf) =
        [48, 13] ++ [10] ++ headerText [] := by decide
    refine ⟨r', ?_, htext ▸ htaken.trans htaken'⟩
    have hparse : parseHexUint (((cut 59 (([48, 13] ++ [10] : Bytes).rdropWhile fun b ↦
        b == 32 || b == 9 || b == 10 || b == 13)).map Prod.fst).getD
          (([48, 13] ++ [10] : Bytes).rdropWhile fun b ↦
            b == 32 || b == 9 || b == 10 || b == 13)) = some 0 := by decide
    simp only [readChunks, hline, hparse, hread, Option.map_some, List.flatMap_nil, List.append_nil]
  | cons c chunks ih =>
    have hc := h c List.mem_cons_self
    obtain ⟨hnoend, hnosemi, hsize⟩ := hc.size_line
    have htext : (c :: chunks).flatMap Chunk.text ++ (ascii "0" ++ crlf ++ crlf) =
        c.size ++ [13] ++ [10] ++ (c.data ++ (crlf ++
          (chunks.flatMap Chunk.text ++ (ascii "0" ++ crlf ++ crlf)))) := by
      simp [Chunk.text, crlf]
    rw [htext, List.append_assoc] at hcontent
    obtain ⟨r₁, hline, htaken₁⟩ := Reader.readString_eq hnoend hcontent
    have hrest₁ := List.append_cancel_left (htaken₁.content.symm.trans hcontent)
    rw [List.append_assoc] at hrest₁
    obtain ⟨r₂, hdata, htaken₂⟩ := Reader.readFull_eq hrest₁
    have hrest₂ := List.append_cancel_left (htaken₂.content.symm.trans hrest₁)
    rw [List.append_assoc] at hrest₂
    obtain ⟨r₃, hend, htaken₃⟩ := Reader.readFull_eq hrest₂
    have hrest₃ := List.append_cancel_left (htaken₃.content.symm.trans hrest₂)
    have hlength := hfuel
    rw [List.length_cons] at hlength
    obtain ⟨fuel, rfl⟩ := Nat.exists_eq_succ_of_ne_zero (show fuel ≠ 0 by omega)
    obtain ⟨r', hchunks, htaken₄⟩ := ih (fun d hd ↦ h d (List.mem_cons_of_mem c hd))
      (body ++ c.data) hrest₃ fuel (by omega)
    refine ⟨r', ?_, ?_⟩
    · obtain ⟨n, hn⟩ : ∃ n, c.data.length = n + 1 :=
        Nat.exists_eq_succ_of_ne_zero fun hzero ↦ hc.data (List.eq_nil_of_length_eq_zero hzero)
      have hparse := hc.size
      have hcrlf : crlf.length = 2 := rfl
      rw [hn] at hparse hdata
      rw [hcrlf] at hend
      rw [readChunks, List.flatMap_cons, ← List.append_assoc]
      simp only [hline, hsize, cut_eq_none hnosemi, Option.map_none, Option.getD_none, hparse,
        hdata, hend, hchunks, if_true]
    · rw [htext]
      exact htaken₁.trans (htaken₂.trans (htaken₃.trans htaken₄))

theorem valuesOf_framing (h : q.WellFormed) {key : Bytes}
    (hkey : key = ascii "Content-Length" ∨ key = ascii "Transfer-Encoding") :
    valuesOf key (q.fields.map Field.canonical) =
      valuesOf key (q.framing.fields.map Field.canonical) := by
  have hothers : ∀ fields : List Field, (∀ f ∈ fields, f ∈ q.before ++ q.after) →
      valuesOf key (fields.map Field.canonical) = [] := by
    intro fields hfields
    unfold valuesOf
    rw [List.map_eq_nil_iff, List.filter_eq_nil_iff]
    intro f hf hname
    obtain ⟨g, hg, rfl⟩ := List.mem_map.mp hf
    have hname : canonicalHeaderKey g.name = key := of_decide_eq_true hname
    obtain ⟨hlength, hcoding⟩ := h.others g (hfields g hg)
    rcases hkey with rfl | rfl
    · exact hlength hname
    · exact hcoding hname
  rw [Request.fields, List.map_append, List.map_append, valuesOf_append, valuesOf_append,
    hothers q.before (fun f hf ↦ List.mem_append_left _ hf),
    hothers q.after (fun f hf ↦ List.mem_append_right _ hf), List.nil_append, List.append_nil]

theorem length_le_text (chunks : List Chunk) :
    chunks.length ≤ (chunks.flatMap Chunk.text).length := by
  induction chunks with
  | nil => exact Nat.le_refl 0
  | cons c chunks ih =>
    have hc : 1 ≤ c.text.length := by
      simp only [Chunk.text, crlf, List.length_append, List.length_cons, List.length_nil]
      omega
    rw [List.flatMap_cons, List.length_append, List.length_cons]
    omega

/-- The header of a request gives its body, and takes its own bytes off the stream. -/
theorem readTransfer_eq (h : q.WellFormed) (hcontent : r.content = q.framing.text ++ rest) :
    ∃ r', readTransfer (q.fields.map Field.canonical) r = some (q.framing.body, r') ∧
      r.Consumes q.framing.text r' := by
  have hlength := valuesOf_framing h (.inl rfl)
  have hcoding := valuesOf_framing h (.inr rfl)
  have hwf := h.framing
  have hkeys : ascii "Content-Length" ≠ ascii "Transfer-Encoding" := by decide
  cases hframing : q.framing with
  | none =>
    have hnone : ∀ key, valuesOf key (Framing.none.fields.map Field.canonical) = [] := fun _ ↦ rfl
    rw [hframing, hnone] at hlength hcoding
    refine ⟨r, ?_, .refl r⟩
    simp [readTransfer, announcedLength, hlength, hcoding, Framing.body]
  | length key body =>
    rw [hframing] at hlength hcoding hwf hcontent
    obtain ⟨r', hfull, htaken⟩ := Reader.readFull_eq hcontent
    refine ⟨r', ?_, htaken⟩
    have hvalue : valuesOf "Content-Length" (q.fields.map Field.canonical) =
        [ofNat body.length] := by
      rw [hlength]
      simp [Framing.fields, Field.canonical, valuesOf, hwf.1]
    have hnone : valuesOf "Transfer-Encoding" (q.fields.map Field.canonical) = [] := by
      rw [hcoding]
      simp [Framing.fields, Field.canonical, valuesOf, hwf.1, hkeys]
    have hannounced : announcedLength (q.fields.map Field.canonical) = some (some body.length) := by
      simp [announcedLength, hvalue, parseDecimal_ofNat]
    rw [readTransfer, hnone, hannounced]
    exact (if_pos hwf.2).trans hfull
  | chunked key chunks =>
    rw [hframing] at hlength hcoding hwf hcontent
    have hbound := length_le_text chunks
    obtain ⟨r', hchunks, htaken⟩ := @readChunks_eq r rest chunks hwf.2 (r.content.length + 1) (by
      rw [hcontent, Framing.text, List.length_append, List.length_append]
      omega) [] hcontent
    refine ⟨r', ?_, htaken⟩
    have hvalue : valuesOf "Transfer-Encoding" (q.fields.map Field.canonical) =
        [ascii "chunked"] := by
      rw [hcoding]
      simp [Framing.fields, Field.canonical, valuesOf, hwf.1]
    have hfold : equalFold (ascii "chunked") (ascii "chunked") = true := by decide
    rw [readTransfer, hvalue]
    exact (if_pos hfold).trans hchunks

/-- A reader gives a request, whatever follows it and however it arrives. -/
theorem readRequest_eq {env : ProxyEnv} (h : q.WellFormed)
    (huri : env.requestURI q.target = some q.target) (hcontent : r.content = q.text ++ rest) :
    ∃ r', readRequest env r =
        some (⟨q.method, q.target, q.fields.map Field.canonical, q.framing.body⟩, r') ∧
      r.Consumes q.text r' := by
  obtain ⟨line, hline, hnoend, -, hparse⟩ := parseRequestLine_line h.method_token h.target_bytes
  have htext : q.text = line ++ [10] ++ (headerText q.fields ++ q.framing.text) := by
    rw [Request.text, Request.head, hline, List.append_assoc]
  rw [htext, List.append_assoc] at hcontent
  obtain ⟨r₁, hread, htaken₁⟩ := Reader.readString_eq hnoend hcontent
  have hrest₁ := List.append_cancel_left (htaken₁.content.symm.trans hcontent)
  rw [List.append_assoc] at hrest₁
  obtain ⟨r₂, hfields, htaken₂⟩ := readFields_eq h.fields hrest₁
  have hrest₂ := List.append_cancel_left (htaken₂.content.symm.trans hrest₁)
  obtain ⟨r', hbody, htaken₃⟩ := readTransfer_eq h hrest₂
  refine ⟨r', ?_, htext ▸ htaken₁.trans (htaken₂.trans htaken₃)⟩
  have hok : (q.method.isEmpty || !q.method.all isTokenByte ||
      ascii "HTTP/1.1" != ascii "HTTP/1.1") = false := by
    rw [h.method_token]
    simpa using h.method_ne_nil
  simp only [readRequest, hread, hparse, hok, huri, hfields, hbody, Bool.false_eq_true, if_false,
    Option.map_some]

theorem isSpace_of_valueByte {b : UInt8} (h : isValueByte b = true) : isSpace b = isBlank b := by
  rw [Bool.eq_iff_iff]
  simp only [isValueByte, isSpace, isBlank, Bool.or_eq_true, Bool.and_eq_true, beq_iff_eq,
    decide_eq_true_eq, bne_iff_ne, UInt8.le_iff_toNat_le, ← UInt8.toNat_inj] at h ⊢
  simp only [UInt8.reduceToNat] at h ⊢
  omega

theorem isSpace_of_tokenByte {b : UInt8} (h : isTokenByte b = true) : isSpace b = false := by
  by_contra hspace
  have hcases : b = 32 ∨ b = 9 ∨ b = 10 ∨ b = 11 ∨ b = 12 ∨ b = 13 := by
    simp only [isSpace, Bool.or_eq_false_iff, Bool.and_eq_false_iff, beq_eq_false_iff_ne,
      decide_eq_false_iff_not, UInt8.le_iff_toNat_le, ← UInt8.toNat_inj, ne_eq] at hspace ⊢
    simp only [UInt8.reduceToNat] at hspace ⊢
    omega
  rcases hcases with rfl | rfl | rfl | rfl | rfl | rfl <;> exact absurd h (by decide)

theorem dropWhile_congr {p q : UInt8 → Bool} {s : Bytes} (h : ∀ b ∈ s, p b = q b) :
    s.dropWhile p = s.dropWhile q := by
  induction s with
  | nil => rfl
  | cons b s ih =>
    rw [List.dropWhile_cons, List.dropWhile_cons, h b List.mem_cons_self,
      ih fun c hc ↦ h c (List.mem_cons_of_mem b hc)]

/-- The two ways of trimming a field value agree. -/
theorem trimSpace_eq {s : Bytes} (hbytes : s.all isValueByte = true) (htrim : trimBlanks s = s) :
    trimSpace (32 :: s) = s := by
  have hsame : ∀ b ∈ s, isSpace b = isBlank b := fun b hb ↦
    isSpace_of_valueByte (List.all_eq_true.mp hbytes b hb)
  have hspace : isSpace 32 = true := by decide
  have hsub : ∀ b ∈ (s.dropWhile isBlank).reverse, isSpace b = isBlank b := fun b hb ↦
    hsame b ((List.dropWhile_sublist isBlank).subset (List.mem_reverse.mp hb))
  rw [trimSpace, List.dropWhile_cons_of_pos hspace, dropWhile_congr hsame, List.rdropWhile,
    dropWhile_congr hsub]
  exact htrim

theorem trimLineEnd_field {f : Field} (h : f.WellFormed) :
    ∃ line, f.line = line ++ [10] ∧ 10 ∉ line ∧
      trimLineEnd (line ++ [10]) = f.name ++ 58 :: 32 :: f.value := by
  refine ⟨f.name ++ 58 :: 32 :: f.value ++ [13], ?_, ?_, ?_⟩
  · simp [Field.line, crlf, ascii]
  · have hname : 10 ∉ f.name := fun hmem ↦
      (not_lineEnd_of_tokenByte (List.all_eq_true.mp h.name_token _ hmem)).1 rfl
    have hvalue : 10 ∉ f.value := fun hmem ↦
      (not_lineEnd_of_valueByte (List.all_eq_true.mp h.value_bytes _ hmem)).1 rfl
    simp [hname, hvalue]
  · rw [trimLineEnd, List.append_assoc]
    refine rdropWhile_append (fun b hb ↦ ?_) (List.all_eq_true.mp rfl)
    have hmem : b ∈ 32 :: f.value := by
      rw [List.getLast?_append_of_ne_nil _ (by simp), List.getLast?_cons_cons] at hb
      exact List.mem_of_getLast? hb
    rcases List.mem_cons.mp hmem with rfl | hmem
    · decide
    · have hvalue := not_lineEnd_of_valueByte (List.all_eq_true.mp h.value_bytes b hmem)
      simp [hvalue]

/-- The header lines of the first head read back to their fields, too. -/
theorem readHeaderLines_eq {fields : List Field} (hfields : ∀ f ∈ fields, f.WellFormed)
    {fuel : Nat} (hfuel : fields.length < fuel) (hdr : List Field)
    (hcontent : r.content = headerText fields ++ rest) :
    ∃ r', readHeaderLines fuel hdr r = some (hdr ++ fields.map Field.canonical, r') ∧
      r.Consumes (headerText fields) r' := by
  obtain ⟨fuel, rfl⟩ := Nat.exists_eq_succ_of_ne_zero (Nat.ne_of_gt (Nat.zero_lt_of_lt hfuel))
  induction fields generalizing r hdr fuel with
  | nil =>
    obtain ⟨r', hline, htaken⟩ := @Reader.readString_eq r [13] rest (by decide) hcontent
    have htrim : trimLineEnd ([13] ++ [10]) = [] := by decide
    refine ⟨r', ?_, htaken⟩
    simp only [readHeaderLines, hline, htrim, List.map_nil, List.append_nil]
  | cons f fields ih =>
    have hf := hfields f List.mem_cons_self
    obtain ⟨line, hline, hnoend, htrim⟩ := trimLineEnd_field hf
    have htext : headerText (f :: fields) = line ++ [10] ++ headerText fields := by
      simp [headerText, hline]
    rw [htext, List.append_assoc] at hcontent
    obtain ⟨r₁, hread, htaken⟩ := Reader.readString_eq hnoend hcontent
    have hrest := List.append_cancel_left (htaken.content.symm.trans hcontent)
    have hlength := hfuel
    rw [List.length_cons] at hlength
    obtain ⟨fuel, rfl⟩ := Nat.exists_eq_succ_of_ne_zero (show fuel ≠ 0 by omega)
    obtain ⟨r', hlines, htaken'⟩ := ih (fun g hg ↦ hfields g (List.mem_cons_of_mem f hg))
      (hdr ++ [f.canonical]) hrest fuel (by omega)
    refine ⟨r', ?_, htext ▸ htaken.trans htaken'⟩
    have hname : trimSpace f.name = f.name := trim_eq_self fun b hb ↦
      isSpace_of_tokenByte (List.all_eq_true.mp hf.name_token b hb)
    have hfield : (⟨canonicalHeaderKey (trimSpace f.name), trimSpace (32 :: f.value)⟩ : Field) =
        f.canonical := by
      rw [hname, trimSpace_eq hf.value_bytes hf.value_trimmed, Field.canonical]
    obtain ⟨b, bs, hbytes⟩ := List.exists_cons_of_ne_nil hf.name_ne_nil
    have hcut := hf.cut_eq
    rw [readHeaderLines]
    rw [hbytes, List.cons_append] at htrim hcut
    simp only [hread, htrim, hcut]
    rw [← hbytes, hfield, hlines]
    simp

end Read

end CrwShield.Proxy
