import CrwShield.Proxy.Message

/-!
# Responses on the tunnel

What the sidecar writes for an upstream response, `src/tls-proxy/main.go:434–467`, and what a client
of HTTP/1.1 reads back. Header fields come in the order in which the header map happens to be
walked.
-/

open CrwShield.Base CrwShield.Base.Bytes

namespace CrwShield.Proxy

/-- The texts of `http.StatusText`. -/
def statusTexts : List (Nat × String) :=
  [(100, "Continue"), (101, "Switching Protocols"), (102, "Processing"), (103, "Early Hints"),
    (200, "OK"), (201, "Created"), (202, "Accepted"), (203, "Non-Authoritative Information"),
    (204, "No Content"), (205, "Reset Content"), (206, "Partial Content"), (207, "Multi-Status"),
    (208, "Already Reported"), (226, "IM Used"), (300, "Multiple Choices"),
    (301, "Moved Permanently"), (302, "Found"), (303, "See Other"), (304, "Not Modified"),
    (305, "Use Proxy"), (307, "Temporary Redirect"), (308, "Permanent Redirect"),
    (400, "Bad Request"), (401, "Unauthorized"), (402, "Payment Required"), (403, "Forbidden"),
    (404, "Not Found"), (405, "Method Not Allowed"), (406, "Not Acceptable"),
    (407, "Proxy Authentication Required"), (408, "Request Timeout"), (409, "Conflict"),
    (410, "Gone"), (411, "Length Required"), (412, "Precondition Failed"),
    (413, "Request Entity Too Large"), (414, "Request URI Too Long"),
    (415, "Unsupported Media Type"), (416, "Requested Range Not Satisfiable"),
    (417, "Expectation Failed"), (418, "I'm a teapot"), (421, "Misdirected Request"),
    (422, "Unprocessable Entity"), (423, "Locked"), (424, "Failed Dependency"), (425, "Too Early"),
    (426, "Upgrade Required"), (428, "Precondition Required"), (429, "Too Many Requests"),
    (431, "Request Header Fields Too Large"), (451, "Unavailable For Legal Reasons"),
    (500, "Internal Server Error"), (501, "Not Implemented"), (502, "Bad Gateway"),
    (503, "Service Unavailable"), (504, "Gateway Timeout"), (505, "HTTP Version Not Supported"),
    (506, "Variant Also Negotiates"), (507, "Insufficient Storage"), (508, "Loop Detected"),
    (510, "Not Extended"), (511, "Network Authentication Required")]

/-- `http.StatusText`; empty for a code without a text. -/
def statusText (code : Nat) : Bytes := ascii ((statusTexts.lookup code).getD "")

/-- An upstream response: the header map in the order in which it is walked, and what reading the
body to its end gives. -/
structure Response where
  statusCode : Nat
  header : List (Bytes × List Bytes)
  body : Except Bytes Bytes

/-- What every response of an HTTP client is: a status of three digits, and canonical keys with
values that HTTP allows. -/
structure Response.WellFormed (resp : Response) : Prop where
  status : 100 ≤ resp.statusCode ∧ resp.statusCode < 1000
  keys : ∀ entry ∈ resp.header, canonicalHeaderKey entry.1 = entry.1
  fields : ∀ entry ∈ resp.header, ∀ v ∈ entry.2, (⟨entry.1, v⟩ : Field).WellFormed

/-- Whether a header stays on its hop; `main.go:692–699`. -/
def isHopByHop (k : Bytes) : Bool :=
  ([ascii "Connection", ascii "Keep-Alive", ascii "Proxy-Authenticate",
    ascii "Proxy-Authorization", ascii "Te", ascii "Trailer", ascii "Transfer-Encoding",
    ascii "Upgrade"]).contains k

/-- The end-to-end fields of a header map, in the order in which it is walked. -/
def endToEnd (header : List (Bytes × List Bytes)) : List Field :=
  (header.filter fun entry ↦ !isHopByHop entry.1).flatMap fun entry ↦ entry.2.map (⟨entry.1, ·⟩)

/-- The bytes written for a response, and the error that cuts them short; `main.go:434–467`. -/
def writeMITMResponseWithLog (resp : Response) : Bytes × Option Bytes :=
  let statusLine := ascii "HTTP/1.1 " ++ ofNat resp.statusCode ++ ascii " " ++
    statusText resp.statusCode ++ crlf
  let written := statusLine ++ (endToEnd resp.header).flatMap fun f ↦
    f.name ++ ascii ": " ++ f.value ++ crlf
  match resp.body with
  | .error e => (written, some e)
  | .ok body =>
    (written ++ (ascii "Content-Length: " ++ ofNat body.length ++ crlf) ++ crlf ++ body, none)

/-- A message as a client has read it. -/
structure Message where
  status : Nat
  fields : List Field
  body : Bytes
  deriving DecidableEq

/-- Status of a status line. -/
def parseStatusLine (line : Bytes) : Option Nat :=
  match cut 32 line with
  | none => none
  | some (version, rest) =>
    match cut 32 rest with
    | none => none
    | some (code, _) =>
      if version = ascii "HTTP/1.1" ∧ code.length = 3 then parseDecimal code else none

/-- Whether a response has a body, by the method `HEAD` and the status. -/
def hasBody (head : Bool) (status : Nat) : Bool :=
  !head && !(status < 200 || status == 204 || status == 304)

/-- The message that begins with a status and fields; a body without a length runs to the end of the
stream. -/
def readBody (head : Bool) (status : Nat) (fields : List Field) (r : Reader) :
    Option (Message × Reader) :=
  if !hasBody head status then some (⟨status, fields, []⟩, r)
  else if valuesOf "Transfer-Encoding" fields ≠ [] then
    (readChunked r).map fun p ↦ (⟨status, fields, p.1⟩, p.2)
  else
    match announcedLength fields with
    | none => none
    | some none => some (⟨status, fields, r.content⟩, ⟨[], []⟩)
    | some (some n) => (r.readFull n).map fun p ↦ (⟨status, fields, p.1⟩, p.2)

/-- What a client of HTTP/1.1 reads, `head` after a `HEAD` request. -/
def readResponse (head : Bool) (r : Reader) : Option (Message × Reader) :=
  match r.readString with
  | none => none
  | some (line, r) =>
    match parseStatusLine (dropLineEnd line) with
    | none => none
    | some status =>
      match readFields r with
      | none => none
      | some (fields, r) => readBody head status fields r

/-- A response is well framed: whatever follows it on the tunnel, the client reads back its status,
its end-to-end fields and its body, with one `Content-Length` that is the number of body bytes
written, and then what follows. -/
def WellFramed (head : Bool) (resp : Response) : Prop :=
  ∀ next, ∃ m r,
    readResponse head (.new [(writeMITMResponseWithLog resp).1 ++ next]) = some (m, r) ∧
    r.content = next ∧ m.status = resp.statusCode ∧ .ok m.body = resp.body ∧
    m.fields.filter (·.name ≠ ascii "Content-Length") =
      (endToEnd resp.header).filter (·.name ≠ ascii "Content-Length") ∧
    valuesOf "Content-Length" m.fields = [ofNat m.body.length]

theorem isValueByte_of_digit {b : UInt8} (h : 48 ≤ b ∧ b ≤ 57) :
    isValueByte b = true ∧ isBlank b = false ∧ b ≠ 32 ∧ b ≠ 10 := by
  obtain ⟨hlow, hhigh⟩ := h
  have hne : ∀ x : UInt8, x < 48 ∨ 57 < x → b ≠ x := by
    rintro x (hx | hx) rfl
    · exact absurd (UInt8.lt_of_lt_of_le hx hlow) (UInt8.lt_irrefl _)
    · exact absurd (UInt8.lt_of_le_of_lt hhigh hx) (UInt8.lt_irrefl _)
  have h127 := hne 127 (by decide)
  have h32 := hne 32 (by decide)
  have h9 := hne 9 (by decide)
  refine ⟨?_, by simp [isBlank, h32, h9], h32, hne 10 (by decide)⟩
  have hge : 32 ≤ b := UInt8.le_trans (by decide) hlow
  simp [isValueByte, hge, h127]

theorem length_ofNat {n : Nat} (h : 100 ≤ n ∧ n < 1000) : (ofNat n).length = 3 := by
  have hle : (Nat.toDigits 10 n).length ≤ 3 :=
    (Nat.length_toDigits_le_iff (by decide) (by decide)).mpr h.2
  have hgt : ¬ (Nat.toDigits 10 n).length ≤ 2 := fun hle ↦ by
    have hlt := (Nat.length_toDigits_le_iff (by decide) (by decide)).mp hle
    omega
  rw [ofNat, List.length_map]
  omega

theorem mem_statusText {b : UInt8} {code : Nat} (h : b ∈ statusText code) : b ≠ 10 := by
  have hall : ∀ text ∈ statusTexts.map fun entry ↦ ascii entry.2, 10 ∉ text := by
    -- the kernel is slow to read a literal, a list of characters it reads at once
    dsimp only [statusTexts, List.map, ascii]
    repeat rw [String.toList_ofList]
    decide
  unfold statusText at h
  rintro rfl
  cases hlookup : statusTexts.lookup code with
  | none => exact absurd h (by rw [hlookup]; decide)
  | some text =>
    rw [hlookup] at h
    obtain ⟨before, after, htexts, -⟩ := List.lookup_eq_some_iff.mp hlookup
    exact hall (ascii text) (List.mem_map.mpr ⟨(code, text), by simp [htexts], rfl⟩) h

/-- The status line reads back to the status. -/
theorem statusLine_eq {code : Nat} (h : 100 ≤ code ∧ code < 1000) :
    ∃ line, ascii "HTTP/1.1 " ++ ofNat code ++ ascii " " ++ statusText code ++ crlf =
        line ++ [10] ∧ 10 ∉ line ∧ parseStatusLine (dropLineEnd (line ++ [10])) = some code := by
  have hversion : 32 ∉ ascii "HTTP/1.1" ∧ 10 ∉ ascii "HTTP/1.1" := by decide
  have hspace : (ascii "HTTP/1.1 ") = ascii "HTTP/1.1" ++ [32] ∧ ascii " " = [32] := by decide
  have hcode : 32 ∉ ofNat code ∧ 10 ∉ ofNat code :=
    ⟨fun hmem ↦ (isValueByte_of_digit (mem_ofNat hmem)).2.2.1 rfl,
      fun hmem ↦ (isValueByte_of_digit (mem_ofNat hmem)).2.2.2 rfl⟩
  have htext : 10 ∉ statusText code := fun hmem ↦ mem_statusText hmem rfl
  refine ⟨ascii "HTTP/1.1" ++ 32 :: (ofNat code ++ 32 :: statusText code) ++ [13], ?_, ?_, ?_⟩
  · simp [hspace, crlf]
  · simp [hversion, hcode, htext]
  · rw [dropLineEnd_crlf, parseStatusLine, cut_append hversion.1]
    simp only [cut_append hcode.1, length_ofNat h, and_self, if_true, parseDecimal_ofNat]

/-- The field that is added. -/
def lengthField (n : Nat) : Field := ⟨"Content-Length", ofNat n⟩

theorem lengthField_wellFormed (n : Nat) : (lengthField n).WellFormed where
  name_ne_nil := show ascii "Content-Length" ≠ [] by decide
  name_token := show (ascii "Content-Length").all isTokenByte = true by decide
  value_bytes := List.all_eq_true.mpr fun _ hb ↦ (isValueByte_of_digit (mem_ofNat hb)).1
  value_trimmed := by
    have hdigits : ∀ b ∈ ofNat n, isBlank b = false := fun _ hb ↦
      (isValueByte_of_digit (mem_ofNat hb)).2.1
    have hdrop : (ofNat n).dropWhile isBlank = ofNat n := by
      cases hdigit : ofNat n with
      | nil => rfl
      | cons b bs => exact List.dropWhile_cons_of_neg (by simp [hdigits b (by simp [hdigit])])
    rw [lengthField, trimBlanks, hdrop, List.rdropWhile_eq_self_iff]
    intro hne
    simpa using hdigits _ (List.getLast_mem hne)

section WellFormed

variable {resp : Response} {head : Bool}

theorem endToEnd_wellFormed (h : resp.WellFormed) {f : Field} (hf : f ∈ endToEnd resp.header) :
    f.WellFormed ∧ f.canonical = f ∧ isHopByHop f.name = false := by
  obtain ⟨entry, hentry, hfield⟩ := List.mem_flatMap.mp hf
  obtain ⟨hmem, hhop⟩ := List.mem_filter.mp hentry
  obtain ⟨v, hv, rfl⟩ := List.mem_map.mp hfield
  refine ⟨h.fields entry hmem v hv, ?_, by simpa using hhop⟩
  rw [Field.canonical, h.keys entry hmem]

theorem written_eq {body : Bytes} (h : resp.WellFormed) (hbody : resp.body = .ok body) :
    ∃ line, 10 ∉ line ∧ parseStatusLine (dropLineEnd (line ++ [10])) = some resp.statusCode ∧
      (writeMITMResponseWithLog resp).1 = line ++ [10] ++
        (headerText (endToEnd resp.header ++ [lengthField body.length]) ++ body) := by
  obtain ⟨line, hline, hnoend, hparse⟩ := statusLine_eq h.status
  refine ⟨line, hnoend, hparse, ?_⟩
  have hname : ascii "Content-Length: " = ascii "Content-Length" ++ ascii ": " := by decide
  have hlength : ascii "Content-Length" ++ ascii ": " ++ ofNat body.length ++ crlf =
      (lengthField body.length).line := rfl
  have hlines : (endToEnd resp.header).flatMap
      (fun f ↦ f.name ++ ascii ": " ++ f.value ++ crlf) =
        (endToEnd resp.header).flatMap Field.line := rfl
  rw [writeMITMResponseWithLog, hbody, hline, hname]
  dsimp only
  rw [hlength, hlines]
  simp [headerText]

/-- The client reads the status, the end-to-end fields and the length that was added. -/
theorem readResponse_eq {body next : Bytes} (h : resp.WellFormed) (hbody : resp.body = .ok body) :
    ∃ r, r.content = body ++ next ∧
      readResponse head (.new [(writeMITMResponseWithLog resp).1 ++ next]) =
        readBody head resp.statusCode (endToEnd resp.header ++ [lengthField body.length]) r := by
  obtain ⟨line, hnoend, hparse, hwritten⟩ := written_eq h hbody
  have hcontent : (Reader.new [(writeMITMResponseWithLog resp).1 ++ next]).content = line ++ [10] ++
      (headerText (endToEnd resp.header ++ [lengthField body.length]) ++ (body ++ next)) := by
    simp [hwritten]
  obtain ⟨r₁, hline, htaken⟩ := Reader.readString_eq hnoend hcontent
  have hrest := List.append_cancel_left (htaken.content.symm.trans hcontent)
  have hfields : ∀ f ∈ endToEnd resp.header ++ [lengthField body.length], f.WellFormed := by
    intro f hf
    rcases List.mem_append.mp hf with hf | hf
    · exact (endToEnd_wellFormed h hf).1
    · rw [List.mem_singleton.mp hf]
      exact lengthField_wellFormed _
  have hcanonical : (endToEnd resp.header ++ [lengthField body.length]).map Field.canonical =
      endToEnd resp.header ++ [lengthField body.length] := by
    refine List.map_congr_left (fun f hf ↦ ?_) |>.trans (List.map_id _)
    rcases List.mem_append.mp hf with hf | hf
    · exact (endToEnd_wellFormed h hf).2.1
    · rw [List.mem_singleton.mp hf]
      have hname : canonicalHeaderKey (ascii "Content-Length") = ascii "Content-Length" := by
        decide
      simp [lengthField, Field.canonical, hname]
  obtain ⟨r₂, hread, htaken'⟩ := readFields_eq hfields hrest
  refine ⟨r₂, List.append_cancel_left (htaken'.content.symm.trans hrest), ?_⟩
  simp only [readResponse, hline, hparse, hread, hcanonical]

theorem valuesOf_lengthField (n : Nat) : valuesOf "Content-Length" [lengthField n] = [ofNat n] := by
  simp [valuesOf, lengthField]

theorem valuesOf_transferEncoding (h : resp.WellFormed) (n : Nat) :
    valuesOf "Transfer-Encoding" (endToEnd resp.header ++ [lengthField n]) = [] := by
  unfold valuesOf
  rw [List.map_eq_nil_iff, List.filter_eq_nil_iff]
  intro f hf hname
  have hname := of_decide_eq_true hname
  rcases List.mem_append.mp hf with hf | hf
  · have hhop := (endToEnd_wellFormed h hf).2.2
    rw [hname] at hhop
    exact absurd hhop (by decide)
  · rw [List.mem_singleton.mp hf] at hname
    exact absurd hname (show ascii "Content-Length" ≠ ascii "Transfer-Encoding" by decide)

theorem valuesOf_endToEnd_eq_nil :
    valuesOf "Content-Length" (endToEnd resp.header) = [] ↔
      ∀ entry ∈ resp.header, entry.1 = ascii "Content-Length" → entry.2 = [] := by
  have hhop : isHopByHop (ascii "Content-Length") = false := by decide
  unfold valuesOf
  rw [List.map_eq_nil_iff, List.filter_eq_nil_iff]
  constructor
  · rintro h ⟨k, vs⟩ hentry rfl
    rw [List.eq_nil_iff_forall_not_mem]
    intro v hv
    have hmem : (⟨ascii "Content-Length", v⟩ : Field) ∈ endToEnd resp.header :=
      List.mem_flatMap.mpr ⟨_, List.mem_filter.mpr ⟨hentry, by simp [hhop]⟩,
        List.mem_map.mpr ⟨v, hv, rfl⟩⟩
    exact h _ hmem (by simp)
  · intro h f hf hname
    obtain ⟨entry, hentry, hfield⟩ := List.mem_flatMap.mp hf
    obtain ⟨v, hv, rfl⟩ := List.mem_map.mp hfield
    rw [h entry (List.mem_filter.mp hentry).1 (of_decide_eq_true hname)] at hv
    exact absurd hv (by simp)

/-- Whatever the body is read as, the status and the fields are those that came first. -/
theorem readBody_eq_some {status : Nat} {fields : List Field} {r r' : Reader} {m : Message}
    (h : readBody head status fields r = some (m, r')) :
    m.status = status ∧ m.fields = fields ∧ (hasBody head status = false → m.body = []) := by
  unfold readBody at h
  split at h
  next hnone =>
    obtain ⟨rfl, rfl⟩ := Prod.mk.inj (Option.some.inj h)
    exact ⟨rfl, rfl, fun _ ↦ rfl⟩
  next hbody =>
    have hhas : hasBody head status = false → m.body = [] := fun hno ↦ absurd (by simp [hno]) hbody
    split at h
    next =>
      obtain ⟨p, -, hp⟩ := Option.map_eq_some_iff.mp h
      obtain ⟨rfl, rfl⟩ := Prod.mk.inj hp
      exact ⟨rfl, rfl, hhas⟩
    next =>
      cases hlength : announcedLength fields with
      | none => simp [hlength] at h
      | some length =>
        rw [hlength] at h
        cases length with
        | none =>
          obtain ⟨rfl, rfl⟩ := Prod.mk.inj (Option.some.inj h)
          exact ⟨rfl, rfl, hhas⟩
        | some n =>
          obtain ⟨p, -, hp⟩ := Option.map_eq_some_iff.mp h
          obtain ⟨rfl, rfl⟩ := Prod.mk.inj hp
          exact ⟨rfl, rfl, hhas⟩

/-- A response that is well framed was read to its end, is empty where a response has no body, and
came without a length. -/
theorem WellFramed.condition (h : resp.WellFormed) (hframed : WellFramed head resp) :
    (∃ body, resp.body = .ok body ∧ (hasBody head resp.statusCode = false → body = [])) ∧
      ∀ entry ∈ resp.header, entry.1 = ascii "Content-Length" → entry.2 = [] := by
  obtain ⟨m, r, hread, -, hstatus, hbody, -, hlength⟩ := hframed []
  obtain ⟨r', -, hresponse⟩ := @readResponse_eq _ head _ [] h hbody.symm
  obtain ⟨-, hfields, hno⟩ := readBody_eq_some (hresponse.symm.trans hread)
  refine ⟨⟨m.body, hbody.symm, hno⟩, ?_⟩
  rw [hfields, valuesOf_append, valuesOf_lengthField] at hlength
  exact valuesOf_endToEnd_eq_nil.mp (List.append_left_eq_self.mp hlength)

end WellFormed

/-- A response is well framed exactly when its body is read to the end, is empty where a response
has none, and upstream announced no length. -/
theorem response_wellFramed_iff {resp : Response} (head : Bool) (h : resp.WellFormed) :
    WellFramed head resp ↔
      (∃ body, resp.body = .ok body ∧ (hasBody head resp.statusCode = false → body = [])) ∧
        ∀ entry ∈ resp.header, entry.1 = ascii "Content-Length" → entry.2 = [] := by
  constructor
  · exact fun hframed ↦ hframed.condition h
  · rintro ⟨⟨body, hbody, hno⟩, hlength⟩ next
    rw [← valuesOf_endToEnd_eq_nil] at hlength
    obtain ⟨r, hcontent, hread⟩ := @readResponse_eq _ head _ next h hbody
    have hfields : valuesOf "Content-Length" (endToEnd resp.header ++ [lengthField body.length]) =
        [ofNat body.length] := by
      rw [valuesOf_append, hlength, valuesOf_lengthField, List.nil_append]
    have hfilter : (endToEnd resp.header ++ [lengthField body.length]).filter
        (·.name ≠ ascii "Content-Length") =
          (endToEnd resp.header).filter (·.name ≠ ascii "Content-Length") := by
      rw [List.filter_append]
      simp [lengthField]
    have hannounced : announcedLength (endToEnd resp.header ++ [lengthField body.length]) =
        some (some body.length) := by
      simp [announcedLength, hfields, parseDecimal_ofNat]
    rw [hread, readBody]
    cases hhas : hasBody head resp.statusCode with
    | false =>
      obtain rfl := hno hhas
      exact ⟨_, _, if_pos rfl, hcontent, rfl, hbody.symm, hfilter, hfields⟩
    | true =>
      obtain ⟨r', hfull, htaken⟩ := Reader.readFull_eq hcontent
      have hnext : r'.content = next := List.append_cancel_left (htaken.content.symm.trans hcontent)
      refine ⟨⟨resp.statusCode, _, body⟩, r', ?_, hnext, rfl, hbody.symm, hfilter, hfields⟩
      rw [if_neg (by simp), if_neg (by simp [valuesOf_transferEncoding h]), hannounced]
      simp [hfull]

/-- A page of two bytes, with the given fields. -/
def pageResponse (header : List (Bytes × List Bytes)) : Response :=
  ⟨200, header, .ok (ascii "hi")⟩

theorem response_wellFramed_page :
    WellFramed false (pageResponse [(ascii "Content-Type", [ascii "text/plain"])]) := by
  have h : (pageResponse [(ascii "Content-Type", [ascii "text/plain"])]).WellFormed := by
    refine ⟨by decide, by decide, fun entry hentry v hv ↦ ?_⟩
    rw [List.mem_singleton.mp hentry] at hv ⊢
    rw [List.mem_singleton.mp hv]
    constructor <;> decide
  exact (response_wellFramed_iff false h).mpr
    ⟨⟨ascii "hi", rfl, fun _ ↦ by contradiction⟩, by decide⟩

/-- The page with the length that upstream announced has two lengths on the tunnel. -/
theorem not_wellFramed_page :
    ¬ ∀ (head : Bool) (resp : Response), resp.WellFormed → WellFramed head resp := by
  intro hall
  have h : (pageResponse [(ascii "Content-Length", [ascii "2"])]).WellFormed := by
    refine ⟨by decide, by decide, fun entry hentry v hv ↦ ?_⟩
    rw [List.mem_singleton.mp hentry] at hv ⊢
    rw [List.mem_singleton.mp hv]
    constructor <;> decide
  have hlength := ((hall false _ h).condition h).2 _ List.mem_cons_self rfl
  exact absurd hlength (by decide)

end CrwShield.Proxy
