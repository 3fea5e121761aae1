import CrwShield.Proxy.Framing

/-!
# Framing and segmentation

When the sidecar issues exactly the requests of a client and loses none of their bytes: a tunnel's
first head and each of its requests must end where a read ends, and so must the head of a plain
request, whose body must be announced by a length within the limit.
-/

open CrwShield.Base CrwShield.Base.Bytes

namespace CrwShield.Proxy

/-- The environment takes a request: its target is kept, and the upstream server answers. -/
structure Request.Accepted (env : ProxyEnv) (origin : Bytes) (q : Request) : Prop where
  uri : env.requestURI q.target = some q.target
  taken : env.newRequest q.method (origin ++ q.target) = true
  answered : env.answers (q.upstream origin) = true

theorem Request.text_ne_nil (q : Request) : q.text ≠ [] := by
  intro h
  have hlength := congrArg List.length h
  simp [Request.text, Request.head, Request.line, crlf] at hlength

section Tunnel

variable {env : ProxyEnv} {hostPort : Bytes}

/-- The loop of a tunnel issues the requests and loses nothing exactly when each ends where a read
ends. -/
theorem serveTunnel_eq_iff {requests : List Request} {reads : List Bytes} {fuel : Nat}
    (hwf : ∀ q ∈ requests, q.WellFormed)
    (haccepted : ∀ q ∈ requests, q.Accepted env (ascii "https://" ++ hostPort))
    (hopen : ∀ q ∈ requests.dropLast, q.closes = false) (hreads : ∀ read ∈ reads, read ≠ [])
    (hflat : reads.flatten = requests.flatMap Request.text) (hfuel : reads.flatten.length < fuel) :
    serveTunnel env hostPort fuel reads =
        ⟨requests.map (Request.upstream (ascii "https://" ++ hostPort)), []⟩ ↔
      Reader.Aligned (requests.map Request.text) reads := by
  obtain ⟨fuel, rfl⟩ := Nat.exists_eq_succ_of_ne_zero (Nat.ne_of_gt (Nat.zero_lt_of_lt hfuel))
  induction requests generalizing reads fuel with
  | nil =>
    obtain rfl : reads = [] := by
      cases reads with
      | nil => rfl
      | cons read reads =>
        exact absurd (List.flatten_eq_nil_iff.mp hflat read List.mem_cons_self)
          (hreads read List.mem_cons_self)
    exact ⟨fun _ ↦ ⟨[], rfl, rfl⟩, fun _ ↦ rfl⟩
  | cons q qs ih =>
    have hq := haccepted q List.mem_cons_self
    have hcontent : (Reader.new reads).content = q.text ++ qs.flatMap Request.text := by
      rw [Reader.content_new, hflat, List.flatMap_cons]
    obtain ⟨r', hread, htaken⟩ := readRequest_eq (hwf q List.mem_cons_self) hq.uri hcontent
    have hrest := List.append_cancel_left (htaken.content.symm.trans hcontent)
    have hok : (!env.newRequest q.method (ascii "https://" ++ hostPort ++ q.target) ||
        !env.answers ⟨q.method, ascii "https://" ++ hostPort ++ q.target, q.framing.body⟩) =
          false := by
      have hanswered := hq.answered
      rw [Request.upstream] at hanswered
      rw [hq.taken, hanswered]
      rfl
    rw [serveTunnel, hread]
    dsimp only
    have hcloses : equalFold ((valuesOf (ascii "Connection") (q.fields.map Field.canonical)).headD
        []) (ascii "close") = q.closes := rfl
    rw [hok, if_neg Bool.false_ne_true, hcloses]
    cases hclose : q.closes with
    | true =>
      have hlast : qs = [] := by
        cases qs with
        | nil => rfl
        | cons q' qs => exact absurd (hopen q (by simp)) (by simp [hclose])
      subst hlast
      rw [if_pos rfl, hrest]
      have hgroup : reads.flatten = q.text := by simpa using hflat
      exact ⟨fun _ ↦ ⟨[reads], by simp, by simp [hgroup]⟩, fun _ ↦ rfl⟩
    | false =>
      rw [if_neg Bool.false_ne_true, List.map_cons, List.map_cons, htaken.aligned_cons_iff hreads]
      have hsplit : ∀ served : Served,
          ((⟨q.upstream (ascii "https://" ++ hostPort) :: served.issued, r'.buf ++ served.lost⟩ :
              Served) =
            ⟨q.upstream (ascii "https://" ++ hostPort) ::
              qs.map (Request.upstream (ascii "https://" ++ hostPort)), []⟩) ↔
          r'.buf = [] ∧
            served = ⟨qs.map (Request.upstream (ascii "https://" ++ hostPort)), []⟩ := by
        rintro ⟨issued, lost⟩
        simp only [Served.mk.injEq, List.cons.injEq, true_and, List.append_eq_nil_iff]
        exact ⟨fun h ↦ ⟨h.2.1, h.1, h.2.2⟩, fun h ↦ ⟨h.2.1, h.1, h.2.2⟩⟩
      refine (hsplit _).trans (and_congr_right fun hnil ↦ ?_)
      obtain ⟨group, hgroup, hbytes⟩ := htaken.reads_eq hnil
      have hflat' : r'.reads.flatten = qs.flatMap Request.text := by
        rw [Reader.content, hnil, List.nil_append] at hrest
        exact hrest
      have hlength : 0 < q.text.length := List.length_pos_of_ne_nil q.text_ne_nil
      have hfuel' : r'.reads.flatten.length < fuel := by
        rw [hgroup, List.flatten_append, List.length_append, hbytes] at hfuel
        omega
      obtain ⟨fuel, rfl⟩ :=
        Nat.exists_eq_succ_of_ne_zero (Nat.ne_of_gt (Nat.zero_lt_of_lt hfuel'))
      refine ih (fun p hp ↦ hwf p (List.mem_cons_of_mem q hp))
        (fun p hp ↦ haccepted p (List.mem_cons_of_mem q hp)) (fun p hp ↦ hopen p ?_)
        (fun read hread ↦ hreads read ?_) hflat' fuel hfuel'
      · cases qs with
        | nil => exact absurd hp (by simp)
        | cons q' qs => simp [hp]
      · rw [hgroup]
        exact List.mem_append_right _ hread

end Tunnel

section Head

variable {env : ProxyEnv} {method target rest : Bytes} {fields : List Field} {reads : List Bytes}

/-- The head of a connection is read, and takes its own bytes off the stream. -/
theorem handleConnection_head (hmethod : method.all isTokenByte = true)
    (htarget : ∀ b ∈ target, 32 < b) (hfields : ∀ f ∈ fields, f.WellFormed)
    (hflat : reads.flatten = Request.line method target ++ headerText fields ++ rest) :
    ∃ r, (Reader.new reads).Consumes (Request.line method target ++ headerText fields) r ∧
      handleConnection env reads =
        dispatch env method target (fields.map Field.canonical) r := by
  obtain ⟨line, hline, hnoend, htrim, hparse⟩ := parseRequestLine_line hmethod htarget
  have hcontent : (Reader.new reads).content = line ++ [10] ++ (headerText fields ++ rest) := by
    rw [Reader.content_new, hflat, hline, List.append_assoc]
  obtain ⟨r₁, hread, htaken⟩ := Reader.readString_eq hnoend hcontent
  have hrest := List.append_cancel_left (htaken.content.symm.trans hcontent)
  have hlength := length_lt_headerText fields
  have hfuel : fields.length < r₁.content.length + 1 := by
    rw [hrest, List.length_append]
    omega
  obtain ⟨r, hlines, htaken'⟩ := readHeaderLines_eq hfields hfuel [] hrest
  refine ⟨r, hline ▸ htaken.trans htaken', ?_⟩
  rw [htrim] at hparse
  simp only [handleConnection, hread, hparse, hlines, List.nil_append]

end Head

/-- A client that opens a tunnel and sends requests through it. -/
structure TunnelClient (env : ProxyEnv) where
  target : Bytes
  fields : List Field
  requests : List Request
  /-- What the client sends after the head: the requests under TLS. -/
  tlsBytes : Bytes
  target_bytes : ∀ b ∈ target, 32 < b
  fields_wellFormed : ∀ f ∈ fields, f.WellFormed
  intercepted : env.bypass (hostPortOf target) = false
  /-- TLS delivers what was sent under it, in reads of some size. -/
  decrypts : ∀ reads, reads.flatten = tlsBytes → ∃ plain, env.tls reads = some plain ∧
    plain.flatten = requests.flatMap Request.text ∧ ∀ read ∈ plain, read ≠ []
  wellFormed : ∀ q ∈ requests, q.WellFormed
  accepted : ∀ q ∈ requests, q.Accepted env (ascii "https://" ++ hostPortOf target)
  /-- Nothing is sent after a request that closes the connection. -/
  open_until_last : ∀ q ∈ requests.dropLast, q.closes = false

namespace TunnelClient

variable {env : ProxyEnv} (c : TunnelClient env)

/-- The head of the tunnel. -/
def head : Bytes := Request.line "CONNECT" c.target ++ headerText c.fields

/-- The requests that should be issued upstream. -/
def upstream : List Upstream :=
  c.requests.map (Request.upstream (ascii "https://" ++ hostPortOf c.target))

/-- The head ends where a read ends, and so does every request where TLS delivers them. -/
def ReadsApart (reads : List Bytes) : Prop :=
  ∃ group rest plain, reads = group ++ rest ∧ group.flatten = c.head ∧ env.tls rest = some plain ∧
    Reader.Aligned (c.requests.map Request.text) plain

end TunnelClient

/-- A client that sends one plain request. -/
structure PlainClient (env : ProxyEnv) where
  request : Request
  wellFormed : request.WellFormed
  absolute : (ascii "http://").isPrefixOf request.target ||
    (ascii "https://").isPrefixOf request.target
  not_connect : request.method ≠ ascii "CONNECT"
  parses : env.parseUrl request.target = true
  taken : env.newRequest request.method request.target = true
  answered : env.answers (request.upstream []) = true

/-- A body that is announced by a length within the limit, or none. -/
def Framing.Limited (maxBody : Int) : Framing → Prop
  | .none => True
  | .length _ body => body.length ≤ maxBody
  | .chunked _ _ => False

/-- The head of a plain request ends where a read ends, and its body is announced by a length within
the limit. -/
def PlainClient.ReadsApart {env : ProxyEnv} (c : PlainClient env) (reads : List Bytes) : Prop :=
  c.request.framing.Limited env.maxBody ∧
    ∃ group rest, reads = group ++ rest ∧ group.flatten = c.request.head

variable {env : ProxyEnv} {reads : List Bytes}

/-- A tunnel's client is served exactly when its reads come apart where its messages do. -/
theorem TunnelClient.served_iff (c : TunnelClient env) (hreads : ∀ read ∈ reads, read ≠ [])
    (hflat : reads.flatten = c.head ++ c.tlsBytes) :
    handleConnection env reads = ⟨c.upstream, []⟩ ↔ c.ReadsApart reads := by
  obtain ⟨r, htaken, hhandle⟩ := @handleConnection_head env (ascii "CONNECT") c.target c.tlsBytes
    c.fields reads (by decide) c.target_bytes c.fields_wellFormed hflat
  have hrest : r.content = c.tlsBytes :=
    List.append_cancel_left (htaken.content.symm.trans hflat)
  have hmitm : handleConnection env reads = handleMITM env (hostPortOf c.target) r := by
    rw [hhandle, dispatch, if_pos rfl]
    dsimp only
    rw [c.intercepted]
    exact if_neg Bool.false_ne_true
  rw [hmitm]
  by_cases hnil : r.buf = []
  · obtain ⟨group, hgroup, hbytes⟩ := htaken.reads_eq hnil
    have hraw : r.reads.flatten = c.tlsBytes := by
      rw [← hrest, Reader.content, hnil, List.nil_append]
    obtain ⟨plain, htls, hplain, hne⟩ := c.decrypts r.reads hraw
    have hserved : handleMITM env (hostPortOf c.target) r =
        serveTunnel env (hostPortOf c.target) (plain.flatten.length + 1) plain := by
      simp only [handleMITM, htls, hnil, List.nil_append]
    rw [hserved]
    refine (serveTunnel_eq_iff c.wellFormed c.accepted c.open_until_last hne hplain
      (Nat.lt_succ_self _)).trans ⟨fun haligned ↦ ?_, ?_⟩
    · exact ⟨group, r.reads, plain, hgroup, hbytes, htls, haligned⟩
    · rintro ⟨group', rest, plain', hgroup', hbytes', htls', haligned⟩
      obtain ⟨-, rfl⟩ := Reader.group_unique (fun read hread ↦ hreads read (hgroup' ▸ hread))
        (hgroup'.symm.trans hgroup) (hbytes'.trans hbytes.symm)
      rwa [Option.some.inj (htls.symm.trans htls')]
  · constructor
    · intro hserved
      have hlost := congrArg Served.lost hserved
      unfold handleMITM at hlost
      cases htls : env.tls r.reads with
      | none =>
        rw [htls] at hlost
        exact absurd (List.append_eq_nil_iff.mp hlost).1 hnil
      | some plain =>
        rw [htls] at hlost
        exact absurd (List.append_eq_nil_iff.mp hlost).1 hnil
    · rintro ⟨group, rest, -, hgroup, hbytes, -⟩
      exact absurd (htaken.buf_eq_nil_iff.mpr ⟨group, rest, hgroup, hbytes⟩) hnil

theorem parseInt_ofNat {n : Nat} (h : n < 2 ^ 63) : parseInt (ofNat n) = some (n : Int) := by
  have hdecimal := parseDecimal_ofNat n
  have hdigit : ∀ b ∈ ofNat n, 48 ≤ b := fun b hb ↦ (mem_ofNat hb).1
  generalize ofNat n = digits at hdecimal hdigit
  unfold parseInt
  split
  next digits => exact absurd (hdigit 45 List.mem_cons_self) (by decide)
  next digits => exact absurd (hdigit 43 List.mem_cons_self) (by decide)
  next => rw [hdecimal, Option.bind_some, if_pos h]

theorem plainLength_eq {q : Request} (hq : q.WellFormed) :
    plainLength env (q.fields.map Field.canonical) =
      match q.framing with
      | .none | .chunked _ _ => some 0
      | .length _ body => if env.maxBody < body.length then none else some body.length := by
  have hlength := valuesOf_framing hq (.inl rfl)
  have hwf := hq.framing
  have hkeys : ascii "Transfer-Encoding" ≠ ascii "Content-Length" := by decide
  unfold plainLength
  rw [hlength]
  cases hframing : q.framing with
  | none => rfl
  | chunked key chunks =>
    rw [hframing] at hwf
    have hnone : valuesOf "Content-Length"
        ((Framing.chunked key chunks).fields.map Field.canonical) = [] := by
      simp [Framing.fields, Field.canonical, valuesOf, hwf.1, hkeys]
    rw [hnone]
    rfl
  | length key body =>
    rw [hframing] at hwf
    have hvalue : valuesOf "Content-Length" ((Framing.length key body).fields.map Field.canonical) =
        [ofNat body.length] := by
      simp [Framing.fields, Field.canonical, valuesOf, hwf.1]
    have hne : ofNat body.length ≠ [] := by simp [ofNat, Nat.toDigits_ne_nil]
    obtain ⟨b, bs, hdigits⟩ := List.exists_cons_of_ne_nil hne
    have hparse := parseInt_ofNat hwf.2
    rw [hvalue, List.headD_cons, hdigits]
    rw [hdigits] at hparse
    dsimp only
    rw [hparse]
    have hnonneg : ¬ ((body.length : Int) < 0) := by omega
    by_cases hlimit : env.maxBody < body.length
    · simp [hlimit]
    · simp [hlimit, hnonneg]

/-- A plain request that loses no byte has left none in the buffer. -/
theorem buf_of_handleHTTP {method target : Bytes} {hdr : List Field} {r : Reader}
    (h : (handleHTTP env method target hdr r).lost = []) : r.buf = [] := by
  unfold handleHTTP at h
  split at h
  next => exact (List.append_eq_nil_iff.mp h).1
  next =>
    split at h
    next => exact (List.append_eq_nil_iff.mp h).1
    next =>
      dsimp only at h
      split at h
      next => exact (List.append_eq_nil_iff.mp h).1
      next => exact (List.append_eq_nil_iff.mp h).1

/-- A plain request without a length loses everything after its head. -/
theorem lost_of_plainLength_zero {method target : Bytes} {hdr : List Field} {r : Reader}
    (h : plainLength env hdr = some 0) : (handleHTTP env method target hdr r).lost = r.content := by
  unfold handleHTTP
  split
  next => rfl
  next =>
    rw [h]
    dsimp only
    split
    next => rfl
    next => rfl

/-- A plain request whose body is what the connection still has to give is issued. -/
theorem PlainClient.handleHTTP_eq (c : PlainClient env) {hdr : List Field} {r : Reader}
    (hlength : plainLength env hdr = some c.request.framing.body.length) (hnil : r.buf = [])
    (hbody : r.reads.flatten = c.request.framing.body) :
    handleHTTP env c.request.method c.request.target hdr r =
      ⟨[c.request.upstream []], []⟩ := by
  have hanswered := c.answered
  rw [Request.upstream, List.nil_append] at hanswered
  simp only [handleHTTP, c.parses, hlength, hnil, hbody, List.take_length, List.drop_length,
    c.taken, hanswered, Request.upstream, List.nil_append, Bool.not_true, Bool.or_self,
    Bool.false_eq_true, if_false]

/-- A plain request is served exactly when its head comes in reads of its own and its length is
announced and within the limit. -/
theorem PlainClient.served_iff (c : PlainClient env)
    (hflat : reads.flatten = c.request.text) :
    handleConnection env reads = ⟨[c.request.upstream []], []⟩ ↔ c.ReadsApart reads := by
  obtain ⟨r, htaken, hhandle⟩ := handleConnection_head c.wellFormed.method_token
    c.wellFormed.target_bytes c.wellFormed.fields hflat
  have hrest : r.content = c.request.framing.text :=
    List.append_cancel_left (htaken.content.symm.trans hflat)
  have hhttp : handleConnection env reads = handleHTTP env c.request.method c.request.target
      (c.request.fields.map Field.canonical) r := by
    rw [hhandle, dispatch, if_neg c.not_connect, if_pos c.absolute]
  have hbuf : r.buf = [] ↔ ∃ group rest, reads = group ++ rest ∧
      group.flatten = c.request.head := htaken.buf_eq_nil_iff
  have hlength := @plainLength_eq env _ c.wellFormed
  rw [hhttp, PlainClient.ReadsApart, ← hbuf]
  constructor
  · intro hserved
    refine ⟨?_, buf_of_handleHTTP (congrArg Served.lost hserved)⟩
    cases hframing : c.request.framing with
    | none => trivial
    | length key body =>
      rw [hframing] at hlength
      dsimp only at hlength
      by_contra hlimit
      have hlt : env.maxBody < (body.length : Int) :=
        Int.not_le.mp (show ¬ (body.length : Int) ≤ env.maxBody from hlimit)
      have hnone : plainLength env (c.request.fields.map Field.canonical) = none := by
        rw [hlength, if_pos hlt]
      have hissued := congrArg Served.issued hserved
      simp [handleHTTP, c.parses, hnone] at hissued
    | chunked key chunks =>
      rw [hframing] at hlength hrest
      have hlost := (lost_of_plainLength_zero hlength).symm.trans (congrArg Served.lost hserved)
      rw [hrest] at hlost
      simp [Framing.text, crlf] at hlost
  · rintro ⟨hlimited, hnil⟩
    have hflat' : r.reads.flatten = c.request.framing.text := by
      rw [← hrest, Reader.content, hnil, List.nil_append]
    cases hframing : c.request.framing with
    | none =>
      rw [hframing] at hlength hflat'
      exact c.handleHTTP_eq (by rw [hlength, hframing]; rfl) hnil (by rw [hflat', hframing]; rfl)
    | length key body =>
      rw [hframing] at hlength hflat' hlimited
      dsimp only at hlength
      have hle : (body.length : Int) ≤ env.maxBody := hlimited
      rw [if_neg (Int.not_lt.mpr hle)] at hlength
      exact c.handleHTTP_eq (by rw [hlength, hframing]; rfl) hnil (by rw [hflat', hframing]; rfl)
    | chunked key chunks =>
      rw [hframing] at hlimited
      exact hlimited.elim

/-- Of every client and however its bytes arrive: exactly its requests are issued upstream and no
byte is lost exactly when the reads come apart where its messages do and, for a plain request, its
body is announced by a length within the limit. -/
theorem requests_framed_iff (env : ProxyEnv) (reads : List Bytes)
    (hreads : ∀ read ∈ reads, read ≠ []) :
    (∀ c : TunnelClient env, reads.flatten = c.head ++ c.tlsBytes →
      (handleConnection env reads = ⟨c.upstream, []⟩ ↔ c.ReadsApart reads)) ∧
    ∀ c : PlainClient env, reads.flatten = c.request.text →
      (handleConnection env reads = ⟨[c.request.upstream []], []⟩ ↔ c.ReadsApart reads) :=
  ⟨fun c hflat ↦ c.served_iff hreads hflat, fun c hflat ↦ c.served_iff hflat⟩

/-- A network that answers everything, and a TLS layer that delivers given reads for the bytes
`22 3 1`. -/
def openNet (plain : List Bytes) : ProxyEnv where
  requestURI := some
  parseUrl _ := true
  newRequest _ _ := true
  answers _ := true
  bypass _ := false
  tls reads := if reads.flatten = [22, 3, 1] then some plain else none
  maxBody := 16 * 1024 * 1024

/-- A request for the front page. -/
def getRequest : Request :=
  ⟨ascii "GET", ascii "/", [⟨ascii "Host", ascii "shop.example"⟩], .none, []⟩

theorem getRequest_wellFormed : getRequest.WellFormed where
  method_ne_nil := by decide
  method_token := by decide
  target_bytes := by
    have htarget : (ascii "/").all (32 < ·) = true := by decide
    simpa [getRequest] using htarget
  fields f hf := by
    rw [List.mem_singleton.mp hf]
    constructor <;> decide
  framing := trivial
  others := by decide

/-- A client that asks twice for the front page, through a TLS layer that delivers given reads. -/
def twoRequests (plain : List Bytes) (hflat : plain.flatten = getRequest.text ++ getRequest.text)
    (hne : ∀ read ∈ plain, read ≠ []) : TunnelClient (openNet plain) where
  target := ascii "shop.example:443"
  fields := []
  requests := [getRequest, getRequest]
  tlsBytes := [22, 3, 1]
  target_bytes := by
    have htarget : (ascii "shop.example:443").all (32 < ·) = true := by decide
    simpa using htarget
  fields_wellFormed := by simp
  intercepted := rfl
  decrypts reads h := ⟨plain, if_pos h, by simpa using hflat, hne⟩
  wellFormed q hq := by
    obtain rfl : q = getRequest := by simpa using hq
    exact getRequest_wellFormed
  accepted q hq := ⟨rfl, rfl, rfl⟩
  open_until_last := by decide

theorem requests_framed_two :
    handleConnection (openNet [getRequest.text, getRequest.text])
        [Request.line "CONNECT" "shop.example:443" ++ headerText [], [22, 3, 1]] =
      ⟨(twoRequests [getRequest.text, getRequest.text] (by decide) (by decide)).upstream, []⟩ :=
  ((requests_framed_iff _ _ (by decide)).1
    (twoRequests [getRequest.text, getRequest.text] (by decide) (by decide)) (by decide)).mpr
    ⟨[Request.line "CONNECT" "shop.example:443" ++ headerText []], [[22, 3, 1]],
      [getRequest.text, getRequest.text], rfl, by decide, by decide,
      [[getRequest.text], [getRequest.text]], rfl, by decide⟩

/-- A plain request whose body is announced by its length. -/
def postRequest : Request :=
  ⟨ascii "POST", ascii "http://shop.example/", [], .length "Content-Length" "hi", []⟩

theorem postRequest_wellFormed : postRequest.WellFormed where
  method_ne_nil := by decide
  method_token := by decide
  target_bytes := by
    have htarget : (ascii "http://shop.example/").all (32 < ·) = true := by decide
    simpa [postRequest] using htarget
  fields f hf := by
    rw [List.mem_singleton.mp hf]
    constructor <;> decide
  framing := ⟨by decide, by decide⟩
  others := by decide

/-- Two requests delivered in one read lose the second one, and a plain request whose body comes
with its head loses the body. -/
theorem not_framed_in_one_read :
    (¬ ∀ (env : ProxyEnv) (reads : List Bytes), (∀ read ∈ reads, read ≠ []) →
        ∀ c : TunnelClient env, reads.flatten = c.head ++ c.tlsBytes →
          handleConnection env reads = ⟨c.upstream, []⟩) ∧
    ¬ ∀ (env : ProxyEnv) (reads : List Bytes), (∀ read ∈ reads, read ≠ []) →
        ∀ c : PlainClient env, reads.flatten = c.request.text →
          handleConnection env reads = ⟨[c.request.upstream []], []⟩ := by
  constructor
  · intro hall
    have hserved := hall (openNet [getRequest.text ++ getRequest.text])
      [Request.line "CONNECT" "shop.example:443" ++ headerText [], [22, 3, 1]] (by decide)
      (twoRequests [getRequest.text ++ getRequest.text] (by decide) (by decide)) (by decide)
    exact absurd hserved (by decide)
  · intro hall
    have hserved := hall (openNet []) [postRequest.text] (by decide)
      ⟨postRequest, postRequest_wellFormed, by decide, by decide, rfl, rfl, rfl⟩ (by decide)
    exact absurd hserved (by decide)

end CrwShield.Proxy
