import CrwShield.Proxy.Message

/-!
# Requests through the sidecar

How `src/tls-proxy/main.go` reads the requests of a client: `handleConnection` reads the first head
through a buffered reader, a tunnel reads every request through a new one, and a plain request's
body comes from the connection itself. The stream is the list of its reads. Beside the requests
issued upstream, the handlers give the bytes that they have lost: those left in a buffer that is
given up, and those still to come when the connection is closed. Left out are the deadline of a
tunnel, `main.go:243–247`, and what `http.ReadRequest` refuses for a second Host line or for a
Trailer line that names a framing header.
-/

open CrwShield.Base CrwShield.Base.Bytes

namespace CrwShield.Proxy

/-- A request as it is issued upstream, without its header. -/
structure Upstream where
  method : Bytes
  url : Bytes
  body : Bytes
  deriving DecidableEq

/-- What the handlers use from outside. -/
structure ProxyEnv where
  /-- `url.ParseRequestURI` and then `URL.RequestURI`; none when the target does not parse. -/
  requestURI : Bytes → Option Bytes
  /-- Whether `url.Parse` takes a URL. -/
  parseUrl : Bytes → Bool
  /-- Whether `fhttp.NewRequest` takes a method and a URL. -/
  newRequest : Bytes → Bytes → Bool
  /-- Whether the upstream server answers; `HttpClient.Do` and the writing of its response. -/
  answers : Upstream → Bool
  /-- `shouldBypass` with the configured list. -/
  bypass : Bytes → Bool
  /-- `tls.Server` and its handshake: the decrypted reads, none when the handshake fails. -/
  tls : List Bytes → Option (List Bytes)
  /-- `*maxBody`. -/
  maxBody : Int

/-- What a handler has done with the bytes of a connection. -/
structure Served where
  issued : List Upstream
  lost : Bytes
  deriving DecidableEq

/-- A request as `http.ReadRequest` gives it, its body read to the end. -/
structure Incoming where
  method : Bytes
  requestURI : Bytes
  header : List Field
  body : Bytes

/-- Method and target of a request line; `parseRequestLine` of `net/http`. -/
def parseRequestLine (line : Bytes) : Option (Bytes × Bytes × Bytes) :=
  match cut 32 line with
  | none => none
  | some (method, rest) => (cut 32 rest).map fun p ↦ (method, p.1, p.2)

/-- The body that a header announces; `readTransfer` of `net/http` for a request. -/
def readTransfer (header : List Field) (r : Reader) : Option (Bytes × Reader) :=
  match valuesOf "Transfer-Encoding" header with
  | [] =>
    match announcedLength header with
    | none => none
    | some none => some ([], r)
    | some (some n) => if n < 2 ^ 63 then r.readFull n else none
  | [coding] => if equalFold coding "chunked" then readChunked r else none
  | _ => none

variable (env : ProxyEnv)

/-- `http.ReadRequest`, and its body as the transport reads it. A second Host line and the keys of
a Trailer line are not looked at. -/
def readRequest (r : Reader) : Option (Incoming × Reader) :=
  match r.readString with
  | none => none
  | some (line, r) =>
    match parseRequestLine (dropLineEnd line) with
    | none => none
    | some (method, target, version) =>
      if method.isEmpty || !method.all isTokenByte || version != ascii "HTTP/1.1" then none
      else
        match env.requestURI target with
        | none => none
        | some uri =>
          match readFields r with
          | none => none
          | some (header, r) =>
            (readTransfer header r).map fun p ↦ (⟨method, uri, header, p.1⟩, p.2)

/-- The request loop of a tunnel, with `fuel` for the requests; `main.go:247–339`. -/
def serveTunnel (hostPort : Bytes) : Nat → List Bytes → Served
  | 0, reads => ⟨[], reads.flatten⟩
  | fuel + 1, reads =>
    match readRequest env (.new reads) with
    | none => ⟨[], reads.flatten⟩
    | some (req, r) =>
      let fReq : Upstream := ⟨req.method, ascii "https://" ++ hostPort ++ req.requestURI, req.body⟩
      if !env.newRequest fReq.method fReq.url || !env.answers fReq then ⟨[], reads.flatten⟩
      else if equalFold ((valuesOf "Connection" req.header).headD []) "close" then
        ⟨[fReq], r.content⟩
      else
        -- the next round starts with a new reader, and `r.buf` is gone
        let rest := serveTunnel hostPort fuel r.reads
        ⟨fReq :: rest.issued, r.buf ++ rest.lost⟩

/-- A tunnel; `main.go:220–340`. Its TLS starts from the connection, not from the reader of the
head. -/
def handleMITM (hostPort : Bytes) (r : Reader) : Served :=
  match env.tls r.reads with
  | none => ⟨[], r.content⟩
  | some reads =>
    let served := serveTunnel env hostPort (reads.flatten.length + 1) reads
    ⟨served.issued, r.buf ++ served.lost⟩

/-- `strconv.ParseInt` in base 10 for 64 bits. -/
def parseInt (s : Bytes) : Option Int :=
  match s with
  | 45 :: digits => (parseDecimal digits).bind fun n ↦ if n ≤ 2 ^ 63 then some (-n) else none
  | 43 :: digits => (parseDecimal digits).bind fun n ↦ if n < 2 ^ 63 then some n else none
  | digits => (parseDecimal digits).bind fun n ↦ if n < 2 ^ 63 then some n else none

/-- Length of the body of a plain request; none when it is refused; `main.go:350–360`. -/
def plainLength (hdr : List Field) : Option Nat :=
  match (valuesOf "Content-Length" hdr).headD [] with
  | [] => some 0
  | cl =>
    match parseInt cl with
    | none => none
    | some n => if n < 0 || env.maxBody < n then none else some n.toNat

/-- A plain request, whose body is read from the connection; `main.go:343–406`. -/
def handleHTTP (method target : Bytes) (hdr : List Field) (r : Reader) : Served :=
  if !env.parseUrl target then ⟨[], r.content⟩
  else
    match plainLength env hdr with
    | none => ⟨[], r.content⟩
    | some n =>
      let fReq : Upstream := ⟨method, target, r.reads.flatten.take n⟩
      if !env.newRequest method target || !env.answers fReq then ⟨[], r.content⟩
      else ⟨[fReq], r.buf ++ r.reads.flatten.drop n⟩

/-- The header lines of the first head, with `fuel` for their number; `main.go:166–183`. -/
def readHeaderLines : Nat → List Field → Reader → Option (List Field × Reader)
  | 0, _, _ => none
  | fuel + 1, hdr, r =>
    match r.readString with
    | none => none
    | some (hl, r) =>
      match trimLineEnd hl with
      | [] => some (hdr, r)
      | hl =>
        match cut 58 hl with
        | none => readHeaderLines fuel hdr r
        | some (k, v) =>
          readHeaderLines fuel (hdr ++ [⟨canonicalHeaderKey (trimSpace k), trimSpace v⟩]) r

/-- Host and port of a `CONNECT` target; `main.go:190–193`. -/
def hostPortOf (target : Bytes) : Bytes :=
  if target.contains 58 then target else target ++ ascii ":443"

/-- What is done with a request whose head has been read; `main.go:188–215`. -/
def dispatch (method target : Bytes) (hdr : List Field) (r : Reader) : Served :=
  if method = ascii "CONNECT" then
    let hostPort := hostPortOf target
    if env.bypass hostPort then ⟨[], r.content⟩ else handleMITM env hostPort r
  else if (ascii "http://").isPrefixOf target || (ascii "https://").isPrefixOf target then
    handleHTTP env method target hdr r
  else ⟨[], r.content⟩

/-- One connection; `main.go:137–216`. -/
def handleConnection (reads : List Bytes) : Served :=
  match (Reader.new reads).readString with
  | none => ⟨[], reads.flatten⟩
  | some (line, r) =>
    match parseRequestLine (trimLineEnd line) with
    | none => ⟨[], reads.flatten⟩
    | some (method, target, _) =>
      match readHeaderLines (r.content.length + 1) [] r with
      | none => ⟨[], reads.flatten⟩
      | some (hdr, r) => dispatch env method target hdr r

end CrwShield.Proxy
