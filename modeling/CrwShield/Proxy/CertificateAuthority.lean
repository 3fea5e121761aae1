import CrwShield.Base.Bytes

/-!
# The certificate authority of the sidecar

`src/tls-proxy/main.go:489–616`: at its start the sidecar loads its certificate authority from a
directory, or creates one and writes it there, ignoring what becomes of the writes. Clients install
the certificate once, so that it should outlive the process. It does unless `os.Stat` fails on a
file that is there: whatever the error, the authority is then replaced by a new one.
-/

open CrwShield.Base CrwShield.Base.Bytes

namespace CrwShield.Proxy

/-- Uses of a key; the `x509.KeyUsage` and `x509.ExtKeyUsage` that the sidecar sets. -/
inductive KeyUsage where
  | certSign
  | digitalSignature
  | keyEncipherment
  | serverAuth
  deriving DecidableEq

/-- An `x509.Certificate` to be made, in the fields that the sidecar sets. Times are nanoseconds
since the epoch. -/
structure CertTemplate where
  serialNumber : Int
  commonName : Bytes
  organization : List Bytes
  notBefore : Int
  notAfter : Int
  isCA : Bool := false
  keyUsage : List KeyUsage
  extKeyUsage : List KeyUsage := []
  basicConstraintsValid : Bool := false
  ipAddresses : List Bytes := []
  dnsNames : List Bytes := []
  deriving DecidableEq

/-- A `crypto.PrivateKey`: an RSA key, or one of another kind. -/
inductive PrivateKey (κ : Type) where
  | rsa (key : κ)
  | other

/-- A `tls.Certificate`: the chain, the own certificate first, and its key. -/
structure TlsCertificate (κ : Type) where
  certificate : List Bytes
  privateKey : PrivateKey κ

/-- What the sidecar uses of `crypto/x509`, `crypto/tls`, `encoding/pem` and `net`. -/
structure CertLibrary where
  /-- `rsa.PrivateKey`, with its public key. -/
  Key : Type
  /-- `x509.Certificate`. -/
  Cert : Type
  /-- A template as a certificate. -/
  template : CertTemplate → Cert
  /-- `x509.CreateCertificate` of a template under a parent, for a key, signed with a key. -/
  createCertificate : CertTemplate → Cert → Key → Key → Except Bytes Bytes
  /-- `x509.ParseCertificate`. -/
  parseCertificate : Bytes → Except Bytes Cert
  /-- `pem.EncodeToMemory` of a block. -/
  pemEncode : Bytes → Bytes → Bytes
  /-- `x509.MarshalPKCS1PrivateKey`. -/
  marshalPKCS1 : Key → Bytes
  /-- `tls.X509KeyPair`. -/
  x509KeyPair : Bytes → Bytes → Except Bytes (TlsCertificate Key)
  /-- `net.SplitHostPort`. -/
  splitHostPort : Bytes → Except Bytes (Bytes × Bytes)
  /-- `net.ParseIP`. -/
  parseIP : Bytes → Option Bytes
  /-- Whether at some time a client that trusts one certificate accepts another as one signed with
  its key, the host apart. -/
  verifies : Int → Bytes → Bytes → Bool

/-- `caOrgName`; `main.go:65`. -/
def caOrgName : Bytes := "CortexBridge TLS Impersonation Proxy"

/-- `caCommonName`; `main.go:66`. -/
def caCommonName : Bytes := "tls-impersonate-proxy CA"

/-- Nanoseconds of an hour. -/
def hour : Int := 3600000000000

/-- A certificate is valid at a time; it keeps its times in whole seconds. -/
def CertTemplate.ValidAt (tmpl : CertTemplate) (t : Int) : Prop :=
  tmpl.notBefore ≤ t ∧ t + 1000000000 ≤ tmpl.notAfter

/-- The certificate of an authority created at some time; `main.go:541–552`. One reading of the
clock stands for the three of the source. -/
def caTemplate (now : Int) : CertTemplate where
  serialNumber := now / 1000000000
  commonName := caCommonName
  organization := [caOrgName]
  notBefore := now - 24 * hour
  notAfter := now + 10 * 365 * 24 * hour
  isCA := true
  keyUsage := [.certSign, .digitalSignature]
  basicConstraintsValid := true

section Authority

variable (L : CertLibrary)

/-- `ca`; `main.go:489–494`. -/
structure CA where
  cert : L.Cert
  key : L.Key
  tls : TlsCertificate L.Key
  certPEM : Bytes

/-- `pemCert`; `main.go:610–612`. -/
def pemCert (der : Bytes) : Bytes := L.pemEncode "CERTIFICATE" der

/-- `pemPKCS1Key`; `main.go:614–616`. -/
def pemPKCS1Key (key : L.Key) : Bytes := L.pemEncode "RSA PRIVATE KEY" (L.marshalPKCS1 key)

/-- The files `ca.crt` and `ca.key` of the directory. -/
structure CaFiles where
  crt : Option Bytes
  key : Option Bytes

/-- What becomes of an `os.WriteFile`: the file is written, or some other content of it is left, or
the process dies meanwhile. -/
inductive FileWrite where
  | whole
  | failed (left : Option Bytes)
  | died (left : Option Bytes)

/-- The file after a write. -/
def FileWrite.file (content : Bytes) : FileWrite → Option Bytes
  | .whole => some content
  | .failed left | .died left => left

/-- The process lives on after a write. -/
def FileWrite.goesOn : FileWrite → Bool
  | .died _ => false
  | _ => true

/-- What a start of the sidecar finds: the clock, the outcomes of `os.MkdirAll`, of `os.Stat` on a
file that is there and of the reads, the new key, and what becomes of the writes. -/
structure Start where
  now : Int
  mkdir : Except Bytes Unit
  statCert : Except Bytes Unit
  statKey : Except Bytes Unit
  readCert : Except Bytes Unit
  readKey : Except Bytes Unit
  generateKey : Except Bytes L.Key
  writeCert : FileWrite
  writeKey : FileWrite

variable {L}

/-- Load the authority from its two files; `main.go:512–534`. -/
def loadCA (s : Start L) (crt key : Bytes) : Except Bytes (CA L) := do
  s.readCert
  s.readKey
  let tlsCert ← L.x509KeyPair crt key
  let x509Cert ← L.parseCertificate (tlsCert.certificate.headD [])
  match tlsCert.privateKey with
  | .rsa rsaKey => .ok ⟨x509Cert, rsaKey, tlsCert, crt⟩
  | .other => .error "CA key is not RSA"

/-- Create an authority, and write it to the directory if there is one. There is no answer when the
process dies in a write; `main.go:536–570`. -/
def createCA (dir : Bytes) (s : Start L) (files : CaFiles) :
    Option (Except Bytes (CA L)) × CaFiles :=
  match s.generateKey with
  | .error e => (some (.error e), files)
  | .ok key =>
    match L.createCertificate (caTemplate s.now) (L.template (caTemplate s.now)) key key with
    | .error e => (some (.error e), files)
    | .ok der =>
      let certPEM := pemCert L der
      let ca : CA L := ⟨L.template (caTemplate s.now), key, ⟨[der], .rsa key⟩, certPEM⟩
      if dir.isEmpty then (some (.ok ca), files)
      else
        let files := { files with crt := s.writeCert.file certPEM }
        if !s.writeCert.goesOn then (none, files)
        else
          let files := { files with key := s.writeKey.file (pemPKCS1Key L key) }
          if !s.writeKey.goesOn then (none, files) else (some (.ok ca), files)

/-- The files that `os.Stat` finds. -/
def Start.finds (s : Start L) (files : CaFiles) : CaFiles where
  crt := if s.statCert.isOk then files.crt else none
  key := if s.statKey.isOk then files.key else none

/-- Load the authority if both files are found, and create one otherwise; `main.go:496–510`. -/
def loadOrCreateCA (dir : Bytes) (s : Start L) (files : CaFiles) :
    Option (Except Bytes (CA L)) × CaFiles :=
  if dir.isEmpty then createCA dir s files
  else
    match s.mkdir with
    | .error e => (some (.error e), files)
    | .ok () =>
      match s.finds files with
      | ⟨some crt, some key⟩ => (some (loadCA s crt key), files)
      | _ => createCA dir s files

/-- The certificate of a host; `main.go:583–598`. -/
def leafTemplate (now : Int) (host : Bytes) : CertTemplate where
  serialNumber := now
  commonName := host
  organization := [caOrgName]
  notBefore := now - hour
  notAfter := now + 24 * hour
  keyUsage := [.digitalSignature, .keyEncipherment]
  extKeyUsage := [.serverAuth]
  ipAddresses := (L.parseIP host).toList
  dnsNames := if (L.parseIP host).isSome then [] else [host]

/-- A certificate for a host, under the authority; `main.go:572–608`. -/
def generateLeafCert (now : Int) (generateKey : Except Bytes L.Key) (hostPort : Bytes) (ca : CA L) :
    Except Bytes (TlsCertificate L.Key) := do
  let host := match L.splitHostPort hostPort with
    | .error _ => hostPort
    | .ok (host, _) => host
  let key ← generateKey
  let der ← L.createCertificate (@leafTemplate L now host) ca.cert key ca.key
  .ok ⟨[der, ca.tls.certificate.headD []], .rsa key⟩

variable (L) in
/-- A certificate of an authority, signed with its own key. -/
def SelfSigned (now : Int) (key : L.Key) (der : Bytes) : Prop :=
  L.createCertificate (caTemplate now) (L.template (caTemplate now)) key key = .ok der

/-- What Go's library promises of such a certificate: with its key it is read back from PEM, it
parses, and while it is valid a client that trusts it accepts the certificate of a host that is
signed under it with that key, as long as this one is valid. -/
structure CertLibrary.Lawful (L : CertLibrary) : Prop where
  keyPair : ∀ {now key der}, SelfSigned L now key der →
    L.x509KeyPair (pemCert L der) (pemPKCS1Key L key) = .ok ⟨[der], .rsa key⟩
  parse : ∀ {now key der}, SelfSigned L now key der → ∃ cert, L.parseCertificate der = .ok cert
  signs : ∀ {now key der}, SelfSigned L now key der → ∀ {parent leafNow host leafKey leaf},
    L.parseCertificate der = .ok parent →
    L.createCertificate (@leafTemplate L leafNow host) parent leafKey key = .ok leaf →
    ∀ t, (caTemplate now).ValidAt t → (@leafTemplate L leafNow host).ValidAt t →
      L.verifies t der leaf = true

/-- The directory after some starts, empty at first. -/
def filesAfter (dir : Bytes) (starts : List (Start L)) : CaFiles :=
  starts.foldl (fun files s ↦ (loadOrCreateCA dir s files).2) ⟨none, none⟩

/-- The answer of a start after some others. -/
def answer (dir : Bytes) (before : List (Start L)) (s : Start L) : Option (Except Bytes (CA L)) :=
  (loadOrCreateCA dir s (filesAfter dir before)).1

/-- Both files are written, should they be. -/
def Start.Whole (s : Start L) : Prop := s.writeCert = .whole ∧ s.writeKey = .whole

/-- `os.Stat` fails on no file that is there. -/
def Start.Sees (s : Start L) : Prop := s.statCert = .ok () ∧ s.statKey = .ok ()

/-- The directory and the files in it can be read. -/
def Start.Reads (s : Start L) : Prop :=
  s.mkdir = .ok () ∧ s.Sees ∧ s.readCert = .ok () ∧ s.readKey = .ok ()

/-- A failure of the start itself. -/
def Start.Fails (s : Start L) (e : Bytes) : Prop :=
  s.mkdir = .error e ∨ s.readCert = .error e ∨ s.readKey = .error e ∨ s.generateKey = .error e ∨
    ∃ key, s.generateKey = .ok key ∧
      L.createCertificate (caTemplate s.now) (L.template (caTemplate s.now)) key key = .error e

/-- Both files are there. -/
def CaFiles.Both (files : CaFiles) : Prop := files.crt.isSome ∧ files.key.isSome

/-- The files of an authority. -/
def CaFiles.of (der : Bytes) (key : L.Key) : CaFiles :=
  ⟨some (pemCert L der), some (pemPKCS1Key L key)⟩

/-- The same certificate and key. -/
structure CA.Same (ca ca' : CA L) : Prop where
  key : ca'.key = ca.key
  tls : ca'.tls = ca.tls
  certPEM : ca'.certPEM = ca.certPEM

section Starts

variable {dir : Bytes} {s s' : Start L} {files : CaFiles} {ca ca' : CA L} {crt key : Bytes}

theorem bind_eq_ok {α β : Type} {x : Except Bytes α} {f : α → Except Bytes β} {b : β} :
    x >>= f = .ok b ↔ ∃ a, x = .ok a ∧ f a = .ok b := by
  cases x <;> simp [bind, Except.bind]

/-- A start that loads its authority gets what the files hold. -/
theorem loadCA_ok (h : loadCA s crt key = .ok ca) :
    s.readCert = .ok () ∧ s.readKey = .ok () ∧ L.x509KeyPair crt key = .ok ca.tls ∧
      L.parseCertificate (ca.tls.certificate.headD []) = .ok ca.cert ∧
      ca.tls.privateKey = .rsa ca.key ∧ ca.certPEM = crt := by
  unfold loadCA at h
  obtain ⟨_, hcert, h⟩ := bind_eq_ok.mp h
  obtain ⟨_, hkey, h⟩ := bind_eq_ok.mp h
  obtain ⟨tls, htls, h⟩ := bind_eq_ok.mp h
  obtain ⟨cert, hparse, h⟩ := bind_eq_ok.mp h
  cases hprivate : tls.privateKey with
  | other =>
    rw [hprivate] at h
    exact absurd h (by simp)
  | rsa rsaKey =>
    rw [hprivate] at h
    obtain rfl := Except.ok.inj h
    exact ⟨hcert, hkey, htls, hparse, hprivate, rfl⟩

/-- Files that were loaded once are loaded again. -/
theorem loadCA_again (h : loadCA s crt key = .ok ca) (hcert : s'.readCert = .ok ())
    (hkey : s'.readKey = .ok ()) : loadCA s' crt key = .ok ca := by
  obtain ⟨-, -, htls, hparse, hprivate, rfl⟩ := loadCA_ok h
  unfold loadCA
  rw [hcert, hkey, htls]
  simp only [bind, Except.bind]
  rw [hparse]
  simp only [hprivate]

/-- What is loaded does not depend on the start. -/
theorem loadCA_unique (h : loadCA s crt key = .ok ca) (h' : loadCA s' crt key = .ok ca') :
    ca' = ca := by
  obtain ⟨hcert, hkey, -⟩ := loadCA_ok h'
  exact Except.ok.inj (h'.symm.trans (loadCA_again h hcert hkey))

/-- The files of a created authority are loaded. -/
theorem loadCA_of (hL : L.Lawful) {now : Int} {rsaKey : L.Key} {der : Bytes}
    (hder : SelfSigned L now rsaKey der) (hcert : s.readCert = .ok ()) (hkey : s.readKey = .ok ()) :
    ∃ cert, L.parseCertificate der = .ok cert ∧
      loadCA s (pemCert L der) (pemPKCS1Key L rsaKey) =
        .ok ⟨cert, rsaKey, ⟨[der], .rsa rsaKey⟩, pemCert L der⟩ := by
  obtain ⟨cert, hparse⟩ := hL.parse hder
  refine ⟨cert, hparse, ?_⟩
  unfold loadCA
  rw [hcert, hkey, hL.keyPair hder]
  simp only [bind, Except.bind]
  rw [List.headD_cons, hparse]

variable (L) in
/-- The authority that has just been created. -/
def createdCA (now : Int) (rsaKey : L.Key) (der : Bytes) : CA L :=
  ⟨L.template (caTemplate now), rsaKey, ⟨[der], .rsa rsaKey⟩, pemCert L der⟩

/-- Creating an authority fails by itself, or signs a certificate and writes it. -/
theorem createCA_cases (hdir : dir.isEmpty = false) (s : Start L) (files : CaFiles) :
    (∃ e, s.Fails e ∧ createCA dir s files = (some (.error e), files)) ∨
      ∃ rsaKey der, SelfSigned L s.now rsaKey der ∧
        ((createCA dir s files).1 = none ∨
          (createCA dir s files).1 = some (.ok (createdCA L s.now rsaKey der))) ∧
        (s.Whole → (createCA dir s files).2 = .of der rsaKey) := by
  cases hkey : s.generateKey with
  | error e =>
    refine .inl ⟨e, .inr (.inr (.inr (.inl hkey))), ?_⟩
    simp only [createCA, hkey]
  | ok rsaKey =>
    cases hder : L.createCertificate (caTemplate s.now) (L.template (caTemplate s.now)) rsaKey
        rsaKey with
    | error e =>
      refine .inl ⟨e, .inr (.inr (.inr (.inr ⟨rsaKey, hkey, hder⟩))), ?_⟩
      simp only [createCA, hkey, hder]
    | ok der =>
      refine .inr ⟨rsaKey, der, hder, ?_, fun hwhole ↦ ?_⟩
      · simp only [createCA, hkey, hder, hdir, Bool.false_eq_true, if_false]
        split
        · exact .inl rfl
        · split
          · exact .inl rfl
          · exact .inr rfl
      · simp [createCA, hkey, hder, hdir, hwhole.1, hwhole.2, FileWrite.goesOn, FileWrite.file,
          CaFiles.of]

theorem Start.Sees.finds (h : s.Sees) (files : CaFiles) : s.finds files = files := by
  unfold Start.finds
  rw [h.1, h.2]
  rfl

/-- Files that are found are there. -/
theorem eq_of_finds (h : s.finds files = ⟨some crt, some key⟩) : files = ⟨some crt, some key⟩ := by
  obtain ⟨hcrt, hkey⟩ := CaFiles.mk.inj h
  obtain ⟨crt', key'⟩ := files
  split at hcrt
  · split at hkey
    · exact congrArg₂ CaFiles.mk hcrt hkey
    · exact absurd hkey (by simp)
  · exact absurd hcrt (by simp)

/-- Where both files are found, a start loads them or fails before. -/
theorem loadOrCreateCA_both (hdir : dir.isEmpty = false)
    (hfinds : s.finds files = ⟨some crt, some key⟩) :
    loadOrCreateCA dir s files =
      (match s.mkdir with
        | .error e => some (.error e)
        | .ok () => some (loadCA s crt key), files) := by
  unfold loadOrCreateCA
  rw [if_neg (by simp [hdir])]
  cases s.mkdir with
  | error e => rfl
  | ok u => simp only [hfinds]

/-- Where a file is not found, a start creates an authority or fails before. -/
theorem loadOrCreateCA_missing (hdir : dir.isEmpty = false) (hmissing : ¬ (s.finds files).Both) :
    loadOrCreateCA dir s files =
      match s.mkdir with
      | .error e => (some (.error e), files)
      | .ok () => createCA dir s files := by
  unfold loadOrCreateCA
  rw [if_neg (by simp [hdir])]
  generalize s.finds files = found at hmissing
  obtain ⟨_ | crt, _ | key⟩ := found
  · rfl
  · rfl
  · rfl
  · exact absurd ⟨rfl, rfl⟩ hmissing

/-- Both files. -/
theorem CaFiles.Both.eq (h : files.Both) : ∃ crt key, files = ⟨some crt, some key⟩ := by
  obtain ⟨_ | crt, _ | key⟩ := files
  · exact absurd h.1 (by simp)
  · exact absurd h.1 (by simp)
  · exact absurd h.2 (by simp)
  · exact ⟨crt, key, rfl⟩

/-- Both files, once there, stay as they are while they are seen. -/
theorem foldl_both (hdir : dir.isEmpty = false) {starts : List (Start L)}
    (hsees : ∀ s ∈ starts, s.Sees) :
    starts.foldl (fun files s ↦ (loadOrCreateCA dir s files).2) ⟨some crt, some key⟩ =
      ⟨some crt, some key⟩ := by
  induction starts with
  | nil => rfl
  | cons s starts ih =>
    obtain ⟨hs, hrest⟩ := List.forall_mem_cons.mp hsees
    rw [List.foldl_cons, loadOrCreateCA_both hdir (hs.finds _), ih hrest]

/-- The directory after a start, some starts before it. -/
theorem filesAfter_concat (before : List (Start L)) (s : Start L) :
    filesAfter dir (before ++ [s]) = (loadOrCreateCA dir s (filesAfter dir before)).2 := by
  simp [filesAfter, List.foldl_append]

/-- A start whose files are both there afterwards settles what the directory is, while they are
seen. -/
theorem filesAfter_settled (hdir : dir.isEmpty = false) {before later : List (Start L)}
    (hfiles : filesAfter dir (before ++ [s]) = ⟨some crt, some key⟩)
    (hsees : ∀ s ∈ later, s.Sees) :
    filesAfter dir (before ++ s :: later) = ⟨some crt, some key⟩ := by
  have hsplit : before ++ s :: later = (before ++ [s]) ++ later := by simp
  rw [hsplit, filesAfter, List.foldl_append, show
    (before ++ [s]).foldl (fun files s ↦ (loadOrCreateCA dir s files).2) ⟨none, none⟩ =
      ⟨some crt, some key⟩ from hfiles]
  exact foldl_both hdir hsees

/-- A start that creates an authority has signed its certificate, and leaves its files. -/
theorem answer_created (hdir : dir.isEmpty = false) {before : List (Start L)}
    (hmissing : ¬ (s.finds (filesAfter dir before)).Both)
    (h : answer dir before s = some (.ok ca)) (hwhole : s.Whole) :
    ∃ rsaKey der, SelfSigned L s.now rsaKey der ∧ ca = createdCA L s.now rsaKey der ∧
      filesAfter dir (before ++ [s]) = .of der rsaKey := by
  rw [filesAfter_concat]
  unfold answer at h
  rw [loadOrCreateCA_missing hdir hmissing] at h ⊢
  cases hmkdir : s.mkdir with
  | error e => simp [hmkdir] at h
  | ok u =>
    rw [hmkdir] at h
    dsimp only at h ⊢
    rcases createCA_cases hdir s (filesAfter dir before) with
      ⟨e, -, hfails⟩ | ⟨rsaKey, der, hder, hanswer, hfiles⟩
    · rw [hfails] at h
      exact absurd h (by simp)
    · refine ⟨rsaKey, der, hder, ?_, hfiles hwhole⟩
      rcases hanswer with hdied | hok
      · exact absurd (hdied.symm.trans h) (by simp)
      · exact Except.ok.inj (Option.some.inj (h.symm.trans hok))

/-- A start that loads its authority leaves the files. -/
theorem answer_loaded (hdir : dir.isEmpty = false) {before : List (Start L)}
    (hboth : (s.finds (filesAfter dir before)).Both) (h : answer dir before s = some (.ok ca)) :
    ∃ crt key, filesAfter dir (before ++ [s]) = ⟨some crt, some key⟩ ∧
      loadCA s crt key = .ok ca := by
  rw [filesAfter_concat]
  unfold answer at h
  obtain ⟨crt, key, hfinds⟩ := hboth.eq
  rw [loadOrCreateCA_both hdir hfinds] at h ⊢
  cases hmkdir : s.mkdir with
  | error e => simp [hmkdir] at h
  | ok u =>
    rw [hmkdir] at h
    exact ⟨crt, key, eq_of_finds hfinds, Option.some.inj h⟩

/-- What a start that answers with an authority leaves, its writes being whole: files from which
that authority is loaded. -/
theorem answer_ok (hL : L.Lawful) (hdir : dir.isEmpty = false) {before : List (Start L)}
    (h : answer dir before s = some (.ok ca)) (hwhole : s.Whole) :
    ∃ crt key, filesAfter dir (before ++ [s]) = ⟨some crt, some key⟩ ∧
      ∀ s' : Start L, s'.readCert = .ok () → s'.readKey = .ok () →
        ∃ ca', loadCA s' crt key = .ok ca' ∧ ca.Same ca' := by
  by_cases hboth : (s.finds (filesAfter dir before)).Both
  · obtain ⟨crt, key, hfiles, hload⟩ := answer_loaded hdir hboth h
    exact ⟨crt, key, hfiles, fun s' hcert hkey ↦
      ⟨ca, loadCA_again hload hcert hkey, ⟨rfl, rfl, rfl⟩⟩⟩
  · obtain ⟨rsaKey, der, hder, rfl, hfiles⟩ := answer_created hdir hboth h hwhole
    refine ⟨_, _, hfiles, fun s' hcert hkey ↦ ?_⟩
    obtain ⟨cert, -, hload⟩ := loadCA_of hL hder hcert hkey
    exact ⟨_, hload, ⟨rfl, rfl, rfl⟩⟩

/-- A later start loads what was left, or fails before. -/
theorem answer_later (hdir : dir.isEmpty = false) {before later : List (Start L)}
    (hfiles : filesAfter dir (before ++ [s]) = ⟨some crt, some key⟩) {s' : Start L}
    (hsees : ∀ s₀ ∈ later ++ [s'], s₀.Sees) :
    answer dir (before ++ s :: later) s' =
      match s'.mkdir with
      | .error e => some (.error e)
      | .ok () => some (loadCA s' crt key) := by
  rw [List.forall_mem_append, List.forall_mem_singleton] at hsees
  unfold answer
  rw [filesAfter_settled hdir hfiles hsees.1, loadOrCreateCA_both hdir (hsees.2.finds _)]

/-- While all writes are whole, the directory is empty or holds a created authority. -/
theorem filesAfter_whole (hdir : dir.isEmpty = false) {before : List (Start L)}
    (hwhole : ∀ s ∈ before, s.Whole) :
    filesAfter dir before = ⟨none, none⟩ ∨
      ∃ now rsaKey der, SelfSigned L now rsaKey der ∧ filesAfter dir before = .of der rsaKey := by
  induction before using List.reverseRecOn with
  | nil => exact .inl rfl
  | append_singleton before s ih =>
    rw [filesAfter_concat]
    have hbefore := ih fun s₀ h₀ ↦ hwhole s₀ (List.mem_append_left _ h₀)
    by_cases hboth : (s.finds (filesAfter dir before)).Both
    · obtain ⟨crt, key, hfinds⟩ := hboth.eq
      rw [loadOrCreateCA_both hdir hfinds]
      exact hbefore
    · rw [loadOrCreateCA_missing hdir hboth]
      cases s.mkdir with
      | error e => exact hbefore
      | ok u =>
        dsimp only
        rcases createCA_cases hdir s (filesAfter dir before) with
          ⟨e, -, hfails⟩ | ⟨rsaKey, der, hder, -, hfiles⟩
        · rw [hfails]
          exact hbefore
        · exact .inr ⟨s.now, rsaKey, der, hder, hfiles (hwhole s (by simp))⟩

/-- The files of a created authority are loaded unless a read fails. -/
theorem loadCA_error (hL : L.Lawful) {now : Int} {rsaKey : L.Key} {der e : Bytes}
    (hder : SelfSigned L now rsaKey der)
    (h : loadCA s (pemCert L der) (pemPKCS1Key L rsaKey) = .error e) : s.Fails e := by
  cases hcert : s.readCert with
  | error e' =>
    unfold loadCA at h
    rw [hcert] at h
    obtain rfl := Except.error.inj h
    exact .inr (.inl hcert)
  | ok u =>
    cases hkey : s.readKey with
    | error e' =>
      unfold loadCA at h
      rw [hcert, hkey] at h
      obtain rfl := Except.error.inj h
      exact .inr (.inr (.inl hkey))
    | ok u =>
      obtain ⟨cert, -, hok⟩ := loadCA_of hL hder hcert hkey
      exact absurd (hok.symm.trans h) (by simp)

/-- A start that finds the directory empty, or a created authority in it, fails by itself. -/
theorem answer_error (hL : L.Lawful) (hdir : dir.isEmpty = false) {before : List (Start L)}
    {e : Bytes} (hwhole : ∀ s ∈ before, s.Whole) (h : answer dir before s = some (.error e)) :
    s.Fails e := by
  unfold answer at h
  by_cases hboth : (s.finds (filesAfter dir before)).Both
  · obtain ⟨crt, key, hfinds⟩ := hboth.eq
    rw [loadOrCreateCA_both hdir hfinds] at h
    cases hmkdir : s.mkdir with
    | error e' =>
      rw [hmkdir] at h
      obtain rfl := Except.error.inj (Option.some.inj h)
      exact .inl hmkdir
    | ok u =>
      rw [hmkdir] at h
      rcases filesAfter_whole hdir hwhole with hempty | ⟨now, rsaKey, der, hder, hfiles⟩
      · exact absurd (hempty.symm.trans (eq_of_finds hfinds)) (by simp)
      · obtain ⟨hcrt, hkey⟩ := CaFiles.mk.inj (hfiles.symm.trans (eq_of_finds hfinds))
        rw [← Option.some.inj hcrt, ← Option.some.inj hkey] at h
        exact loadCA_error hL hder (Option.some.inj h)
  · rw [loadOrCreateCA_missing hdir hboth] at h
    cases hmkdir : s.mkdir with
    | error e' =>
      rw [hmkdir] at h
      obtain rfl := Except.error.inj (Option.some.inj h)
      exact .inl hmkdir
    | ok u =>
      rw [hmkdir] at h
      dsimp only at h
      rcases createCA_cases hdir s (filesAfter dir before) with
        ⟨e', he', hfails⟩ | ⟨_, _, -, hdied | hok, -⟩
      · rw [hfails] at h
        obtain rfl := Except.error.inj (Option.some.inj h)
        exact he'
      · exact absurd (hdied.symm.trans h) (by simp)
      · exact absurd (hok.symm.trans h) (by simp)

end Starts

/-- What a run of starts on one directory promises of a start and a later one. Once an authority is
there in whole, and as long as `os.Stat` fails on neither file, later starts have no other and need
only to read it; a client that trusts a created certificate accepts the certificates of all hosts
that later starts make, while both are valid; and a start fails by itself, or because a write before
it was not whole. -/
structure CaSound (dir : Bytes) (before : List (Start L)) (s : Start L) (later : List (Start L))
    (s' : Start L) : Prop where
  kept : ∀ ca ca', answer dir before s = some (.ok ca) → s.Whole →
    (∀ s₀ ∈ later ++ [s'], s₀.Sees) → answer dir (before ++ s :: later) s' = some (.ok ca') →
    ca.Same ca'
  served : ∀ ca, answer dir before s = some (.ok ca) → s.Whole → (∀ s₀ ∈ later, s₀.Sees) →
    s'.Reads → ∃ ca', answer dir (before ++ s :: later) s' = some (.ok ca')
  trusted : ∀ ca ca', answer dir before s = some (.ok ca) → s.Whole →
    ¬ (s.finds (filesAfter dir before)).Both → (∀ s₀ ∈ later ++ [s'], s₀.Sees) →
    answer dir (before ++ s :: later) s' = some (.ok ca') →
    ∀ now key hostPort chain, generateLeafCert now key hostPort ca' = .ok chain →
      ∃ leaf root host, chain.certificate = [leaf, root] ∧ ca.tls.certificate = [root] ∧
        ∀ t, (caTemplate s.now).ValidAt t → (@leafTemplate L now host).ValidAt t →
          L.verifies t root leaf = true
  refused : ∀ e, answer dir before s = some (.error e) → s.Fails e ∨ ∃ s₀ ∈ before, ¬ s₀.Whole

/-- The authority outlives the sidecar in every run of starts on one directory, whatever becomes of
their reads and writes. -/
theorem ca_sound (hL : L.Lawful) {dir : Bytes} (hdir : dir.isEmpty = false)
    (before : List (Start L)) (s : Start L) (later : List (Start L)) (s' : Start L) :
    CaSound dir before s later s' where
  kept ca ca' h hwhole hsees h' := by
    obtain ⟨crt, key, hfiles, hload⟩ := answer_ok hL hdir h hwhole
    rw [answer_later hdir hfiles hsees] at h'
    cases hmkdir : s'.mkdir with
    | error e => simp [hmkdir] at h'
    | ok u =>
      rw [hmkdir] at h'
      have hload' := Option.some.inj h'
      obtain ⟨hcert, hkey, -⟩ := loadCA_ok hload'
      obtain ⟨ca'', hload'', hsame⟩ := hload s' hcert hkey
      rwa [loadCA_unique hload'' hload']
  served ca h hwhole hsees hreads := by
    obtain ⟨hmkdir, hs', hcert, hkey⟩ := hreads
    obtain ⟨crt, key, hfiles, hload⟩ := answer_ok hL hdir h hwhole
    obtain ⟨ca', hload', -⟩ := hload s' hcert hkey
    have hall : ∀ s₀ ∈ later ++ [s'], s₀.Sees := by
      rw [List.forall_mem_append, List.forall_mem_singleton]
      exact ⟨hsees, hs'⟩
    refine ⟨ca', ?_⟩
    rw [answer_later hdir hfiles hall, hmkdir, hload']
  trusted ca ca' h hwhole hmissing hsees h' now key hostPort chain hchain := by
    obtain ⟨rsaKey, der, hder, rfl, hfiles⟩ := answer_created hdir hmissing h hwhole
    rw [answer_later hdir hfiles hsees] at h'
    cases hmkdir : s'.mkdir with
    | error e => simp [hmkdir] at h'
    | ok u =>
      rw [hmkdir] at h'
      have hload' := Option.some.inj h'
      obtain ⟨hcert, hkey, -⟩ := loadCA_ok hload'
      obtain ⟨cert, hparse, hload⟩ := loadCA_of hL hder hcert hkey
      obtain rfl := loadCA_unique hload hload'
      unfold generateLeafCert at hchain
      obtain ⟨leafKey, -, hchain⟩ := bind_eq_ok.mp hchain
      obtain ⟨leaf, hleaf, hchain⟩ := bind_eq_ok.mp hchain
      obtain rfl := Except.ok.inj hchain
      exact ⟨leaf, der, _, rfl, rfl, hL.signs hder hparse hleaf⟩
  refused e h := by
    by_cases hwhole : ∀ s₀ ∈ before, s₀.Whole
    · exact .inl (answer_error hL hdir hwhole h)
    · simp only [not_forall] at hwhole
      obtain ⟨s₀, h₀, hbroken⟩ := hwhole
      exact .inr ⟨s₀, h₀, hbroken⟩

end Authority

/-- Certificates that are the key certified and the key that signed, and keys of one byte. -/
def plainLibrary : CertLibrary where
  Key := UInt8
  Cert := CertTemplate
  template := id
  createCertificate _ _ key signer := .ok [key, signer]
  parseCertificate _ := .ok (caTemplate 0)
  pemEncode kind der := kind ++ 10 :: der
  marshalPKCS1 key := [key]
  x509KeyPair crt key :=
    match crt.reverse, key.reverse with
    | signer :: certified :: _, own :: _ =>
      if crt = ("CERTIFICATE" : Bytes) ++ [10, certified, signer] ∧
          key = ("RSA PRIVATE KEY" : Bytes) ++ [10, own] ∧ certified = own then
        .ok ⟨[[certified, signer]], .rsa own⟩
      else .error "tls: private key does not match public key"
    | _, _ => .error "tls: failed to find any PEM data in certificate input"
  splitHostPort hostPort := .ok (hostPort, [])
  parseIP _ := none
  verifies _ root leaf := root.head? = leaf[1]?

theorem lawful_plainLibrary : plainLibrary.Lawful where
  keyPair := by
    rintro now key der hder
    obtain rfl := Except.ok.inj hder
    exact if_pos ⟨rfl, rfl, rfl⟩
  parse _ := ⟨_, rfl⟩
  signs := by
    intro now key der hder parent leafNow host leafKey leaf _ hleaf t _ _
    obtain rfl := Except.ok.inj hder
    obtain rfl := Except.ok.inj hleaf
    exact decide_eq_true rfl

/-- A start with a new key at hand, in which nothing fails. -/
def plainStart (now : Int) (key : UInt8) : Start plainLibrary :=
  ⟨now, .ok (), .ok (), .ok (), .ok (), .ok (), .ok key, .whole, .whole⟩

/-- After a start that died between its two writes a second one creates the authority, and a third
one, whose own key differs, serves with it. -/
theorem ca_sound_restarted :
    (answer "ca" [{ plainStart 5 7 with writeKey := .died none }, plainStart 6 8]
        (plainStart 7 9)).map (·.toOption.map CA.certPEM) =
      some (some (pemCert plainLibrary [8, 8])) ∧
      CaSound "ca" [{ plainStart 5 7 with writeKey := .died none }] (plainStart 6 8) []
        (plainStart 7 9) :=
  ⟨by decide, ca_sound lawful_plainLibrary (by decide) _ _ _ _⟩

end CrwShield.Proxy
