import EdgeSync.Storage.Backend

/-!
# Connecting to the database: `Init`

`Init` builds the TLS settings of the connection, then dials the database in the loop

    for connectTime := 0; connectTime < common.Configuration.DatabaseConnectTimeout; connectTime += 10 {
        session, err = mgo.DialWithInfo(store.dialInfo)
        if err == nil { break }
        if strings.HasPrefix(err.Error(), "unauthorized") || ... { break }
    }
    if session == nil { return &Error{fmt.Sprintf("Failed to dial mgo. Error: %s.", err)} }

and only when a session is open marks the store connected, fills the session cache, empties
the map of open files, and starts the maintenance ticker with
`time.NewTicker(time.Second * time.Duration(StorageMaintenanceInterval))`, which panics with
`non-positive interval for NewTicker` when that period, an `int64` count of nanoseconds, is not
positive.  The loop itself never sleeps: `connectTime` counts the attempts
in steps of ten, and the driver's dial timeout spaces them.  The outcome of each attempt is an
input of the model, as a function of the value of `connectTime` it is made at, and so is the
reading of the CA file.

Main results:
* the loop in closed form, from any value of its counter (`dialLoop_eq`): the attempt that
  decides it is the first one within the timeout that succeeds or fails to authenticate, or
  else the last one the timeout allows, and the loop returns that attempt's session or error;
  when the timeout allows no attempt, the loop returns what it started from;
* `Init` in closed form (`init_outcome`): it fails on a CA file that cannot be read for a
  reason other than a path error; otherwise, when the deciding attempt succeeds, it connects
  with its session if the maintenance period is positive and panics if it is not, and when that
  attempt fails it fails with its error, or with the text Go prints for a nil error when no
  attempt is made, leaving the store as it was.
-/

namespace EdgeSync

/-- `strings.HasPrefix`, on the characters. -/
def hasPrefix (s pre : String) : Bool := pre.data.isPrefixOf s.data

/-- `[]byte(s)`: the UTF-8 encoding of `s`, as `String.toUTF8` computes it. -/
def stringBytes (s : String) : Bytes := s.data.flatMap String.utf8EncodeChar

/-- The settings of `common.Configuration` that decide the outcome of `Init`; the address,
the credentials and the database name only reach the driver. -/
structure MongoConfiguration where
  mongoUseSSL : Bool
  mongoCACertificate : String
  persistenceRootPath : String
  mongoAllowInvalidCertificates : Bool
  databaseConnectTimeout : Int
  mongoSessionCacheSize : Int
  /-- The seconds between two runs of the maintenance loop. -/
  storageMaintenanceInterval : Int
deriving DecidableEq, Repr

/-- An error of `ioutil.ReadFile`, with the text `err.Error()` gives: an `*os.PathError`, when
the file cannot be opened or read, or any other error. -/
inductive ReadFileError
  | pathError (text : String)
  | other (text : String)
deriving DecidableEq, Repr

/-- The `tls.Config` that `Init` dials with: the PEM data its root CA pool is built from, when a
CA certificate is configured, and `InsecureSkipVerify`. -/
structure TLSConfig where
  rootCAs : Option Bytes
  insecureSkipVerify : Bool
deriving DecidableEq, Repr

/-- What a successful `Init` sets in the store, besides emptying `openFiles`: `connected`, which
`IsConnected` returns, the TLS settings the session was dialled with, the session, the cache
size, and the number of copies of the session in `sessionCache`. -/
structure Connection (σ : Type) where
  connected : Bool
  tls : Option TLSConfig
  session : σ
  cacheSize : Int
  sessionCache : Nat
deriving DecidableEq, Repr

namespace MongoStorage

variable {σ : Type}

/-! ### The TLS settings -/

/-- The path of the CA file: the certificate setting itself when it is absolute, and a path
under the persistence root otherwise. -/
def caFile (config : MongoConfiguration) : String :=
  if hasPrefix config.mongoCACertificate "/" then config.mongoCACertificate
  else config.persistenceRootPath ++ config.mongoCACertificate

/-- The TLS part of `store.dialInfo`, none when `MongoUseSSL` is off.  A CA file that cannot be
opened is taken for a certificate given inline: the setting's text is the PEM data. -/
def tlsConfig (config : MongoConfiguration) (readFile : String → Except ReadFileError Bytes) :
    Except SyncServiceError (Option TLSConfig) :=
  if config.mongoUseSSL then
    if config.mongoCACertificate ≠ "" then
      match readFile (caFile config) with
      | .ok serverCaCert => .ok (some ⟨some serverCaCert, config.mongoAllowInvalidCertificates⟩)
      | .error (.pathError _) =>
        .ok (some ⟨some (stringBytes config.mongoCACertificate),
          config.mongoAllowInvalidCertificates⟩)
      | .error (.other text) =>
        .error (.error s!"Failed to find mongo SSL CA file. Error: {text}.")
    else .ok (some ⟨none, config.mongoAllowInvalidCertificates⟩)
  else .ok none

/-- `tlsConfig` fails only on a CA file that cannot be read for a reason other than a path
error. -/
theorem tlsConfig_error {config : MongoConfiguration}
    {readFile : String → Except ReadFileError Bytes} {e : SyncServiceError}
    (h : tlsConfig config readFile = .error e) :
    ∃ text, config.mongoUseSSL = true ∧ config.mongoCACertificate ≠ "" ∧
      readFile (caFile config) = .error (.other text) ∧
      e = .error s!"Failed to find mongo SSL CA file. Error: {text}." := by
  unfold tlsConfig at h
  split at h
  · split at h
    · split at h
      · cases h
      · cases h
      · rename_i text hr
        cases h
        exact ⟨text, ‹_›, ‹_›, hr, rfl⟩
    · cases h
  · cases h

/-! ### The dial loop -/

/-- The errors after which `Init` dials no more: the driver's authentication failures. -/
def isAuthError (text : String) : Bool :=
  hasPrefix text "unauthorized" || hasPrefix text "not authorized" ||
    hasPrefix text "auth fail" || hasPrefix text "Authentication failed"

/-- `session, err` as `mgo.DialWithInfo` returns them. -/
def dialResult : Except String σ → Option σ × Option String
  | .ok session => (some session, none)
  | .error e => (none, some e)

/-- The outcomes after which the loop dials no more: a session, or an authentication
failure. -/
def endsDialLoop : Except String σ → Bool
  | .ok _ => true
  | .error e => isAuthError e

/-- The dial loop of `Init` from the counter value `connectTime`, with `session, err` as the
attempts before left them; `dial` gives the outcome of the attempt made at each value of the
counter. -/
def dialLoop (dial : Int → Except String σ) (timeout connectTime : Int)
    (last : Option σ × Option String) : Option σ × Option String :=
  if connectTime < timeout then
    match dial connectTime with
    | .ok session => (some session, none)
    | .error e =>
      if isAuthError e then (none, some e)
      else dialLoop dial timeout (connectTime + 10) (none, some e)
  else last
termination_by (timeout - connectTime).toNat
decreasing_by omega

/-- `fmt.Sprintf("%s", err)`: the error's text, and `%!s(<nil>)` for a nil error. -/
def sprintError : Option String → String
  | some text => text
  | none => "%!s(<nil>)"

/-- The store's connection after a session is open. -/
def connectedWith (config : MongoConfiguration) (tls : Option TLSConfig) (session : σ) :
    Connection σ where
  connected := true
  tls := tls
  session := session
  cacheSize := config.mongoSessionCacheSize
  sessionCache := if 1 < config.mongoSessionCacheSize then config.mongoSessionCacheSize.toNat else 0

/-- The period of the maintenance ticker, `time.Second * time.Duration(interval)`: nanoseconds,
in an `int64` that wraps, modulo `2^64` into `[-2^63, 2^63)`. -/
def maintenancePeriod (interval : Int) : Int := Int.bmod (1000000000 * interval) 18446744073709551616

/-- What `Init` does once a session is open: the open files are emptied, and the ticker of
the maintenance loop is started, which `time.NewTicker` refuses with a panic when the period is
not positive. -/
def startStore (config : MongoConfiguration) (tls : Option TLSConfig) (session : σ)
    (s : MongoStorage) : Except SyncServiceError (Connection σ) × MongoStorage :=
  if 0 < maintenancePeriod config.storageMaintenanceInterval then
    (.ok (connectedWith config tls session), { s with openFiles := fun _ => none })
  else (.error (.panic "non-positive interval for NewTicker"), { s with openFiles := fun _ => none })

/-- `Init`: the connection and the store with no open files, or the error and the store as it
was, or the panic of the ticker.  `dialWithInfo` gives the outcome of `mgo.DialWithInfo` with
the TLS settings given, at each value of the loop counter. -/
def init (config : MongoConfiguration) (readFile : String → Except ReadFileError Bytes)
    (dialWithInfo : Option TLSConfig → Int → Except String σ) (s : MongoStorage) :
    Except SyncServiceError (Connection σ) × MongoStorage :=
  match tlsConfig config readFile with
  | .error e => (.error e, s)
  | .ok tls =>
    match dialLoop (dialWithInfo tls) config.databaseConnectTimeout 0 (none, none) with
    | (some session, _) => startStore config tls session s
    | (none, err) => (.error (.error s!"Failed to dial mgo. Error: {sprintError err}."), s)

theorem dialLoop_of_lt {dial : Int → Except String σ} {timeout connectTime : Int}
    (last : Option σ × Option String) (h : connectTime < timeout) :
    dialLoop dial timeout connectTime last =
      match dial connectTime with
      | .ok session => (some session, none)
      | .error e =>
        if isAuthError e then (none, some e)
        else dialLoop dial timeout (connectTime + 10) (none, some e) := by
  rw [dialLoop, if_pos h]

theorem dialLoop_of_le {dial : Int → Except String σ} {timeout connectTime : Int}
    (last : Option σ × Option String) (h : timeout ≤ connectTime) :
    dialLoop dial timeout connectTime last = last := by
  rw [dialLoop, if_neg (not_lt.mpr h)]

/-- The attempt made at `connectTime + 10 * k` decides the loop started at `connectTime`: it is
made, every attempt before it fails with an error that is not an authentication failure, and it
ends the loop or is the last one the timeout allows. -/
structure DecidingAttempt (dial : Int → Except String σ) (timeout connectTime : Int) (k : Nat) :
    Prop where
  made : connectTime + 10 * k < timeout
  retried : ∀ j < k, endsDialLoop (dial (connectTime + 10 * j)) = false
  ends : endsDialLoop (dial (connectTime + 10 * k)) = true ∨ timeout ≤ connectTime + 10 * k + 10

/-- The first attempt decides the loop when it ends it, or when it is the last one. -/
theorem DecidingAttempt.first {dial : Int → Except String σ} {timeout connectTime : Int}
    (h : connectTime < timeout)
    (hends : endsDialLoop (dial connectTime) = true ∨ timeout ≤ connectTime + 10) :
    DecidingAttempt dial timeout connectTime 0 :=
  ⟨by simpa using h, fun _ hj => absurd hj (Nat.not_lt_zero _), by simpa using hends⟩

/-- An attempt that decides the loop from the next value of the counter decides it from this
one too, when this one is retried. -/
theorem DecidingAttempt.succ {dial : Int → Except String σ} {timeout connectTime : Int}
    {k : Nat} (h : DecidingAttempt dial timeout (connectTime + 10) k)
    (hretry : endsDialLoop (dial connectTime) = false) :
    DecidingAttempt dial timeout connectTime (k + 1) := by
  have shift : ∀ j : Nat, connectTime + 10 * ((j + 1 : Nat) : Int) = connectTime + 10 + 10 * j :=
    fun j => by push_cast; omega
  refine ⟨by rw [shift]; exact h.made, fun j hj => ?_, by rw [shift]; exact h.ends⟩
  cases j with
  | zero => simpa using hretry
  | succ j => rw [shift]; exact h.retried j (by omega)

/-- **The dial loop in closed form.**  From any value of the counter, the loop returns the
session or the error of the attempt that decides it; when the timeout allows no attempt, it
returns what it started from. -/
theorem dialLoop_eq (dial : Int → Except String σ) (timeout connectTime : Int)
    (last : Option σ × Option String) :
    (∃ k, DecidingAttempt dial timeout connectTime k ∧
      dialLoop dial timeout connectTime last = dialResult (dial (connectTime + 10 * k))) ∨
    (timeout ≤ connectTime ∧ dialLoop dial timeout connectTime last = last) := by
  induction connectTime, last using dialLoop.induct dial timeout with
  | case1 c last hc session hd =>
    refine .inl ⟨0, .first hc (.inl (by rw [hd]; rfl)), ?_⟩
    rw [dialLoop_of_lt last hc, hd]
    simp [dialResult, hd]
  | case2 c last hc e hd ha =>
    refine .inl ⟨0, .first hc (.inl (by rw [hd]; exact ha)), ?_⟩
    rw [dialLoop_of_lt last hc, hd]
    simp [dialResult, hd, ha]
  | case3 c last hc e hd ha ih =>
    have hretry : endsDialLoop (dial c) = false := by rw [hd]; simpa [endsDialLoop] using ha
    have hstep : dialLoop dial timeout c last = dialLoop dial timeout (c + 10) (none, some e) := by
      rw [dialLoop_of_lt last hc, hd]
      simp [ha]
    rcases ih with ⟨k, hk, heq⟩ | ⟨hle, heq⟩
    · refine .inl ⟨k + 1, hk.succ hretry, ?_⟩
      rw [hstep, heq]
      congr 2
      push_cast
      omega
    · refine .inl ⟨0, .first hc (.inr hle), ?_⟩
      rw [hstep, heq]
      simp [dialResult, hd]
  | case4 c last hc => exact .inr ⟨not_lt.mp hc, dialLoop_of_le last (not_lt.mp hc)⟩

/-- **`Init` in closed form.**  `Init` fails with the CA error when SSL is on, a CA certificate is
set, and its file cannot be read for a reason other than a path error.  Otherwise it dials with
the TLS settings built: the attempt that decides the loop either succeeds, and `Init` empties
the open files and connects with its session when the maintenance period is positive, or panics
in `time.NewTicker` when it is not; or that attempt fails, and `Init` fails with its error; when
the timeout allows no attempt, `Init` fails with the text Go prints for a nil error.  A failed
dial leaves the store as it was. -/
theorem init_outcome (config : MongoConfiguration) (readFile : String → Except ReadFileError Bytes)
    (dialWithInfo : Option TLSConfig → Int → Except String σ) (s : MongoStorage) :
    (∃ text, config.mongoUseSSL = true ∧ config.mongoCACertificate ≠ "" ∧
      readFile (caFile config) = .error (.other text) ∧
      init config readFile dialWithInfo s =
        (.error (.error s!"Failed to find mongo SSL CA file. Error: {text}."), s)) ∨
    ∃ tls, tlsConfig config readFile = .ok tls ∧
      ((∃ k, DecidingAttempt (dialWithInfo tls) config.databaseConnectTimeout 0 k ∧
        init config readFile dialWithInfo s =
          match dialWithInfo tls (10 * k) with
          | .ok session =>
            if 0 < maintenancePeriod config.storageMaintenanceInterval then
              (.ok (connectedWith config tls session), { s with openFiles := fun _ => none })
            else
              (.error (.panic "non-positive interval for NewTicker"), { s with openFiles := fun _ => none })
          | .error e => (.error (.error s!"Failed to dial mgo. Error: {e}."), s)) ∨
      (config.databaseConnectTimeout ≤ 0 ∧
        init config readFile dialWithInfo s =
          (.error (.error "Failed to dial mgo. Error: %!s(<nil>)."), s))) := by
  cases htls : tlsConfig config readFile with
  | error e =>
    obtain ⟨text, hssl, hcert, hread, rfl⟩ := tlsConfig_error htls
    exact .inl ⟨text, hssl, hcert, hread, by simp only [init, htls]⟩
  | ok tls =>
    refine .inr ⟨tls, rfl, ?_⟩
    rcases dialLoop_eq (dialWithInfo tls) config.databaseConnectTimeout 0 (none, none) with
      ⟨k, hk, heq⟩ | ⟨hle, heq⟩
    · refine .inl ⟨k, hk, ?_⟩
      simp only [init, htls, heq, Int.zero_add]
      cases dialWithInfo tls (10 * k) <;> rfl
    · exact .inr ⟨hle, by simp only [init, htls, heq]; rfl⟩

end MongoStorage

end EdgeSync
