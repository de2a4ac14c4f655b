import SentryFlow.Config.Load
import SentryFlow.Go.Strings

set_option autoImplicit false

/-!
# The HTTP exporter's client

`buildHTTPClient` writes the `TLS` section of every HTTPS webhook into one shared `tls.Config`,
so the client's TLS configuration is their union (`buildHTTPClient_tlsClientConfig`).
-/

namespace SentryFlow.Exporter

open SentryFlow.Go SentryFlow.Config

def versionTLS12 : UInt16 := 0x0303

def second : BitVec 64 := 1000000000#64

/-- The fields of `tls.Config` that `buildHTTPClient` sets; a certificate pool is the PEM data
it was built from. -/
@[ext]
structure TLSConfig (Cert : Type) where
  minVersion : UInt16
  rootCAs : Option (List UInt8)
  certificates : List Cert
  insecureSkipVerify : Bool
  deriving DecidableEq, Repr

structure Transport (Cert : Type) where
  tlsHandshakeTimeout : BitVec 64
  tlsClientConfig : Option (TLSConfig Cert)
  deriving DecidableEq, Repr

structure HTTPClient (Cert : Type) where
  /-- `Timeout`, a `time.Duration`; `net/http` reads zero as no time limit -/
  timeout : BitVec 64
  transport : Transport Cert
  deriving DecidableEq, Repr

structure Host (Cert : Type) where
  readFile : String → Except String (List UInt8)
  loadX509KeyPair : String → String → Except String Cert

def isHTTPS (wh : WebhookConfig) : Bool := hasPrefix (toLower wh.url.toList) "https://".toList

section Build

variable {Cert : Type} (host : Host Cert)

/-- The loop body of `buildHTTPClient` for an HTTPS webhook with a `TLS` section `t`: the shared
`tlsConfig` is created if it is still nil, and `t`'s CA file, key pair and
`InsecureSkipVerify` are written into it. -/
def addPolicy (tlsConfig : Option (TLSConfig Cert)) (t : WebhookTLSConfig) :
    Except String (TLSConfig Cert) := do
  let c := tlsConfig.getD ⟨versionTLS12, none, [], false⟩
  let c ← (if t.caCertPath ≠ "" then
      (fun caCert => { c with rootCAs := some caCert }) <$> host.readFile t.caCertPath
    else pure c)
  let c ← (if t.clientCertPath ≠ "" ∧ t.clientKeyPath ≠ "" then
      (fun cert => { c with certificates := [cert] }) <$>
        host.loadX509KeyPair t.clientCertPath t.clientKeyPath
    else pure c)
  pure (if t.insecureSkipVerify then { c with insecureSkipVerify := true } else c)

def tlsStep (tlsConfig : Option (TLSConfig Cert)) (wh : WebhookConfig) :
    Except String (Option (TLSConfig Cert)) :=
  if isHTTPS wh then
    match wh.tls with
    | none => pure tlsConfig
    | some t => some <$> addPolicy host tlsConfig t
  else pure tlsConfig

def buildHTTPClient (http : HttpConfig) : Except String (HTTPClient Cert) := do
  let tlsConfig ← http.webhooks.foldlM (tlsStep host) none
  pure ⟨BitVec.ofNat 64 http.timeoutSeconds.toNat * second, ⟨10#64 * second, tlsConfig⟩⟩

/-! ## The union of the policies -/

def policies (ws : List WebhookConfig) : List WebhookTLSConfig :=
  (ws.filter isHTTPS).filterMap (·.tls)

/-- The TLS configuration that the policies `ts` add up to: verification is skipped if any of
them skips it, the roots are read from the last CA file named, and the client certificate is
the last key pair named. -/
def unionTLS (ts : List WebhookTLSConfig) : TLSConfig Cert where
  minVersion := versionTLS12
  rootCAs := ((ts.filter (·.caCertPath != "")).getLast?).bind
    fun t => (host.readFile t.caCertPath).toOption
  certificates :=
    (((ts.filter fun t => t.clientCertPath != "" && t.clientKeyPath != "").getLast?).bind
      fun t => (host.loadX509KeyPair t.clientCertPath t.clientKeyPath).toOption).toList
  insecureSkipVerify := ts.any (·.insecureSkipVerify)

theorem getLast?_filter_concat {α : Type} (p : α → Bool) (ts : List α) (t : α) :
    ((ts ++ [t]).filter p).getLast? = if p t then some t else (ts.filter p).getLast? := by
  rw [List.filter_append, List.filter_singleton]
  cases p t <;> simp

theorem unionTLS_concat_rootCAs (ts : List WebhookTLSConfig) (t : WebhookTLSConfig) :
    (unionTLS host (ts ++ [t])).rootCAs = if t.caCertPath ≠ "" then
      (host.readFile t.caCertPath).toOption else (unionTLS host ts).rootCAs := by
  simp only [unionTLS, getLast?_filter_concat, bne_iff_ne]
  split_ifs <;> rfl

theorem unionTLS_concat_certificates (ts : List WebhookTLSConfig) (t : WebhookTLSConfig) :
    (unionTLS host (ts ++ [t])).certificates =
      if t.clientCertPath ≠ "" ∧ t.clientKeyPath ≠ "" then
        ((host.loadX509KeyPair t.clientCertPath t.clientKeyPath).toOption).toList
      else (unionTLS host ts).certificates := by
  simp only [unionTLS, getLast?_filter_concat, Bool.and_eq_true, bne_iff_ne]
  split_ifs <;> rfl

theorem unionTLS_minVersion (ts : List WebhookTLSConfig) :
    (unionTLS host ts).minVersion = versionTLS12 := rfl

theorem unionTLS_concat_insecureSkipVerify (ts : List WebhookTLSConfig) (t : WebhookTLSConfig) :
    (unionTLS host (ts ++ [t])).insecureSkipVerify =
      ((unionTLS host ts).insecureSkipVerify || t.insecureSkipVerify) := by
  simp [unionTLS]

theorem map_eq_ok {ε α β : Type} {f : α → β} {x : Except ε α} {b : β} (h : f <$> x = .ok b) :
    ∃ a, x = .ok a ∧ f a = b := by
  cases x with
  | error e => cases h
  | ok a => cases h; exact ⟨a, rfl, rfl⟩

theorem addPolicy_unionTLS {ts : List WebhookTLSConfig} {t : WebhookTLSConfig}
    {r : Option (TLSConfig Cert)} {c : TLSConfig Cert}
    (hr : r.getD ⟨versionTLS12, none, [], false⟩ = unionTLS host ts)
    (h : addPolicy host r t = .ok c) : c = unionTLS host (ts ++ [t]) := by
  simp only [addPolicy, hr] at h
  obtain ⟨c₁, h₁, h⟩ := bind_eq_ok h
  obtain ⟨c₂, h₂, h⟩ := bind_eq_ok h
  cases h
  have e₁ : c₁ = { unionTLS host ts with rootCAs := (unionTLS host (ts ++ [t])).rootCAs } := by
    rw [unionTLS_concat_rootCAs]
    split_ifs at h₁ ⊢ with hp
    · obtain ⟨pem, hpem, rfl⟩ := map_eq_ok h₁
      rw [hpem]
      rfl
    · cases h₁
      rfl
  have e₂ : c₂ = { c₁ with certificates := (unionTLS host (ts ++ [t])).certificates } := by
    rw [unionTLS_concat_certificates]
    split_ifs at h₂ ⊢ with hp
    · obtain ⟨cert, hc, rfl⟩ := map_eq_ok h₂
      rw [hc]
      rfl
    · cases h₂
      rw [e₁]
  subst e₁ e₂
  ext <;> cases hi : t.insecureSkipVerify <;>
    simp [hi, unionTLS_concat_insecureSkipVerify, unionTLS_minVersion]

theorem policies_concat (ws : List WebhookConfig) (w : WebhookConfig) :
    policies (ws ++ [w]) = policies ws ++ if isHTTPS w then w.tls.toList else [] := by
  simp only [policies, List.filter_append, List.filter_singleton, List.filterMap_append]
  cases hw : isHTTPS w <;> cases ht : w.tls <;> simp [ht]

theorem unionTLS_nil : unionTLS host [] = ⟨versionTLS12, none, [], false⟩ := rfl

theorem foldlM_tlsStep (ws : List WebhookConfig) {r : Option (TLSConfig Cert)}
    (h : ws.foldlM (tlsStep host) none = .ok r) :
    r = if policies ws = [] then none else some (unionTLS host (policies ws)) := by
  induction ws using List.reverseRecOn generalizing r with
  | nil => cases h; rfl
  | append_singleton ws w ih =>
    rw [List.foldlM_append] at h
    obtain ⟨r₀, h₀, h⟩ := bind_eq_ok h
    have hr₀ : r₀.getD ⟨versionTLS12, none, [], false⟩ = unionTLS host (policies ws) := by
      rw [ih h₀]
      split_ifs with hp
      · rw [hp, unionTLS_nil]
        rfl
      · rfl
    simp only [List.foldlM_cons, List.foldlM_nil, bind_pure, tlsStep] at h
    rw [policies_concat]
    cases hw : isHTTPS w
    · rw [hw, if_neg Bool.false_ne_true] at h
      cases h
      simpa using ih h₀
    · rw [hw, if_pos rfl] at h
      cases ht : w.tls with
      | none =>
        rw [ht] at h
        cases h
        simpa using ih h₀
      | some t =>
        rw [ht] at h
        obtain ⟨c, hc, rfl⟩ := map_eq_ok h
        simp [addPolicy_unionTLS host hr₀ hc]

/-- The client `buildHTTPClient` returns calls every webhook through one transport, whose TLS
configuration is the union of the HTTPS webhooks' policies, or none if none has a `TLS`
section. -/
theorem buildHTTPClient_tlsClientConfig {http : HttpConfig} {client : HTTPClient Cert}
    (h : buildHTTPClient host http = .ok client) :
    client.transport.tlsClientConfig =
      if policies http.webhooks = [] then none
      else some (unionTLS host (policies http.webhooks)) := by
  obtain ⟨r, hr, h⟩ := bind_eq_ok h
  cases h
  exact foldlM_tlsStep host _ hr

theorem buildHTTPClient_two_ca_files :
    ∃ http : HttpConfig, http = ⟨true, 5,
        [⟨"a", "HTTPS://a", "POST", [], some ⟨false, "a.pem", "", ""⟩⟩,
          ⟨"c", "http://c", "POST", [], none⟩,
          ⟨"b", "https://b", "POST", [], some ⟨false, "b.pem", "", ""⟩⟩]⟩ ∧
      ∃ client, buildHTTPClient (⟨fun p => .ok (p.toList.map (·.val.toUInt8)),
          fun c k => .ok (c, k)⟩ : Host (String × String)) http = .ok client ∧
        client.transport.tlsClientConfig =
          if policies http.webhooks = [] then none
          else some (unionTLS (⟨fun p => .ok (p.toList.map (·.val.toUInt8)),
            fun c k => .ok (c, k)⟩ : Host (String × String)) (policies http.webhooks)) :=
  ⟨_, rfl, _, rfl, buildHTTPClient_tlsClientConfig _ (by rfl)⟩

/-- One webhook that skips verification switches it off for another HTTPS webhook that has no
`TLS` section, and the trusted roots of a webhook that names a CA file are those of the CA file
named after it. -/
theorem buildHTTPClient_mixes_policies :
    (buildHTTPClient (⟨fun p => .ok (p.toList.map (·.val.toUInt8)),
        fun c k => .ok (c, k)⟩ : Host (String × String))
        ⟨true, 5, [⟨"a", "https://a", "POST", [], some ⟨true, "", "", ""⟩⟩,
          ⟨"b", "https://b", "POST", [], none⟩]⟩).map
        (·.transport.tlsClientConfig.map (·.insecureSkipVerify)) = .ok (some true) ∧
    (buildHTTPClient (⟨fun p => .ok (p.toList.map (·.val.toUInt8)),
        fun c k => .ok (c, k)⟩ : Host (String × String))
        ⟨true, 5, [⟨"a", "https://a", "POST", [], some ⟨false, "a.pem", "", ""⟩⟩,
          ⟨"b", "https://b", "POST", [], some ⟨false, "b.pem", "", ""⟩⟩]⟩).map
        (·.transport.tlsClientConfig.bind (·.rootCAs)) = .ok (some [98, 46, 112, 101, 109]) :=
  ⟨rfl, rfl⟩

/-! ## When the client cannot be built -/

def errorOf {ε α : Type} : Except ε α → Option ε
  | .error e => some e
  | .ok _ => none

def policyError (t : WebhookTLSConfig) : Option String :=
  (if t.caCertPath ≠ "" then errorOf (host.readFile t.caCertPath) else none).or
    (if t.clientCertPath ≠ "" ∧ t.clientKeyPath ≠ "" then
      errorOf (host.loadX509KeyPair t.clientCertPath t.clientKeyPath) else none)

theorem addPolicy_error_iff {r : Option (TLSConfig Cert)} {t : WebhookTLSConfig} {e : String} :
    addPolicy host r t = .error e ↔ policyError host t = some e := by
  unfold addPolicy policyError
  by_cases hca : t.caCertPath ≠ ""
  · cases hr : host.readFile t.caCertPath with
    | error e' => simp [hca, hr, errorOf, Functor.map, Except.map]
    | ok pem =>
      by_cases hk : t.clientCertPath ≠ "" ∧ t.clientKeyPath ≠ ""
      · cases hl : host.loadX509KeyPair t.clientCertPath t.clientKeyPath <;>
          simp [hca, hr, hk, hl, errorOf, Functor.map, Except.map]
      · simp [hca, hr, hk, errorOf, Functor.map, Except.map]
  · by_cases hk : t.clientCertPath ≠ "" ∧ t.clientKeyPath ≠ ""
    · cases hl : host.loadX509KeyPair t.clientCertPath t.clientKeyPath <;>
        simp [hca, hk, hl, errorOf, Functor.map, Except.map]
    · simp [hca, hk]

theorem policies_cons (w : WebhookConfig) (ws : List WebhookConfig) :
    policies (w :: ws) = (if isHTTPS w then w.tls.toList else []) ++ policies ws := by
  cases h : isHTTPS w <;> cases ht : w.tls <;> simp [policies, List.filter_cons, h, ht]

theorem foldlM_tlsStep_error : ∀ (ws : List WebhookConfig) (r : Option (TLSConfig Cert))
    (e : String), ws.foldlM (tlsStep host) r = .error e ↔
      (policies ws).findSome? (policyError host) = some e
  | [], r, e => by simp [policies, List.foldlM]
  | w :: ws, r, e => by
    rw [List.foldlM_cons, policies_cons]
    by_cases hw : isHTTPS w
    case neg => simpa [tlsStep, hw] using foldlM_tlsStep_error ws r e
    cases ht : w.tls with
    | none => simpa [tlsStep, hw, ht] using foldlM_tlsStep_error ws r e
    | some t =>
      have hstep : tlsStep host r w = some <$> addPolicy host r t := by simp [tlsStep, hw, ht]
      rw [hstep]
      cases ha : addPolicy host r t with
      | error e' =>
        simp [hw, (addPolicy_error_iff host).mp ha, Functor.map, Except.map]
      | ok c =>
        have hn : policyError host t = none := by
          cases hp : policyError host t with
          | none => rfl
          | some x => rw [(addPolicy_error_iff host).mpr hp] at ha; cases ha
        simpa [hw, hn, Functor.map, Except.map] using
          foldlM_tlsStep_error ws (some c) e

/-- `buildHTTPClient` fails exactly when the `TLS` section of an HTTPS webhook names a CA file
that cannot be read or a key pair that cannot be loaded, and its error is that of the first such
section in webhook order, the CA file's before the key pair's. -/
theorem buildHTTPClient_error_iff {http : HttpConfig} {e : String} :
    buildHTTPClient host http = .error e ↔
      (policies http.webhooks).findSome? (policyError host) = some e := by
  rw [← foldlM_tlsStep_error host http.webhooks none e]
  unfold buildHTTPClient
  cases http.webhooks.foldlM (tlsStep host) none <;> simp

def initHTTPExporter (cfg : Config) : Except Panic (Except String (Option (HTTPClient Cert))) := do
  let exporter ← deref "cfg.Exporter" cfg.exporter
  let http ← deref "cfg.Exporter.HTTP" exporter.http
  if http.enabled then pure ((buildHTTPClient host http).map some) else pure (.ok none)

theorem initHTTPExporter_panic {cfg : Config} {p : Panic} :
    initHTTPExporter host cfg = .error p ↔
      (cfg.exporter = none ∧ p = .nilDeref "cfg.Exporter") ∨
        ∃ e, cfg.exporter = some e ∧ e.http = none ∧ p = .nilDeref "cfg.Exporter.HTTP" := by
  unfold initHTTPExporter
  rcases cfg with ⟨_, _, _ | ⟨_, _ | http⟩⟩
  · constructor
    · intro h; cases h; exact .inl ⟨rfl, rfl⟩
    · rintro (⟨-, rfl⟩ | ⟨_, ⟨⟩, -⟩); rfl
  · constructor
    · intro h; cases h; exact .inr ⟨_, rfl, rfl, rfl⟩
    · rintro (⟨⟨⟩, -⟩ | ⟨_, ⟨⟩, -, rfl⟩); rfl
  · constructor
    · intro h
      simp only [deref_some, ok_bind] at h
      split_ifs at h <;> cases h
    · rintro (⟨⟨⟩, -⟩ | ⟨_, ⟨⟩, ⟨⟩, -⟩)

end Build

end SentryFlow.Exporter
