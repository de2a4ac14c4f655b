import Mathlib.Data.List.Basic

set_option autoImplicit false

/-!
# Loading the configuration

`config.New` and `validate`, from the document viper decoded. Every section is a pointer.
-/

namespace SentryFlow.Config

/-- A run-time panic on the start-up path. Only nil pointers are dereferenced there; the panic
names the Go expression whose value was nil. -/
inductive Panic
  | nilDeref (expr : String)
  deriving DecidableEq, Repr

def deref {α : Type} (expr : String) : Option α → Except Panic α
  | some a => .ok a
  | none => .error (.nilDeref expr)

@[simp] theorem deref_some {α : Type} (expr : String) (a : α) : deref expr (some a) = .ok a := rfl

@[simp] theorem deref_none {α : Type} (expr : String) :
    deref expr (none : Option α) = .error (.nilDeref expr) := rfl

@[simp] theorem ok_bind {ε α β : Type} (a : α) (f : α → Except ε β) :
    (Except.ok a >>= f) = f a := rfl

@[simp] theorem pure_eq_ok {ε α : Type} (a : α) : (pure a : Except ε α) = .ok a := rfl

@[simp] theorem error_bind {ε α β : Type} (e : ε) (f : α → Except ε β) :
    (Except.error e >>= f) = .error e := rfl

@[simp] theorem toOption_ok {ε α : Type} (a : α) : (Except.ok a : Except ε α).toOption = some a :=
  rfl

theorem bind_eq_ok {ε α β : Type} {x : Except ε α} {f : α → Except ε β} {b : β}
    (h : x >>= f = .ok b) : ∃ a, x = .ok a ∧ f a = .ok b := by
  cases x with
  | error e => cases h
  | ok a => exact ⟨a, rfl, h⟩

theorem bind_eq_error {ε α β : Type} {x : Except ε α} {f : α → Except ε β} {e : ε}
    (h : x >>= f = .error e) : x = .error e ∨ ∃ a, x = .ok a ∧ f a = .error e := by
  cases x with
  | error e' => cases h; exact .inl rfl
  | ok a => exact .inr ⟨a, rfl, h⟩

/-- The receiver names of package `util`, which the source tree leaves out: the model holds
for every choice of them. -/
structure Util where
  serviceMeshIstioSidecar : String
  serviceMeshIstioGateway : String
  nginxWebServer : String
  azureAPIM : String
  awsApiGateway : String
  nginxIncorporationIngressController : String
  kongGateway : String

structure NameAndNamespace where
  name : String
  ns : String
  deriving DecidableEq, Repr

structure Receivers where
  serviceMeshes : List (Option NameAndNamespace)
  others : List (Option NameAndNamespace)
  deriving DecidableEq, Repr

structure EnvoyFilterConfig where
  uri : String
  deriving DecidableEq, Repr

structure Server where
  port : UInt16
  deriving DecidableEq, Repr

structure WebhookTLSConfig where
  insecureSkipVerify : Bool
  caCertPath : String
  clientCertPath : String
  clientKeyPath : String
  deriving DecidableEq, Repr

structure WebhookConfig where
  name : String
  url : String
  method : String
  headers : List (String × String)
  tls : Option WebhookTLSConfig
  deriving DecidableEq, Repr

structure HttpConfig where
  enabled : Bool
  timeoutSeconds : UInt32
  webhooks : List WebhookConfig
  deriving DecidableEq, Repr

structure NginxIngressConfig where
  deploymentName : String
  configMapName : String
  sentryFlowNjsConfigMapName : String
  deriving DecidableEq, Repr

structure Filters where
  envoy : Option EnvoyFilterConfig
  nginxIngress : Option NginxIngressConfig
  server : Option Server
  deriving DecidableEq, Repr

structure ExporterConfig where
  grpc : Option Server
  http : Option HttpConfig
  deriving DecidableEq, Repr

set_option linter.dupNamespace false in
structure Config where
  filters : Option Filters
  receivers : Option Receivers
  exporter : Option ExporterConfig
  deriving DecidableEq, Repr

def sentryFlowDefaultFilterServerPort : UInt16 := 8081

def defaultServer (server : Option Server) : Server :=
  let server := server.getD ⟨0⟩
  if server.port = 0 then ⟨sentryFlowDefaultFilterServerPort⟩ else server

section Validate

variable (u : Util)

/-- A loop of `validate` over receiver entries: each entry, the loop variable `entry`, is
dereferenced and checked, and the first error is returned. -/
def checkEach (entry : String) (check : NameAndNamespace → Option String) :
    List (Option NameAndNamespace) → Except Panic (Option String)
  | [] => pure none
  | e :: rest => do
    let e ← deref entry e
    match check e with
    | some err => pure (some err)
    | none => checkEach entry check rest

def checkServiceMesh (envoy : Option EnvoyFilterConfig) (svcMesh : NameAndNamespace) :
    Option String :=
  if svcMesh.name = "" then some "no service mesh name provided"
  else if svcMesh.ns = "" then some "no service mesh namespace provided"
  else if svcMesh.name = u.serviceMeshIstioSidecar ∧ envoy = none then
    some "no envoy filter configuration provided for istio sidecar servicemesh"
  else none

def checkOther (nginx : Option NginxIngressConfig) (other : NameAndNamespace) : Option String :=
  if other.name = "" then some "no other receiver name provided"
  else if other.name = u.nginxIncorporationIngressController then
    if other.ns = "" then some "no nginx-inc ingress controller namespace provided"
    else match nginx with
      | none => some "no nginx-inc ingress configuration provided"
      | some n =>
        if n.deploymentName = "" then some "no nginx ingress deployment name provided"
        else if n.configMapName = "" then some "no nginx ingress configmap name provided"
        else if n.sentryFlowNjsConfigMapName = "" then
          some "no sentryflow njs configmap name provided"
        else none
  else none

def checkServiceMeshes (envoy : Option EnvoyFilterConfig) :
    List (Option NameAndNamespace) → Except Panic (Option String) :=
  checkEach "svcMesh" (checkServiceMesh u envoy)

def checkOthers (nginx : Option NginxIngressConfig) :
    List (Option NameAndNamespace) → Except Panic (Option String) :=
  checkEach "other" (checkOther u nginx)

def validate (c : Config) : Except Panic (Option String) :=
  match c.filters with
  | none => pure (some "no filter configuration provided")
  | some filters =>
    if filters.envoy.any (·.uri == "") then pure (some "no envoy filter URI provided") else
    match c.exporter with
    | none => pure (some "no exporter configuration provided")
    | some exporter =>
      match exporter.grpc with
      | none => pure (some "no exporter's gRPC configuration provided")
      | some grpc =>
        if grpc.port = 0 then pure (some "no exporter's gRPC port provided") else
        match c.receivers with
        | none => pure (some "no receiver configuration provided")
        | some receivers => do
          match ← checkServiceMeshes u filters.envoy receivers.serviceMeshes with
          | some err => pure (some err)
          | none => checkOthers u filters.nginxIngress receivers.others

/-- `config.New`, from the document viper decoded, or the error of reading or decoding it:
the configuration, or the error `New` returns. -/
def new (decoded : Except String Config) : Except Panic (Except String Config) :=
  match decoded with
  | .error err => pure (.error err)
  | .ok config => do
    let filters ← deref "config.Filters" config.filters
    let config :=
      { config with filters := some { filters with server := defaultServer filters.server } }
    match ← validate u config with
    | some err => pure (.error err)
    | none => pure (.ok config)

/-! ## What `validate` checks -/

theorem checkEach_panic {entry : String} {check : NameAndNamespace → Option String}
    {p : Panic} : ∀ {es : List (Option NameAndNamespace)}, checkEach entry check es = .error p →
      p = .nilDeref entry
  | [], h => nomatch h
  | none :: _, h => by cases h; rfl
  | some e :: es, h => by
    simp only [checkEach, deref_some, ok_bind] at h
    split at h
    · cases h
    · exact checkEach_panic h

theorem checkEach_ok_none {entry : String} {check : NameAndNamespace → Option String} :
    ∀ {es : List (Option NameAndNamespace)}, checkEach entry check es = .ok none → none ∉ es
  | [], _ => List.not_mem_nil _
  | none :: _, h => nomatch h
  | some e :: es, h => by
    simp only [checkEach, deref_some, ok_bind] at h
    split at h
    · cases h
    · simpa using checkEach_ok_none h

theorem validate_panic {c : Config} {p : Panic} (h : validate u c = .error p) :
    p = .nilDeref "svcMesh" ∨ p = .nilDeref "other" := by
  unfold validate at h
  split at h; · cases h
  split_ifs at h; · cases h
  split at h; · cases h
  split at h; · cases h
  split_ifs at h; · cases h
  split at h; · cases h
  rcases bind_eq_error h with h | ⟨m, hm, h⟩
  · exact .inl (checkEach_panic h)
  · split at h
    · cases h
    · exact .inr (checkEach_panic h)

theorem validate_ok_none {c : Config} (h : validate u c = .ok none) :
    (∃ f, c.filters = some f) ∧ (∃ e, c.exporter = some e ∧ ∃ g, e.grpc = some g ∧ g.port ≠ 0) ∧
      ∃ r, c.receivers = some r ∧ none ∉ r.serviceMeshes ∧ none ∉ r.others := by
  unfold validate at h
  split at h; · cases h
  rename_i f hf
  split_ifs at h; · cases h
  split at h; · cases h
  rename_i e he
  split at h; · cases h
  rename_i g hg
  split_ifs at h with hport; · cases h
  split at h; · cases h
  rename_i r hr
  obtain ⟨m, hm, h⟩ := bind_eq_ok h
  split at h
  · cases h
  · exact ⟨⟨f, hf⟩, ⟨e, he, g, hg, hport⟩, r, hr, checkEach_ok_none hm, checkEach_ok_none h⟩

/-! ## What `New` returns -/

/-- The sections the start-up of `Manager.run` reads, all present: the filter server with a
port, the gRPC exporter with a port, and the receivers with no nil entry. `Exporter.HTTP` is
not among them: nothing checks it. -/
structure Loaded (c : Config) : Prop where
  filters : ∃ f, c.filters = some f ∧ ∃ s, f.server = some s ∧ s.port ≠ 0
  grpc : ∃ e, c.exporter = some e ∧ ∃ g, e.grpc = some g ∧ g.port ≠ 0
  receivers : ∃ r, c.receivers = some r ∧ none ∉ r.serviceMeshes ∧ none ∉ r.others

theorem defaultServer_port_ne_zero (s : Option Server) : (defaultServer s).port ≠ 0 := by
  simp only [defaultServer]
  split_ifs with h
  · decide
  · exact h

theorem loaded_of_new {d : Except String Config} {c : Config} (h : new u d = .ok (.ok c)) :
    Loaded c := by
  unfold new at h
  split at h; · cases h
  obtain ⟨f, -, h⟩ := bind_eq_ok h
  obtain ⟨r, hv, h⟩ := bind_eq_ok h
  split at h
  · cases h
  · cases h
    obtain ⟨_, ⟨e, he, g, hg, hport⟩, rs, hrs, hm, ho⟩ := validate_ok_none u hv
    exact ⟨⟨_, rfl, _, rfl, defaultServer_port_ne_zero _⟩, ⟨e, he, g, hg, hport⟩, rs, hrs, hm, ho⟩

theorem new_panic {d : Except String Config} {p : Panic} (h : new u d = .error p) :
    p = .nilDeref "config.Filters" ∨ p = .nilDeref "svcMesh" ∨ p = .nilDeref "other" := by
  unfold new at h
  split at h; · cases h
  rename_i doc
  rcases bind_eq_error h with h | ⟨f, -, h⟩
  · cases hf : doc.filters <;> rw [hf] at h <;> cases h
    exact .inl rfl
  · rcases bind_eq_error h with h | ⟨r, -, h⟩
    · exact .inr (validate_panic u h)
    · split at h <;> cases h

theorem defaultServer_idem (s : Option Server) :
    defaultServer (some (defaultServer s)) = defaultServer s := by
  rw [defaultServer]
  simp only [Option.getD_some, if_neg (defaultServer_port_ne_zero s)]

theorem validate_filters_server (c : Config) (f : Filters) (s : Option Server) :
    validate u { c with filters := some { f with server := s } } =
      validate u { c with filters := some f } := rfl

/-- A configuration `New` returns comes back unchanged when fed to `New` again: the defaults it
fills in are already there, and `validate` accepts it as before. -/
theorem new_idempotent {d : Except String Config} {c : Config} (h : new u d = .ok (.ok c)) :
    new u (.ok c) = .ok (.ok c) := by
  unfold new at h
  split at h; · cases h
  rename_i doc
  obtain ⟨f, hf, h⟩ := bind_eq_ok h
  obtain ⟨r, hv, h⟩ := bind_eq_ok h
  split at h
  · cases h
  · cases h
    simp only [new, deref_some, ok_bind, defaultServer_idem]
    rw [validate_filters_server, ← validate_filters_server u _ f, hv]
    rfl

theorem new_idempotent_default_port :
    ∃ u : Util, u = ⟨"istio-sidecar", "istio-gateway", "nginx-webserver", "azure-apim",
        "aws-apigateway", "nginx-inc-ingress-controller", "kong-gateway"⟩ ∧
      new u (.ok ⟨some ⟨some ⟨"uri"⟩, none, none⟩,
          some ⟨[some ⟨"istio-sidecar", "istio-system"⟩], []⟩, some ⟨some ⟨9090⟩, none⟩⟩) =
        .ok (.ok ⟨some ⟨some ⟨"uri"⟩, none, some ⟨8081⟩⟩,
          some ⟨[some ⟨"istio-sidecar", "istio-system"⟩], []⟩, some ⟨some ⟨9090⟩, none⟩⟩) ∧
      new u (.ok ⟨some ⟨some ⟨"uri"⟩, none, some ⟨8081⟩⟩,
          some ⟨[some ⟨"istio-sidecar", "istio-system"⟩], []⟩, some ⟨some ⟨9090⟩, none⟩⟩) =
        .ok (.ok ⟨some ⟨some ⟨"uri"⟩, none, some ⟨8081⟩⟩,
          some ⟨[some ⟨"istio-sidecar", "istio-system"⟩], []⟩, some ⟨some ⟨9090⟩, none⟩⟩) := by
  refine ⟨_, rfl, ?h, new_idempotent _ ?h⟩
  case h => rfl

end Validate

end SentryFlow.Config
