import SentryFlow.Exporter.HttpClient
import SentryFlow.Core.Run

set_option autoImplicit false

/-!
# The start-up of `Manager.run` and its reload branch

The steps `run` itself takes before its loop and in the loop's reload branch, up to the
goroutines they start. `InitGRPCExporter` is not in the source tree and is left out.
-/

namespace SentryFlow.Core

open SentryFlow.Config SentryFlow.Exporter

inductive Started
  | istioSidecar
  | istioGateway
  | nginxInc
  deriving DecidableEq, Repr

section Startup

variable (u : Util)

def othersAreK8s : List (Option NameAndNamespace) → Except Panic Bool
  | [] => pure false
  | other :: rest => do
    let other ← deref "other" other
    if other.name = u.nginxIncorporationIngressController ∨ other.name = u.kongGateway then
      pure true
    else othersAreK8s rest

def areK8sReceivers (cfg : Config) : Except Panic Bool := do
  let receivers ← deref "cfg.Receivers" cfg.receivers
  if 0 < receivers.serviceMeshes.length then pure true else othersAreK8s u receivers.others

/-- One loop of `receiver.Init`: `entry` is the loop variable, `table` what the `switch` does
with a name (start a receiver, only log, or, for `none`, fall to `default`), and
`unsupported` the text of the `default` error. Entries without a name are skipped. -/
def initEntries (entry : String) (table : String → Option (Option Started))
    (unsupported : String) : List (Option NameAndNamespace) →
      Except Panic (List Started × Option String)
  | [] => pure ([], none)
  | e :: rest => do
    let e ← deref entry e
    if e.name = "" then initEntries entry table unsupported rest
    else match table e.name with
      | none => pure ([], some (unsupported ++ e.name))
      | some none => initEntries entry table unsupported rest
      | some (some r) => Prod.map (r :: ·) id <$> initEntries entry table unsupported rest

def serviceMeshTable (name : String) : Option (Option Started) :=
  if name = u.serviceMeshIstioSidecar then some (some .istioSidecar)
  else if name = u.serviceMeshIstioGateway then some (some .istioGateway)
  else none

def otherTable (name : String) : Option (Option Started) :=
  if name = u.nginxWebServer then some none
  else if name = u.azureAPIM then some none
  else if name = u.awsApiGateway then some none
  else if name = u.nginxIncorporationIngressController then some (some .nginxInc)
  else none

def receiverInit (cfg : Config) : Except Panic (List Started × Option String) := do
  let receivers ← deref "cfg.Receivers" cfg.receivers
  let (started, err) ←
    initEntries "serviceMesh" (serviceMeshTable u) "unsupported Service Mesh, "
      receivers.serviceMeshes
  match err with
  | some err => pure (started, some err)
  | none =>
    Prod.map (started ++ ·) id <$>
      initEntries "other" (otherTable u) "unsupported receiver, " receivers.others

def filterServerPort (cfg : Config) : Except Panic UInt16 := do
  let filters ← deref "cfg.Filters" cfg.filters
  let server ← deref "cfg.Filters.Server" filters.server
  pure server.port

def grpcPort (cfg : Config) : Except Panic UInt16 := do
  let exporter ← deref "cfg.Exporter" cfg.exporter
  let grpc ← deref "cfg.Exporter.Grpc" exporter.grpc
  pure grpc.port

variable {Cert : Type} (host : Host Cert)

/-- The steps `run(cfg, kubeConfig)` itself takes before its loop: the error that makes it
return, or none when it reaches the loop. `newClient` is what `k8s.NewClient` returns.
`InitGRPCExporter`, absent from the source tree, is taken to return nil without a panic, and
what the goroutines started here do is not part of it. -/
def startup (newClient : Except String Unit) (cfg : Config) : Except Panic (Option String) := do
  let k8s ← areK8sReceivers u cfg
  match (if k8s then newClient else pure ()) with
  | .error err => pure (some err)
  | .ok () => do
    let _ ← filterServerPort cfg
    let (_, err) ← receiverInit u cfg
    match err with
    | some err => pure (some err)
    | none => do
      match ← initHTTPExporter host cfg with
      | .error err => pure (some err)
      | .ok _ => do
        let _ ← grpcPort cfg
        pure none

theorem othersAreK8s_ok : ∀ {os : List (Option NameAndNamespace)}, none ∉ os →
    ∃ b, othersAreK8s u os = .ok b
  | [], _ => ⟨false, rfl⟩
  | none :: _, h => absurd (List.mem_cons_self _ _) h
  | some o :: os, h => by
    simp only [othersAreK8s, deref_some, ok_bind]
    split_ifs
    · exact ⟨true, rfl⟩
    · exact othersAreK8s_ok (fun h' => h (List.mem_cons_of_mem _ h'))

theorem areK8sReceivers_ok {c : Config} (hc : Loaded c) : ∃ b, areK8sReceivers u c = .ok b := by
  obtain ⟨r, hr, -, ho⟩ := hc.receivers
  simp only [areK8sReceivers, hr, deref_some, ok_bind]
  split_ifs
  · exact ⟨true, rfl⟩
  · exact othersAreK8s_ok u ho

theorem filterServerPort_ok {c : Config} (hc : Loaded c) :
    ∃ port, filterServerPort c = .ok port := by
  obtain ⟨f, hf, s, hs, -⟩ := hc.filters
  exact ⟨s.port, by simp [filterServerPort, hf, hs]⟩

theorem grpcPort_ok {c : Config} (hc : Loaded c) : ∃ port, grpcPort c = .ok port := by
  obtain ⟨e, he, g, hg, -⟩ := hc.grpc
  exact ⟨g.port, by simp [grpcPort, he, hg]⟩

theorem initEntries_spec (entry : String) (table : String → Option (Option Started))
    (unsupported : String) :
    ∀ {es : List (Option NameAndNamespace)}, none ∉ es →
      ∃ started err, initEntries entry table unsupported es = .ok (started, err) ∧
        ((err = none ∧ ∀ e, some e ∈ es → e.name ≠ "" → table e.name ≠ none) ∨
          ∃ e, some e ∈ es ∧ e.name ≠ "" ∧ table e.name = none ∧
            err = some (unsupported ++ e.name))
  | [], _ => ⟨[], none, rfl, .inl ⟨rfl, fun _ h => absurd h (List.not_mem_nil _)⟩⟩
  | none :: _, h => absurd (List.mem_cons_self _ _) h
  | some e :: es, h => by
    obtain ⟨started, err, hrec, hspec⟩ :=
      initEntries_spec entry table unsupported (fun h' => h (List.mem_cons_of_mem _ h'))
    -- the entries after `e` decide, once `e` is known to be accepted
    have hnext : (e.name ≠ "" → table e.name ≠ none) →
        ((err = none ∧ ∀ e', some e' ∈ some e :: es → e'.name ≠ "" → table e'.name ≠ none) ∨
          ∃ e', some e' ∈ some e :: es ∧ e'.name ≠ "" ∧ table e'.name = none ∧
            err = some (unsupported ++ e'.name)) := fun he => by
      rcases hspec with ⟨rfl, hall⟩ | ⟨e', he', hne, ht, rfl⟩
      · refine .inl ⟨rfl, fun e' he' => ?_⟩
        rcases List.mem_cons.mp he' with h' | h'
        · cases h'; exact he
        · exact hall e' h'
      · exact .inr ⟨e', List.mem_cons_of_mem _ he', hne, ht, rfl⟩
    simp only [initEntries, deref_some, ok_bind]
    split_ifs with hname
    · exact ⟨started, err, hrec, hnext (absurd hname)⟩
    · cases ht : table e.name with
      | none =>
        exact ⟨[], _, rfl, .inr ⟨e, List.mem_cons_self _ _, hname, ht, rfl⟩⟩
      | some r =>
        cases r with
        | none => exact ⟨started, err, hrec, hnext fun _ => by simp [ht]⟩
        | some r =>
          refine ⟨r :: started, err, ?_, hnext fun _ => by simp [ht]⟩
          rw [hrec]
          rfl

theorem receiverInit_spec {c : Config} (hc : Loaded c) :
    ∃ r started err, c.receivers = some r ∧ receiverInit u c = .ok (started, err) ∧
      (err = none ↔ (∀ e, some e ∈ r.serviceMeshes → e.name ≠ "" →
          serviceMeshTable u e.name ≠ none) ∧
        ∀ e, some e ∈ r.others → e.name ≠ "" → otherTable u e.name ≠ none) := by
  obtain ⟨r, hr, hm, ho⟩ := hc.receivers
  obtain ⟨s₁, err₁, h₁, hs₁⟩ := initEntries_spec "serviceMesh" (serviceMeshTable u)
    "unsupported Service Mesh, " hm
  obtain ⟨s₂, err₂, h₂, hs₂⟩ := initEntries_spec "other" (otherTable u) "unsupported receiver, " ho
  simp only [receiverInit, hr, deref_some, ok_bind, h₁]
  rcases hs₁ with ⟨rfl, hall₁⟩ | ⟨e, he, hne, ht, rfl⟩
  · refine ⟨r, s₁ ++ s₂, err₂, rfl, by rw [h₂]; rfl, ?_⟩
    rcases hs₂ with ⟨rfl, hall₂⟩ | ⟨e, he, hne, ht, rfl⟩
    · exact ⟨fun _ => ⟨hall₁, hall₂⟩, fun _ => rfl⟩
    · exact ⟨(fun h => nomatch h), fun h => absurd ht (h.2 e he hne)⟩
  · exact ⟨r, s₁, _, rfl, rfl, ⟨(fun h => nomatch h), fun h => absurd ht (h.1 e he hne)⟩⟩

theorem receiverInit_ok {c : Config} (hc : Loaded c) :
    ∃ started err, receiverInit u c = .ok (started, err) := by
  obtain ⟨_, started, err, -, h, -⟩ := receiverInit_spec u hc
  exact ⟨started, err, h⟩

theorem serviceMeshTable_ne_none {name : String} :
    serviceMeshTable u name ≠ none ↔
      name = u.serviceMeshIstioSidecar ∨ name = u.serviceMeshIstioGateway := by
  unfold serviceMeshTable
  split_ifs <;> simp_all

theorem otherTable_ne_none {name : String} :
    otherTable u name ≠ none ↔ name ∈ [u.nginxWebServer, u.azureAPIM, u.awsApiGateway,
      u.nginxIncorporationIngressController] := by
  unfold otherTable
  split_ifs <;> simp_all

/-- For every configuration `config.New` returns, `receiver.Init` does not panic, and it returns
nil exactly when every named service mesh is the Istio sidecar or gateway and every other named
receiver is one of the four it knows. -/
theorem receiverInit_of_new {d : Except String Config} {c : Config}
    (hc : new u d = .ok (.ok c)) :
    ∃ r started err, c.receivers = some r ∧ receiverInit u c = .ok (started, err) ∧
      (err = none ↔ (∀ e, some e ∈ r.serviceMeshes → e.name ≠ "" →
          e.name = u.serviceMeshIstioSidecar ∨ e.name = u.serviceMeshIstioGateway) ∧
        ∀ e, some e ∈ r.others → e.name ≠ "" → e.name ∈ [u.nginxWebServer, u.azureAPIM,
          u.awsApiGateway, u.nginxIncorporationIngressController]) := by
  obtain ⟨r, started, err, hr, h, hiff⟩ := receiverInit_spec u (loaded_of_new u hc)
  refine ⟨r, started, err, hr, h, hiff.trans ?_⟩
  simp only [serviceMeshTable_ne_none, otherTable_ne_none]

theorem receiverInit_of_new_gateway :
    ∃ u : Util, u = ⟨"istio-sidecar", "istio-gateway", "nginx-webserver", "azure-apim",
        "aws-apigateway", "nginx-inc-ingress-controller", "kong-gateway"⟩ ∧
      new u (.ok ⟨some ⟨none, none, none⟩, some ⟨[some ⟨"istio-gateway", "istio-system"⟩],
          [some ⟨"nginx-webserver", ""⟩]⟩, some ⟨some ⟨9090⟩, none⟩⟩) =
        .ok (.ok ⟨some ⟨none, none, some ⟨8081⟩⟩, some ⟨[some ⟨"istio-gateway", "istio-system"⟩],
          [some ⟨"nginx-webserver", ""⟩]⟩, some ⟨some ⟨9090⟩, none⟩⟩) ∧
      ∃ (r : Receivers) (started : List Started) (err : Option String),
        some ⟨[some ⟨"istio-gateway", "istio-system"⟩], [some ⟨"nginx-webserver", ""⟩]⟩ = some r ∧
        receiverInit u ⟨some ⟨none, none, some ⟨8081⟩⟩, some ⟨[some ⟨"istio-gateway",
          "istio-system"⟩], [some ⟨"nginx-webserver", ""⟩]⟩, some ⟨some ⟨9090⟩, none⟩⟩ =
          .ok (started, err) ∧
        (err = none ↔ (∀ e : NameAndNamespace, some e ∈ r.serviceMeshes → e.name ≠ "" →
            e.name = u.serviceMeshIstioSidecar ∨ e.name = u.serviceMeshIstioGateway) ∧
          ∀ e : NameAndNamespace, some e ∈ r.others → e.name ≠ "" → e.name ∈ [u.nginxWebServer,
            u.azureAPIM, u.awsApiGateway, u.nginxIncorporationIngressController]) := by
  refine ⟨_, rfl, ?hc, receiverInit_of_new _ ?hc⟩
  case hc => rfl

/-! ## The Kubernetes client -/

theorem otherTable_started {name : String} {r : Started} (h : otherTable u name = some (some r)) :
    name = u.nginxIncorporationIngressController := by
  unfold otherTable at h
  split_ifs at h with h₁ h₂ h₃ h₄ <;> first | exact h₄ | cases h

theorem othersAreK8s_of_initEntries : ∀ {others : List (Option NameAndNamespace)}
    {started : List Started} {err : Option String},
    initEntries "other" (otherTable u) "unsupported receiver, " others = .ok (started, err) →
      started ≠ [] → othersAreK8s u others = .ok true
  | [], _, _, h, hs => by cases h; exact absurd rfl hs
  | none :: _, _, _, h, _ => nomatch h
  | some o :: os, started, err, h, hs => by
    simp only [initEntries, deref_some, ok_bind] at h
    simp only [othersAreK8s, deref_some, ok_bind]
    split_ifs with hk
    · rfl
    · split_ifs at h with hname
      · exact othersAreK8s_of_initEntries h hs
      · cases ht : otherTable u o.name with
        | none => rw [ht] at h; cases h; exact absurd rfl hs
        | some r =>
          cases r with
          | none => rw [ht] at h; exact othersAreK8s_of_initEntries h hs
          | some r => exact absurd (.inl (otherTable_started u ht)) hk

/-- Every receiver `receiver.Init` starts watches the cluster through `m.K8sClient`, and it
starts one only for a configuration that `areK8sReceivers` marks, for which `run` has created
the client first (at start-up and on every reload). This holds of every configuration, loaded by
`config.New` or not. -/
theorem receiverInit_started_needs_k8s {cfg : Config} {started : List Started}
    {err : Option String} (h : receiverInit u cfg = .ok (started, err)) (hs : started ≠ []) :
    areK8sReceivers u cfg = .ok true := by
  obtain ⟨r, hr, h⟩ := bind_eq_ok h
  obtain ⟨⟨s₁, e₁⟩, h₁, h⟩ := bind_eq_ok h
  rw [areK8sReceivers, hr, ok_bind]
  cases hm : r.serviceMeshes with
  | cons m ms => simp
  | nil =>
    rw [hm] at h₁
    cases h₁
    obtain ⟨⟨s₂, e₂⟩, h₂, he⟩ := map_eq_ok h
    cases he
    exact othersAreK8s_of_initEntries u h₂ hs

theorem receiverInit_started_needs_k8s_nginx :
    ∃ u : Util, u = ⟨"istio-sidecar", "istio-gateway", "nginx-webserver", "azure-apim",
        "aws-apigateway", "nginx-inc-ingress-controller", "kong-gateway"⟩ ∧
      receiverInit u ⟨some ⟨none, some ⟨"d", "c", "n"⟩, some ⟨8081⟩⟩, some ⟨[],
          [some ⟨"nginx-webserver", ""⟩, some ⟨"nginx-inc-ingress-controller", "ingress"⟩]⟩,
          some ⟨some ⟨9090⟩, none⟩⟩ = .ok ([.nginxInc], none) ∧
      areK8sReceivers u ⟨some ⟨none, some ⟨"d", "c", "n"⟩, some ⟨8081⟩⟩, some ⟨[],
          [some ⟨"nginx-webserver", ""⟩, some ⟨"nginx-inc-ingress-controller", "ingress"⟩]⟩,
          some ⟨some ⟨9090⟩, none⟩⟩ = .ok true := by
  refine ⟨_, rfl, ?hi, receiverInit_started_needs_k8s _ ?hi (List.cons_ne_nil _ _)⟩
  case hi => rfl

/-! ## The reload branch refines `Run.step` -/

/-- For every configuration `config.New` returns, the steps `run` itself takes before its loop
panic only in `InitHTTPExporter`, on a configuration without an `exporter.http` section. -/
theorem startup_panic_of_new {d : Except String Config} {c : Config}
    (hc : new u d = .ok (.ok c)) (newClient : Except String Unit) {p : Panic}
    (h : startup u host newClient c = .error p) :
    p = .nilDeref "cfg.Exporter.HTTP" ∧ ∃ e, c.exporter = some e ∧ e.http = none := by
  have hl := loaded_of_new u hc
  obtain ⟨k8s, hk⟩ := areK8sReceivers_ok u hl
  obtain ⟨_, hport⟩ := filterServerPort_ok hl
  obtain ⟨started, err, hinit⟩ := receiverInit_ok u hl
  obtain ⟨_, hgrpc⟩ := grpcPort_ok hl
  simp only [startup, hk, ok_bind] at h
  split at h; · cases h
  simp only [hport, hinit, ok_bind] at h
  split at h; · cases h
  rcases bind_eq_error h with h | ⟨r, -, h⟩
  · rcases (initHTTPExporter_panic host).mp h with ⟨he, -⟩ | ⟨e, he, hh, rfl⟩
    · obtain ⟨e, he', -⟩ := hl.grpc
      rw [he] at he'
      cases he'
    · exact ⟨rfl, e, he, hh⟩
  · split at h
    · cases h
    · simp [hgrpc] at h

theorem startup_panic_without_http_section :
    ∃ u : Util, u = ⟨"istio-sidecar", "istio-gateway", "nginx-webserver", "azure-apim",
        "aws-apigateway", "nginx-inc-ingress-controller", "kong-gateway"⟩ ∧
      new u (.ok ⟨some ⟨none, none, none⟩, some ⟨[], []⟩, some ⟨some ⟨9090⟩, none⟩⟩) =
        .ok (.ok ⟨some ⟨none, none, some ⟨8081⟩⟩, some ⟨[], []⟩, some ⟨some ⟨9090⟩, none⟩⟩) ∧
      startup u (⟨fun _ => .error "", fun _ _ => .error ""⟩ : Host Unit) (.ok ())
          ⟨some ⟨none, none, some ⟨8081⟩⟩, some ⟨[], []⟩, some ⟨some ⟨9090⟩, none⟩⟩ =
        .error (.nilDeref "cfg.Exporter.HTTP") ∧
      ∃ e, (⟨some ⟨none, none, some ⟨8081⟩⟩, some ⟨[], []⟩, some ⟨some ⟨9090⟩, none⟩⟩ :
        Config).exporter = some e ∧ e.http = none := by
  refine ⟨_, rfl, ?hc, ?h, (startup_panic_of_new _ _ ?hc (.ok ()) ?h).2⟩
  case hc => rfl
  case h => rfl

theorem ne_of_append_x (a b : String) :
    a ++ b ++ "x" ≠ "" ∧ a ++ b ++ "x" ≠ a ∧ a ++ b ++ "x" ≠ b := by
  have hx : "x".length = 1 := rfl
  have h0 : "".length = 0 := rfl
  refine ⟨fun h => ?_, fun h => ?_, fun h => ?_⟩ <;>
    have := congrArg String.length h <;> simp only [String.length_append, hx, h0] at this <;> omega

/-- Four documents, whatever the receiver names of `util`: without a `filters` section `New`
panics; with a nil service-mesh entry `validate` panics; without `exporter.http` `New` accepts
the configuration and the start-up panics in `InitHTTPExporter`; and with a service mesh whose
name is neither Istio name `New` accepts the configuration and `receiver.Init` rejects it. -/
theorem new_accepts_configs_startup_rejects (newClient : Except String Unit) :
    new u (.ok ⟨none, some ⟨[], []⟩, some ⟨some ⟨9090⟩, some ⟨false, 0, []⟩⟩⟩) =
        .error (.nilDeref "config.Filters") ∧
      new u (.ok ⟨some ⟨none, none, none⟩, some ⟨[none], []⟩,
        some ⟨some ⟨9090⟩, some ⟨false, 0, []⟩⟩⟩) = .error (.nilDeref "svcMesh") ∧
      new u (.ok ⟨some ⟨none, none, none⟩, some ⟨[], []⟩, some ⟨some ⟨9090⟩, none⟩⟩) =
        .ok (.ok ⟨some ⟨none, none, some ⟨8081⟩⟩, some ⟨[], []⟩, some ⟨some ⟨9090⟩, none⟩⟩) ∧
      startup u host newClient
          ⟨some ⟨none, none, some ⟨8081⟩⟩, some ⟨[], []⟩, some ⟨some ⟨9090⟩, none⟩⟩ =
        .error (.nilDeref "cfg.Exporter.HTTP") ∧
      new u (.ok ⟨some ⟨none, none, none⟩, some ⟨[some ⟨u.serviceMeshIstioSidecar ++
          u.serviceMeshIstioGateway ++ "x", "default"⟩], []⟩,
          some ⟨some ⟨9090⟩, some ⟨false, 0, []⟩⟩⟩) =
        .ok (.ok ⟨some ⟨none, none, some ⟨8081⟩⟩, some ⟨[some ⟨u.serviceMeshIstioSidecar ++
          u.serviceMeshIstioGateway ++ "x", "default"⟩], []⟩,
          some ⟨some ⟨9090⟩, some ⟨false, 0, []⟩⟩⟩) ∧
      receiverInit u ⟨some ⟨none, none, some ⟨8081⟩⟩, some ⟨[some ⟨u.serviceMeshIstioSidecar ++
          u.serviceMeshIstioGateway ++ "x", "default"⟩], []⟩,
          some ⟨some ⟨9090⟩, some ⟨false, 0, []⟩⟩⟩ =
        .ok ([], some ("unsupported Service Mesh, " ++
          (u.serviceMeshIstioSidecar ++ u.serviceMeshIstioGateway ++ "x"))) := by
  obtain ⟨hne, hsc, hgw⟩ := ne_of_append_x u.serviceMeshIstioSidecar u.serviceMeshIstioGateway
  refine ⟨rfl, rfl, rfl, rfl, ?_, ?_⟩
  · simp only [new, validate, checkServiceMeshes, checkOthers, checkEach, checkServiceMesh,
      defaultServer, deref_some, ok_bind, hne, hsc]
    rfl
  · simp only [receiverInit, initEntries, serviceMeshTable, deref_some, ok_bind, hne, hsc, hgw]
    rfl

end Startup

end SentryFlow.Core
