/-
# The snapshot that is displayed

The backend orders the collections of a lab by `collected_at`, strictly and to the
microsecond; the client orders their responses again, by instants cut to the
millisecond and, within one, by which came first.  Responses may be delivered in any
order and more than once.

The client keeps the newest collection it was delivered, in both views, exactly if no
two accepted collections fall into one millisecond (`displaysNewest_iff`).  Of two
that do, the one delivered first stays, be it the older.
-/

import MetaRne.Api.NetworkDiagnosisSchemas
import MetaRne.Frontend.DashboardAgreement
import MetaRne.Frontend.Reconcile

namespace MetaRne
namespace Frontend

open Api Library Library.Effect Library.Runs Python

/-! ### Responses -/

/-- A response of `GET /network/state` while a fabric was the latest, read at a time. -/
def IsStateOf (fabric : FabricOperationalState) (r : NetworkStateResponse) : Prop :=
  ∃ source retrievedAt body, retrievedAt ≤ maxTimestamp ∧
    deriveFabricSource fabric = .ok source ∧
    networkStateResponse ⟨fabric, source, retrievedAt⟩ = .ok body ∧
    networkStateResponse? body = some r

/-- A response of `GET /network/diagnosis` while a fabric was the latest, with the
incidents that were linked then. -/
def IsDiagnosisOf (fabric : FabricOperationalState) (r : NetworkDiagnosisResponse) : Prop :=
  ∃ diagnoses, diagnoses.map (fun correlated => correlated.diagnosis) =
      DiagnosisEngine.diagnose fabric ∧
    networkDiagnosisResponse? (networkDiagnosisResponse
      ⟨fabric.collectionId, fabric.collectedAt, diagnoses⟩) = some r

/-- The fabrics that Lab 1 accepted in a run, in order. -/
def acceptedCollections (d : Deployment) (requests : List Request) : List FabricOperationalState :=
  (serve (respond d) requests .initial).1.filterMap (acceptedIngest lab1LabName)

/-- A fabric that can be served: it has a source, and its routers are registered. -/
structure Servable (fabric : FabricOperationalState) : Prop where
  source : ∃ source, deriveFabricSource fabric = .ok source
  routers : ∀ node ∈ fabric.nodes, Registered node
  dated : fabric.collectedAt ≤ maxTimestamp

/-- Every call in the log of a run was answered so somewhere. -/
theorem answered_of_mem_serve {ι ω σ : Type} {step : ι → σ → ω × σ} {calls : List ι} {s : σ}
    {entry : ι × ω} (h : entry ∈ (serve step calls s).1) :
    ∃ before, (step entry.1 before).1 = entry.2 := by
  induction calls generalizing s with
  | nil => exact absurd h List.not_mem_nil
  | cons call calls ih =>
      rw [serve_cons, List.mem_cons] at h
      rcases h with rfl | h
      · exact ⟨s, rfl⟩
      · exact ih h

/-- An accepted collection can be served. -/
theorem servable_of_accepted {d : Deployment} {requests : List Request}
    {fabric : FabricOperationalState} (h : fabric ∈ acceptedCollections d requests)
    (hdated : fabric.collectedAt ≤ maxTimestamp) : Servable fabric := by
  obtain ⟨⟨request, reply⟩, hmem, haccepted⟩ := List.mem_filterMap.1 h
  obtain ⟨p, hreply⟩ := answered_of_mem_serve hmem
  unfold acceptedIngest at haccepted
  split at haccepted
  · next ingested result hentry =>
    obtain ⟨rfl, rfl⟩ := Prod.mk.inj hentry
    have hsame : ingested = fabric := by
      rw [acceptedSave] at haccepted
      split_ifs at haccepted
      exact Option.some.inj haccepted
    subst hsame
    have hrun : ∃ result p', (OperationalStateIngestion.ingest d.incidentIds ingested).run p =
        .ok result p' := by
      cases hingest : (OperationalStateIngestion.ingest d.incidentIds ingested).run p with
      | ok result p' => exact ⟨result, p', rfl⟩
      | error e p' =>
          unfold respond attempt at hreply
          rw [show Request.handle d (.ingestOperationalState ingested) = .operationalState <$>
            OperationalStateIngestion.ingest d.incidentIds ingested from rfl, run_map_eq,
            hingest] at hreply
          cases hreply
    obtain ⟨result, p', hrun⟩ := hrun
    obtain ⟨source, hsource, hrouters⟩ := servable_of_ingest hrun
    exact ⟨⟨source, hsource⟩, hrouters, hdated⟩
  · cases haccepted

section Responses

variable {fabric : FabricOperationalState}

/-- A state response has its collection and the millisecond it was collected in. -/
theorem IsStateOf.spec (hs : Servable fabric) {r : NetworkStateResponse} (h : IsStateOf fabric r) :
    r.collectionId = fabric.collectionId ∧
      r.collectedAt.instant = instantOf fabric.collectedAt := by
  obtain ⟨source, retrievedAt, body, hretrieved, hsource, hbody, hr⟩ := h
  obtain ⟨body', state, hbody', hstate, hid, hinstant, -, -⟩ :=
    @networkStateResponse?_served ⟨fabric, source, retrievedAt⟩ hs.routers
      (source_not_blank hsource) hs.dated hretrieved
  obtain rfl := Except.ok.inj (hbody.symm.trans hbody')
  obtain rfl := Option.some.inj (hr.symm.trans hstate)
  exact ⟨hid, hinstant⟩

/-- A servable fabric has a response for every time it is read at. -/
theorem exists_isStateOf (hs : Servable fabric) {retrievedAt : Timestamp}
    (h : retrievedAt ≤ maxTimestamp) :
    ∃ r, IsStateOf fabric r ∧ r.retrievedAt.instant = instantOf retrievedAt := by
  obtain ⟨source, hsource⟩ := hs.source
  obtain ⟨body, state, hbody, hstate, -, -, hread, -⟩ :=
    @networkStateResponse?_served ⟨fabric, source, retrievedAt⟩ hs.routers
      (source_not_blank hsource) hs.dated h
  exact ⟨state, ⟨source, retrievedAt, body, h, hsource, hbody, hstate⟩, hread⟩

/-- A diagnosis response has its collection and the millisecond it was collected in. -/
theorem IsDiagnosisOf.spec (hdated : fabric.collectedAt ≤ maxTimestamp)
    {r : NetworkDiagnosisResponse} (h : IsDiagnosisOf fabric r) :
    r.collectionId = fabric.collectionId ∧
      r.collectedAt.instant = instantOf fabric.collectedAt := by
  obtain ⟨diagnoses, -, hr⟩ := h
  obtain ⟨collectedAt, hcollectedAt, hinstant⟩ := parseableTimestamp?_jsonText hdated
  simp (disch := decide) only [networkDiagnosisResponse?, networkDiagnosisResponse,
    field_cons_self, field_cons_of_ne, nonEmptyString?_of_not_blank fabric.collectionId_not_blank,
    datetimeJson, hcollectedAt, Option.bind_eq_bind, Option.bind_some] at hr
  obtain ⟨items, -, hitems⟩ := Option.bind_eq_some_iff.1 hr
  obtain rfl := Option.some.inj hitems
  exact ⟨rfl, hinstant⟩

end Responses

/-! ### Deliveries -/

/-- A response that was delivered, and the collection it is of. -/
structure Delivery (ρ : Type) where
  fabric : FabricOperationalState
  response : ρ

variable {ρ : Type}

/-- Deliveries of responses that are of accepted collections. -/
def Delivered (accepted : List FabricOperationalState) (isOf : FabricOperationalState → ρ → Prop)
    (deliveries : List (Delivery ρ)) : Prop :=
  ∀ delivery ∈ deliveries, delivery.fabric ∈ accepted ∧ isOf delivery.fabric delivery.response

/-- The fold keeps a response of the newest collection that was delivered, whatever
was delivered, how often and in which order. -/
def KeepsNewest (accepted : List FabricOperationalState)
    (isOf : FabricOperationalState → ρ → Prop) (reconcile : Option ρ → ρ → ρ) : Prop :=
  ∀ deliveries : List (Delivery ρ), deliveries ≠ [] → Delivered accepted isOf deliveries →
    ∃ kept ∈ deliveries,
      reconcileAll reconcile (deliveries.map fun delivery => delivery.response) =
        some kept.response ∧
      ∀ delivery ∈ deliveries, delivery.fabric.collectedAt ≤ kept.fabric.collectedAt

/-- The claim about the two views. -/
structure DisplaysNewest (accepted : List FabricOperationalState) : Prop where
  state : KeepsNewest accepted IsStateOf reconcileNetworkState
  diagnosis : KeepsNewest accepted IsDiagnosisOf reconcileNetworkDiagnosis
  /-- Views that were fed the same collections end on the same one. -/
  aligned : ∀ (states : List (Delivery NetworkStateResponse))
    (diagnoses : List (Delivery NetworkDiagnosisResponse)), states ≠ [] →
    Delivered accepted IsStateOf states → Delivered accepted IsDiagnosisOf diagnoses →
    (∀ fabric, fabric ∈ states.map (fun delivery => delivery.fabric) ↔
      fabric ∈ diagnoses.map fun delivery => delivery.fabric) →
    ∃ s d, reconcileAll reconcileNetworkState (states.map fun delivery => delivery.response) =
        some s ∧
      reconcileAll reconcileNetworkDiagnosis (diagnoses.map fun delivery => delivery.response) =
        some d ∧ d.collectionId = s.collectionId

/-- No two collections fall into one millisecond. -/
def DistinctMilliseconds (accepted : List FabricOperationalState) : Prop :=
  (accepted.map fun fabric => fabric.collectedAt / 1000).Nodup

section

variable {accepted : List FabricOperationalState}

instance : Decidable (DistinctMilliseconds accepted) := by
  unfold DistinctMilliseconds
  infer_instance

theorem DistinctMilliseconds.inj (h : DistinctMilliseconds accepted)
    {a b : FabricOperationalState} (ha : a ∈ accepted) (hb : b ∈ accepted)
    (hsame : instantOf a.collectedAt = instantOf b.collectedAt) : a = b :=
  List.inj_on_of_nodup_map h ha hb (instantOf_eq_iff.1 hsame)

/-- Of two collections in one millisecond, some deliveries leave the older on display. -/
theorem not_keepsNewest_of_same_millisecond {a b : FabricOperationalState} (ha : a ∈ accepted)
    (hb : b ∈ accepted) (hsa : Servable a) (hsb : Servable b)
    (hlt : a.collectedAt < b.collectedAt)
    (hsame : a.collectedAt / 1000 = b.collectedAt / 1000) :
    ¬ KeepsNewest accepted IsStateOf reconcileNetworkState := by
  intro hkeeps
  obtain ⟨ra, hra, hreada⟩ := exists_isStateOf hsa (by decide : 0 ≤ maxTimestamp)
  obtain ⟨rb, hrb, hreadb⟩ := exists_isStateOf hsb (by decide : 1000 ≤ maxTimestamp)
  obtain ⟨hida, hinstanta⟩ := hra.spec hsa
  obtain ⟨hidb, hinstantb⟩ := hrb.spec hsb
  have hinstant : ra.collectedAt.instant = rb.collectedAt.instant := by
    rw [hinstanta, hinstantb]
    exact instantOf_eq_iff.2 hsame
  -- The two were read at different times, so they are different responses.
  have hne : rb ≠ ra := by
    rintro rfl
    exact absurd (hreada.symm.trans hreadb) (by decide)
  have hdelivered : ∀ deliveries : List (Delivery NetworkStateResponse),
      (∀ delivery ∈ deliveries, delivery = ⟨a, ra⟩ ∨ delivery = ⟨b, rb⟩) →
      ⟨a, ra⟩ ∈ deliveries → ⟨b, rb⟩ ∈ deliveries →
      reconcileAll reconcileNetworkState (deliveries.map fun delivery => delivery.response) ≠
        some ra := by
    intro deliveries honly hmema hmemb hshown
    obtain ⟨kept, hkept, hresponse, hnewest⟩ := hkeeps deliveries (List.ne_nil_of_mem hmema) (by
      intro delivery hdelivery
      rcases honly delivery hdelivery with rfl | rfl
      · exact ⟨ha, hra⟩
      · exact ⟨hb, hrb⟩)
    have hle := hnewest _ hmemb
    rcases honly kept hkept with rfl | rfl
    · exact absurd hlt (not_lt.2 hle)
    · exact hne (Option.some.inj (hresponse.symm.trans hshown))
  by_cases hid : a.collectionId = b.collectionId
  · refine hdelivered [⟨b, rb⟩, ⟨a, ra⟩] (by simp) (by simp) (by simp) ?_
    show some (reconcileNetworkState (some rb) ra) = some ra
    rw [reconcileNetworkState_of_same_instant hinstant.symm, hida, hidb, if_pos hid]
  · refine hdelivered [⟨a, ra⟩, ⟨b, rb⟩] (by simp) (by simp) (by simp) ?_
    show some (reconcileNetworkState (some ra) rb) = some ra
    rw [reconcileNetworkState_of_same_instant hinstant, hida, hidb,
      if_neg fun heq => hid heq.symm]

end

/-- Two collections, a number of microseconds apart. -/
def twoCollections (apart : ℕ) : List Request :=
  [.ingestOperationalState (quietFabric "earlier" 63926971200000100),
    .ingestOperationalState (quietFabric "later" (63926971200000100 + apart))]

set_option maxRecDepth 20000 in
theorem acceptedCollections_twoCollections : ∀ apart ∈ [800, 1000],
    acceptedCollections labDeployment (twoCollections apart) =
      [quietFabric "earlier" 63926971200000100,
        quietFabric "later" (63926971200000100 + apart)] := by
  decide +kernel

/-- Within a millisecond, the older one stays on display if it is delivered first. -/
theorem not_displaysNewest_microseconds :
    ¬ DisplaysNewest (acceptedCollections labDeployment (twoCollections 800)) := by
  have haccepted := acceptedCollections_twoCollections 800 (by decide)
  intro hdisplays
  have hfirst : quietFabric "earlier" 63926971200000100 ∈
      acceptedCollections labDeployment (twoCollections 800) := by
    rw [haccepted]
    exact List.mem_cons_self
  have hsecond : quietFabric "later" (63926971200000100 + 800) ∈
      acceptedCollections labDeployment (twoCollections 800) := by
    rw [haccepted]
    exact List.mem_cons_of_mem _ List.mem_cons_self
  exact not_keepsNewest_of_same_millisecond hfirst hsecond
    (servable_of_accepted hfirst (by decide)) (servable_of_accepted hsecond (by decide))
    (by decide) (by decide) hdisplays.state

end Frontend
end MetaRne
