import MetaRne.Frontend.ReadableIncidents
import MetaRne.Frontend.ReadableDiagnoses
import MetaRne.Frontend.NetworkDiagnosisServed
import MetaRne.Diagnosis.NamedEvidence
import MetaRne.Frontend.ResolutionRequests
import MetaRne.Frontend.ResolvedIncidents
import MetaRne.Frontend.ShownVersions
import MetaRne.Frontend.IncidentsWorld
import MetaRne.Frontend.IncidentsHook
import MetaRne.Adapters.ContainerlabFrr.Collections
import MetaRne.Adapters.ContainerlabFrr.StatedFacts
import MetaRne.Adapters.ContainerlabFrr.Facets
import MetaRne.Adapters.ContainerlabFrr.Collected
import MetaRne.Adapters.ContainerlabFrr.Collector
import MetaRne.Adapters.ContainerlabFrr.Parsers
import MetaRne.Library.Interviews
import MetaRne.Lab.ScenarioVerdict
import MetaRne.Lab.ScenarioRaises
import MetaRne.Lab.ScenarioChecks
import MetaRne.Lab.FaultUndone
import MetaRne.Lab.LabQueries
import MetaRne.Lab.LinkFailureScenario
import MetaRne.Lab.LabCommands
import MetaRne.Lab.CommandOutput
import MetaRne.Lab.TopologyValidation
import MetaRne.Lab.TopologyReading
import MetaRne.Lab.TopologyLayout
import MetaRne.Lab.TopologyReader
import MetaRne.Frontend.NewestIncidents
import MetaRne.Persistence.IncidentVersions
import MetaRne.Frontend.UseIncidents
import MetaRne.Domain.FindingFingerprint
import MetaRne.Adapters.TokenDecoding
import MetaRne.Python.Decoding
import MetaRne.Adapters.BlockOrder
import MetaRne.Adapters.AclStatements
import MetaRne.Diagnosis.OrderInsensitivity
import MetaRne.Library.Reordering
import MetaRne.Diagnosis.CheckedEngine
import MetaRne.Diagnosis.Degradation
import MetaRne.Detection.ObservationCounts
import MetaRne.Detection.LinkFlaps
import MetaRne.Application.AnomaliesCounted
import MetaRne.Detection.RuleIsolation
import MetaRne.Detection.RuleVerdicts
import MetaRne.Application.EvaluatedSamples
import MetaRne.Persistence.TelemetryHistory
import MetaRne.Adapters.Totality
import MetaRne.Adapters.NormalForm
import MetaRne.Adapters.StatementShapes
import MetaRne.Application.ResubmittedBaselines
import MetaRne.Adapters.NeighborStatements
import MetaRne.Detection.DriftExactness
import MetaRne.Detection.PolicyVerdicts
import MetaRne.Adapters.ParsedConfiguration
import MetaRne.Adapters.Vendors
import MetaRne.Adapters.LineParser
import MetaRne.Adapters.Statements
import MetaRne.Adapters.AclSequences
import MetaRne.Python.Integers
import MetaRne.Python.Lines
import MetaRne.Library.Regex
import MetaRne.Frontend.DisplayedSnapshot
import MetaRne.Api.NetworkDiagnosisSchemas
import MetaRne.Frontend.DashboardAgreement
import MetaRne.Frontend.NetworkStateServed
import MetaRne.Frontend.NetworkHooks
import MetaRne.Frontend.NetworkDiagnosisTypes
import MetaRne.Frontend.NetworkStateTypes
import MetaRne.Library.Polling
import MetaRne.Persistence.Memory.ConcurrentUnits
import MetaRne.Persistence.SeedAgreement
import MetaRne.Diagnosis.Locality
import MetaRne.Persistence.IncidentLifetimes
import MetaRne.Application.LabIsolation
import MetaRne.Application.LabUnawareness
import MetaRne.Application.IncidentFrame
import MetaRne.Library.Noninterference
import MetaRne.Application.DiagnosisAgreement
import MetaRne.Persistence.SaveAgreement
import MetaRne.Persistence.OperationalStateSerialization
import MetaRne.Domain.OperationalStateConstruction
import MetaRne.Persistence.DecoderContract
import MetaRne.Persistence.SerializationRoundTrip
import MetaRne.Persistence.Serialization
import MetaRne.Persistence.JsonReaders
import MetaRne.Python.Isoformat
import MetaRne.Application.FindingsCounted
import MetaRne.Persistence.UpsertAgreement
import MetaRne.Persistence.ResolveAgreement
import MetaRne.Application.PruningUnobservable
import MetaRne.Persistence.TelemetryRetention
import MetaRne.Library.Window
import MetaRne.Application.DeviceRecords
import MetaRne.Application.LatestObservation
import MetaRne.Application.AllOrNothing
import MetaRne.Detection.RuleFindings
import MetaRne.Application.SessionReconciliation
import MetaRne.Detection.FabricSessions
import MetaRne.Persistence.IncidentReconciliation
import MetaRne.Application.Requests
import MetaRne.Application.Queries
import MetaRne.Application.PolicySeeding
import MetaRne.Detection.DriftDetector
import MetaRne.Persistence.Writes
import MetaRne.Library.Effect
import MetaRne.Domain.Incident
import MetaRne.Domain.Telemetry
import MetaRne.Domain.OperationalState
import MetaRne.Persistence.Store
import MetaRne.Persistence.IncidentRuns
import MetaRne.Persistence.Memory.DeviceRepository
import MetaRne.Persistence.OperationalStateRepository
import MetaRne.Detection.RuleEngine
import MetaRne.Detection.PolicyEvaluator
import MetaRne.Detection.AnomalyIncidentMapper
import MetaRne.Detection.OperationalStateDetector
import MetaRne.Application.OperationalStateIngestion
import MetaRne.Application.LabDeviceRegistration
import MetaRne.Application.IncidentResolution
import MetaRne.Application.ConfigIngestion
import MetaRne.Python.Ipaddress
