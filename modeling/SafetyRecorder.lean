import SafetyRecorder.Storage.Confinement
import SafetyRecorder.Server.Quiescence
import SafetyRecorder.PostgresDB.Commit
import SafetyRecorder.Retention.Completion
import SafetyRecorder.Retention.Reports
import SafetyRecorder.HttpApi.StepUp
import SafetyRecorder.Auth.Recovery
import SafetyRecorder.Auth.Passwords
import SafetyRecorder.Auth.TotpRuns
import SafetyRecorder.Sharing.Finality
import SafetyRecorder.Sharing.Delivery
import SafetyRecorder.Envelope.Binding
import SafetyRecorder.HttpApi.AccessLog
import SafetyRecorder.Envelope.Records
import SafetyRecorder.Incidents.RetentionQueue
import SafetyRecorder.Incidents.Connections
import SafetyRecorder.Coordination.Leases
import SafetyRecorder.HttpApi.Fingerprints
import SafetyRecorder.HttpApi.RelayRuns
import SafetyRecorder.StreamIngress.Upload
import SafetyRecorder.SimClient.Bundle
