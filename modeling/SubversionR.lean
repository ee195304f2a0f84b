import SubversionR.Sync.PartialRefresh
import SubversionR.Sync.Cancellation
import SubversionR.Sync.RemoteCheck
import SubversionR.Lanes.Exclusion
import SubversionR.Lanes.Authorization
import SubversionR.Lanes.Gate
import SubversionR.Refresh.LostPaths
import SubversionR.Refresh.Stranded
import SubversionR.Projection.Rebuild
import SubversionR.Projection.InStep
import SubversionR.Client.RecoveryObligation
import SubversionR.Transport.Framing
import SubversionR.Sync.Numbering
import SubversionR.Sync.Endpoints
import SubversionR.Sync.SessionLeaks
import SubversionR.Lanes.OperationIds
import SubversionR.Lanes.RecoveryBound
import SubversionR.Workers.Revocation
import SubversionR.Client.BackendConnections
import SubversionR.Auth.CertificateDecisions
import SubversionR.Refresh.DaemonCoverage
import SubversionR.Client.MovedRepositories
import SubversionR.Client.History
import SubversionR.Client.Ignore
import SubversionR.Refresh.RelativePaths
