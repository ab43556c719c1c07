import Pasion.Handlers.CodeReplay
import Pasion.Handlers.BackchannelLogout
import Pasion.Handlers.Matrix
import Pasion.Handlers.AdminTokens
import Pasion.Handlers.RevokedSessions
import Pasion.Handlers.Recovery
import Pasion.Handlers.TokenReplay
import Pasion.Handlers.RefreshRace
import Pasion.Handlers.Liveness
import Pasion.Pg.UserPatch
import Pasion.Pg.ClaimFilter
import Pasion.Handlers.DeviceExchange
import Pasion.Handlers.ClientCredentials
import Pasion.Handlers.PaginatedResponse
import Pasion.Handlers.ActivityTracker
import Pasion.Handlers.DeliveryOrder
import Pasion.Handlers.Passwords
import Pasion.Pg.UpstreamDecoding
import Pasion.Listener.ProxyProtocol
import Pasion.Handlers.UpstreamCallback
import Pasion.Data.TokenFormat
import Pasion.Handlers.DeviceAuthorize
import Pasion.Data.ClientMetadataSerde
import Pasion.Handlers.Callback
import Pasion.Pg.RegistrationToken
import Pasion.Handlers.RegistrationSteps
import Pasion.Handlers.Verification
import Pasion.Handlers.AddressInUse
import Pasion.Handlers.RegisteredClients
import Pasion.Handlers.SyncedProviders
import Pasion.Handlers.FlowExpiry
import Pasion.Tasks.DeviceJobs
import Pasion.Handlers.SessionNames
import Pasion.Handlers.SnsCertificate
import Pasion.Handlers.RiskAction
import Pasion.Tasks.Tracker
import Pasion.Pg.PolicyData
import Pasion.Tasks.Notifications
