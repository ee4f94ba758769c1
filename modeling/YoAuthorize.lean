import YoAuthorize.Protocol.Record
import YoAuthorize.Core.SessionRuns
import YoAuthorize.Core.MachineIdentityCanonical
import YoAuthorize.Tools.IssuerRoundTrip
import YoAuthorize.Tools.SignedBytes
import YoAuthorize.Tools.Generator
import YoAuthorize.Protocol.HandshakeAgreement
import YoAuthorize.Protocol.SecureChannel
import YoAuthorize.Protocol.RecordRuns
import YoAuthorize.Protocol.HandshakeStates
import YoAuthorize.Backend.LicenseRoundTrip
import YoAuthorize.Backend.TokenRevocation
import YoAuthorize.Backend.ActivationDeadlock
import YoAuthorize.Backend.ActivationUsable
import YoAuthorize.Backend.IdempotencyKeys
import YoAuthorize.Backend.EventStream
import YoAuthorize.Backend.SessionInvalidation
import YoAuthorize.Backend.EmailTokens
import YoAuthorize.Backend.SigningKeys
import YoAuthorize.Backend.RateLimit
import YoAuthorize.Service.LicenseExpiry
import YoAuthorize.Service.SessionAccounting
import YoAuthorize.Service.Serviceability
import YoAuthorize.Service.AuthorizationDecision
import YoAuthorize.Service.FaithfulResults
import YoAuthorize.Service.Run
import YoAuthorize.Service.KeyStore
import YoAuthorize.Sdk.FailClosed
import YoAuthorize.Sdk.Timing
import YoAuthorize.Sdk.LocalAuthorizer
import YoAuthorize.Transport.UnixSocket
import YoAuthorize.Transport.Connect
import YoAuthorize.Transport.SocketPaths
import YoAuthorize.Manager.MutationSlot
import YoAuthorize.Manager.PortIndependence
import YoAuthorize.Manager.JobOutput
import YoAuthorize.Manager.LogsPane
import YoAuthorize.Manager.PageButtons
