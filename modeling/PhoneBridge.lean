import PhoneBridge.Android.BridgeClient
import PhoneBridge.Android.BridgeService
import PhoneBridge.Android.DesktopDiscovery
import PhoneBridge.Android.Ecdh
import PhoneBridge.Android.Envelope
import PhoneBridge.Android.HeartbeatController
import PhoneBridge.Android.HelloFirst
import PhoneBridge.Android.Hkdf
import PhoneBridge.Android.LiveHeartbeats
import PhoneBridge.Android.NsdRegistrar
import PhoneBridge.Android.OutgoingOrder
import PhoneBridge.Android.OverlappingLoops
import PhoneBridge.Android.PairingConsent
import PhoneBridge.Android.PairingMachine
import PhoneBridge.Android.PayloadTexts
import PhoneBridge.Android.Payloads
import PhoneBridge.Android.PhoneIdentity
import PhoneBridge.Android.PreferredTarget
import PhoneBridge.Android.Producers
import PhoneBridge.Android.PublicKeys
import PhoneBridge.Android.RecentNotifications
import PhoneBridge.Android.ReconnectDelays
import PhoneBridge.Android.ReconnectLoop
import PhoneBridge.Android.SendingService
import PhoneBridge.Android.TrustOnFirstUse
import PhoneBridge.Crypto.Cert
import PhoneBridge.Crypto.Certificate
import PhoneBridge.Crypto.CodeDerivation
import PhoneBridge.Crypto.Ecdh
import PhoneBridge.Crypto.Fingerprint
import PhoneBridge.Crypto.PairingCode
import PhoneBridge.Crypto.Pem
import PhoneBridge.Crypto.PemReaders
import PhoneBridge.DeskDisplay.ActionSink
import PhoneBridge.DeskDisplay.BackendTranslations
import PhoneBridge.DeskDisplay.ClickRaces
import PhoneBridge.DeskDisplay.DisplayClient
import PhoneBridge.DeskDisplay.DisplayConfig
import PhoneBridge.DeskDisplay.DisplayI18n
import PhoneBridge.DeskDisplay.LinuxBackend
import PhoneBridge.DeskDisplay.Templates
import PhoneBridge.DeskDisplay.ToastButtons
import PhoneBridge.DeskDisplay.ToastMarkup
import PhoneBridge.DeskDisplay.WindowsBackend
import PhoneBridge.DeskDisplay.WsUrl
import PhoneBridge.Frontend.LiveActivity
import PhoneBridge.Interop.CertificateBinding
import PhoneBridge.Interop.Counterparts
import PhoneBridge.Interop.DisplayFeeds
import PhoneBridge.Interop.EmittedMessages
import PhoneBridge.Interop.FingerprintForms
import PhoneBridge.Interop.HeartbeatEcho
import PhoneBridge.Interop.OfferedButtons
import PhoneBridge.Interop.PairingCodes
import PhoneBridge.Interop.PayloadKinds
import PhoneBridge.Interop.PayloadValidity
import PhoneBridge.Interop.Payloads
import PhoneBridge.Interop.PublicKeys
import PhoneBridge.Interop.ServedDictionary
import PhoneBridge.Interop.WireAgreement
import PhoneBridge.Library.Backoff
import PhoneBridge.Library.Base64
import PhoneBridge.Library.Broadcast
import PhoneBridge.Library.Bytes
import PhoneBridge.Library.Conveyor
import PhoneBridge.Library.Der
import PhoneBridge.Library.GetOrCreate
import PhoneBridge.Library.Hex
import PhoneBridge.Library.Hkdf
import PhoneBridge.Library.Interchange
import PhoneBridge.Library.Jobs
import PhoneBridge.Library.Json
import PhoneBridge.Library.JsonLines
import PhoneBridge.Library.JsonSchema
import PhoneBridge.Library.KeyMap
import PhoneBridge.Library.Kotlinx
import PhoneBridge.Library.LastOf
import PhoneBridge.Library.Lookup
import PhoneBridge.Library.Loop
import PhoneBridge.Library.Pages
import PhoneBridge.Library.Programs
import PhoneBridge.Library.Recent
import PhoneBridge.Library.Reception
import PhoneBridge.Library.Result
import PhoneBridge.Library.Run
import PhoneBridge.Library.Script
import PhoneBridge.Library.Select
import PhoneBridge.Library.Serde
import PhoneBridge.Library.Service
import PhoneBridge.Library.Table
import PhoneBridge.Library.Text
import PhoneBridge.Library.Tickets
import PhoneBridge.Library.Unwinding
import PhoneBridge.Library.Url
import PhoneBridge.Library.Utf16
import PhoneBridge.Library.Utf8
import PhoneBridge.Library.Uuid
import PhoneBridge.Library.Window
import PhoneBridge.Library.Xml
import PhoneBridge.MessageCenter.AdvertisedKey
import PhoneBridge.MessageCenter.AppState
import PhoneBridge.MessageCenter.BadRequests
import PhoneBridge.MessageCenter.Builders
import PhoneBridge.MessageCenter.CallBookkeeping
import PhoneBridge.MessageCenter.CallHistory
import PhoneBridge.MessageCenter.CenterSink
import PhoneBridge.MessageCenter.ChallengeHandover
import PhoneBridge.MessageCenter.Commands
import PhoneBridge.MessageCenter.ConsoleBus
import PhoneBridge.MessageCenter.ConsoleFeed
import PhoneBridge.MessageCenter.DeskActions
import PhoneBridge.MessageCenter.DeviceIsolation
import PhoneBridge.MessageCenter.DeviceRemoval
import PhoneBridge.MessageCenter.DeviceStore
import PhoneBridge.MessageCenter.DisplayAuth
import PhoneBridge.MessageCenter.DisplayBus
import PhoneBridge.MessageCenter.DisplayFeed
import PhoneBridge.MessageCenter.DisplayResults
import PhoneBridge.MessageCenter.DisplaySubscribers
import PhoneBridge.MessageCenter.DisplayTask
import PhoneBridge.MessageCenter.DisplayWs
import PhoneBridge.MessageCenter.I18n
import PhoneBridge.MessageCenter.Identity
import PhoneBridge.MessageCenter.IdentityCrashes
import PhoneBridge.MessageCenter.IdentityScripts
import PhoneBridge.MessageCenter.IncomingCalls
import PhoneBridge.MessageCenter.IncomingDecisions
import PhoneBridge.MessageCenter.JournalPages
import PhoneBridge.MessageCenter.MarkAllRead
import PhoneBridge.MessageCenter.MessagePages
import PhoneBridge.MessageCenter.NotificationCounters
import PhoneBridge.MessageCenter.OneIdentity
import PhoneBridge.MessageCenter.OnePairingTruth
import PhoneBridge.MessageCenter.OtherTasks
import PhoneBridge.MessageCenter.OutgoingSms
import PhoneBridge.MessageCenter.PairedMarks
import PhoneBridge.MessageCenter.PairingDecisions
import PhoneBridge.MessageCenter.PairingSafety
import PhoneBridge.MessageCenter.Redelivery
import PhoneBridge.MessageCenter.Rest
import PhoneBridge.MessageCenter.SessionRaces
import PhoneBridge.MessageCenter.SmsHistory
import PhoneBridge.MessageCenter.SmsRows
import PhoneBridge.MessageCenter.Tls
import PhoneBridge.MessageCenter.TokenRotation
import PhoneBridge.MessageCenter.TokenState
import PhoneBridge.MessageCenter.Unpairing
import PhoneBridge.MessageCenter.Writers
import PhoneBridge.Net.ChallengeCheck
import PhoneBridge.Net.Connection
import PhoneBridge.Net.ConnectionLifecycle
import PhoneBridge.Net.Dispatch
import PhoneBridge.Net.DispatchTask
import PhoneBridge.Net.MalformedFrames
import PhoneBridge.Net.OutboundOrder
import PhoneBridge.Net.Pairing
import PhoneBridge.Net.Registry
import PhoneBridge.Net.RejectedMessages
import PhoneBridge.Net.WebSocketLoops
import PhoneBridge.Pairing.DesktopInitiated
import PhoneBridge.Pairing.Duo
import PhoneBridge.Pairing.PhoneInitiated
import PhoneBridge.Proto.Display
import PhoneBridge.Proto.Envelope
import PhoneBridge.Proto.Payload
import PhoneBridge.Proto.ProtocolSchema
import PhoneBridge.Proto.Types
import PhoneBridge.Storage.ConcurrentUpserts
import PhoneBridge.Storage.Counts
import PhoneBridge.Storage.Growth
import PhoneBridge.Storage.Journals
import PhoneBridge.Storage.KnownDevices
import PhoneBridge.Storage.LastWord
import PhoneBridge.Storage.Listings
import PhoneBridge.Storage.MessageHistory
import PhoneBridge.Storage.Outages
import PhoneBridge.Storage.Pool
import PhoneBridge.Storage.PruneDuplicates
import PhoneBridge.Storage.Records
import PhoneBridge.Storage.Refinement
import PhoneBridge.Storage.Schema
import PhoneBridge.Storage.Shelves
import PhoneBridge.Storage.UpsertDevice
