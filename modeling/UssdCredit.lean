import UssdCredit.Library.Program
import UssdCredit.Library.Dict
import UssdCredit.Library.Interleaving
import UssdCredit.Revocation
import UssdCredit.AdminAccounts
import UssdCredit.Credentials
import UssdCredit.PasswordConfidentiality
import UssdCredit.PinVerification
import UssdCredit.InfluencerInvariant
import UssdCredit.SubscriptionIds
import UssdCredit.SubscriptionPayees
import UssdCredit.ShortcodeUniqueness
import UssdCredit.InfluencerStatus
import UssdCredit.InfluencerDocumentIds
import UssdCredit.LastAdmin
import UssdCredit.UserTypes
import UssdCredit.UssdSession
import UssdCredit.SubscribeFormRuns
import UssdCredit.AuthContext
import UssdCredit.ConcurrentSignup
import UssdCredit.BackendEquivalence
import UssdCredit.SubscriptionWrites
import UssdCredit.SelfService
import UssdCredit.DocumentCreation
import UssdCredit.AdminDecorators
import UssdCredit.DatabaseGuards
import UssdCredit.SimpleAuthLogins
import UssdCredit.StatusMigration
import UssdCredit.SubscriberDashboard
import UssdCredit.InfluencerTable
import UssdCredit.AuthSessions
import UssdCredit.InfluencerUpdates
import UssdCredit.ChargeableSubscriptions
import UssdCredit.UserPages
import UssdCredit.ProfileAccess
import UssdCredit.AccountSuspension
import UssdCredit.PasswordSession
import UssdCredit.InfluencerSearch
import UssdCredit.PhoneNumbers
import UssdCredit.MongoUri
import UssdCredit.UserStatusToggles
import UssdCredit.UserTable
import UssdCredit.ConcurrentRequests
import UssdCredit.SetupScripts
import UssdCredit.ShippedClient
import UssdCredit.StoreIndependence
import UssdCredit.SessionLifetime
import UssdCredit.AccountForms
import UssdCredit.ClientForms
import UssdCredit.Dashboards
import UssdCredit.ManagementPages
import UssdCredit.CreatorsPage
import UssdCredit.ClientEffects
