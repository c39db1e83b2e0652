import ServerComponents.Auth.DeviceTokenLifetime
import ServerComponents.Auth.LockoutAccounting
import ServerComponents.Auth.LoginLock
import ServerComponents.Auth.RateLimit
import ServerComponents.Tenancy.TenantIsolation
import ServerComponents.Auth.PasswordResetProtocol
import ServerComponents.Auth.EmailVerificationRuns
import ServerComponents.Auth.VerifiedAddresses
import ServerComponents.Rest.PermissionReaders
import ServerComponents.Auth.TokenCleanup
import ServerComponents.Auth.BackgroundJobs
import ServerComponents.Rest.ErrorTexts
import ServerComponents.Auth.MailMarkup
import ServerComponents.Transactions.PooledTransactionProvider
import ServerComponents.Scheduler.TimerRuns
import ServerComponents.Auth.ProxyTrust
import ServerComponents.Auth.ServiceAccount
import ServerComponents.Auth.OwnAccount
import ServerComponents.Rest.PagedRows
import ServerComponents.Rest.TemplateLaw
import ServerComponents.Rest.DeleteItem
import ServerComponents.Rest.Routes
import ServerComponents.Rest.Identifiers
import ServerComponents.Migrations.ConcurrentRunners
import ServerComponents.Secrets.SecretsAtRest
import ServerComponents.Tenancy.Provisioning
import ServerComponents.Util.CalendarDocuments
import ServerComponents.Util.DataResults
import ServerComponents.DbSchema.ReflectionRuns
import ServerComponents.Branding.AssetReferences
import ServerComponents.Branding.BundleUploads
import ServerComponents.Branding.HistoryFree
import ServerComponents.Util.LineFolding
import ServerComponents.DbSchema.ForeignKeyRuns
import ServerComponents.Util.KeyValueTableJson
import ServerComponents.Auth.AttemptDetails
import ServerComponents.Rest.FilteredRows
import ServerComponents.Auth.Logout
import ServerComponents.Util.MonthBounds
import ServerComponents.Util.FormattedTimes
import ServerComponents.Images.ClippedRect
import ServerComponents.Util.Bytea
import ServerComponents.Branding.PruningLaw
import ServerComponents.Branding.WrittenIntegers
import ServerComponents.Branding.SvgAssets
import ServerComponents.Branding.WrittenDirectories
import ServerComponents.Images.Eviction
import ServerComponents.Images.EtagSoundness
import ServerComponents.Square.RetryDiscipline
import ServerComponents.Scheduler.TargetKeys
import ServerComponents.Transactions.ConnectionStrings
import ServerComponents.Branding.FontStylesheets
import ServerComponents.Branding.FontFaces
import ServerComponents.Rest.LiteralSearch
