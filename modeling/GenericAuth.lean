import GenericAuth.Properties.AccessLifetime
import GenericAuth.Properties.AccountEnumeration
import GenericAuth.Properties.AccountFailure
import GenericAuth.Properties.AccountHistory
import GenericAuth.Properties.AccountIsolation
import GenericAuth.Properties.AdminChange
import GenericAuth.Properties.AdminMediation
import GenericAuth.Properties.AdminSerial
import GenericAuth.Properties.Coalition
import GenericAuth.Properties.DisabledAccount
import GenericAuth.Properties.EffectivePermissions
import GenericAuth.Properties.EmailConflict
import GenericAuth.Properties.EmailProvenance
import GenericAuth.Properties.ErrorMasking
import GenericAuth.Properties.HttpAdmin
import GenericAuth.Properties.IdentityHistory
import GenericAuth.Properties.LatestPassword
import GenericAuth.Properties.LinkHistory
import GenericAuth.Properties.MailProvenance
import GenericAuth.Properties.NoEscalation
import GenericAuth.Properties.PasswordPolicy
import GenericAuth.Properties.PasswordlessAccount
import GenericAuth.Properties.PortProtocol
import GenericAuth.Properties.RefreshFailure
import GenericAuth.Properties.RefreshRotation
import GenericAuth.Properties.ResetCutoff
import GenericAuth.Properties.ResetLinks
import GenericAuth.Properties.ResetMailbox
import GenericAuth.Properties.Restarts
import GenericAuth.Properties.RevocationFinal
import GenericAuth.Properties.RevocationTime
import GenericAuth.Properties.SecretsAtRest
import GenericAuth.Properties.SessionAccounting
import GenericAuth.Properties.SessionOrigin
import GenericAuth.Properties.TokenEffect
import GenericAuth.Properties.TokenLifetime
import GenericAuth.Properties.TokenRole
import GenericAuth.Properties.UniqueAddress
import GenericAuth.Properties.UserListing
import GenericAuth.Properties.UserPaging
import GenericAuth.Properties.VerificationLink
