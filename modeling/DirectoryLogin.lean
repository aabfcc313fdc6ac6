import DirectoryLogin.Directory.Tree
import DirectoryLogin.Http.Router
import DirectoryLogin.Main
import DirectoryLogin.Predicate.Display
import DirectoryLogin.Proofs.Account.History
import DirectoryLogin.Proofs.Account.Provisioning
import DirectoryLogin.Proofs.Directory.Bookkeeping
import DirectoryLogin.Proofs.Directory.Subtree
import DirectoryLogin.Proofs.Http.Balance
import DirectoryLogin.Proofs.Http.Blocked
import DirectoryLogin.Proofs.Http.Disclosure
import DirectoryLogin.Proofs.Http.Logout
import DirectoryLogin.Proofs.Http.OwnerName
import DirectoryLogin.Proofs.Http.OwnerOnly
import DirectoryLogin.Proofs.Http.Seamless
import DirectoryLogin.Proofs.Http.SearchTest
import DirectoryLogin.Proofs.Http.Secrets
import DirectoryLogin.Proofs.Login.Aftermath
import DirectoryLogin.Proofs.Login.AssertedName
import DirectoryLogin.Proofs.Login.Exclusion
import DirectoryLogin.Proofs.Login.Fragments
import DirectoryLogin.Proofs.Login.Frame
import DirectoryLogin.Proofs.Login.Gate
import DirectoryLogin.Proofs.Login.Grants
import DirectoryLogin.Proofs.Login.LocalPassword
import DirectoryLogin.Proofs.Login.Lockout
import DirectoryLogin.Proofs.Login.OwnerCheck
import DirectoryLogin.Proofs.Login.RacingLinks
import DirectoryLogin.Proofs.Login.RacingUpdates
import DirectoryLogin.Proofs.Login.Refusal
import DirectoryLogin.Proofs.Login.Repetition
import DirectoryLogin.Proofs.Login.Sharing
import DirectoryLogin.Proofs.Login.SiteOwner
import DirectoryLogin.Proofs.Login.Splitting
import DirectoryLogin.Proofs.Predicate.LetterCase
import DirectoryLogin.Proofs.Predicate.Position
import DirectoryLogin.Proofs.Predicate.Size
import DirectoryLogin.Proofs.Predicate.Tokens
import DirectoryLogin.Proofs.Session.Lifetime
import DirectoryLogin.Proofs.Session.Token
import DirectoryLogin.Proofs.Settings.Form
