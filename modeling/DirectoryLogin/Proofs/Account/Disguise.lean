import DirectoryLogin.Account.Password
import DirectoryLogin.Proofs.Account.Mask

/-!
# Stored secrets in disguise

A stored secret is good for one thing only: a hash for the passwords that it accepts, the password
of a service account for not being empty. A `Disguise` puts others in their place that are good for
the same.

* `Disguise.account`, `Disguise.store`: accounts and stores with other hashes in them;
* `Disguise.mask`: to them a disguise is a mask.
-/

namespace DirectoryLogin

/-- Other secrets in the place of the stored ones. -/
structure Disguise where
  hash : String → String
  accepts : ∀ text password, passwordAccepted (hash text) password = passwordAccepted text password
  bindPassword : String → String
  isEmpty : ∀ password, (bindPassword password).isEmpty = password.isEmpty

namespace Disguise

variable (d : Disguise)

def account (a : Account) : Account := { a with passHash := a.passHash.map d.hash }

def store (s : Store) : Store := { s with accounts := s.accounts.map d.account }

/-- What a disguise makes of the hashes. -/
def mask : Mask := ⟨fun _ hash => hash.map d.hash, fun _ => rfl⟩

end Disguise

end DirectoryLogin
