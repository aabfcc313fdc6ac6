import DirectoryLogin.Proofs.Login.World
import DirectoryLogin.Proofs.Text.LowerCase

/-!
# Two accounts for one entry

An entry with a persistent id has one key under all of its login names, and so has one whose account
name attribute has a value. Any other entry goes by the login name that was submitted, and comes to
an account for each of its login names.

* `Identity.NamedApart`: two identities of such an entry, under names that lower-case differently;
* `OneAccountPerEntry`: the logins of a history by one entry come to one account;
* `oneAccountPerEntry_iff`: this holds just when no two logins by one entry are named apart, and
  letter case and white space around a name never name them apart.
-/

namespace DirectoryLogin

open Settings (Authentication)

namespace Identity

variable {i i' : Identity}

/-- The identities are of one entry: the same name at the same server. -/
structure SameEntry (i i' : Identity) : Prop where
  sid : i.sid = i'.sid
  dn : i.entry.dn = i'.entry.dn

/-- Nothing in the entry names the account, and the login names are not alike. -/
structure NamedApart (i i' : Identity) : Prop where
  noId : i.persistentId = none
  noName : i.text? i.definition.accountNameAttr = none
  names : Text.lower i.username ≠ Text.lower i'.username

theorem not_namedApart_of_sameAscii (h : Text.sameAscii i.username i'.username = true) :
    ¬ i.NamedApart i' :=
  fun hapart => hapart.names (Text.lower_eq_of_sameAscii h)

theorem text?_congr (he : i.entry = i'.entry) (name : String) : i.text? name = i'.text? name := by
  rw [text?, text?, he]

theorem persistentId_congr (he : i.entry = i'.entry) (hd : i.definition = i'.definition) :
    i.persistentId = i'.persistentId := by
  rw [persistentId, persistentId, hd, funext (text?_congr he)]

theorem nameText_congr (he : i.entry = i'.entry) (hd : i.definition = i'.definition) :
    i.text? i.definition.accountNameAttr = i'.text? i'.definition.accountNameAttr := by
  rw [text?_congr he, hd]

/-- The key of an identity that goes by its login name. -/
theorem authname_of_username (hid : i.persistentId = none)
    (hname : i.text? i.definition.accountNameAttr = none)
    (ht : Text.trim i.username = i.username) : i.authname = Text.lower i.username := by
  rw [authname_of_noId hid, accountName_of_noText hname, authnameOf, ht]

/-- Identities of one entry have one key just when they are not named apart. -/
theorem authname_eq_iff (he : i.entry = i'.entry) (hd : i.definition = i'.definition)
    (ht : Text.trim i.username = i.username) (ht' : Text.trim i'.username = i'.username) :
    i.authname = i'.authname ↔ ¬ i.NamedApart i' := by
  have hsame := persistentId_congr he hd
  have hsameName := nameText_congr he hd
  cases hid : i.persistentId with
  | some p =>
    have hid' : i'.persistentId = some p := hsame.symm.trans hid
    have hkeys : i.authname = i'.authname := by rw [authname_of_id hid, authname_of_id hid']
    exact iff_of_true hkeys fun hapart => nomatch hid.symm.trans hapart.noId
  | none =>
    have hid' : i'.persistentId = none := hsame.symm.trans hid
    cases hname : i.text? i.definition.accountNameAttr with
    | some n =>
      have hname' := hsameName.symm.trans hname
      have hkeys : i.authname = i'.authname := by
        rw [authname_of_noId hid, authname_of_noId hid', accountName_of_text hname,
          accountName_of_text hname']
      exact iff_of_true hkeys fun hapart => nomatch hname.symm.trans hapart.noName
    | none =>
      have hname' := hsameName.symm.trans hname
      rw [authname_of_username hid hname ht, authname_of_username hid' hname' ht']
      exact ⟨fun heq hapart => hapart.names heq,
        fun hnot => by_contra fun hne => hnot ⟨hid, hname, hne⟩⟩

end Identity

namespace Service

variable {c : Authentication} {w : World} {ts : List Turn} {i i' : Identity} {o o' : Outcome}

/-- Logins of the history by one entry come to one account. -/
def OneAccountPerEntry (c : Authentication) (ts : List Turn) : Prop :=
  ∀ i i' o o', LogsIn c ts i o → LogsIn c ts i' o' → i.SameEntry i' →
    o.account.uid = o'.account.uid

theorem LogsIn.uid_eq_iff_of_sameEntry (hw : w.Hosts ts) (h : LogsIn c ts i o)
    (h' : LogsIn c ts i' o') (hsame : i.SameEntry i') :
    o.account.uid = o'.account.uid ↔ ¬ i.NamedApart i' := by
  have hi := World.holds_of_logsIn hw h
  have hi' := World.holds_of_logsIn hw h'
  obtain ⟨he, hd⟩ := hi.ext hi' hsame.sid hsame.dn
  exact (h.uid_eq_iff h').trans (Identity.authname_eq_iff he hd hi.trimmed hi'.trimmed)

/-- Logins by one entry come to one account where the submitted names, trimmed, differ in letter
case only, and in general just when no two of them are named apart. -/
theorem oneAccountPerEntry_iff (hw : w.Hosts ts) :
    (∀ i i' o o', LogsIn c ts i o → LogsIn c ts i' o' → i.SameEntry i' →
      Text.sameAscii i.username i'.username = true → o.account.uid = o'.account.uid) ∧
    (OneAccountPerEntry c ts ↔
      ∀ i i' o o', LogsIn c ts i o → LogsIn c ts i' o' → i.SameEntry i' → ¬ i.NamedApart i') := by
  refine ⟨?_, ?_, ?_⟩
  · intro i i' o o' h h' hsame hnames
    exact (h.uid_eq_iff_of_sameEntry hw h' hsame).mpr
      (Identity.not_namedApart_of_sameAscii hnames)
  · intro hall i i' o o' h h' hsame
    exact (h.uid_eq_iff_of_sameEntry hw h' hsame).mp (hall i i' o o' h h' hsame)
  · intro hall i i' o o' h h' hsame
    exact (h.uid_eq_iff_of_sameEntry hw h' hsame).mpr (hall i i' o o' h h' hsame)

end Service

/-! ## A person with two login names -/

namespace Sample

/-- Two login names, and no attribute besides. -/
def harry : StoredEntry :=
  ⟨⟨"cn=hpotter,ou=people,dc=hogwarts,dc=edu", "hogwarts", [("uid", ["hpotter", "harry"])]⟩,
    "pass"⟩

/-- A site that takes account names from an attribute. -/
def siteNaming (naming : Option String) : World where
  trees := [⟨{ tree.definition with accountNameAttribute := naming }, [harry], false⟩]
  dns := by
    intro t ht
    obtain rfl := List.mem_singleton.mp ht
    exact List.pairwise_singleton _ _

/-- The person visits the site under both names. -/
def harrysVisits (naming : Option String) : List Service.Turn :=
  ["hpotter", "harry"].map (visitAs (siteNaming naming))

/-- The person's identity under a name. -/
def harryAs (naming : Option String) (name : String) : Identity :=
  ⟨harry.entry, name, { tree.definition with accountNameAttribute := naming }⟩

end Sample

/-- Where accounts are named by the attribute that holds the login names, the first of them names
the account under either. -/
theorem first_login_name_names_account :
    (Sample.siteNaming none).Hosts (Sample.harrysVisits none) ∧
      Service.OneAccountPerEntry Sample.settings (Sample.harrysVisits none) := by
  have hhosts := sample_visits_hosted (Sample.siteNaming none) ["hpotter", "harry"]
  refine ⟨hhosts, (Service.oneAccountPerEntry_iff hhosts).2.mpr ?_⟩
  intro i i' o o' h h' hsame hapart
  obtain ⟨hi, ⟨s, hs, he⟩, -⟩ := (World.holds_of_logsIn hhosts h).of_single rfl
  obtain rfl := List.mem_singleton.mp hs
  have hname : (Sample.harry.entry.value? "uid").bind Text.nonBlank? = some "hpotter" := by
    decide +kernel
  have hnone := hapart.noName
  rw [hi, ← he] at hnone
  cases hname.symm.trans hnone

/-- Where accounts are named by an attribute that the entry lacks, each login name of the entry
gets an account. -/
theorem login_names_split_entry :
    (Sample.siteNaming (some "displayName")).Hosts (Sample.harrysVisits (some "displayName")) ∧
      ¬ Service.OneAccountPerEntry Sample.settings (Sample.harrysVisits (some "displayName")) := by
  refine ⟨sample_visits_hosted _ _, fun hall => ?_⟩
  have hlogins : ∃ o o', o.account.uid = 2 ∧ o'.account.uid = 3 ∧
      Service.LogsIn Sample.settings (Sample.harrysVisits (some "displayName"))
        (Sample.harryAs (some "displayName") "hpotter") o ∧
      Service.LogsIn Sample.settings (Sample.harrysVisits (some "displayName"))
        (Sample.harryAs (some "displayName") "harry") o' := by
    refine Service.logsIn_of_visits "hogwarts" ?_ ?_
    all_goals decide +kernel
  obtain ⟨o, o', huid, huid', ho, ho'⟩ := hlogins
  have heq := hall _ _ o o' ho ho' ⟨rfl, rfl⟩
  rw [huid, huid'] at heq
  cases heq

end DirectoryLogin
