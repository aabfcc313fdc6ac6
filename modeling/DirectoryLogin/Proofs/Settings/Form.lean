import DirectoryLogin.Proofs.Login.SavedSettings
import DirectoryLogin.Proofs.Text.Cuts
import DirectoryLogin.Proofs.Text.Trimming
import DirectoryLogin.Settings.Form

/-!
# Settings that a form shows as they are

A form keeps a list as lines of text and an absent text as an empty one, so it cannot show every
list and every text apart. What is read from a form is in a shape of its own, and settings in this
shape are those that come back from the form that shows them.

* `Text.Item`: a text that can be an item of a list kept as lines;
* `Text.items_ofItems_iff`: a list is read back just when all its items are such texts;
* `Authentication.Canonical`: the shape of all settings;
* `Form.shows_iff_canonical`: every form is read as canonical settings, and these are the ones that
  come back from the form that shows them.
-/

namespace DirectoryLogin

/-! ## Lists kept as lines -/

namespace Text

variable {s : String} {xs : List String}

/-- A text that fills a line and is nothing but what the line holds. -/
structure Item (s : String) : Prop extends Tidy s where
  oneLine : '\n' ∉ s.toList

theorem item_of_mem_items {x : String} (h : x ∈ items s) : Item x := by
  obtain ⟨line, hline, hx⟩ := List.mem_filterMap.mp h
  obtain ⟨htidy, rfl⟩ := nonBlank?_eq_some_iff.mp hx
  exact ⟨htidy, fun hmem => notMem_of_mem_splitOn hline (mem_of_mem_trim hmem)⟩

theorem items_ofItems (h : ∀ x ∈ xs, Item x) : items (ofItems xs) = xs := by
  by_cases hxs : xs = []
  · rw [hxs]
    rfl
  · have hlines : splitOn '\n' (ofItems xs) = xs :=
      splitOn_intercalate hxs fun x hx => (h x hx).oneLine
    have hkept : ∀ x ∈ xs, nonBlank? x = some x := fun x hx => (h x hx).toTidy.nonBlank?
    rw [items, hlines, List.filterMap_congr hkept, List.filterMap_some]

theorem items_ofItems_iff : items (ofItems xs) = xs ↔ ∀ x ∈ xs, Item x := by
  refine ⟨fun h x hx => ?_, items_ofItems⟩
  rw [← h] at hx
  exact item_of_mem_items hx

end Text

namespace Settings

open Text (Item Tidy)

variable {c : Authentication} {f : Form}

/-! ## Settings in the shape of a form -/

/-- The settings are of the shape in which a form is read. -/
structure Authentication.Canonical (c : Authentication) : Prop where
  sids : ∀ sid ∈ c.sids, Text.isBlankText sid = false
  allowed : ∀ s ∈ c.allowOnlyIfTextInDn, Item s
  excluded : ∀ s ∈ c.excludeIfTextInDn, Item s
  paths : ∀ s ∈ c.sso.excludedPaths, Item s
  hosts : ∀ s ∈ c.sso.excludedHosts, Item s
  predicate : ∀ s, c.allowPredicate = some s → Tidy s
  template : ∀ s, c.mailTemplate = some s → Tidy s
  linkUrl : ∀ s, c.helpLinkUrl = some s → Tidy s
  linkText : ∀ s, c.helpLinkText = some s → Tidy s
  header : Tidy c.sso.remoteUserHeader

theorem tidy_default : Tidy defaultRemoteUserHeader := ⟨by decide, by decide⟩

namespace Form

/-- Text that is absent is shown as an empty one. -/
theorem nonBlank?_getD {s? : Option String} (h : ∀ s, s? = some s → Tidy s) :
    Text.nonBlank? (s?.getD "") = s? := by
  cases s? with
  | none => rfl
  | some s => exact (h s rfl).nonBlank?

theorem tidy_header (s : String) : Tidy ((Text.nonBlank? s).getD defaultRemoteUserHeader) := by
  cases hs : Text.nonBlank? s with
  | none => exact tidy_default
  | some t => exact Text.tidy_of_nonBlank? hs

theorem toSettings_canonical (f : Form) (current : Authentication) :
    (f.toSettings current).Canonical := by
  constructor <;> dsimp only [toSettings]
  case sids => exact fun sid hsid => by simpa using (List.mem_filter.mp hsid).2
  case allowed | excluded | paths | hosts => exact fun s hs => Text.item_of_mem_items hs
  case predicate | template | linkUrl | linkText => exact fun s hs => Text.tidy_of_nonBlank? hs
  case header => exact tidy_header f.ssoRemoteUserHeader

theorem toSettings_ofSettings (h : c.Canonical) : (ofSettings c).toSettings c = c := by
  have hsids : c.sids.filter (!Text.isBlankText ·) = c.sids :=
    List.filter_eq_self.mpr fun sid hsid => by rw [h.sids sid hsid]; rfl
  simp only [toSettings, ofSettings, hsids, Text.items_ofItems h.allowed,
    Text.items_ofItems h.excluded, Text.items_ofItems h.paths, Text.items_ofItems h.hosts,
    nonBlank?_getD h.predicate, nonBlank?_getD h.template, nonBlank?_getD h.linkUrl,
    nonBlank?_getD h.linkText, h.header.nonBlank?, Option.getD_some]

theorem toSettings_ofSettings_iff : (ofSettings c).toSettings c = c ↔ c.Canonical := by
  refine ⟨fun h => ?_, toSettings_ofSettings⟩
  rw [← h]
  exact toSettings_canonical (ofSettings c) c

end Form

end Settings

/-! ## Saving a form again -/

open Settings (Form)

theorem Store.saveSettings_saveSettings (s : Store) (name text : String) :
    (s.saveSettings name text).saveSettings name text = s.saveSettings name text := by
  simp [saveSettings]

/-- Settings in force and in the store are left by another update as they are. -/
theorem Service.update_again {r : Realm} {s s' : Service} {c : Settings.Authentication}
    (h : s.update r c = (.ok (), s')) : s'.update r c = (.ok (), s') := by
  obtain ⟨hcheck, rfl⟩ := update_eq_ok_iff.mp h
  refine update_eq_ok_iff.mpr ⟨hcheck, ?_⟩
  simp only [save, apply, Store.saveSettings_saveSettings]

/-- Every form is read as canonical settings, and these are the settings that come back from the
form that shows them. So a form that was taken over, shown and submitted again as it is changes
neither the settings in force nor the store. -/
theorem Settings.Form.shows_iff_canonical :
    (∀ (f : Form) current, (f.toSettings current).Canonical) ∧
      (∀ c, (ofSettings c).toSettings c = c ↔ c.Canonical) ∧
      ∀ (r : Realm) (s s' : Service) (f : Form),
        s.update r (f.toSettings s.live) = (.ok (), s') →
          s'.update r ((ofSettings s'.live).toSettings s'.live) = (.ok (), s') := by
  refine ⟨toSettings_canonical, fun c => toSettings_ofSettings_iff, fun r s s' f h => ?_⟩
  have hlive : s'.live = f.toSettings s.live := by
    rw [(Service.update_eq_ok_iff.mp h).2]
    rfl
  rw [hlive, toSettings_ofSettings (toSettings_canonical f s.live)]
  exact Service.update_again h

namespace Sample

/-- A form with white space of several kinds around its lines, and blank texts. -/
def roughForm : Form :=
  { Form.ofSettings settings with
    allowOnlyIfTextInDn := "\u2003pot\r\n\t\n  ou=staff\r"
    helpLinkText := " \n"
    ssoRemoteUserHeader := "" }

/-- The settings that it is read as. -/
def smooth : Settings.Authentication := { settings with allowOnlyIfTextInDn := ["pot", "ou=staff"] }

end Sample

theorem sample_saved_again : ∃ s,
    (Service.start Sample.settings).update Sample.realm
        (Sample.roughForm.toSettings Sample.settings) = (.ok (), s) ∧
      s.live = Sample.smooth ∧
      s.update Sample.realm ((Form.ofSettings s.live).toSettings s.live) = (.ok (), s) := by
  have hread : Sample.roughForm.toSettings Sample.settings = Sample.smooth := by decide +kernel
  have hcheck : Sample.smooth.check Sample.realm.registry.sids = .ok () := rfl
  have hsaved : (Service.start Sample.settings).update Sample.realm
      (Sample.roughForm.toSettings Sample.settings) = (.ok (), _) :=
    Service.update_eq_ok_iff.mpr ⟨hread ▸ hcheck, rfl⟩
  exact ⟨_, hsaved, hread, Settings.Form.shows_iff_canonical.2.2 _ _ _ _ hsaved⟩

end DirectoryLogin
