import Clearance.Config.Loader
import Clearance.Proofs.Document.RoundTrip
import Clearance.Proofs.Masking.Frame

/-!
# Loading fails closed

Loading goes through four stages: each file is read, the sources are merged, the merged tree is
read as settings, and these are validated. **Settings come out only if all four go well**
(`Sources.load_eq_ok_iff`), and the masks among them are those of the merged tree, one for each
item of its list (`Settings.forall₂_maskItems`). So there is no way for a mask to get lost: one bad
item, or one bad file in any place, is an error of the whole.
-/

set_option autoImplicit false

namespace Clearance

open Setting

/-! ## Masks of valid settings -/

theorem Settings.path_ne_nil_of_validate {settings : Settings} (h : settings.validate = .ok ())
    {mask : Mask} (hmask : mask ∈ settings.masks) : mask.path ≠ [] := by
  unfold validate at h
  split at h
  · exact absurd h (by simp)
  · split at h
    · exact absurd h (by simp)
    · next hnone =>
      have hall := List.findIdx?_eq_none_iff.mp hnone mask hmask
      simpa using hall

/-! ## Masks of a tree -/

namespace Setting

theorem items?_eq_some_iff {document : Setting} {items : List Setting} :
    form.items? document = some items ↔ document = .list items := by
  cases document <;> simp [form]

/-- What a tree of settings has for the masks. -/
def masks? (tree : Setting) : Option Setting :=
  match form.record? ["authorizer", "masking"] tree with
  | some [_, some masking] =>
      match form.record? ["fields"] masking with
      | some [masks] => masks
      | _ => none
  | _ => none

/-- The items that a tree of settings has for the masks. -/
def maskItems (tree : Setting) : List Setting :=
  match tree.masks? with
  | some (.list items) => items
  | _ => []

/-- An item that must not be taken for a mask: its strategy is unknown, or its field has no
segment. -/
inductive Unusable (item : Setting) : Prop where
  | unknownStrategy {field? payload : Option Setting} {strategy : Setting} {name : String}
      (hparts : form.record? ["field", "strategy"] item = some [field?, some strategy])
      (hvariant : form.variant? strategy = some (name, payload))
      (hunknown : ∀ known : Strategy, known.name ≠ name)
  | noSegment {field : Setting} {strategy? : Option Setting} {text : String}
      (hparts : form.record? ["field", "strategy"] item = some [some field, strategy?])
      (htext : form.text? field = some text) (hempty : Path.ofDotted text = [])

/-- If such an item reads as a mask at all, it is one that no valid settings have. -/
theorem Unusable.path_eq_nil {item : Setting} (h : item.Unusable) {mask : Mask}
    (hread : Mask.read? form item = some mask) : mask.path = [] := by
  obtain ⟨field, strategy, hparts, htext, hstrategy⟩ := Mask.read?_iff_parts.mp hread
  cases h with
  | unknownStrategy hparts' hvariant hunknown =>
    rw [hparts] at hparts'
    obtain ⟨-, rfl⟩ : _ ∧ strategy = _ := by simpa using hparts'
    obtain ⟨payload, hv⟩ := Strategy.exists_variant?_of_read? hstrategy
    rw [hvariant] at hv
    exact absurd (congrArg Prod.fst (Option.some.inj hv)).symm (hunknown mask.strategy)
  | noSegment hparts' htext' hempty =>
    rw [hparts] at hparts'
    obtain ⟨rfl, -⟩ : field = _ ∧ _ := by simpa using hparts'
    rw [htext] at htext'
    rw [Mask.path, Option.some.inj htext', hempty]

end Setting

namespace Settings

variable {settings : Settings} {tree : Setting}

/-- What a tree has for the masks is what they are read from. -/
theorem read?_masks (h : read? form tree = some settings) :
    Form.orElse [] (Policy.read? form) tree.masks? = some settings.masks := by
  obtain ⟨_, masking?, hroot, -, hmasking⟩ := read?_iff_parts.mp h
  cases masking? with
  | none => simpa [masks?, hroot, Form.orElse] using hmasking
  | some masking =>
    obtain ⟨masks?, hparts, hmasks⟩ := readMasking?_iff_parts.mp hmasking
    simpa [Setting.masks?, hroot, hparts] using hmasks

/-- Each item of the list is one of the masks that are read, in the same order. -/
theorem forall₂_maskItems (h : read? form tree = some settings) :
    List.Forall₂ (fun item mask => Mask.read? form item = some mask) tree.maskItems
      settings.masks := by
  have hmasks := read?_masks h
  unfold maskItems
  cases hm : tree.masks? with
  | none =>
    rw [hm, Form.orElse] at hmasks
    rw [← Option.some.inj hmasks]
    exact .nil
  | some masks =>
    rw [hm, Form.orElse] at hmasks
    obtain ⟨items, hitems, hall⟩ := Policy.read?_eq_some_iff.mp hmasks
    obtain rfl := Setting.items?_eq_some_iff.mp hitems
    exact hall

theorem exists_mem_masks (h : read? form tree = some settings) {item : Setting}
    (hitem : item ∈ tree.maskItems) :
    ∃ mask ∈ settings.masks, Mask.read? form item = some mask := by
  have hall := forall₂_maskItems h
  obtain ⟨i, hi, rfl⟩ := List.mem_iff_getElem.mp hitem
  have hi' : i < settings.masks.length := hall.length_eq ▸ hi
  exact ⟨settings.masks[i], List.getElem_mem hi', hall.get hi hi'⟩

end Settings

/-! ## The stages of loading -/

namespace Sources

variable {sources : Sources} {settings : Settings} {merged : Setting}

/-- The sources are merged unless one of the files that are looked at is not read. -/
theorem merged?_eq_none_iff :
    sources.merged? = none ↔ ∃ file ∈ sources.files, readFile? file.2 = none := by
  rw [merged?, Option.map_eq_none_iff, layers?, Option.bind_eq_bind, ← mapM_eq_none_iff]
  cases sources.files.mapM fun file => readFile? file.2 <;> simp

theorem load_eq_ok_iff :
    sources.load = .ok settings ↔
      ∃ merged, sources.merged? = some merged ∧ Settings.read? form merged = some settings ∧
        settings.validate = .ok () := by
  constructor
  · intro h
    unfold load at h
    split at h
    · exact absurd h (by simp)
    · next merged hmerged =>
      split at h
      · exact absurd h (by simp)
      · next read hread =>
        split at h
        · exact absurd h (by simp)
        · next hvalid =>
          obtain rfl := Except.ok.inj h
          exact ⟨merged, hmerged, hread, hvalid⟩
  · rintro ⟨merged, hmerged, hread, hvalid⟩
    simp only [load, hmerged, hread, hvalid]

/-- What is loaded can be told by evaluation. -/
theorem load_of_toOption (h : sources.load.toOption = some settings) :
    sources.load = .ok settings := by
  cases hload : sources.load with
  | error error => simp [hload, Except.toOption] at h
  | ok read => simpa [hload, Except.toOption] using h

theorem load_of_merged?_eq_none (h : sources.merged? = none) :
    sources.load = .error .malformed := by
  rw [load, h]

/-- Whatever loading ends in, if it is no settings it is an error. -/
theorem exists_load_eq_error (h : ∀ settings, sources.load ≠ .ok settings) :
    ∃ error, sources.load = .error error := by
  cases hload : sources.load with
  | error error => exact ⟨error, rfl⟩
  | ok settings => exact absurd hload (h settings)

end Sources

/-! ## Failing closed -/

/-- What it is that loading fails closed: settings are what all stages let through, and one bad
file or one bad mask lets nothing through. -/
structure Sources.FailsClosed (sources : Sources) : Prop where
  loaded_iff : ∀ settings, sources.load = .ok settings ↔
    (∀ file ∈ sources.files, ∃ fields, readFile? file.2 = some fields) ∧
    ∃ merged, sources.merged? = some merged ∧ Settings.read? form merged = some settings ∧
      settings.validate = .ok ()
  /-- A file counts even if all that it says is overridden. -/
  malformed : ∀ file ∈ sources.files, readFile? file.2 = none → sources.load = .error .malformed
  unusable : ∀ merged, sources.merged? = some merged → ∀ item ∈ merged.maskItems, item.Unusable →
    ∃ error, sources.load = .error error
  /-- No mask is lost, and each of them has a field. -/
  masks : ∀ settings, sources.load = .ok settings → ∃ merged, sources.merged? = some merged ∧
    List.Forall₂ (fun item mask => Mask.read? form item = some mask) merged.maskItems
      settings.masks ∧
    ∀ resource, (settings.masks.apply resource).result ≠ .error .emptyField

/-- **Loading fails closed**, whatever the files and the environment hold. -/
theorem loading_fails_closed (sources : Sources) : sources.FailsClosed where
  loaded_iff settings := by
    rw [Sources.load_eq_ok_iff]
    refine ⟨fun h => ⟨fun file hfile => ?_, h⟩, And.right⟩
    refine Option.ne_none_iff_exists'.mp fun hnone => ?_
    obtain ⟨merged, hmerged, -⟩ := h
    rw [Sources.merged?_eq_none_iff.mpr ⟨file, hfile, hnone⟩] at hmerged
    exact absurd hmerged (by simp)
  malformed file hfile hnone :=
    Sources.load_of_merged?_eq_none (Sources.merged?_eq_none_iff.mpr ⟨file, hfile, hnone⟩)
  unusable merged hmerged item hitem hbad := by
    refine Sources.exists_load_eq_error fun settings hload => ?_
    obtain ⟨_, hmerged', hread, hvalid⟩ := Sources.load_eq_ok_iff.mp hload
    obtain rfl := Option.some.inj (hmerged.symm.trans hmerged')
    obtain ⟨mask, hmask, hread⟩ := Settings.exists_mem_masks hread hitem
    exact Settings.path_ne_nil_of_validate hvalid hmask (hbad.path_eq_nil hread)
  masks settings hload := by
    obtain ⟨merged, hmerged, hread, hvalid⟩ := Sources.load_eq_ok_iff.mp hload
    refine ⟨merged, hmerged, Settings.forall₂_maskItems hread, fun resource hempty => ?_⟩
    obtain ⟨mask, hmask, hpath⟩ := Policy.exists_path_nil_of_emptyField hempty
    exact Settings.path_ne_nil_of_validate hvalid hmask hpath

/-- A project's file that sets everything, over a user's file that breaks off. -/
def brokenOff : Sources :=
  { userText := some "[authorizer"
    projectText := some "[[masking.fields]]\nfield = \"ssn\"\nstrategy = \"hash\"\n" }

/-- The broken file of the user is fatal; where that file is not looked at, the mask of the project
is loaded. -/
theorem brokenOff_fails_closed :
    brokenOff.load = .error .malformed ∧
    { brokenOff with usesUserFile := false }.load = .ok ⟨"default", true, [⟨"ssn", .hash⟩]⟩ ∧
    ∀ resource, (Policy.apply [⟨"ssn", .hash⟩] resource).result ≠ .error .emptyField := by
  have hbroken := loading_fails_closed brokenOff
  have hproject := loading_fails_closed { brokenOff with usesUserFile := false }
  have hload : { brokenOff with usesUserFile := false }.load =
      .ok ⟨"default", true, [⟨"ssn", .hash⟩]⟩ := Sources.load_of_toOption (by decide +kernel)
  obtain ⟨_, -, -, hempty⟩ := hproject.masks _ hload
  exact ⟨hbroken.malformed ("config.toml", "[authorizer") (by decide +kernel)
    (Option.isNone_iff_eq_none.mp (by decide +kernel)), hload, hempty⟩

end Clearance
