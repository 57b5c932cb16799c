import Clearance.Config.Loader
import Clearance.Proofs.Toml.Rendering

/-!
# Rendered settings load

The TOML document of settings is meant to be a file that a project starts from. Here it is read
again in both ways that there are: as a document alone, and as the project's file, over the
built-in defaults. Since the document is the tree of the settings (`Toml.read?_toToml`), what is
left to see is that the tree turns back into the value it comes from, and that putting it over
the defaults hides all of them.

**Both readers give the settings back, but for one thing**: the loader takes no integer that does
not fit a signed one of 64 bits, and refuses the file if a mask counts further than that.
-/

set_option autoImplicit false

namespace Clearance

/-! ## Values as trees, and back -/

namespace Setting

mutual

theorem toValue_ofValue : ∀ value : Value, (ofValue value).toValue = value
  | .null | .bool _ | .number (.integer _) | .number (.float _) | .text _ => rfl
  | .list items => congrArg Value.list (toValues_ofValues items)
  | .object fields => congrArg Value.object (toFields_ofFields fields)

theorem toValues_ofValues : ∀ items : List Value, toValues (ofValues items) = items
  | [] => rfl
  | item :: rest => congrArg₂ List.cons (toValue_ofValue item) (toValues_ofValues rest)

theorem toFields_ofFields : ∀ fields : List (String × Value), toFields (ofFields fields) = fields
  | [] => rfl
  | (key, held) :: rest =>
      congrArg₂ List.cons (congrArg (key, ·) (toValue_ofValue held)) (toFields_ofFields rest)

end

/-! ## Bounds -/

theorem areBounded_iff (items : List Setting) :
    areBounded items = true ↔ ∀ item ∈ items, isBounded item = true := by
  induction items with
  | nil => simp [areBounded]
  | cons item rest ih => rw [areBounded, Bool.and_eq_true, ih, List.forall_mem_cons]

theorem isBounded_count (n : Nat) :
    isBounded (ofValue (.nat n)) = true ↔ n ≤ Number.largestSigned := by
  simp only [Value.nat, ofValue, isBounded, Number.fitsSigned, decide_eq_true_eq]
  omega

end Setting

open Setting

theorem Pattern.isBounded_write (pattern : Pattern) : isBounded (ofValue pattern.write) = true := by
  cases pattern <;> rfl

theorem Strategy.isBounded_write (strategy : Strategy) :
    isBounded (ofValue strategy.write) = true ↔ strategy.count ≤ Number.largestSigned := by
  cases strategy with
  | redact pattern =>
    simp [write, count, ofValue, ofFields, isBounded, fieldsBounded, pattern.isBounded_write]
  | truncate n | keepLast n =>
    simp [write, count, ofValue, ofFields, isBounded, fieldsBounded, isBounded_count]
  | hash | tokenize | null | remove => simp [write, count, ofValue, isBounded]

theorem Mask.isBounded_write (mask : Mask) :
    isBounded (ofValue mask.write) = true ↔ mask.strategy.count ≤ Number.largestSigned := by
  rw [write_eq]
  simp [ofValue, ofFields, isBounded, fieldsBounded, mask.strategy.isBounded_write]

theorem Settings.fieldsBounded_write (settings : Settings) :
    fieldsBounded (ofValue settings.write).fields = true ↔
      settings.masks.CountsTo Number.largestSigned := by
  rw [write_eq]
  simp [ofValue, ofFields, Setting.fields, isBounded, fieldsBounded, Policy.write, ofValues_eq,
    areBounded_iff, Mask.isBounded_write, Policy.CountsTo]

/-! ## The loader -/

theorem pathOf_authorizer : pathOf "authorizer" = [.key "authorizer"] := by decide +kernel

theorem pathOf_masking : pathOf "masking" = [.key "masking"] := by decide +kernel

/-- Settings put into an empty tree. -/
theorem overlay_nil_write (upper : Settings) :
    overlay (.table []) (ofValue upper.write).fields = ofValue upper.write := by
  rw [Settings.write_eq]
  simp (disch := decide) [ofValue, ofFields, Setting.fields, overlay, put, change, merge,
    mergeFields, pathOf_authorizer, pathOf_masking, Fields.get?_cons, Fields.insert_nil,
    Fields.insert_cons_of_gt, Policy.write]

/-- Settings put over settings hide them. -/
theorem overlay_write (lower upper : Settings) :
    overlay (ofValue lower.write) (ofValue upper.write).fields = ofValue upper.write := by
  rw [Settings.write_eq, Settings.write_eq]
  simp (disch := decide) [ofValue, ofFields, Setting.fields, overlay, put, change, merge,
    mergeFields, pathOf_authorizer, pathOf_masking, Fields.get?_cons, Fields.insert_cons_self,
    Fields.insert_cons_of_gt, Policy.write]

namespace Sources

theorem readFile?_toToml (settings : Settings) :
    readFile? settings.toToml =
      if settings.masks.CountsTo Number.largestSigned
      then some (ofValue settings.write).fields else none := by
  have htext : String.ofList (Text.withoutMark settings.toToml.toList) = settings.toToml := by
    rw [Toml.withoutMark_toToml, String.ofList_toList]
  rw [readFile?, htext, Toml.read?_toToml, Option.filter_some]
  simp only [Settings.fieldsBounded_write]

/-- The sources of a project that has nothing but a file with rendered settings. -/
def rendered (settings : Settings) (stem : String) (usesUserFile : Bool) : Sources :=
  { projectText := some settings.toToml, stem, usesUserFile }

theorem merged?_rendered (settings : Settings) (stem : String) (usesUserFile : Bool) :
    (rendered settings stem usesUserFile).merged? =
      if settings.masks.CountsTo Number.largestSigned
      then some (ofValue settings.write) else none := by
  have hfiles : (rendered settings stem usesUserFile).files =
      [(Files.projectName, settings.toToml)] := by
    cases usesUserFile <;> rfl
  have henvironment : Environment.source (rendered settings stem usesUserFile).stem
      (rendered settings stem usesUserFile).environment = [] := rfl
  by_cases hcounts : settings.masks.CountsTo Number.largestSigned
  · have hlayers : (rendered settings stem usesUserFile).layers? =
        some [(ofValue Settings.default.write).fields, (ofValue settings.write).fields, []] := by
      simp [layers?, hfiles, readFile?_toToml, hcounts, henvironment]
    rw [merged?, hlayers, if_pos hcounts, Option.map_some, List.foldl_cons, List.foldl_cons,
      overlay_nil_write, overlay_write]
    rfl
  · have hlayers : (rendered settings stem usesUserFile).layers? = none := by
      simp [layers?, hfiles, readFile?_toToml, hcounts]
    rw [merged?, hlayers, if_neg hcounts, Option.map_none]

/-- Valid settings load from their document, unless a mask counts further than a signed integer
of 64 bits goes. -/
theorem load_rendered (settings : Settings) (stem : String) (usesUserFile : Bool)
    (hvalid : settings.validate = .ok ()) :
    (rendered settings stem usesUserFile).load =
      if settings.masks.CountsTo Number.largestSigned then .ok settings else .error .malformed := by
  rw [load, merged?_rendered]
  by_cases hcounts : settings.masks.CountsTo Number.largestSigned
  · simp [hcounts, Settings.read?_write (form_reads _) hcounts, hvalid]
  · simp [hcounts]

end Sources

theorem Settings.ofToml?_toToml {settings : Settings}
    (hcounts : settings.masks.CountsTo Number.largestUnsigned) :
    ofToml? settings.toToml = some settings := by
  have htree : (Setting.table (ofValue settings.write).fields) = ofValue settings.write := by
    rw [write_eq]
    rfl
  rw [ofToml?, Toml.read?_toToml, Option.bind_some, htree, toValue_ofValue]
  exact read?_write Json.form_reads hcounts

/-- **Valid settings are what their document reads as**, by itself and as the file of a project,
where the loader has the narrower range of counts. -/
theorem rendered_reads_back (settings : Settings) (stem : String) (usesUserFile : Bool)
    (hvalid : settings.validate = .ok ())
    (hcounts : settings.masks.CountsTo Number.largestUnsigned) :
    Settings.ofToml? settings.toToml = some settings ∧
    (Sources.rendered settings stem usesUserFile).load =
      if settings.masks.CountsTo Number.largestSigned then .ok settings else .error .malformed :=
  ⟨Settings.ofToml?_toToml hcounts, Sources.load_rendered settings stem usesUserFile hvalid⟩

/-- Settings that keep more characters than a signed integer counts. -/
def keepsTooMany : Settings := { masks := [⟨"ssn", .keepLast (Number.largestSigned + 1)⟩] }

theorem keepsTooMany_reads_back :
    Settings.ofToml? keepsTooMany.toToml = some keepsTooMany ∧
    (Sources.rendered keepsTooMany "WARDEN" true).load =
      if keepsTooMany.masks.CountsTo Number.largestSigned then .ok keepsTooMany
      else .error .malformed :=
  rendered_reads_back keepsTooMany "WARDEN" true (by decide +kernel) (by decide)

/-- They are valid, and a document alone gives them back; the file of a project does not load. -/
theorem keepsTooMany_not_loaded :
    keepsTooMany.validate = .ok () ∧
    Settings.ofToml? keepsTooMany.toToml = some keepsTooMany ∧
    (Sources.rendered keepsTooMany "WARDEN" true).load = .error .malformed := by
  refine ⟨by decide +kernel, Settings.ofToml?_toToml (by decide), ?_⟩
  rw [Sources.load_rendered keepsTooMany "WARDEN" true (by decide +kernel), if_neg (by decide)]

end Clearance
