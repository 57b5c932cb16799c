import Clearance.Proofs.Config.Loading

/-!
# The highest source wins

A setting is looked up at a key of a top-level table, such as the name of the authorizer. What a
source does there is a list of patches, and **the last patch alone decides** (`Patch.kind`): it
puts a new setting in the place of the old one, or it leaves a table or a list that still depends
on what was there. Names and truth values are read from neither, masks only from a list, and so
each of them is what the highest source that has anything at that place says by itself.

A list is the one way around this. A source may change a single item of it by its index, and if
that source does not give the list as well, the item is merged into the list of a lower one.
-/

set_option autoImplicit false

namespace Clearance

namespace Setting

/-- What a tree has at a key of one of its top-level tables. -/
def at? (tree : Setting) (top key : String) : Option Setting :=
  (Fields.get? tree.fields top).bind fun held => Fields.get? held.fields key

/-! ## Patches -/

/-- A setting that is merged in at the end of some steps. -/
structure Patch where
  steps : List Step
  new : Setting

namespace Patch

def apply (patch : Patch) (old : Option Setting) : Setting :=
  change patch.new.merge patch.steps (old.getD .empty)

def run (patches : List Patch) (old : Option Setting) : Option Setting :=
  patches.foldl (fun old patch => some (patch.apply old)) old

/-- What is left of the old setting after a patch. -/
inductive Kind (patch : Patch) : Prop where
  | replaces (h : ∀ old, patch.apply old = patch.new)
  | merges (h : ∀ old, ∃ fields, patch.apply old = .table fields)
  | indexes {position : Int} {rest : List Step} (hsteps : patch.steps = .index position :: rest)
      (h : ∀ old, ∃ items, patch.apply old = .list items)

theorem kind (patch : Patch) : patch.Kind := by
  obtain ⟨steps, new⟩ := patch
  cases steps with
  | nil =>
    cases new with
    | table upper => exact .merges fun old => ⟨_, rfl⟩
    | empty | flag | integer | float | text | list => exact .replaces fun old => rfl
  | cons step rest =>
    cases step with
    | key name => exact .merges fun old => ⟨_, rfl⟩
    | index position => exact .indexes rfl fun old => ⟨_, rfl⟩

theorem run_append (first second : List Patch) (old : Option Setting) :
    run (first ++ second) old = run second (run first old) := List.foldl_append

theorem run_concat (earlier : List Patch) (patch : Patch) (old : Option Setting) :
    run (earlier ++ [patch]) old = some (patch.apply (run earlier old)) := run_append ..

end Patch

/-- What merging at the end of some steps below a table does at a key of it. -/
def patchesBelow (key : String) : List Step → Setting → List Patch
  | [], .table upper => (upper.filter (·.1 = key)).map fun field => ⟨[], field.2⟩
  | .key name :: rest, new => if name = key then [⟨rest, new⟩] else []
  | _, _ => []

/-- Whether what is merged at the end of some steps leaves a table a table. -/
def keepsTable : List Step → Setting → Bool
  | [], .table _ | .key _ :: _, _ => true
  | _, _ => false

/-- What an entry does at a key of a top-level table. -/
def patchesAt (top key : String) (entry : String × Setting) : List Patch :=
  match pathOf entry.1 with
  | .key name :: rest => if name = top then patchesBelow key rest entry.2 else []
  | _ => []

/-- Whether an entry that mentions a top-level table gives a table there. -/
def givesTable (top : String) (entry : String × Setting) : Bool :=
  match pathOf entry.1 with
  | .key name :: rest => name != top || keepsTable rest entry.2
  | _ => true

section Entry

variable {top key : String} {path : List Step} {entry : String × Setting}

theorem at?_eq (tree : Setting) (top key : String) :
    at? tree top key = Fields.get? ((Fields.get? tree.fields top).getD .empty).fields key := by
  unfold at?
  cases Fields.get? tree.fields top <;> rfl

theorem get?_mergeFields (upper lower : List (String × Setting)) (key : String) :
    Fields.get? (mergeFields upper lower) key =
      Patch.run ((upper.filter (·.1 = key)).map fun field => ⟨[], field.2⟩)
        (Fields.get? lower key) := by
  induction upper generalizing lower with
  | nil => rw [mergeFields]; rfl
  | cons field rest ih =>
    obtain ⟨name, held⟩ := field
    rw [mergeFields, ih]
    by_cases hname : name = key
    · subst hname
      rw [Fields.get?_insert_self, List.filter_cons_of_pos (by simp)]
      rfl
    · rw [Fields.get?_insert_of_ne _ _ (Ne.symm hname),
        List.filter_cons_of_neg (by simpa using hname)]

theorem exists_pathOf_eq (text : String) : ∃ name rest, pathOf text = .key name :: rest := by
  unfold pathOf
  cases key? text.toList with
  | none => exact ⟨text, [], rfl⟩
  | some read =>
    simp only [Option.bind_eq_bind, Option.bind_some]
    cases steps? read.2.length read.2 with
    | none => exact ⟨text, [], rfl⟩
    | some rest => exact ⟨read.1, rest, rfl⟩

/-- A table with something merged into it, at one of its keys. -/
theorem get?_change (held new : Setting) (key : String) (h : keepsTable path new = true) :
    Fields.get? (change new.merge path held).fields key =
      Patch.run (patchesBelow key path new) (Fields.get? held.fields key) := by
  cases path with
  | nil =>
    cases new with
    | table upper => exact get?_mergeFields upper held.fields key
    | empty | flag | integer | float | text | list => simp [keepsTable] at h
  | cons step rest =>
    cases step with
    | index position => simp [keepsTable] at h
    | key name =>
      rw [change, Setting.fields]
      by_cases hname : name = key
      · subst hname
        rw [patchesBelow, if_pos rfl, Fields.get?_insert_self]
        rfl
      · rw [patchesBelow, if_neg hname, Fields.get?_insert_of_ne _ _ (Ne.symm hname)]
        rfl

/-- An entry does at a key what its patches do there. -/
theorem at?_put (tree : Setting) (key : String) (h : givesTable top entry = true) :
    at? (tree.put entry.1 entry.2) top key =
      Patch.run (patchesAt top key entry) (at? tree top key) := by
  obtain ⟨name, rest, hpath⟩ := exists_pathOf_eq entry.1
  simp only [givesTable, patchesAt, hpath, Bool.or_eq_true, bne_iff_ne] at h ⊢
  rw [put, hpath, change]
  by_cases hname : name = top
  · subst hname
    have hkeeps : keepsTable rest entry.2 = true := h.resolve_left (· rfl)
    rw [if_pos rfl, at?_eq tree, ← get?_change _ _ _ hkeeps, at?, Setting.fields,
      Fields.get?_insert_self, Option.bind_some]
  · rw [if_neg hname, at?, Setting.fields, Fields.get?_insert_of_ne _ _ (Ne.symm hname)]
    rfl

end Entry

/-! ## Sources -/

section Source

variable {top key : String} {source : List (String × Setting)}

/-- What a source does at a key of a top-level table, in order. -/
def patches (top key : String) (source : List (String × Setting)) : List Patch :=
  source.flatMap (patchesAt top key)

theorem at?_overlay (tree : Setting) (key : String)
    (h : ∀ entry ∈ source, givesTable top entry = true) :
    at? (tree.overlay source) top key = Patch.run (patches top key source) (at? tree top key) := by
  induction source generalizing tree with
  | nil => rfl
  | cons entry rest ih =>
    obtain ⟨hentry, hrest⟩ := List.forall_mem_cons.mp h
    rw [patches, List.flatMap_cons, Patch.run_append, ← at?_put tree key hentry]
    exact ih (tree.put entry.1 entry.2) hrest

/-- What a source says by itself at a key of a top-level table. -/
def given? (source : List (String × Setting)) (top key : String) : Option Setting :=
  at? (overlay (.table []) source) top key

theorem given?_eq (key : String) (h : ∀ entry ∈ source, givesTable top entry = true) :
    given? source top key = Patch.run (patches top key source) none := at?_overlay _ key h

/-- Sources that are put over each other, the highest first. -/
def stacked (ranked : List (List (String × Setting))) : Setting :=
  ranked.foldr (fun source tree => tree.overlay source) (.table [])

/-- The highest source that says something at a key of a top-level table. -/
def decisive? (ranked : List (List (String × Setting))) (top key : String) :
    Option (List (String × Setting)) :=
  ranked.find? fun source => (given? source top key).isSome

/-- The last patch of the decisive source, and what it makes of two old settings: what the source
says by itself and what is in the tree. -/
structure Decided (ranked : List (List (String × Setting))) (top key : String)
    (source : List (String × Setting)) (patch : Patch) (old alone : Option Setting) : Prop where
  decisive : decisive? ranked top key = some source
  mem : patch ∈ patches top key source
  at? : at? (stacked ranked) top key = some (patch.apply old)
  given? : given? source top key = some (patch.apply alone)

theorem exists_decided (ranked : List (List (String × Setting))) (key : String)
    (h : ∀ source ∈ ranked, ∀ entry ∈ source, givesTable top entry = true)
    (hsome : (decisive? ranked top key).isSome) :
    ∃ source patch old alone, Decided ranked top key source patch old alone := by
  induction ranked with
  | nil => exact absurd hsome (by simp [decisive?])
  | cons source rest ih =>
    obtain ⟨hsource, hrest⟩ := List.forall_mem_cons.mp h
    have hgiven := given?_eq key hsource
    have hat : at? (stacked (source :: rest)) top key =
        Patch.run (patches top key source) (at? (stacked rest) top key) := at?_overlay _ key hsource
    rcases List.eq_nil_or_concat (patches top key source) with hnil | ⟨earlier, patch, hlast⟩
    · have hdecisive : decisive? (source :: rest) top key = decisive? rest top key := by
        rw [decisive?, List.find?_cons_of_neg (by simp [hgiven, hnil, Patch.run])]
        rfl
      rw [hdecisive] at hsome
      obtain ⟨source', patch, old, alone, hd⟩ := ih hrest hsome
      refine ⟨source', patch, old, alone, hdecisive.trans hd.decisive, hd.mem, ?_, hd.given?⟩
      rw [hat, hnil]
      exact hd.at?
    · rw [List.concat_eq_append] at hlast
      rw [hlast, Patch.run_concat] at hat hgiven
      refine ⟨source, patch, _, _, ?_, by simp [hlast], hat, hgiven⟩
      exact List.find?_cons_of_pos (by simp [hgiven])

end Source

end Setting

/-! ## What settings are read from -/

open Setting

namespace Settings

variable {settings : Settings} {tree value : Setting}

theorem exists_tables_of_at? {top key : String} (h : tree.at? top key = some value) :
    ∃ fields inner, tree = .table fields ∧ Fields.get? fields top = some (.table inner) ∧
      Fields.get? inner key = some value := by
  obtain ⟨held, hheld, hvalue⟩ := Option.bind_eq_some_iff.mp h
  cases held with
  | table inner =>
    cases tree with
    | table fields => exact ⟨fields, inner, rfl, hheld, hvalue⟩
    | empty | flag | integer | float | text | list => exact absurd hheld (by simp [Setting.fields])
  | empty | flag | integer | float | text | list => exact absurd hvalue (by simp [Setting.fields])

theorem readAuthorizer?_of_at? {key : String} (h : read? form tree = some settings)
    (hat : tree.at? "authorizer" key = some value) :
    ∃ inner, Fields.get? inner key = some value ∧
      readAuthorizer? form (.table inner) = some (settings.name, settings.logsDecisions) := by
  obtain ⟨fields, inner, rfl, htop, hkey⟩ := exists_tables_of_at? hat
  obtain ⟨authorizer?, _, hroot, hauthorizer, -⟩ := read?_iff_parts.mp h
  obtain rfl : Fields.get? fields "authorizer" = authorizer? :=
    (List.cons.inj (Option.some.inj hroot)).1
  rw [htop, Form.orElse] at hauthorizer
  exact ⟨inner, hkey, hauthorizer⟩

theorem text?_name (h : read? form tree = some settings)
    (hat : tree.at? "authorizer" "name" = some value) : value.text? = some settings.name := by
  obtain ⟨inner, hkey, hauthorizer⟩ := readAuthorizer?_of_at? h hat
  obtain ⟨name?, _, hparts, hname, -⟩ := readAuthorizer?_iff_parts.mp hauthorizer
  obtain rfl : Fields.get? inner "name" = name? := (List.cons.inj (Option.some.inj hparts)).1
  rwa [hkey] at hname

theorem flag?_logsDecisions (h : read? form tree = some settings)
    (hat : tree.at? "authorizer" "log_decisions" = some value) :
    value.flag? = some settings.logsDecisions := by
  obtain ⟨inner, hkey, hauthorizer⟩ := readAuthorizer?_of_at? h hat
  obtain ⟨_, logs?, hparts, -, hlogs⟩ := readAuthorizer?_iff_parts.mp hauthorizer
  obtain ⟨-, hrest⟩ := List.cons.inj (Option.some.inj hparts)
  obtain rfl : Fields.get? inner "log_decisions" = logs? := (List.cons.inj hrest).1
  rwa [hkey] at hlogs

theorem policyRead?_masks (h : read? form tree = some settings)
    (hat : tree.at? "masking" "fields" = some value) :
    Policy.read? form value = some settings.masks := by
  obtain ⟨fields, inner, rfl, htop, hkey⟩ := exists_tables_of_at? hat
  have hmasks := read?_masks h
  have htree : Setting.masks? (.table fields) = some value := by
    simp [Setting.masks?, form, recordOf?, htop, hkey]
  rwa [htree] at hmasks

end Settings

/-! ## The sources of settings -/

namespace Sources

/-- What a file says; one that is not there says nothing. -/
def fileSettings (text : Option String) : List (String × Setting) := (text.bind readFile?).getD []

/-- The sources of settings, the highest first. -/
def ranked (sources : Sources) : List (List (String × Setting)) :=
  [Environment.source sources.stem sources.environment,
   fileSettings sources.overrideText,
   fileSettings sources.projectText,
   if sources.usesUserFile then fileSettings sources.userText else [],
   (Setting.ofValue Settings.default.write).fields]

/-- What a source is that may not exist makes of a tree. -/
theorem foldl_overlay_file {name : String} {text : Option String}
    {read : List (List (String × Setting))} (tree : Setting)
    (h : (text.toList.map fun t => (name, t)).mapM (fun file => readFile? file.2) = some read) :
    read.foldl Setting.overlay tree = tree.overlay (fileSettings text) := by
  cases text with
  | none =>
    obtain rfl : [] = read := Option.some.inj h
    rfl
  | some text =>
    cases hread : readFile? text with
    | none => simp [hread] at h
    | some fields =>
      obtain rfl : [fields] = read := by simpa [hread] using h
      simp [fileSettings, hread]

theorem merged?_eq {sources : Sources} {merged : Setting} (h : sources.merged? = some merged) :
    merged = stacked sources.ranked := by
  obtain ⟨layers, hlayers, rfl⟩ := Option.map_eq_some_iff.mp h
  obtain ⟨read, hread, hlayers⟩ := Option.bind_eq_some_iff.mp hlayers
  obtain rfl := Option.some.inj hlayers
  rw [files, List.mapM_append, List.mapM_append] at hread
  obtain ⟨lower, hlower, hread⟩ := Option.bind_eq_some_iff.mp hread
  obtain ⟨override, hoverride, hread⟩ := Option.bind_eq_some_iff.mp hread
  obtain ⟨user, huser, hlower⟩ := Option.bind_eq_some_iff.mp hlower
  obtain ⟨project, hproject, hlower⟩ := Option.bind_eq_some_iff.mp hlower
  obtain rfl := Option.some.inj hlower
  obtain rfl := Option.some.inj hread
  have huser : ∀ tree : Setting, user.foldl Setting.overlay tree = tree.overlay
      (if sources.usesUserFile then fileSettings sources.userText else []) := fun tree => by
    cases huses : sources.usesUserFile with
    | true => exact foldl_overlay_file tree (by simpa [huses] using huser)
    | false =>
      obtain rfl : [] = user := by simpa [huses] using huser
      rfl
  simp only [List.cons_append, List.foldl_cons, List.foldl_append, List.foldl_nil, huser,
    foldl_overlay_file _ hproject, foldl_overlay_file _ hoverride]
  rfl

end Sources

/-! ## Which source decides -/

namespace Sources

variable {sources : Sources} {top key : String}

/-- The highest source that says something at a key of a top-level table. -/
def decisive? (sources : Sources) (top key : String) : Option (List (String × Setting)) :=
  Setting.decisive? sources.ranked top key

/-- What the highest source that says something at a key says there by itself. -/
def setting? (sources : Sources) (top key : String) : Option Setting :=
  (sources.decisive? top key).bind fun source => given? source top key

/-- The built-in defaults say something at every key of the settings. -/
theorem isSome_decisive?
    (h : (given? (ofValue Settings.default.write).fields top key).isSome) (sources : Sources) :
    (sources.decisive? top key).isSome := by
  rw [decisive?, Setting.decisive?, List.find?_isSome]
  exact ⟨_, by simp [ranked], h⟩

/-- What is read at a key of the merged tree is read from what the decisive source says, unless
it can be read from a list of which that source changes single items. -/
theorem setting?_of_read? {α : Type} {read? : Setting → Option α} {x : α}
    {source : List (String × Setting)} {patch : Patch} {old alone : Option Setting}
    (hd : Decided sources.ranked top key source patch old alone)
    (htable : ∀ fields, read? (.table fields) = none)
    (hlist : ∀ position rest, patch.steps = .index position :: rest →
      ∀ items, read? (.list items) = none)
    (hread : read? (patch.apply old) = some x) :
    (sources.setting? top key).bind read? = some x := by
  have hsetting : sources.setting? top key = some (patch.apply alone) := by
    rw [setting?, decisive?, hd.decisive]
    exact hd.given?
  rw [hsetting, Option.bind_some]
  cases patch.kind with
  | replaces h =>
    rw [h] at hread ⊢
    exact hread
  | merges h =>
    obtain ⟨fields, hfields⟩ := h old
    rw [hfields, htable] at hread
    exact absurd hread (by simp)
  | indexes hsteps h =>
    obtain ⟨items, hitems⟩ := h old
    rw [hitems, hlist _ _ hsteps] at hread
    exact absurd hread (by simp)

end Sources

/-- Whether an entry changes a single item of a list that is at a key of a top-level table. -/
def Setting.changesItem (top key : String) (entry : String × Setting) : Bool :=
  match pathOf entry.1 with
  | .key name :: .key under :: .index _ :: _ => name == top && under == key
  | _ => false

theorem Setting.changesItem_of_mem {top key : String} {entry : String × Setting} {patch : Patch}
    {position : Int} {rest : List Step} (h : patch ∈ patchesAt top key entry)
    (hsteps : patch.steps = .index position :: rest) : changesItem top key entry = true := by
  unfold patchesAt at h
  split at h
  · next name below hpath =>
    split at h
    · next hname =>
      unfold patchesBelow at h
      split at h
      · obtain ⟨field, -, rfl⟩ := List.mem_map.mp h
        exact absurd hsteps (by simp)
      · next under more =>
        split at h
        · next hunder =>
          obtain rfl := List.mem_singleton.mp h
          obtain rfl : more = .index position :: rest := hsteps
          simp [changesItem, hpath, hname, hunder]
        · exact absurd h (by simp)
      · exact absurd h (by simp)
    · exact absurd h (by simp)
  · exact absurd h (by simp)

/-! ## Variables that do not count -/

namespace Environment

/-- Whether the name of a variable begins with a stem and an underscore, letter case aside. -/
def counts (stem : String) (entry : String × String) : Bool :=
  (Text.lower (stem ++ "_").toList).isPrefixOf (Text.lower entry.1.toList)

theorem isSome_after? (beginning text : List Char) :
    (Text.after? beginning text).isSome = beginning.isPrefixOf text := by
  induction beginning generalizing text with
  | nil => simp [Text.after?]
  | cons c beginning ih =>
    cases text with
    | nil => rfl
    | cons d text =>
      by_cases h : c = d
      · simp [Text.after?, h, ih]
      · simp [Text.after?, List.isPrefixOf, h]

theorem source_filter (stem : String) (environment : List (String × String)) :
    source stem (environment.filter (counts stem)) = source stem environment := by
  rw [source, source, List.filterMap_filter]
  congr 2
  funext entry
  split
  · rfl
  · next h =>
    have hnone : pathOf? stem entry.1 = none := by
      rw [pathOf?, Option.map_eq_none_iff, ← Option.not_isSome_iff_eq_none, isSome_after?]
      exact h
    simp [hnone]

end Environment

theorem Sources.load_of_counts {sources : Sources} {environment : List (String × String)}
    (h : environment.filter (Environment.counts sources.stem) =
      sources.environment.filter (Environment.counts sources.stem)) :
    { sources with environment }.load = sources.load := by
  have hsource : Environment.source sources.stem environment =
      Environment.source sources.stem sources.environment := by
    rw [← Environment.source_filter, h, Environment.source_filter]
  have hlayers : { sources with environment }.layers? = sources.layers? := by
    rw [layers?, layers?, hsource]
    rfl
  rw [load, load, merged?, merged?, hlayers]

/-! ## The highest source wins -/

/-- **Each setting is that of the highest source that has it.** -/
theorem highest_source_wins (sources : Sources) (settings : Settings)
    (hload : sources.load = .ok settings)
    (htables : ∀ source ∈ sources.ranked, ∀ entry ∈ source,
      givesTable "authorizer" entry = true ∧ givesTable "masking" entry = true) :
    (sources.setting? "authorizer" "name").bind text? = some settings.name ∧
    (sources.setting? "authorizer" "log_decisions").bind flag? = some settings.logsDecisions ∧
    ((∀ source ∈ sources.decisive? "masking" "fields", ∀ entry ∈ source,
        changesItem "masking" "fields" entry = false) →
      ∃ items, sources.setting? "masking" "fields" = some (.list items) ∧
        List.Forall₂ (fun item mask => Mask.read? form item = some mask) items settings.masks) ∧
    ∀ environment, environment.filter (Environment.counts sources.stem) =
        sources.environment.filter (Environment.counts sources.stem) →
      { sources with environment }.load = .ok settings := by
  obtain ⟨merged, hmerged, hread, -⟩ := Sources.load_eq_ok_iff.mp hload
  obtain rfl := Sources.merged?_eq hmerged
  have hauthorizer : ∀ source ∈ sources.ranked, ∀ entry ∈ source,
      givesTable "authorizer" entry = true :=
    fun source hsource entry hentry => (htables source hsource entry hentry).1
  have hmasking : ∀ source ∈ sources.ranked, ∀ entry ∈ source,
      givesTable "masking" entry = true :=
    fun source hsource entry hentry => (htables source hsource entry hentry).2
  refine ⟨?name, ?logs, fun hwhole => ?masks, fun environment h => ?environment⟩
  case name =>
    obtain ⟨_, _, _, _, hd⟩ := exists_decided _ "name" hauthorizer
      (Sources.isSome_decisive? (by decide +kernel) sources)
    exact Sources.setting?_of_read? hd (fun _ => rfl) (fun _ _ _ _ => rfl)
      (Settings.text?_name hread hd.at?)
  case logs =>
    obtain ⟨_, _, _, _, hd⟩ := exists_decided _ "log_decisions" hauthorizer
      (Sources.isSome_decisive? (by decide +kernel) sources)
    exact Sources.setting?_of_read? hd (fun _ => rfl) (fun _ _ _ _ => rfl)
      (Settings.flag?_logsDecisions hread hd.at?)
  case masks =>
    obtain ⟨source, patch, _, _, hd⟩ := exists_decided _ "fields" hmasking
      (Sources.isSome_decisive? (by decide +kernel) sources)
    have hlist : ∀ position rest, patch.steps ≠ .index position :: rest := fun _ _ hsteps => by
      obtain ⟨entry, hentry, hpatch⟩ := List.mem_flatMap.mp hd.mem
      have hchanges := changesItem_of_mem hpatch hsteps
      rw [hwhole source hd.decisive entry hentry] at hchanges
      exact absurd hchanges (by decide)
    have hmasks := Sources.setting?_of_read? hd (fun _ => rfl)
      (fun _ _ hsteps => absurd hsteps (hlist _ _)) (Settings.policyRead?_masks hread hd.at?)
    obtain ⟨value, hvalue, hpolicy⟩ := Option.bind_eq_some_iff.mp hmasks
    obtain ⟨items, hitems, hall⟩ := Policy.read?_eq_some_iff.mp hpolicy
    exact ⟨items, hvalue.trans (congrArg some (items?_eq_some_iff.mp hitems)), hall⟩
  case environment => rw [Sources.load_of_counts h, hload]

/-- Sources that each set one thing, the environment over the override. -/
def layered : Sources :=
  { userText := some "authorizer.log_decisions = 'off'"
    projectText := some "masking.fields = [\x7bfield = 'a', strategy = 'hash'\x7d]"
    overrideText := some "authorizer.name = 'b'"
    environment := [("WARDEN_AUTHORIZER__NAME", "7"), ("HOME", "/")] }

theorem layered_settings :
    (layered.setting? "authorizer" "name").bind text? = some "7" ∧
    (layered.setting? "authorizer" "log_decisions").bind flag? = some false ∧
    (∃ items, layered.setting? "masking" "fields" = some (.list items) ∧
      List.Forall₂ (fun item mask => Mask.read? form item = some mask) items [⟨"a", .hash⟩]) ∧
    { layered with environment := [("WARDEN_AUTHORIZER__NAME", "7")] }.load =
      .ok ⟨"7", false, [⟨"a", .hash⟩]⟩ := by
  obtain ⟨hload, htables, hwhole, hcounts⟩ :
      layered.load.toOption = some ⟨"7", false, [⟨"a", .hash⟩]⟩ ∧
      (∀ source ∈ layered.ranked, ∀ entry ∈ source,
        givesTable "authorizer" entry = true ∧ givesTable "masking" entry = true) ∧
      (∀ source ∈ layered.decisive? "masking" "fields", ∀ entry ∈ source,
        changesItem "masking" "fields" entry = false) ∧
      [("WARDEN_AUTHORIZER__NAME", "7")].filter (Environment.counts layered.stem) =
        layered.environment.filter (Environment.counts layered.stem) := by decide +kernel
  obtain ⟨hname, hlogs, hmasks, henvironment⟩ :=
    highest_source_wins layered _ (Sources.load_of_toOption hload) htables
  exact ⟨hname, hlogs, hmasks hwhole, henvironment _ hcounts⟩

/-- A list of two masks, of which variables change the first. -/
def patched : Sources :=
  { projectText := some ("masking.fields = [\x7bfield = 'a', strategy = 'hash'\x7d, "
      ++ "\x7bfield = 'b', strategy = 'null'\x7d]")
    environment := [("WARDEN_MASKING__FIELDS[0]__FIELD", "c"),
      ("WARDEN_MASKING__FIELDS[0]__STRATEGY", "remove")] }

/-- The masks that are loaded are not those of the highest source that has any: the environment has
one mask, which is merged into the list of the project. -/
theorem patched_masks :
    (∀ source ∈ patched.ranked, ∀ entry ∈ source,
      givesTable "authorizer" entry = true ∧ givesTable "masking" entry = true) ∧
    patched.load = .ok ⟨"default", true, [⟨"c", .remove⟩, ⟨"b", .null⟩]⟩ ∧
    (patched.setting? "masking" "fields").bind (Policy.read? form) = some [⟨"c", .remove⟩] := by
  obtain ⟨htables, hload, hsetting⟩ :
      (∀ source ∈ patched.ranked, ∀ entry ∈ source,
        givesTable "authorizer" entry = true ∧ givesTable "masking" entry = true) ∧
      patched.load.toOption = some ⟨"default", true, [⟨"c", .remove⟩, ⟨"b", .null⟩]⟩ ∧
      (patched.setting? "masking" "fields").bind (Policy.read? form) = some [⟨"c", .remove⟩] := by
    decide +kernel
  exact ⟨htables, Sources.load_of_toOption hload, hsetting⟩

end Clearance
