import Clearance.Proofs.Config.Precedence
import Clearance.Proofs.Number.Written

/-!
# The name from a variable

The name of the authorizer is text, yet a variable that sets it is read as what it looks like, and
what it looks like is written out again. **The name is the value of the variable exactly if that
is already the way in which its reading is written** (`Environment.text?_settingOf_eq_iff`): `7`
stays and `007` becomes `7`, and whatever looks like nothing but text stays.

The variable is merged into the section of the authorizer, and what else that section says stays.
A section that is a list by position is the exception: a table takes its place, and whether
decisions are logged goes back to the default with it.
-/

set_option autoImplicit false

namespace Clearance

open Setting

/-! ## What a value looks like -/

theorem Text.toLower_of_isDigit {c : Char} (h : c.isDigit = true) : c.toLower = c := by
  have hhigh : c.toNat ≤ 57 := (Char.isDigit_iff_toNat.mp h).2
  refine dif_neg ?_
  rintro ⟨hletter, -⟩
  have hletter : 65 ≤ c.toNat := hletter
  omega

theorem Text.lower_cons_of_ascii {c : Char} (h : c.toNat < 0x80) (rest : List Char) :
    lower (c :: rest) = c.toLower :: lowerAfter [c] rest := by
  have hsigma : c ≠ 'Σ' := by
    rintro rfl
    exact absurd h (by decide)
  rw [lower, lowerAfter, lowerChar, if_pos h]
  · rfl
  · exact hsigma

namespace Environment

variable {value : String}

/-- Whether a value is a word for a truth value, letter case aside. -/
def IsTruth (value : String) : Prop :=
  String.ofList (Text.lower value.toList) = "true" ∨
    String.ofList (Text.lower value.toList) = "false"

/-- What a value looks like, the first of these that it does. -/
inductive Looks (value : String) : Setting → Prop where
  | truth (b : Bool) (h : String.ofList (Text.lower value.toList) = if b then "true" else "false") :
      Looks value (.flag b)
  | integer (n : Int) (htruth : ¬ IsTruth value) (h : Number.signed? value.toList = some n) :
      Looks value (.integer n)
  | float (d : Double) (htruth : ¬ IsTruth value) (hinteger : Number.signed? value.toList = none)
      (h : Number.float? value.toList = some d) : Looks value (.float d)
  | text (htruth : ¬ IsTruth value) (hinteger : Number.signed? value.toList = none)
      (hfloat : Number.float? value.toList = none) : Looks value (.text value)

theorem settingOf_eq_iff {setting : Setting} : settingOf value = setting ↔ Looks value setting := by
  constructor
  · rintro rfl
    unfold settingOf
    extract_lets lower
    by_cases htrue : lower = "true"
    · rw [if_pos htrue]
      exact .truth true htrue
    · by_cases hfalse : lower = "false"
      · rw [if_neg htrue, if_pos hfalse]
        exact .truth false hfalse
      · rw [if_neg htrue, if_neg hfalse]
        have htruth : ¬ IsTruth value := not_or.mpr ⟨htrue, hfalse⟩
        split
        · next n hinteger => exact .integer n htruth hinteger
        · next d hinteger hfloat => exact .float d htruth hinteger hfloat
        · next hinteger hfloat => exact .text htruth hinteger hfloat
  · intro h
    cases h with
    | truth b h => cases b <;> simp [settingOf, h]
    | integer n htruth hinteger =>
      obtain ⟨htrue, hfalse⟩ := not_or.mp htruth
      simp [settingOf, htrue, hfalse, hinteger]
    | float d htruth hinteger hfloat =>
      obtain ⟨htrue, hfalse⟩ := not_or.mp htruth
      simp [settingOf, htrue, hfalse, hinteger, hfloat]
    | text htruth hinteger hfloat =>
      obtain ⟨htrue, hfalse⟩ := not_or.mp htruth
      simp [settingOf, htrue, hfalse, hinteger, hfloat]

/-- An integer does not look like a truth value: it begins with a minus or a digit. -/
theorem not_isTruth_toString (n : Int) : ¬ IsTruth (toString n) := by
  obtain ⟨c, rest, hcons, hc⟩ := Number.exists_cons_toString n
  have hlower : c.toNat < 0x80 ∧ c.toLower = c := by
    rcases hc with rfl | hdigit
    · decide
    · have hhigh : c.toNat ≤ 57 := (Char.isDigit_iff_toNat.mp hdigit).2
      exact ⟨by omega, Text.toLower_of_isDigit hdigit⟩
  have hword : (String.ofList (Text.lower (toString n).toList)).toList =
      c :: Text.lowerAfter [c] rest := by
    rw [hcons, Text.lower_cons_of_ascii hlower.1, hlower.2, String.toList_ofList]
  rintro (htrue | hfalse)
  · rw [htrue] at hword
    obtain rfl : 't' = c := (List.cons.inj hword).1
    exact absurd hc (by decide)
  · rw [hfalse] at hword
    obtain rfl : 'f' = c := (List.cons.inj hword).1
    exact absurd hc (by decide)

/-- The values that are written in the way that what they look like is. -/
inductive Verbatim (value : String) : Prop where
  | truth (h : value = "true" ∨ value = "false")
  | integer (n : Int) (hfits : Number.fitsSigned n = true) (h : value = toString n)
  | float (d : Double) (htruth : ¬ IsTruth value) (hinteger : Number.signed? value.toList = none)
      (hfloat : Number.float? value.toList = some d) (h : value = Layout.plain.text d)
  | text (htruth : ¬ IsTruth value) (hinteger : Number.signed? value.toList = none)
      (hfloat : Number.float? value.toList = none)

theorem text?_settingOf_eq_iff : (settingOf value).text? = some value ↔ Verbatim value := by
  constructor
  · intro h
    have hlooks : Looks value (settingOf value) := settingOf_eq_iff.mp rfl
    generalize settingOf value = setting at h hlooks
    cases hlooks with
    | truth b hword =>
      have hvalue : (if b then "true" else "false") = value := Option.some.inj h
      cases b with
      | true => exact .truth (.inl hvalue.symm)
      | false => exact .truth (.inr hvalue.symm)
    | integer n htruth hinteger =>
      exact .integer n (Number.fitsSigned_of_signed? hinteger) (Option.some.inj h).symm
    | float d htruth hinteger hfloat =>
      exact .float d htruth hinteger hfloat (Option.some.inj h).symm
    | text htruth hinteger hfloat => exact .text htruth hinteger hfloat
  · intro h
    cases h with
    | truth h => rcases h with rfl | rfl <;> rfl
    | integer n hfits h =>
      subst h
      have hlooks := Looks.integer n (not_isTruth_toString n) (Number.signed?_toString hfits)
      rw [settingOf_eq_iff.mpr hlooks, text?]
    | float d htruth hinteger hfloat h =>
      rw [settingOf_eq_iff.mpr (.float d htruth hinteger hfloat), text?, ← h]
    | text htruth hinteger hfloat =>
      rw [settingOf_eq_iff.mpr (.text htruth hinteger hfloat), text?]

/-- Whatever a value looks like is written as text that is not blank, if the value is not. -/
theorem exists_visible_text? (h : Text.Visible value.toList) :
    ∃ name, (settingOf value).text? = some name ∧ Text.Visible name.toList := by
  have hlooks : Looks value (settingOf value) := settingOf_eq_iff.mp rfl
  generalize settingOf value = setting at hlooks
  cases hlooks with
  | truth b hword =>
    refine ⟨_, rfl, 'e', ?_, by decide⟩
    cases b <;> decide +kernel
  | integer n htruth hinteger => exact ⟨_, rfl, Number.visible_toString n⟩
  | float d htruth hinteger hfloat => exact ⟨_, rfl, Layout.visible_plain d⟩
  | text htruth hinteger hfloat => exact ⟨_, rfl, h⟩

end Environment

/-! ## The variable in the tree -/

namespace Setting

variable {new : Setting} {name : String}

def isList : Setting → Bool
  | .list _ => true
  | _ => false

theorem merge_of_text? (h : new.text? = some name) (old : Setting) : new.merge old = new := by
  cases new with
  | table | list | empty => simp [text?] at h
  | flag | integer | float | text => simp [merge]

theorem exists_table_of_overlay (source fields : List (String × Setting)) :
    ∃ overlaid, (Setting.table fields).overlay source = .table overlaid := by
  induction source generalizing fields with
  | nil => exact ⟨fields, rfl⟩
  | cons entry rest ih =>
    obtain ⟨key, steps, hpath⟩ := exists_pathOf_eq entry.1
    rw [overlay, List.foldl_cons, put, hpath, change]
    exact ih _

theorem exists_table_of_foldl (layers : List (List (String × Setting)))
    (fields : List (String × Setting)) :
    ∃ merged, layers.foldl overlay (.table fields) = .table merged := by
  induction layers generalizing fields with
  | nil => exact ⟨fields, rfl⟩
  | cons source rest ih =>
    obtain ⟨overlaid, hoverlaid⟩ := exists_table_of_overlay source fields
    rw [List.foldl_cons, hoverlaid]
    exact ih overlaid

/-- The section of the authorizer with a name put in, whatever was there before. -/
theorem put_name (h : new.text? = some name) (tree : Setting) :
    tree.put "authorizer.name" new =
      .table (Fields.insert tree.fields "authorizer" (.table (Fields.insert
        ((Fields.get? tree.fields "authorizer").getD .empty).fields "name" new))) := by
  have hpath : pathOf "authorizer.name" = [.key "authorizer", .key "name"] := by decide +kernel
  rw [put, hpath, change, change, change, merge_of_text? h]

end Setting

namespace Settings

variable {settings : Settings} {fields : List (String × Setting)} {new : Setting} {name : String}

theorem readAuthorizer?_insert_name {inner : List (String × Setting)} {logs : Bool}
    (hname : new.text? = some name)
    (hlogs : Form.orElse true flag? (Fields.get? inner "log_decisions") = some logs) :
    readAuthorizer? form (.table (Fields.insert inner "name" new)) = some (name, logs) := by
  have hother : Fields.get? (Fields.insert inner "name" new) "log_decisions" =
      Fields.get? inner "log_decisions" := Fields.get?_insert_of_ne _ _ (by decide)
  refine readAuthorizer?_iff_parts.mpr
    ⟨some new, Fields.get? inner "log_decisions", ?_, hname, hlogs⟩
  simp [form, recordOf?, Fields.get?_insert_self, hother]

/-- Putting a name in changes the name. The masks stay, and so does whether decisions are logged,
unless the section was a list. -/
theorem read?_put_name (h : read? form (.table fields) = some settings)
    (hname : new.text? = some name) :
    read? form ((Setting.table fields).put "authorizer.name" new) =
      some ⟨name, (Fields.get? fields "authorizer").any isList || settings.logsDecisions,
        settings.masks⟩ := by
  obtain ⟨authorizer?, masking?, hroot, hauthorizer, hmasking⟩ := read?_iff_parts.mp h
  obtain ⟨rfl, rfl⟩ : Fields.get? fields "authorizer" = authorizer? ∧
      Fields.get? fields "masking" = masking? := by
    simpa [form, recordOf?] using hroot
  have hother : ∀ held : Setting, Fields.get? (Fields.insert fields "authorizer" held) "masking" =
      Fields.get? fields "masking" := fun held => Fields.get?_insert_of_ne _ _ (by decide)
  -- Whatever the section was, what it says on the log is read again from what is left of it.
  have hread : ∀ logs, Form.orElse true flag? (Fields.get?
        ((Fields.get? fields "authorizer").getD .empty).fields "log_decisions") = some logs →
      read? form ((Setting.table fields).put "authorizer.name" new) =
        some ⟨name, logs, settings.masks⟩ := by
    intro logs hlogs
    rw [put_name hname, Setting.fields]
    generalize ((Fields.get? fields "authorizer").getD .empty).fields = inner at hlogs ⊢
    refine read?_iff_parts.mpr ⟨some (.table (Fields.insert inner "name" new)),
      Fields.get? fields "masking", ?_, readAuthorizer?_insert_name hname hlogs, hmasking⟩
    simp [form, recordOf?, Fields.get?_insert_self, hother]
  refine hread _ ?_
  cases hsection : Fields.get? fields "authorizer" with
  | none =>
    rw [hsection] at hauthorizer
    exact congrArg some (Prod.mk.inj (Option.some.inj hauthorizer)).2
  | some held =>
    rw [hsection, Form.orElse] at hauthorizer
    cases held with
    | table inner =>
      obtain ⟨name?, logs?, hparts, -, hlogs⟩ := readAuthorizer?_iff_parts.mp hauthorizer
      obtain ⟨-, hrest⟩ := List.cons.inj (Option.some.inj hparts)
      obtain rfl : Fields.get? inner "log_decisions" = logs? := (List.cons.inj hrest).1
      exact hlogs
    | list items => rfl
    | empty | flag | integer | float | text =>
      simp [readAuthorizer?, form, recordOf?] at hauthorizer

theorem validate_of_name (h : settings.validate = .ok ()) (hname : Text.Visible name.toList)
    (logs : Bool) : validate ⟨name, logs, settings.masks⟩ = .ok () := by
  have hblank : ¬ Text.isAllBlank name = true := by
    simpa [Text.isAllBlank, Text.Visible] using hname
  unfold validate at h ⊢
  rw [if_neg hblank]
  split at h
  · exact absurd h (by simp)
  · exact h

end Settings

/-! ## Loading with the variable -/

namespace Sources

variable {sources : Sources} {tree : Setting} {value : String}

/-- The same files, and no variables. -/
def filesOnly (sources : Sources) : Sources := { sources with environment := [] }

/-- The same files, and the one variable that sets the name. -/
def named (sources : Sources) (value : String) : Sources :=
  { sources with stem := "WARDEN", environment := [("WARDEN_AUTHORIZER__NAME", value)] }

/-- Whether the files give the section of the authorizer as a list, by position. -/
def listsAuthorizer (sources : Sources) : Bool :=
  (sources.filesOnly.merged?.bind fun tree => Fields.get? tree.fields "authorizer").any isList

theorem source_named (value : String) :
    Environment.source "WARDEN" [("WARDEN_AUTHORIZER__NAME", value)] =
      [("authorizer.name", Environment.settingOf value)] := by
  have hpath : Environment.pathOf? "WARDEN" "WARDEN_AUTHORIZER__NAME" = some "authorizer.name" := by
    decide +kernel
  simp only [Environment.source, List.filterMap_cons, hpath]
  rfl

/-- The environment is merged over what the files make. -/
theorem merged?_eq_map (sources : Sources) :
    sources.merged? = sources.filesOnly.merged?.map
      (·.overlay (Environment.source sources.stem sources.environment)) := by
  have hfiles : sources.filesOnly.files = sources.files := rfl
  have hnone : Environment.source sources.filesOnly.stem sources.filesOnly.environment = [] := rfl
  rw [merged?, merged?, layers?, layers?, hfiles, hnone, Option.bind_eq_bind]
  generalize List.mapM (m := Option) _ sources.files = read?
  cases read? with
  | none => rfl
  | some read =>
    simp only [Option.bind_some, Option.pure_def, Option.map_some, List.foldl_append]
    rfl

theorem merged?_named (h : sources.filesOnly.merged? = some tree) :
    (sources.named value).merged? =
      some (tree.put "authorizer.name" (Environment.settingOf value)) := by
  have hfiles : (sources.named value).filesOnly.merged? = some tree := h
  have hsource : Environment.source (sources.named value).stem (sources.named value).environment =
      [("authorizer.name", Environment.settingOf value)] := source_named value
  rw [merged?_eq_map, hfiles, Option.map_some, hsource, overlay, List.foldl_cons, List.foldl_nil]

theorem exists_fields_of_merged? (h : sources.merged? = some tree) :
    ∃ fields, tree = .table fields := by
  obtain ⟨layers, -, rfl⟩ := Option.map_eq_some_iff.mp h
  exact exists_table_of_foldl layers []

end Sources

/-! ## The name -/

/-- **A name that is set by a variable is what its value looks like, written out**, so it is the
value itself for those values alone that are written in this way. Everything else stays as the
files have it, except that a section of the authorizer that is a list is lost with what it says
on the log. -/
theorem name_of_variable (sources : Sources) (settings : Settings) (value : String)
    (hload : sources.filesOnly.load = .ok settings)
    (hvalue : ∃ c ∈ value.toList, Text.isBlank c = false) :
    ∃ name, (Environment.settingOf value).text? = some name ∧
      (name = value ↔ Environment.Verbatim value) ∧
      (sources.named value).load =
        .ok ⟨name, sources.listsAuthorizer || settings.logsDecisions, settings.masks⟩ := by
  obtain ⟨tree, hmerged, hread, hvalid⟩ := Sources.load_eq_ok_iff.mp hload
  obtain ⟨fields, rfl⟩ := Sources.exists_fields_of_merged? hmerged
  obtain ⟨name, hname, hvisible⟩ := Environment.exists_visible_text? hvalue
  have hlists : sources.listsAuthorizer = (Fields.get? fields "authorizer").any isList := by
    rw [Sources.listsAuthorizer, hmerged, Option.bind_some, Setting.fields]
  refine ⟨name, hname, ?_, ?_⟩
  · rw [← Environment.text?_settingOf_eq_iff, hname, Option.some.injEq]
  · rw [hlists]
    exact Sources.load_eq_ok_iff.mpr ⟨_, Sources.merged?_named hmerged,
      Settings.read?_put_name hread hname, Settings.validate_of_name hvalid hvisible _⟩

/-- The section of the authorizer as a table, and the same by position. -/
def tabled : Sources :=
  { projectText := some "authorizer = \x7bname = 'svc', log_decisions = false\x7d" }

def listed : Sources := { projectText := some "authorizer = ['svc', false]" }

/-- A float is written without its exponent, and a name that is a word stays. -/
theorem tabled_named :
    (tabled.named "1e3").load = .ok ⟨"1000", false, []⟩ ∧ ¬ Environment.Verbatim "1e3" ∧
      (listed.named "svc-2").load = .ok ⟨"svc-2", true, []⟩ ∧ Environment.Verbatim "svc-2" := by
  obtain ⟨htabled, hlisted⟩ : tabled.filesOnly.load.toOption = some ⟨"svc", false, []⟩ ∧
      listed.filesOnly.load.toOption = some ⟨"svc", false, []⟩ := by decide +kernel
  obtain ⟨htable, hlist⟩ : tabled.listsAuthorizer = false ∧ listed.listsAuthorizer = true := by
    decide +kernel
  obtain ⟨hfloat, hword⟩ : (Environment.settingOf "1e3").text? = some "1000" ∧
      (Environment.settingOf "svc-2").text? = some "svc-2" := by decide +kernel
  obtain ⟨name, hname, hverbatim, hload⟩ := name_of_variable tabled _ "1e3"
    (Sources.load_of_toOption htabled) ⟨'1', by decide +kernel, by decide⟩
  obtain ⟨name', hname', hverbatim', hload'⟩ := name_of_variable listed _ "svc-2"
    (Sources.load_of_toOption hlisted) ⟨'s', by decide +kernel, by decide⟩
  obtain rfl : "1000" = name := Option.some.inj (hfloat.symm.trans hname)
  obtain rfl : "svc-2" = name' := Option.some.inj (hword.symm.trans hname')
  rw [htable] at hload
  rw [hlist] at hload'
  exact ⟨hload, mt hverbatim.mpr (by decide), hload', hverbatim'.mp rfl⟩

/-- Zeros in front of a name are lost, and so is what a list says on the log. -/
theorem named_not_verbatim :
    (tabled.filesOnly.load = .ok ⟨"svc", false, []⟩ ∧
      (∃ c ∈ "007".toList, Text.isBlank c = false) ∧
      (tabled.named "007").load = .ok ⟨"7", false, []⟩ ∧
      (tabled.named "007").load ≠ .ok ⟨"007", false, []⟩) ∧
    listed.filesOnly.load = .ok ⟨"svc", false, []⟩ ∧
      (∃ c ∈ "svc-2".toList, Text.isBlank c = false) ∧
      (listed.named "svc-2").load = .ok ⟨"svc-2", true, []⟩ ∧
      (listed.named "svc-2").load ≠ .ok ⟨"svc-2", false, []⟩ := by
  obtain ⟨htabled, hseven, hlisted, hdefault⟩ :
      tabled.filesOnly.load.toOption = some ⟨"svc", false, []⟩ ∧
      (tabled.named "007").load.toOption = some ⟨"7", false, []⟩ ∧
      listed.filesOnly.load.toOption = some ⟨"svc", false, []⟩ ∧
      (listed.named "svc-2").load.toOption = some ⟨"svc-2", true, []⟩ := by decide +kernel
  have hseven := Sources.load_of_toOption hseven
  have hdefault := Sources.load_of_toOption hdefault
  refine ⟨⟨Sources.load_of_toOption htabled, ⟨'7', by decide +kernel, by decide⟩, hseven, ?_⟩,
    Sources.load_of_toOption hlisted, ⟨'s', by decide +kernel, by decide⟩, hdefault, ?_⟩
  · rw [hseven]
    simp
  · rw [hdefault]
    simp

end Clearance
