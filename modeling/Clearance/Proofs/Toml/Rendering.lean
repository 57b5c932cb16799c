import Clearance.Document.Toml
import Clearance.Proofs.Document.RoundTrip
import Clearance.Proofs.Toml.Lines

/-!
# The settings document, read

Settings are written as a TOML document and as a JSON value, by code that has nothing in common.
The main statement here is that **the two say the same**: what the TOML reader makes of the
document is the tree of the value (`read?_toToml`).

The document is read from its first line on. `document` is the tree that has been built after the
section of the authorizer and some masks, and each block of the document takes it one step
further; how a strategy is laid out below its mask shows only in the origins of the tables, which
are gone when the tree is finished.
-/

set_option autoImplicit false

namespace Clearance

open Toml

/-! ## The tree under construction -/

namespace Toml

/-- A table with a header of its own, below tables that are only on the way to it. -/
def nested : List String → NodeFields → Node
  | [], fields => .table .header fields
  | key :: rest, fields => .table .onTheWay [(key, nested rest fields)]

end Toml

/-- The table that stands for a pattern. -/
def Pattern.node (pattern : Pattern) : Node :=
  let named := fun name : String => nested [] [("redact", .value (.text name))]
  match pattern with
  | .ssn => named "ssn"
  | .phone => named "phone"
  | .email => named "email"
  | .creditCard => named "credit-card"
  | .custom replacement =>
      nested ["redact", "custom"] [("replacement", .value (.text replacement))]

def Strategy.node (strategy : Strategy) : Node :=
  match strategy with
  | .redact pattern => pattern.node
  | .truncate maxChars => nested ["truncate"] [("max_chars", .value (.integer maxChars))]
  | .keepLast chars => nested ["keep-last"] [("chars", .value (.integer chars))]
  | .hash | .tokenize | .null | .remove => .value (.text strategy.name)

/-- The table of a mask, an element of the array of tables. -/
def Mask.nodeFields (mask : Mask) : NodeFields :=
  [("field", .value (.text mask.field)), ("strategy", mask.strategy.node)]

namespace Toml

/-- The table of the authorizer. -/
def authorizer (name : String) (logsDecisions : Bool) : Node :=
  .table .header [("log_decisions", .value (.flag logsDecisions)), ("name", .value (.text name))]

/-- The tables of a document after the authorizer's and those of some masks, the last one first. -/
def document (name : String) (logsDecisions : Bool) : List NodeFields → NodeFields
  | [] => [("authorizer", authorizer name logsDecisions)]
  | masks =>
      [("authorizer", authorizer name logsDecisions),
       ("masking", .table .onTheWay [("fields", .tables masks)])]

/-- The tables of a document that says that there are no masks. -/
def documentOfNone (name : String) (logsDecisions : Bool) : NodeFields :=
  [("authorizer", authorizer name logsDecisions),
   ("masking", .table .header [("fields", .value (.list []))])]

/-! ### Nested tables -/

/-- Opens the table that the keys of a header lead to. -/
def openAt (keys : List String) (fields : NodeFields) : Option NodeFields :=
  keys.getLast?.bind fun last => Node.within (Node.openTable last) keys.dropLast fields

theorem openAt_cons {fields : NodeFields} {key : String} (h : Fields.get? fields key = none)
    (rest : List String) :
    openAt (key :: rest) fields = some (Fields.insert fields key (nested rest [])) := by
  induction rest generalizing fields key with
  | nil => simp [openAt, Node.within, Node.openTable, h, nested]
  | cons next more ih =>
    have hinner : openAt (next :: more) [] = some [(next, nested more [])] := ih rfl
    rw [openAt, List.getLast?_eq_some_getLast (by simp), Option.bind_some] at hinner ⊢
    rw [List.getLast_cons_cons, List.dropLast_cons_cons, Node.within, h]
    simp only [hinner]
    rfl

theorem opened_eq (progress : Progress) (keys : List String) :
    progress.opened keys Node.openTable =
      (openAt keys progress.root).map fun root => ⟨root, keys⟩ := by
  unfold Progress.opened openAt
  cases keys.getLast? with
  | none => rfl
  | some last => cases h : Node.within (Node.openTable last) keys.dropLast progress.root <;> simp [h]

/-- What is edited in a nested table. -/
theorem within_nested (edit : NodeFields → Option NodeFields) {fields inner : NodeFields}
    {key : String} {rest : List String} (h : Fields.get? fields key = some (nested rest inner)) :
    Node.within edit (key :: rest) fields =
      (edit inner).map fun inner => Fields.insert fields key (nested rest inner) := by
  induction rest generalizing fields key with
  | nil => rw [Node.within, h]; rfl
  | cons next more ih =>
    have hinner : Fields.get? [(next, nested more inner)] next = some (nested more inner) := by
      simp [Fields.get?_cons]
    rw [Node.within, h]
    simp only [nested, ih hinner, Option.map_map, Fields.insert_cons_self]
    rfl

section Document

variable {name : String} {logsDecisions : Bool} {masks : List NodeFields}

theorem within_openItem :
    Node.within (Node.openItem "fields") ["masking"] (document name logsDecisions masks) =
      some (document name logsDecisions ([] :: masks)) := by
  cases masks with
  | nil =>
    simp (disch := decide) [document, Node.within, Node.openItem, Fields.get?_cons,
      Fields.insert_nil, Fields.insert_cons_of_gt]
  | cons mask masks =>
    simp (disch := decide) [document, Node.within, Node.openItem, Fields.get?_cons,
      Fields.insert_cons_self, Fields.insert_cons_of_gt]

/-- What is edited below the last mask. -/
theorem within_mask (edit : NodeFields → Option NodeFields) (below : List String)
    (mask : NodeFields) :
    Node.within edit ("masking" :: "fields" :: below)
        (document name logsDecisions (mask :: masks)) =
      (Node.within edit below mask).map fun mask =>
        document name logsDecisions (mask :: masks) := by
  cases h : Node.within edit below mask <;>
    simp (disch := decide) [document, Node.within, Fields.get?_cons, Fields.insert_cons_self,
      Fields.insert_cons_of_gt, h]

theorem openAt_mask (below : List String) (mask : NodeFields) :
    openAt ("masking" :: "fields" :: "strategy" :: below)
        (document name logsDecisions (mask :: masks)) =
      (openAt ("strategy" :: below) mask).map fun mask =>
        document name logsDecisions (mask :: masks) := by
  simp only [openAt, List.getLast?_cons_cons, List.dropLast_cons_cons, within_mask]
  cases ("strategy" :: below).getLast? <;> rfl

/-! ## The block of a mask -/

variable {header : List String} {item : NodeFields} {rest : List Char} {root : NodeFields}

/-- For any strings, so that rewriting with it takes no literal apart. -/
theorem toList_append_append (first second third : String) (rest : List Char) :
    (first ++ second ++ third).toList ++ rest =
      first.toList ++ (second.toList ++ (third.toList ++ rest)) := by
  simp

theorem toList_line (key value : String) (rest : List Char) :
    (line key value).toList ++ rest =
      key.toList ++ ' ' :: '=' :: ' ' :: (value.toList ++ '\n' :: rest) := by
  simp [line]

/-- A key with its value in the table of the last mask, or in one below that. -/
theorem reads_assignment {below : List String} {key value : String} {setting : Setting}
    {filled : NodeFields} (hkey : IsBare key) (hvalue : ReadsValue value.toList setting)
    (hassign : Node.within (assign [key] setting) below item = some filled)
    (h : Reads ⟨document name logsDecisions (filled :: masks), "masking" :: "fields" :: below⟩
      rest root) :
    Reads ⟨document name logsDecisions (item :: masks), "masking" :: "fields" :: below⟩
      ((line key value).toList ++ rest) root := by
  rw [toList_line]
  refine Reads.assignment hkey hvalue ?_ h
  rw [Progress.assigned, within_mask, hassign]
  rfl

/-- The table of a strategy in the table of the last mask, with one key in it. -/
theorem reads_table (below : List String) {opening : List Char} {key value : String}
    {setting : Setting} {field : Node}
    (hopening : opening =
      '\n' :: '[' :: (dotted ("masking" :: "fields" :: "strategy" :: below) ++ [']', '\n']))
    (hbelow : ∀ part ∈ below, IsBare part) (hroom : below.length ≤ 2)
    (hkey : IsBare key) (hvalue : ReadsValue value.toList setting)
    (h : ∀ header, Reads ⟨document name logsDecisions
      ([("field", field), ("strategy", nested below [(key, .value setting)])] :: masks), header⟩
      rest root) :
    Reads ⟨document name logsDecisions ([("field", field)] :: masks), header⟩
      (opening ++ ((line key value).toList ++ rest)) root := by
  have hkeys : ∀ part ∈ "masking" :: "fields" :: "strategy" :: below, IsBare part := by
    simp only [List.forall_mem_cons]
    exact ⟨by decide, by decide, by decide, hbelow⟩
  have hlength : ("masking" :: "fields" :: "strategy" :: below).length ≤ deepest := by
    simp [deepest]
    omega
  have hopen : Progress.opened ⟨document name logsDecisions ([("field", field)] :: masks), header⟩
      ("masking" :: "fields" :: "strategy" :: below) Node.openTable =
      some ⟨document name logsDecisions ([("field", field), ("strategy", nested below [])] :: masks),
        "masking" :: "fields" :: "strategy" :: below⟩ := by
    rw [opened_eq, openAt_mask, openAt_cons (by simp [Fields.get?_cons])]
    simp (disch := decide) [Fields.insert_nil, Fields.insert_cons_of_gt]
  have hassign : Node.within (assign [key] setting) ("strategy" :: below)
      [("field", field), ("strategy", nested below [])] =
      some [("field", field), ("strategy", nested below [(key, .value setting)])] := by
    have hget : Fields.get? [("field", field), ("strategy", nested below [])] "strategy" =
        some (nested below []) := by simp [Fields.get?_cons]
    rw [within_nested _ hget]
    simp (disch := decide) [assign, Node.addDotted, Node.add, Fields.insert_nil,
      Fields.insert_cons_self, Fields.insert_cons_of_gt]
  rw [hopening, List.cons_append, List.cons_append, List.append_assoc]
  exact .blank (.header hkeys (by simp) hlength hopen (reads_assignment hkey hvalue hassign (h _)))

theorem reads_pattern (pattern : Pattern) (field : Node)
    (h : ∀ header, Reads ⟨document name logsDecisions
      ([("field", field), ("strategy", pattern.node)] :: masks), header⟩ rest root) :
    Reads ⟨document name logsDecisions ([("field", field)] :: masks), header⟩
      (pattern.toToml.toList ++ rest) root := by
  cases pattern with
  | custom replacement =>
    rw [Pattern.toToml, String.toList_append, List.append_assoc]
    exact reads_table ["redact", "custom"] rfl (by decide) (by decide) (by decide)
      (readsValue_writeString replacement) h
  | ssn | phone | email | creditCard =>
    rw [Pattern.toToml, String.toList_append, List.append_assoc]
    exact reads_table [] rfl (by decide) (by decide) (by decide) (readsValue_writeString _) h

theorem reads_strategy (strategy : Strategy) (field : Node)
    (h : ∀ header, Reads ⟨document name logsDecisions
      ([("field", field), ("strategy", strategy.node)] :: masks), header⟩ rest root) :
    Reads ⟨document name logsDecisions ([("field", field)] :: masks), ["masking", "fields"]⟩
      (strategy.toToml.toList ++ rest) root := by
  cases strategy with
  | redact pattern => exact reads_pattern pattern field h
  | truncate maxChars =>
    rw [Strategy.toToml, String.toList_append, List.append_assoc]
    exact reads_table ["truncate"] rfl (by decide) (by decide) (by decide)
      (readsValue_nat maxChars) h
  | keepLast chars =>
    rw [Strategy.toToml, String.toList_append, List.append_assoc]
    exact reads_table ["keep-last"] rfl (by decide) (by decide) (by decide)
      (readsValue_nat chars) h
  | hash | tokenize | null | remove =>
    refine reads_assignment (by decide) (readsValue_writeString _) ?_ (h _)
    simp (disch := decide) [Node.within, assign, Node.addDotted, Node.add, Fields.get?_cons,
      Fields.insert_nil, Fields.insert_cons_of_gt, Strategy.node]

theorem toList_mask (mask : Mask) (rest : List Char) :
    mask.toToml.toList ++ rest =
      '[' :: '[' :: (dotted ["masking", "fields"] ++ ']' :: ']' :: '\n' ::
        ((line "field" (writeString mask.field)).toList ++
          (mask.strategy.toToml.toList ++ rest))) := by
  have hopening : "[[masking.fields]]\n".toList =
      '[' :: '[' :: (dotted ["masking", "fields"] ++ [']', ']', '\n']) := rfl
  calc mask.toToml.toList ++ rest
      = "[[masking.fields]]\n".toList ++ ((line "field" (writeString mask.field)).toList ++
          (mask.strategy.toToml.toList ++ rest)) := toList_append_append ..
    _ = _ := by rw [hopening]; simp only [List.cons_append, List.append_assoc, List.nil_append]

theorem opened_item :
    Progress.opened ⟨document name logsDecisions masks, header⟩ ["masking", "fields"]
      Node.openItem = some ⟨document name logsDecisions ([] :: masks), ["masking", "fields"]⟩ := by
  show (Node.within (Node.openItem "fields") ["masking"] (document name logsDecisions masks)).bind
    _ = _
  rw [within_openItem]
  rfl

/-- The block of a mask adds its table to the list. -/
theorem reads_mask (mask : Mask)
    (h : ∀ header, Reads ⟨document name logsDecisions (mask.nodeFields :: masks), header⟩
      rest root) :
    Reads ⟨document name logsDecisions masks, header⟩ (mask.toToml.toList ++ rest) root := by
  rw [toList_mask]
  refine .itemHeader (by decide) (by simp) (by decide) opened_item ?_
  exact reads_assignment (by decide) (readsValue_writeString mask.field) rfl
    (reads_strategy mask.strategy _ h)

/-- The blocks of all masks, an empty line between each two of them. -/
theorem reads_masks (more : List Mask)
    (h : ∀ header, Reads ⟨document name logsDecisions
      ((more.map Mask.nodeFields).reverse ++ masks), header⟩ [] root) :
    Reads ⟨document name logsDecisions masks, header⟩
      (String.intercalate "\n" (more.map Mask.toToml)).toList root := by
  induction more generalizing masks header with
  | nil => exact h header
  | cons mask more ih =>
    have hmore : ∀ header, Reads ⟨document name logsDecisions (mask.nodeFields :: masks), header⟩
        (String.intercalate "\n" (more.map Mask.toToml)).toList root :=
      fun header => ih fun header => by simpa using h header
    cases more with
    | nil =>
      rw [List.map_singleton, String.intercalate_singleton, ← List.append_nil mask.toToml.toList]
      exact reads_mask mask hmore
    | cons next more =>
      have hblocks : (String.intercalate "\n" (Mask.toToml mask :: Mask.toToml next ::
            more.map Mask.toToml)).toList =
          mask.toToml.toList ++
            '\n' :: (String.intercalate "\n" ((next :: more).map Mask.toToml)).toList := by
        rw [String.intercalate_cons_cons, String.toList_append, String.toList_append,
          List.append_assoc]
        rfl
      rw [List.map_cons, List.map_cons, hblocks]
      exact reads_mask mask fun header => .blank (hmore header)

/-! ## The whole document -/

theorem toList_toToml (first second third last body : String) :
    (first ++ second ++ third ++ last ++ body).toList =
      first.toList ++ (second.toList ++ (third.toList ++ (last.toList ++ body.toList))) := by
  simp

/-- The section of the authorizer, with which the document begins. -/
theorem reads_authorizer {body : String}
    (h : ∀ header, Reads ⟨document name logsDecisions [], header⟩ body.toList root) :
    Reads ⟨[], []⟩ ("[authorizer]\n" ++ line "name" (writeString name)
      ++ line "log_decisions" (if logsDecisions then "true" else "false") ++ "\n" ++ body).toList
      root := by
  have hopening : "[authorizer]\n".toList = '[' :: (dotted ["authorizer"] ++ [']', '\n']) := rfl
  have hline : "\n".toList = ['\n'] := rfl
  have hopen : Progress.opened ⟨[], []⟩ ["authorizer"] Node.openTable =
      some ⟨[("authorizer", .table .header [])], ["authorizer"]⟩ := rfl
  have hname : Progress.assigned ⟨[("authorizer", .table .header [])], ["authorizer"]⟩ ["name"]
      (.text name) =
      some ⟨[("authorizer", .table .header [("name", .value (.text name))])], ["authorizer"]⟩ := by
    simp [Progress.assigned, Node.within, assign, Node.addDotted, Node.add, Fields.get?_cons,
      Fields.insert_nil, Fields.insert_cons_self]
  have hlogs : Progress.assigned
      ⟨[("authorizer", .table .header [("name", .value (.text name))])], ["authorizer"]⟩
      ["log_decisions"] (.flag logsDecisions) =
      some ⟨document name logsDecisions [], ["authorizer"]⟩ := by
    simp (disch := decide) [Progress.assigned, Node.within, assign, Node.addDotted, Node.add,
      Fields.get?_cons, Fields.insert_cons_self, Fields.insert_cons_of_lt, document, authorizer]
  rw [toList_toToml, hopening, hline, List.cons_append, List.append_assoc, toList_line, toList_line]
  exact .header (by decide) (by simp) (by decide) hopen <|
    .assignment (by decide) (readsValue_writeString name) hname <|
    .assignment (by decide) (readsValue_flag logsDecisions) hlogs <| .blank (h _)

/-- What stands in the place of the blocks if there are no masks. -/
theorem reads_noMasks :
    Reads ⟨document name logsDecisions [], header⟩ ("[masking]\n" ++ line "fields" "[]").toList
      (documentOfNone name logsDecisions) := by
  have hopening : "[masking]\n".toList = '[' :: (dotted ["masking"] ++ [']', '\n']) := rfl
  rw [String.toList_append, hopening, List.cons_append, List.append_assoc,
    ← List.append_nil (line _ _).toList, toList_line]
  refine .header (by decide) (by simp) (by decide) rfl ?_
  exact .assignment (by decide) readsValue_nil rfl (.done _)

/-! ## The finished tree -/

theorem toItems_eq (reversed : List NodeFields) (following : List Setting) :
    Node.toItems reversed following =
      (reversed.reverse.map fun fields => .table (Node.toFields fields)) ++ following := by
  induction reversed generalizing following with
  | nil => rfl
  | cons newest earlier ih => simp [Node.toItems, ih]

end Document

end Toml

theorem Strategy.toSetting_node (strategy : Strategy) :
    strategy.node.toSetting = Setting.ofValue strategy.write := by
  cases strategy with
  | redact pattern => cases pattern <;> rfl
  | truncate | keepLast | hash | tokenize | null | remove => rfl

theorem Mask.toFields_nodeFields (mask : Mask) :
    .table (Node.toFields mask.nodeFields) = Setting.ofValue mask.write := by
  rw [write_eq]
  simp [nodeFields, Node.toFields, Node.toSetting, Strategy.toSetting_node, Setting.ofValue,
    Setting.ofFields]

namespace Toml

theorem toFields_document (settings : Settings) (h : settings.masks ≠ []) :
    Node.toFields (document settings.name settings.logsDecisions
      (settings.masks.map Mask.nodeFields).reverse) = (Setting.ofValue settings.write).fields := by
  have hmasks : Node.toItems (settings.masks.map Mask.nodeFields).reverse [] =
      Setting.ofValues (settings.masks.map Mask.write) := by
    simp [toItems_eq, Setting.ofValues_eq, Mask.toFields_nodeFields]
  have hne : (settings.masks.map Mask.nodeFields).reverse ≠ [] := by simpa using h
  obtain ⟨last, earlier, hcons⟩ := List.exists_cons_of_ne_nil hne
  rw [hcons] at hmasks ⊢
  rw [Settings.write_eq, Policy.write]
  simp [document, authorizer, Node.toFields, Node.toSetting, Setting.ofValue, Setting.ofFields,
    Setting.fields, hmasks]

theorem exists_reads_toToml (settings : Settings) :
    ∃ root, Reads ⟨[], []⟩ settings.toToml.toList root ∧
      Node.toFields root = (Setting.ofValue settings.write).fields := by
  obtain ⟨name, logsDecisions, masks⟩ := settings
  cases masks with
  | nil =>
    refine ⟨_, reads_authorizer fun _ => reads_noMasks, ?_⟩
    rw [Settings.write_eq]
    rfl
  | cons mask more =>
    refine ⟨_, reads_authorizer fun _ => reads_masks (mask :: more) fun _ => .done _, ?_⟩
    rw [List.append_nil]
    exact toFields_document ⟨name, logsDecisions, mask :: more⟩ (by simp)

theorem withoutMark_toToml (settings : Settings) :
    Text.withoutMark settings.toToml.toList = settings.toToml.toList := by
  have htext : settings.toToml.toList = "[authorizer]\n".toList ++ _ := toList_toToml ..
  rw [htext]
  rfl

/-- **What is written as TOML reads as the tree of what is written as JSON.** -/
theorem read?_toToml (settings : Settings) :
    read? settings.toToml = some (Setting.ofValue settings.write).fields := by
  obtain ⟨root, hreads, hroot⟩ := exists_reads_toToml settings
  have hlines := hreads (settings.toToml.toList.length + 1) (Nat.lt_succ_self _)
  obtain ⟨progress, hprogress, rfl⟩ := Option.map_eq_some_iff.mp hlines
  rw [read?, withoutMark_toToml]
  simp only [hprogress, Option.map_some, hroot]

end Toml
end Clearance
