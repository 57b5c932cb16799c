import Clearance.Masking.Policy

/-!
# Dotted notation

A text in dotted notation is cut at its dots, and pieces with nothing in them are skipped. What is
left are **plain keys**, with something in them and without a dot (`isPlain_of_mem_ofDotted`), and
there is none left exactly of a text of dots alone, the empty text included. Gluing two texts with a
dot puts one path behind the other, whatever dots they begin and end with (`ofDotted_append`).

The text of a path puts the dots back and forgets the rest: that a segment was an index, that a key
was empty, that a dot stood inside a key. So **the paths that read back from their text are those of
plain keys and no others** (`ofDotted_text_eq_self_iff`), which are just the paths that dotted
notation has a text for.
-/

set_option autoImplicit false

namespace Clearance

namespace Text

variable {separator : Char}

theorem forall_pieces_eq_nil_iff {text : List Char} :
    (∀ piece ∈ pieces separator text, piece = []) ↔ ∀ c ∈ text, c = separator := by
  induction text with
  | nil => simp [pieces]
  | cons c rest ih =>
    by_cases hc : c = separator
    · rw [pieces, if_pos hc, List.forall_mem_cons, List.forall_mem_cons, ih]
      simp only [hc, true_and]
    · -- The first piece begins with a character that is no separator.
      obtain ⟨piece, others, hpieces⟩ :=
        List.exists_cons_of_ne_nil (pieces_ne_nil separator rest)
      rw [pieces, if_neg hc, hpieces]
      simp [hc]

/-- The separator between two texts is a cut like any other, so no piece reaches across it. -/
theorem pieces_append (front rest : List Char) :
    pieces separator (front ++ separator :: rest) =
      pieces separator front ++ pieces separator rest := by
  induction front with
  | nil => simp [pieces]
  | cons c front ih =>
    rw [List.cons_append, pieces, pieces, ih]
    by_cases hc : c = separator
    · rw [if_pos hc, if_pos hc, List.cons_append]
    · obtain ⟨piece, others, hpieces⟩ :=
        List.exists_cons_of_ne_nil (pieces_ne_nil separator front)
      rw [if_neg hc, if_neg hc, hpieces]
      rfl

theorem pieces_of_notMem {text : List Char} (h : separator ∉ text) :
    pieces separator text = [text] := by
  induction text with
  | nil => rfl
  | cons c rest ih =>
    rw [List.mem_cons, not_or] at h
    rw [pieces, if_neg (Ne.symm h.1), ih h.2]

/-- **Cutting what was glued gives the pieces back**, if the separator stands in none of them. -/
theorem pieces_glue {texts : List (List Char)} (hne : texts ≠ [])
    (h : ∀ text ∈ texts, separator ∉ text) : pieces separator (glue separator texts) = texts := by
  induction texts with
  | nil => exact absurd rfl hne
  | cons text others ih =>
    obtain ⟨htext, hothers⟩ := List.forall_mem_cons.mp h
    cases others with
    | nil => exact pieces_of_notMem htext
    | cons other more =>
      rw [glue_cons_cons, pieces_append, pieces_of_notMem htext, ih (by simp) hothers]
      rfl

end Text

/-- A key that dotted notation can write: there is something in it, and no dot. -/
inductive Segment.IsPlain : Segment → Prop where
  | key {name : String} (hne : name ≠ "") (hdot : '.' ∉ name.toList) : IsPlain (.key name)

theorem Segment.IsPlain.exists_key {segment : Segment} (h : segment.IsPlain) :
    ∃ name, segment = .key name := by
  cases h with
  | key hne hdot => exact ⟨_, rfl⟩

namespace Path

/-- **Dots alone name nothing**, and every other text names something. -/
theorem ofDotted_eq_nil_iff {text : String} :
    ofDotted text = [] ↔ ∀ c ∈ text.toList, c = '.' := by
  rw [ofDotted, List.map_eq_nil_iff, List.filter_eq_nil_iff, ← Text.forall_pieces_eq_nil_iff]
  simp

theorem isPlain_of_mem_ofDotted {text : String} {segment : Segment}
    (h : segment ∈ ofDotted text) : segment.IsPlain := by
  obtain ⟨piece, hmem, rfl⟩ := List.mem_map.mp h
  obtain ⟨hpiece, hne⟩ := List.mem_filter.mp hmem
  refine .key ?_ ?_
  · intro hempty
    have hnil : piece = [] := by simpa using congrArg String.toList hempty
    exact absurd hne (by simp [hnil])
  · rw [String.toList_ofList]
    exact Text.separator_not_mem_of_mem_pieces hpiece

theorem ofDotted_append (first second : String) :
    ofDotted (first ++ "." ++ second) = ofDotted first ++ ofDotted second := by
  have hchars : (first ++ "." ++ second).toList = first.toList ++ '.' :: second.toList := by simp
  rw [ofDotted, hchars, Text.pieces_append, List.filter_append, List.map_append]
  rfl

theorem ofDotted_text {path : Path} (h : ∀ segment ∈ path, segment.IsPlain) :
    ofDotted path.text = path := by
  -- The empty path has the text of one empty piece, which is skipped.
  by_cases hnil : path = []
  · subst hnil
    rfl
  · have hcut : Text.pieces '.' path.text.toList =
        path.map fun segment => segment.text.toList := by
      rw [text, String.toList_ofList]
      refine Text.pieces_glue (by simpa using hnil) ?_
      intro piece hmem
      obtain ⟨segment, hsegment, rfl⟩ := List.mem_map.mp hmem
      cases h segment hsegment with
      | key hne hdot => exact hdot
    have hkept : (path.map fun segment => segment.text.toList).filter (· ≠ []) =
        path.map fun segment => segment.text.toList := by
      refine List.filter_eq_self.mpr ?_
      intro piece hmem
      obtain ⟨segment, hsegment, rfl⟩ := List.mem_map.mp hmem
      cases h segment hsegment with
      | key hne hdot => simpa [Segment.text] using hne
    rw [ofDotted, hcut, hkept, List.map_map]
    refine (List.map_congr_left ?_).trans (List.map_id path)
    intro segment hsegment
    cases h segment hsegment with
    | key hne hdot => simp [Segment.text]

/-- **Exactly the paths of plain keys read back from their text.** -/
theorem ofDotted_text_eq_self_iff {path : Path} :
    ofDotted path.text = path ↔ ∀ segment ∈ path, segment.IsPlain := by
  constructor
  · intro h segment hmem
    rw [← h] at hmem
    exact isPlain_of_mem_ofDotted hmem
  · exact ofDotted_text

/-- **Dotted notation and the text of a path fit together.** What a text in dotted notation names
is a path of plain keys, so no mask has an index in its path, and its own text names it again. A dot
between two texts puts the path of the second behind that of the first. And of all paths, those of
plain keys are the ones that read back from their text. -/
theorem plain_paths_read_back :
    (∀ text, ∀ segment ∈ ofDotted text, segment.IsPlain) ∧
    (∀ mask : Mask, ∀ segment ∈ mask.path, ∀ position, segment ≠ .index position) ∧
    (∀ text, ofDotted (ofDotted text).text = ofDotted text) ∧
    (∀ first second, ofDotted (first ++ "." ++ second) = ofDotted first ++ ofDotted second) ∧
    ∀ path : Path, ofDotted path.text = path ↔ ∀ segment ∈ path, segment.IsPlain := by
  refine ⟨fun text segment h => isPlain_of_mem_ofDotted h, ?masks,
    fun text => ofDotted_text fun segment h => isPlain_of_mem_ofDotted h, ofDotted_append,
    fun path => ofDotted_text_eq_self_iff⟩
  case masks =>
    intro mask segment hmem position hindex
    obtain ⟨name, hkey⟩ := (isPlain_of_mem_ofDotted hmem).exists_key
    exact absurd (hkey.symm.trans hindex) (by simp)

/-- Dots at both ends and a run of them inside leave two keys. The text of an index or of a key
with a dot in it names something else. -/
theorem contact_reads_back :
    Segment.key "email" ∈ (Mask.mk ".contact..email." .hash).path ∧
      (Segment.key "email").IsPlain ∧ Segment.key "email" ≠ .index 0 ∧
      ofDotted (text [.key "contact", .key "email"]) = [.key "contact", .key "email"] ∧
      ofDotted (text [.key "contact", .index 0]) ≠ [.key "contact", .index 0] ∧
      ofDotted (text [.key "a.b"]) ≠ [.key "a.b"] := by
  obtain ⟨hplain, hmasks, hagain, happend, hiff⟩ := plain_paths_read_back
  have hmem : Segment.key "email" ∈ (Mask.mk ".contact..email." .hash).path := by decide +kernel
  have hnamed : ofDotted ".contact..email." = [.key "contact", .key "email"] := by decide +kernel
  refine ⟨hmem, hplain _ _ hmem, hmasks _ _ hmem 0, ?_, ?_, ?_⟩
  · rw [← hnamed]
    exact hagain ".contact..email."
  · intro h
    cases (hiff _).mp h (.index 0) (by simp)
  · intro h
    cases (hiff _).mp h (.key "a.b") (by simp) with
    | key hne hdot => exact absurd hdot (by decide)

end Path
end Clearance
