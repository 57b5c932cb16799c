import Clearance.Masking.Redaction

/-!
# Cutting texts

Two strategies cut a text by counting its characters: one keeps the first and marks that it cut,
one keeps the last. What they keep is exactly that many characters, or the whole text if it has no
more, and **what they keep is all that a cut text tells**. Two texts are cut to the same one just if
they begin alike and are both longer than the limit or both not (`truncate_eq_iff`), and just if
they end alike (`takeLast_eq_iff`).

Of two cuts of one kind **the narrower decides**. For the marked cut this needs that the second is
not the wider one, because the mark makes its text longer than its limit and would itself be cut
otherwise.
-/

set_option autoImplicit false

namespace Clearance
namespace Masking

variable {limit limit' : Nat}

/-! ## The first characters -/

theorem truncate_of_length_le {text : List Char} (h : text.length ≤ limit) :
    truncate limit text = text := if_pos h

theorem truncate_of_lt_length {text : List Char} (h : limit < text.length) :
    truncate limit text = text.take limit ++ "...".toList := if_neg (Nat.not_le.mpr h)

/-- The mark is always beyond the limit. -/
theorem lt_length_marked {text : List Char} (h : limit ≤ limit') (hlong : limit' < text.length) :
    limit < (text.take limit' ++ "...".toList).length := by
  rw [List.length_append, List.length_take_of_le (Nat.le_of_lt hlong)]
  exact Nat.lt_of_le_of_lt h (Nat.lt_add_of_pos_right (by decide))

/-- The mark is beyond the limit, so the text in front of it is what a second cut keeps. -/
theorem truncate_truncate (h : limit ≤ limit') (text : List Char) :
    truncate limit (truncate limit' text) = truncate limit text := by
  rcases Nat.lt_or_ge limit' text.length with hlong | hshort
  · have htake : (text.take limit').length = limit' := List.length_take_of_le (Nat.le_of_lt hlong)
    rw [truncate_of_lt_length hlong, truncate_of_lt_length (lt_length_marked h hlong),
      truncate_of_lt_length (Nat.lt_of_le_of_lt h hlong),
      List.take_append_of_le_length (by rw [htake]; exact h), List.take_take, Nat.min_eq_left h]
  · rw [truncate_of_length_le hshort]

theorem lt_length_truncate_iff {text : List Char} :
    limit < (truncate limit text).length ↔ limit < text.length := by
  rcases Nat.lt_or_ge limit text.length with hlong | hshort
  · rw [truncate_of_lt_length hlong]
    exact iff_of_true (lt_length_marked (Nat.le_refl limit) hlong) hlong
  · rw [truncate_of_length_le hshort]

theorem take_truncate (text : List Char) : (truncate limit text).take limit = text.take limit := by
  rcases Nat.lt_or_ge limit text.length with hlong | hshort
  · rw [truncate_of_lt_length hlong]
    exact List.take_left' (List.length_take_of_le (Nat.le_of_lt hlong))
  · rw [truncate_of_length_le hshort]

/-- **A marked cut tells the first characters and whether there were more**, and nothing else. -/
theorem truncate_eq_iff {text other : List Char} :
    truncate limit text = truncate limit other ↔
      text.take limit = other.take limit ∧ (limit < text.length ↔ limit < other.length) := by
  constructor
  · intro h
    refine ⟨?_, ?_⟩
    · rw [← take_truncate text, h, take_truncate]
    · rw [← lt_length_truncate_iff, h, lt_length_truncate_iff]
  · rintro ⟨htake, hlonger⟩
    rcases Nat.lt_or_ge limit text.length with hlong | hshort
    · rw [truncate_of_lt_length hlong, truncate_of_lt_length (hlonger.mp hlong), htake]
    · have hshort' : other.length ≤ limit := by
        rw [← Nat.not_lt, ← hlonger]
        exact Nat.not_lt.mpr hshort
      rw [List.take_of_length_le hshort, List.take_of_length_le hshort'] at htake
      rw [htake]

/-! ## The last characters -/

section TakeLast

variable {α : Type} {items others : List α}

theorem takeLast_takeLast (count count' : Nat) (items : List α) :
    takeLast count (takeLast count' items) = takeLast (min count count') items := by
  rw [takeLast, takeLast, takeLast, List.drop_drop, List.length_drop]
  congr 1
  omega

theorem length_takeLast (count : Nat) (items : List α) :
    (takeLast count items).length = min count items.length := by
  rw [takeLast, List.length_drop]
  omega

/-- The last characters of a text are its first ones from behind. -/
theorem reverse_takeLast (count : Nat) (items : List α) :
    (takeLast count items).reverse = items.reverse.take count := by
  rw [takeLast, List.reverse_drop]
  rcases Nat.lt_or_ge items.length count with hshort | hlong
  · have hall : items.length - (items.length - count) = items.length := by omega
    rw [hall, List.take_of_length_le (by simp), List.take_of_length_le (by simp; omega)]
  · rw [Nat.sub_sub_self hlong]

theorem takeLast_eq_iff {count : Nat} :
    takeLast count items = takeLast count others ↔
      items.reverse.take count = others.reverse.take count := by
  rw [← reverse_takeLast, ← reverse_takeLast, List.reverse_inj]

end TakeLast

end Masking

/-! ## Both strategies -/

namespace Strategy

/-- **Cutting is exact and composes.** The last characters that are kept are the end of the text, as
many as asked for or all there are, and keeping the last twice keeps the fewer. A text that is not
longer than the limit stays, a longer one becomes its first characters and the mark, and cutting
again at a limit that is not higher is cutting there at once. So all that is left of a text are its
first characters and whether there were more, or its last characters. -/
theorem cutting_is_exact :
    (∀ (count : Nat) (text : String), ∃ front kept, text = front ++ kept ∧
      kept.length = min count text.length ∧ (keepLast count).maskText text = .ok kept) ∧
    (∀ (count count' : Nat) (text : String),
      ((keepLast count).maskText text).bind (keepLast count').maskText =
        (keepLast (min count count')).maskText text) ∧
    (∀ (limit : Nat) (text : String), text.length ≤ limit →
      (truncate limit).maskText text = .ok text) ∧
    (∀ (limit : Nat) (text : String), limit < text.length → ∃ front back, text = front ++ back ∧
      front.length = limit ∧ (truncate limit).maskText text = .ok (front ++ "...")) ∧
    (∀ (limit limit' : Nat) (text : String), limit' ≤ limit →
      ((truncate limit).maskText text).bind (truncate limit').maskText =
        (truncate limit').maskText text) ∧
    (∀ (limit : Nat) (text other : String),
      (truncate limit).maskText text = (truncate limit).maskText other ↔
        text.toList.take limit = other.toList.take limit ∧
          (limit < text.length ↔ limit < other.length)) ∧
    ∀ (count : Nat) (text other : String),
      (keepLast count).maskText text = (keepLast count).maskText other ↔
        text.toList.reverse.take count = other.toList.reverse.take count := by
  refine ⟨?kept, ?keptTwice, ?short, ?long, ?cutTwice, ?cutAlike, ?keptAlike⟩
  case kept =>
    intro count text
    refine ⟨String.ofList (text.toList.take (text.toList.length - count)), _, ?_, ?_, rfl⟩
    · rw [← String.ofList_append, Masking.takeLast, List.take_append_drop, String.ofList_toList]
    · rw [String.length_ofList, Masking.length_takeLast, String.length_toList]
  case keptTwice =>
    intro count count' text
    rw [maskText, Except.bind, maskText, String.toList_ofList, Masking.takeLast_takeLast,
      Nat.min_comm]
    rfl
  case short =>
    intro limit text h
    rw [← String.length_toList] at h
    rw [maskText, Masking.truncate_of_length_le h, String.ofList_toList]
  case long =>
    intro limit text h
    rw [← String.length_toList] at h
    refine ⟨String.ofList (text.toList.take limit), String.ofList (text.toList.drop limit), ?_, ?_,
      ?_⟩
    · rw [← String.ofList_append, List.take_append_drop, String.ofList_toList]
    · rw [String.length_ofList, List.length_take_of_le (Nat.le_of_lt h)]
    · rw [maskText, Masking.truncate_of_lt_length h, String.ofList_append, String.ofList_toList]
  case cutTwice =>
    intro limit limit' text h
    rw [maskText, Except.bind, maskText, String.toList_ofList, Masking.truncate_truncate h]
    rfl
  case cutAlike =>
    intro limit text other
    rw [← String.length_toList, ← String.length_toList, ← Masking.truncate_eq_iff, maskText,
      maskText, Except.ok.injEq, String.ofList_inj]
  case keptAlike =>
    intro count text other
    rw [← Masking.takeLast_eq_iff, maskText, maskText, Except.ok.injEq, String.ofList_inj]

/-- Characters are counted and not bytes. The mark of the first cut is gone after the second, and
behind the first three characters no difference is left of two longer names. -/
theorem zoe_cut :
    "Zoë Smith".length = 9 ∧ (truncate 9).maskText "Zoë Smith" = .ok "Zoë Smith" ∧
      (∃ front back, "Zoë Smith" = front ++ back ∧ front.length = 3 ∧
        (truncate 3).maskText "Zoë Smith" = .ok (front ++ "...")) ∧
      ((truncate 3).maskText "Zoë Smith").bind (truncate 2).maskText = .ok "Zo..." ∧
      (truncate 3).maskText "Zoë Smith" = (truncate 3).maskText "Zoë B" := by
  obtain ⟨_, _, hshort, hlong, htwice, halike, _⟩ := cutting_is_exact
  have hlength : "Zoë Smith".length = 9 := by decide +kernel
  refine ⟨hlength, hshort 9 _ (Nat.le_of_eq hlength), hlong 3 _ (by rw [hlength]; decide), ?_, ?_⟩
  · rw [htwice 3 2 _ (by decide)]
    rfl
  · exact (halike 3 _ _).mpr (by decide +kernel)

end Strategy
end Clearance
