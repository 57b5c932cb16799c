/-!
# Cutting text

`pieces` cuts a text at every occurrence of a separator and `glue` puts pieces together with the
separator between them; **gluing what was cut gives the text back** (`glue_pieces`). There is
always one piece more than there are separators, so the empty text is one empty piece. Readers
of formats cut at the front: `after?` takes away a beginning that has to be there, and `skipSpaces`
and `withoutMark` one that may be.
-/

set_option autoImplicit false

namespace Clearance
namespace Text

/-- What follows a beginning, if a text has it. -/
def after? : List Char → List Char → Option (List Char)
  | [], text => some text
  | c :: beginning, d :: text => if c = d then after? beginning text else none
  | _ :: _, [] => none

/-- What follows spaces and tabs. -/
def skipSpaces (text : List Char) : List Char := text.dropWhile fun c => c == ' ' || c == '\t'

/-- What follows a byte order mark, which an editor may have put in front of a text. -/
def withoutMark : List Char → List Char
  | '\uFEFF' :: text => text
  | text => text

/-- The pieces between separators, empty ones included. -/
def pieces (separator : Char) : List Char → List (List Char)
  | [] => [[]]
  | c :: rest =>
      if c = separator then [] :: pieces separator rest
      else match pieces separator rest with
        | [] => [[c]]
        | piece :: others => (c :: piece) :: others

def glue (separator : Char) : List (List Char) → List Char
  | [] => []
  | [piece] => piece
  | piece :: others => piece ++ separator :: glue separator others

theorem pieces_ne_nil (separator : Char) (text : List Char) : pieces separator text ≠ [] := by
  cases text with
  | nil => simp [pieces]
  | cons c rest =>
    unfold pieces
    split
    · simp
    · split <;> simp

theorem glue_cons_cons (separator : Char) (piece other : List Char) (others : List (List Char)) :
    glue separator (piece :: other :: others)
      = piece ++ separator :: glue separator (other :: others) := rfl

theorem glue_pieces (separator : Char) (text : List Char) :
    glue separator (pieces separator text) = text := by
  induction text with
  | nil => rfl
  | cons c rest ih =>
    unfold pieces
    obtain ⟨piece, others, h⟩ : ∃ piece others, pieces separator rest = piece :: others := by
      cases hp : pieces separator rest with
      | nil => exact absurd hp (pieces_ne_nil separator rest)
      | cons piece others => exact ⟨piece, others, rfl⟩
    rw [h] at ih ⊢
    split
    · next hc => rw [glue_cons_cons, ih, hc]; rfl
    · cases others with
      | nil => simpa [glue] using ih
      | cons other more =>
        rw [glue_cons_cons] at ih
        simp [glue_cons_cons, ih]

theorem separator_not_mem_of_mem_pieces {separator : Char} {text piece : List Char}
    (h : piece ∈ pieces separator text) : separator ∉ piece := by
  induction text generalizing piece with
  | nil => simp [pieces] at h; simp [h]
  | cons c rest ih =>
    unfold pieces at h
    split at h
    · rcases List.mem_cons.1 h with rfl | h
      · simp
      · exact ih h
    · next hc =>
      split at h
      · simp only [List.mem_singleton] at h
        subst h
        simpa using Ne.symm hc
      · next first others hp =>
        rw [hp] at ih
        rcases List.mem_cons.1 h with rfl | h
        · have := @ih first (by simp)
          simp [Ne.symm hc, this]
        · exact ih (by simp [h])

end Text
end Clearance
