import Clearance.Proofs.Number.Written
import Clearance.Proofs.Toml.Strings
import Clearance.Toml.Reader

/-!
# Lines of TOML documents

What the reader makes of the lines that a writer of plain documents writes: headers of bare keys,
a bare key with a value behind it, and empty lines. `ReadsValue` says that a value reads as a
setting wherever it ends a line, which **strings, truth values, natural numbers and the empty
list do in the way that they are written**.

`Reads` says what a document reads as from some line on, whatever fuel is left, so that a document
is read line by line and from its end.
-/

set_option autoImplicit false

namespace Clearance
namespace Toml

/-! ## Keys -/

/-- A key that needs no quotes. -/
def IsBare (key : String) : Prop := key.toList ≠ [] ∧ ∀ c ∈ key.toList, isBareKeyChar c = true

instance (key : String) : Decidable (IsBare key) :=
  decidable_of_iff ((!key.toList.isEmpty && key.toList.all isBareKeyChar) = true)
    (by simp [IsBare])

/-- Bare keys with dots between them. -/
def dotted (keys : List String) : List Char := Text.glue '.' (keys.map String.toList)

theorem dotted_singleton (key : String) : dotted [key] = key.toList := rfl

theorem dotted_cons_cons (key next : String) (keys : List String) :
    dotted (key :: next :: keys) = key.toList ++ '.' :: dotted (next :: keys) := rfl

section Keys

variable {key : String} {keys : List String} {rest : List Char}

theorem IsBare.exists_cons (h : IsBare key) :
    ∃ c more, key.toList = c :: more ∧ isBareKeyChar c = true := by
  obtain ⟨c, more, hcons⟩ := List.exists_cons_of_ne_nil h.1
  exact ⟨c, more, hcons, h.2 c (hcons ▸ List.mem_cons_self)⟩

theorem exists_dotted_cons (h : ∀ key ∈ keys, IsBare key) (hne : keys ≠ []) :
    ∃ c more, dotted keys = c :: more ∧ isBareKeyChar c = true := by
  obtain ⟨key, others, rfl⟩ := List.exists_cons_of_ne_nil hne
  obtain ⟨c, more, hkey, hc⟩ := (h key List.mem_cons_self).exists_cons
  cases others with
  | nil => exact ⟨c, more, hkey, hc⟩
  | cons next others =>
    exact ⟨c, more ++ '.' :: dotted (next :: others), by rw [dotted_cons_cons, hkey]; rfl, hc⟩

/-- A character that may begin a key means nothing else at the beginning of a line. -/
theorem ne_of_isBareKeyChar {c : Char} (h : isBareKeyChar c = true) {d : Char}
    (hd : isBareKeyChar d = false) : c ≠ d := by
  rintro rfl
  exact absurd h (by simp [hd])

theorem skipSpaces_cons {c : Char} (hspace : c ≠ ' ') (htab : c ≠ '\t') (rest : List Char) :
    Text.skipSpaces (c :: rest) = c :: rest := by
  simp [Text.skipSpaces, hspace, htab]

theorem keyPart?_append (h : IsBare key)
    (hstop : ∀ c more, rest = c :: more → isBareKeyChar c = false) :
    keyPart? (key.toList ++ rest) = some (key, rest) := by
  have htake : (key.toList ++ rest).takeWhile isBareKeyChar = key.toList := by
    rw [List.takeWhile_append_of_pos h.2]
    cases rest with
    | nil => simp
    | cons c more => simp [hstop c more rfl]
  have hdrop : (key.toList ++ rest).dropWhile isBareKeyChar = rest := by
    rw [List.dropWhile_append_of_pos h.2]
    cases rest with
    | nil => rfl
    | cons c more => simp [hstop c more rfl]
  obtain ⟨c, more, hkey, hc⟩ := h.exists_cons
  rw [hkey] at htake hdrop ⊢
  have hquote : c ≠ '"' := ne_of_isBareKeyChar hc (by decide)
  have happ : c ≠ '\x27' := ne_of_isBareKeyChar hc (by decide)
  unfold keyPart?
  split
  · next heq => exact absurd (List.cons.inj heq).1 hquote
  · next heq => exact absurd (List.cons.inj heq).1 happ
  · rw [htake, hdrop]
    show some (String.ofList (c :: more), rest) = _
    rw [← hkey, String.ofList_toList]

/-- A dotted key is read up to what ends it, blanks behind it included. -/
theorem keyUpTo?_dotted (h : ∀ key ∈ keys, IsBare key) (hne : keys ≠ [])
    (hstop : ∀ c more, rest = c :: more → isBareKeyChar c = false)
    (hdot : ∀ more, Text.skipSpaces rest ≠ '.' :: more) {room : Nat}
    (hroom : keys.length ≤ room) :
    keyUpTo? room (dotted keys ++ rest) = some (keys, Text.skipSpaces rest) := by
  induction keys generalizing room with
  | nil => exact absurd rfl hne
  | cons key others ih =>
    obtain ⟨hkey, hothers⟩ := List.forall_mem_cons.mp h
    obtain ⟨room, rfl⟩ : ∃ less, room = less + 1 :=
      Nat.exists_eq_add_one.mpr (Nat.lt_of_lt_of_le (Nat.succ_pos _) hroom)
    have hskip : ∀ more, Text.skipSpaces (key.toList ++ more) = key.toList ++ more := by
      intro more
      obtain ⟨c, _, hcons, hc⟩ := hkey.exists_cons
      rw [hcons]
      exact skipSpaces_cons (ne_of_isBareKeyChar hc (by decide))
        (ne_of_isBareKeyChar hc (by decide)) _
    cases others with
    | nil =>
      rw [dotted_singleton, keyUpTo?, hskip, keyPart?_append hkey hstop]
      simp only [Option.bind_eq_bind, Option.bind_some]
      rfl
    | cons next others =>
      rw [dotted_cons_cons, List.append_assoc, keyUpTo?, hskip,
        keyPart?_append hkey (by rintro c more hcons; rw [← (List.cons.inj hcons).1]; decide)]
      simp only [Option.bind_eq_bind, Option.bind_some]
      rw [List.cons_append, skipSpaces_cons (by decide) (by decide)]
      simp only [ih hothers (by simp) (Nat.le_of_succ_le_succ hroom)]
      rfl

end Keys

/-! ## Values -/

/-- A text reads as a setting wherever a line ends behind it, and does not begin with blanks. -/
structure ReadsValue (value : List Char) (setting : Setting) : Prop where
  skipSpaces : ∀ rest, Text.skipSpaces (value ++ '\n' :: rest) = value ++ '\n' :: rest
  value? : ∀ fuel rest,
    value? (fuel + 2) deepest (value ++ '\n' :: rest) = some (setting, '\n' :: rest)

theorem exists_writeString_cons (s : String) :
    ∃ c more, (writeString s).toList = c :: more ∧ (c = '"' ∨ c = '\x27') := by
  rw [writeString, String.toList_ofList]
  cases Quoting.of s.toList with
  | basic => exact ⟨'"', _, rfl, .inl rfl⟩
  | literal => exact ⟨'\x27', _, rfl, .inr rfl⟩
  | multilineBasic => exact ⟨'"', _, rfl, .inl rfl⟩
  | multilineLiteral => exact ⟨'\x27', _, rfl, .inr rfl⟩
  | escaped =>
    by_cases hmulti : s.toList.contains '\n' = true
    · exact ⟨'"', _, if_pos hmulti, .inl rfl⟩
    · exact ⟨'"', _, if_neg hmulti, .inl rfl⟩

theorem value?_of_quote {c : Char} (hc : c = '"' ∨ c = '\x27') (fuel room : Nat)
    (rest : List Char) :
    value? (fuel + 1) room (c :: rest) =
      (string? (c :: rest)).map fun (s, rest) => (.text s, rest) := by
  rcases hc with rfl | rfl <;> simp [value?]

theorem readsValue_writeString (s : String) : ReadsValue (writeString s).toList (.text s) := by
  obtain ⟨c, more, hcons, hc⟩ := exists_writeString_cons s
  refine ⟨fun rest => ?_, fun fuel rest => ?_⟩
  · rw [hcons, List.cons_append]
    rcases hc with rfl | rfl
    · exact skipSpaces_cons (by decide) (by decide) _
    · exact skipSpaces_cons (by decide) (by decide) _
  · have hread : string? ((writeString s).toList ++ '\n' :: rest) = some (s, '\n' :: rest) :=
      string?_writeString s (by simp) (by simp)
    rw [hcons, List.cons_append] at hread ⊢
    rw [value?_of_quote hc, hread]
    rfl

theorem readsValue_flag (b : Bool) :
    ReadsValue (if b then "true" else "false").toList (.flag b) := by
  cases b with
  | true => exact ⟨fun _ => rfl, fun _ _ => rfl⟩
  | false => exact ⟨fun _ => rfl, fun _ _ => rfl⟩

theorem readsValue_nil : ReadsValue "[]".toList (.list []) :=
  ⟨fun _ => rfl, fun _ _ => rfl⟩

/-! ### Natural numbers -/

/-- A number has no zero in front, unless it is zero. -/
theorem head?_toDigits {n : Nat} (h : 0 < n) : (Nat.toDigits 10 n).head? ≠ some '0' := by
  induction n using Nat.strongRecOn with
  | ind n ih =>
    rw [Nat.toDigits_eq_if (by decide)]
    split
    · next hlt =>
      have hdigit : ∀ m < 10, 0 < m → m.digitChar ≠ '0' := by decide
      simpa using hdigit n hlt h
    · next hge =>
      have hhead := ih (n / 10) (by omega) (by omega)
      obtain ⟨c, more, hcons⟩ := List.exists_cons_of_ne_nil
        (Nat.toDigits_ne_nil (b := 10) (n := n / 10))
      rw [hcons] at hhead ⊢
      exact hhead

theorem joinDigits_of_notMem {isDigit : Char → Bool} {text : List Char} (h : '_' ∉ text) :
    joinDigits isDigit text = text := by
  fun_induction joinDigits isDigit text with
  | case1 a b rest _ ih => exact absurd (by simp) h
  | case2 a b rest _ ih => exact absurd (by simp) h
  | case3 c rest _ ih => rw [ih fun hmem => h (List.mem_cons_of_mem _ hmem)]
  | case4 => rfl

theorem decimal?_toDigits (n : Nat) : decimal? (Nat.toDigits 10 n) = some n := by
  unfold decimal?
  split
  · next heq =>
    rcases Nat.eq_zero_or_pos n with rfl | hpos
    · exact absurd heq (by simp)
    · exact absurd (by rw [heq]; rfl) (head?_toDigits hpos)
  · exact Number.natural?_toDigits n

theorem integer?_toDigits (n : Nat) : integer? (Nat.toDigits 10 n) = some (.ofNat n) := by
  have hletter : ∀ c digits, c.isDigit = false → Nat.toDigits 10 n ≠ '0' :: c :: digits :=
    fun c digits hc heq => Number.notMem_digits hc (by rw [heq]; simp)
  unfold integer?
  split
  · next heq => exact absurd heq (hletter 'x' _ (by decide))
  · next heq => exact absurd heq (hletter 'o' _ (by decide))
  · next heq => exact absurd heq (hletter 'b' _ (by decide))
  · rw [joinDigits_of_notMem (Number.notMem_digits (by decide)),
      Number.sign_of_isDigit fun _ => Number.isDigit_of_mem_digits]
    simp only [decimal?_toDigits]
    rfl

theorem wordOf?_toDigits (n : Nat) :
    wordOf? (Nat.toDigits 10 n) = some (.integer (.ofNat n)) := by
  have htrue : Nat.toDigits 10 n ≠ ['t', 'r', 'u', 'e'] := fun heq =>
    Number.notMem_digits (c := 't') (by decide) (by rw [heq]; simp)
  have hfalse : Nat.toDigits 10 n ≠ ['f', 'a', 'l', 's', 'e'] := fun heq =>
    Number.notMem_digits (c := 'f') (by decide) (by rw [heq]; simp)
  rw [wordOf?, if_neg htrue, if_neg hfalse, integer?_toDigits]

/-- A word that a line ends behind. -/
theorem word_append {text : List Char} (h : ∀ c ∈ text, isWordChar c = true) (rest : List Char) :
    word (text ++ '\n' :: rest) = (text, '\n' :: rest) := by
  have htake : (text ++ '\n' :: rest).takeWhile isWordChar = text := by
    rw [List.takeWhile_append_of_pos h, List.takeWhile_cons_of_neg (by decide), List.append_nil]
  have hdrop : (text ++ '\n' :: rest).dropWhile isWordChar = '\n' :: rest := by
    rw [List.dropWhile_append_of_pos h, List.dropWhile_cons_of_neg (by decide)]
  simp only [word, htake, hdrop]
  split
  · next heq => exact absurd (List.cons.inj heq).1 (by decide)
  · rfl

theorem value?_of_isDigit {c : Char} (hc : c.isDigit = true) (fuel room : Nat)
    (rest : List Char) :
    value? (fuel + 1) room (c :: rest) =
      (wordOf? (word (c :: rest)).1).map fun setting => (setting, (word (c :: rest)).2) := by
  have hne : ∀ d : Char, d.isDigit = false → c ≠ d := by
    rintro d hd rfl
    exact absurd hc (by simp [hd])
  have hquote : ¬ ((c :: rest).head? = some '"' ∨ (c :: rest).head? = some '\x27') := by
    simp [hne '"' (by decide), hne '\x27' (by decide)]
  unfold value?
  split
  · next heq => exact absurd (List.cons.inj heq).1 (hne '[' (by decide))
  · next heq => exact absurd (List.cons.inj heq).1 (hne '\x7b' (by decide))
  · rw [if_neg hquote]

theorem readsValue_nat (n : Nat) : ReadsValue (toString n).toList (.integer (.ofNat n)) := by
  have hdigits : (toString n).toList = Nat.toDigits 10 n := by simp
  have hword : ∀ c ∈ Nat.toDigits 10 n, isWordChar c = true := fun c hc => by
    simp [isWordChar, Char.isAlphanum, Number.isDigit_of_mem_digits hc]
  obtain ⟨c, more, hcons⟩ := List.exists_cons_of_ne_nil (Nat.toDigits_ne_nil (b := 10) (n := n))
  have hc : c.isDigit = true := Number.isDigit_of_mem_digits (hcons ▸ List.mem_cons_self)
  rw [hdigits]
  refine ⟨fun rest => ?_, fun fuel rest => ?_⟩
  · rw [hcons]
    refine skipSpaces_cons ?_ ?_ _
    · rintro rfl
      exact absurd hc (by decide)
    · rintro rfl
      exact absurd hc (by decide)
  · have hvalue := value?_of_isDigit hc (fuel + 1) deepest (more ++ '\n' :: rest)
    rw [← List.cons_append, ← hcons, word_append hword, wordOf?_toDigits] at hvalue
    exact hvalue

/-! ## Lines -/

/-- What a document reads as, from some line on, to its last one. -/
def Reads (progress : Progress) (text : List Char) (root : NodeFields) : Prop :=
  ∀ fuel, text.length < fuel → (lines fuel progress text).map (·.root) = some root

section Lines

variable {progress next : Progress} {root : NodeFields} {rest : List Char}

theorem Reads.done (progress : Progress) : Reads progress [] progress.root := by
  intro fuel hfuel
  obtain ⟨fuel, rfl⟩ : ∃ less, fuel = less + 1 := Nat.exists_eq_add_one.mpr (by omega)
  rfl

theorem Reads.blank (h : Reads progress rest root) : Reads progress ('\n' :: rest) root := by
  intro fuel hfuel
  obtain ⟨fuel, rfl⟩ : ∃ less, fuel = less + 1 := Nat.exists_eq_add_one.mpr (by omega)
  have hrest := h (fuel + 1) (by simp at hfuel; omega)
  have hskip : skipLines? (('\n' :: rest).length + 1) ('\n' :: rest) =
      skipLines? (rest.length + 1) rest := by
    rfl
  rw [lines] at hrest ⊢
  rw [hskip]
  exact hrest

/-- A character that begins a line with something on it. -/
def IsVisible (c : Char) : Prop := c ≠ ' ' ∧ c ≠ '\t' ∧ c ≠ '\n' ∧ c ≠ '\r' ∧ c ≠ '#'

theorem skipLines?_of_isVisible {c : Char} (hc : IsVisible c) (fuel : Nat) (rest : List Char) :
    skipLines? (fuel + 1) (c :: rest) = some (c :: rest) := by
  obtain ⟨hspace, htab, hline, hreturn, hcomment⟩ := hc
  have hnewline : newline? (c :: rest) = none := by
    unfold newline?
    split
    · next heq => exact absurd (List.cons.inj heq).1 hline
    · next heq => exact absurd (List.cons.inj heq).1 hreturn
    · rfl
  rw [skipLines?, skipSpaces_cons hspace htab]
  split
  · next heq => exact absurd (List.cons.inj heq).1 hcomment
  · rw [hnewline]

/-- A line is read, and then the document from the next line on. -/
theorem Reads.line {c : Char} {more : List Char} (hc : IsVisible c)
    (hline : line? progress (c :: more) = some (next, '\n' :: rest))
    (hlength : rest.length ≤ more.length) (h : Reads next rest root) :
    Reads progress (c :: more) root := by
  intro fuel hfuel
  obtain ⟨fuel, rfl⟩ : ∃ less, fuel = less + 1 := Nat.exists_eq_add_one.mpr (by omega)
  have hrest := h fuel (by simp at hfuel; omega)
  have hend : endLine? ('\n' :: rest) = some rest := rfl
  rw [lines, skipLines?_of_isVisible hc]
  simp only [Option.bind_eq_bind, Option.bind_some, hline, hend]
  exact hrest

theorem isVisible_of_isBareKeyChar {c : Char} (h : isBareKeyChar c = true) : IsVisible c :=
  ⟨ne_of_isBareKeyChar h (by decide), ne_of_isBareKeyChar h (by decide),
    ne_of_isBareKeyChar h (by decide), ne_of_isBareKeyChar h (by decide),
    ne_of_isBareKeyChar h (by decide)⟩

section Header

variable {keys : List String} (hkeys : ∀ key ∈ keys, IsBare key) (hne : keys ≠ [])
  (hroom : keys.length ≤ deepest)
include hkeys hne hroom

theorem key?_header (rest : List Char) :
    key? (dotted keys ++ ']' :: rest) = some (keys, ']' :: rest) := by
  refine keyUpTo?_dotted hkeys hne ?_ ?_ hroom
  · rintro c more h
    rw [← (List.cons.inj h).1]
    decide
  · intro more h
    exact absurd (List.cons.inj h).1 (by decide)

/-- A header opens its table. -/
theorem Reads.header (hopen : progress.opened keys Node.openTable = some next)
    (h : Reads next rest root) :
    Reads progress ('[' :: (dotted keys ++ ']' :: '\n' :: rest)) root := by
  have hline : line? progress ('[' :: (dotted keys ++ ']' :: '\n' :: rest)) =
      some (next, '\n' :: rest) := by
    obtain ⟨c, more, hdotted, hc⟩ := exists_dotted_cons hkeys hne
    have hkey := key?_header hkeys hne hroom ('\n' :: rest)
    unfold line?
    split
    · next heq =>
      rw [hdotted] at heq
      exact absurd (List.cons.inj (List.cons.inj heq).2).1 (ne_of_isBareKeyChar hc (by decide))
    · next heq =>
      rw [← (List.cons.inj heq).2, hkey]
      simp [Text.after?, hopen]
    · next heq => exact absurd rfl (heq _)
  exact Reads.line (by unfold IsVisible; decide) hline (by simp; omega) h

/-- A header in double brackets adds a table to a list of them. -/
theorem Reads.itemHeader (hopen : progress.opened keys Node.openItem = some next)
    (h : Reads next rest root) :
    Reads progress ('[' :: '[' :: (dotted keys ++ ']' :: ']' :: '\n' :: rest)) root := by
  have hline : line? progress ('[' :: '[' :: (dotted keys ++ ']' :: ']' :: '\n' :: rest)) =
      some (next, '\n' :: rest) := by
    simp [line?, key?_header hkeys hne hroom, Text.after?, hopen]
  exact Reads.line (by unfold IsVisible; decide) hline (by simp; omega) h

end Header

/-- A key with its value adds to the table of the last header. -/
theorem Reads.assignment {key : String} {value : List Char} {setting : Setting}
    (hkey : IsBare key) (hvalue : ReadsValue value setting)
    (hassign : progress.assigned [key] setting = some next) (h : Reads next rest root) :
    Reads progress (key.toList ++ ' ' :: '=' :: ' ' :: (value ++ '\n' :: rest)) root := by
  have hkeys : key? (key.toList ++ ' ' :: '=' :: ' ' :: (value ++ '\n' :: rest)) =
      some ([key], '=' :: ' ' :: (value ++ '\n' :: rest)) := by
    have hbare : ∀ part ∈ [key], IsBare part := by simpa using hkey
    refine keyUpTo?_dotted hbare (by simp) ?_ ?_ (Nat.le_add_left 1 79)
    · rintro c more h
      rw [← (List.cons.inj h).1]
      decide
    · intro more h
      exact absurd (List.cons.inj h).1 (by decide)
  have hread : value? ((' ' :: (value ++ '\n' :: rest)).length + 1) deepest
      (Text.skipSpaces (' ' :: (value ++ '\n' :: rest))) = some (setting, '\n' :: rest) := by
    have hskip : Text.skipSpaces (' ' :: (value ++ '\n' :: rest)) = value ++ '\n' :: rest :=
      hvalue.skipSpaces rest
    rw [hskip]
    exact hvalue.value? _ rest
  obtain ⟨c, more, hcons, hc⟩ := hkey.exists_cons
  have hline : line? progress (key.toList ++ ' ' :: '=' :: ' ' :: (value ++ '\n' :: rest)) =
      some (next, '\n' :: rest) := by
    have hbracket : c ≠ '[' := ne_of_isBareKeyChar hc (by decide)
    unfold line?
    split
    · next heq => exact absurd (List.cons.inj (hcons ▸ heq)).1 hbracket
    · next heq => exact absurd (List.cons.inj (hcons ▸ heq)).1 hbracket
    · rw [hkeys]
      simp only [Option.bind_eq_bind, Option.bind_some, Text.after?, if_true, hread, hassign]
      rfl
  rw [hcons] at hline ⊢
  exact Reads.line (isVisible_of_isBareKeyChar hc) hline (by simp; omega) h

end Lines

end Toml
end Clearance
