import Clearance.Toml.Quotes
import Clearance.Toml.Text

/-!
# Strings of TOML read back

Whatever kind of string a text is written in, **the reader gives the text back and stops right
behind the closing quotes** (`string?_writeString`), as long as no further quote follows there.

Inside its quotes a text is written character by character, each as a `Token`: as it is, or as an
escape. On one line that is all there is to it. Over several lines a quote may be written as it
is too, and then three of them in a row would close the string; so `Inside` counts the quotes
just before, and never lets there be three. The reader sees more quotes than the writer wrote: up
to two that belong to the text stand directly before the three that close the string, and it is
the whole run of them that `closing?` takes apart.
-/

set_option autoImplicit false

namespace Clearance
namespace Toml

/-! ## Characters and their tokens -/

/-- What is written for a character that is not left to be a quote. -/
inductive Token (quote : Char) (hasEscapes : Bool) : List Char → Char → Prop where
  | plain {c : Char} (hquote : c ≠ quote) (hallowed : isForbidden c = false)
      (hescape : hasEscapes = true → c ≠ '\\') : Token quote hasEscapes [c] c
  | lineBreak (hquote : '\n' ≠ quote) : Token quote hasEscapes ['\n'] '\n'
  | escape {body : List Char} {c : Char} (hescape : hasEscapes = true)
      (hbody : ∀ rest, escape? (body ++ rest) = some (c, rest)) :
      Token quote hasEscapes ('\\' :: body) c

theorem isForbidden_of_not_isControl {c : Char} (h : isControl c = false) (hne : c ≠ '\n') :
    isForbidden c = false := by
  simp only [isControl, Bool.or_eq_false_iff, Bool.and_eq_false_iff, bne_eq_false_iff_eq] at h
  simp only [isForbidden, Bool.or_eq_false_iff, Bool.and_eq_false_iff, bne_eq_false_iff_eq]
  exact ⟨h.1.elim id fun h => absurd h hne, h.2⟩

/-- Four digits are enough for a character of seven bits. -/
theorem inBase?_padded : ∀ n < 128,
    (Number.padded 4 ((Nat.toDigits 16 n).map Char.toUpper)).length = 4 ∧
      Number.inBase? 16 (Number.padded 4 ((Nat.toDigits 16 n).map Char.toUpper)) = some n := by
  decide

theorem toNat_lt_of_isControl {c : Char} (h : isControl c = true) : c.toNat < 128 := by
  simp only [isControl, Bool.or_eq_true, Bool.and_eq_true, decide_eq_true_eq, beq_iff_eq] at h
  omega

theorem codePoint?_padded {c : Char} (h : isControl c = true) (rest : List Char) :
    codePoint? 4 (Number.padded 4 ((Nat.toDigits 16 c.toNat).map Char.toUpper) ++ rest) =
      some (c, rest) := by
  have hlt := toNat_lt_of_isControl h
  obtain ⟨hlength, hread⟩ := inBase?_padded c.toNat hlt
  have hvalid : c.toNat.isValidChar := .inl (by omega)
  rw [codePoint?, Number.exactly?, List.take_left' hlength, List.drop_left' hlength, hread,
    if_pos hlength]
  simp [hvalid, Char.ofNat_toNat]

theorem token_escapeOf (c : Char) : Token '"' true (escapeOf c) c := by
  unfold escapeOf
  split
  · exact .escape rfl fun _ => rfl
  · exact .escape rfl fun _ => rfl
  · exact .escape rfl fun _ => rfl
  · exact .escape rfl fun _ => rfl
  · exact .escape rfl fun _ => rfl
  · exact .escape rfl fun _ => rfl
  · exact .escape rfl fun _ => rfl
  · next hbreak _ _ hbackslash hquote =>
    split
    · next hcontrol => exact .escape rfl fun rest => codePoint?_padded hcontrol rest
    · next hcontrol =>
      have hforbidden := isForbidden_of_not_isControl (by simpa using hcontrol) hbreak
      exact .plain hquote hforbidden fun _ => hbackslash

theorem token_escapeTab {c : Char} (hquote : c ≠ '"') (hcontrol : isControl c = false)
    (hbackslash : c ≠ '\\') :
    Token '"' true (if c == '\t' then ['\\', 't'] else [c]) c := by
  split
  · next htab => exact (beq_iff_eq.mp htab) ▸ .escape rfl fun _ => rfl
  · by_cases hbreak : c = '\n'
    · exact hbreak ▸ .lineBreak (by decide)
    · exact .plain hquote (isForbidden_of_not_isControl hcontrol hbreak) fun _ => hbackslash

theorem Token.length_pos {quote : Char} {hasEscapes : Bool} {encoded : List Char} {c : Char}
    (h : Token quote hasEscapes encoded c) : 0 < encoded.length := by
  cases h with
  | plain _ _ _ | lineBreak _ | escape _ _ => exact Nat.succ_pos _

/-- A token is not empty, and begins with a quote at most if it is no token but the quote. -/
theorem Token.exists_cons {quote : Char} {hasEscapes : Bool} {encoded : List Char} {c : Char}
    (h : Token quote hasEscapes encoded c) (hne : quote ≠ '\\') :
    ∃ first rest, encoded = first :: rest ∧ first ≠ quote := by
  cases h with
  | plain hquote _ _ => exact ⟨c, [], rfl, hquote⟩
  | lineBreak hquote => exact ⟨'\n', [], rfl, hquote⟩
  | escape _ _ => exact ⟨'\\', _, rfl, hne.symm⟩

theorem length_le_flatMap {quote : Char} {hasEscapes : Bool} {encode : Char → List Char}
    {text : List Char} (h : ∀ c ∈ text, Token quote hasEscapes (encode c) c) :
    text.length ≤ (text.flatMap encode).length := by
  induction text with
  | nil => exact Nat.le_refl _
  | cons c text ih =>
    obtain ⟨hc, htext⟩ := List.forall_mem_cons.mp h
    have hle := ih htext
    have hpos := hc.length_pos
    rw [List.flatMap_cons, List.length_append, List.length_cons]
    omega

/-! ## On one line -/

theorem basic?_token {encoded : List Char} {c : Char} (h : Token '"' true encoded c)
    (hbreak : c ≠ '\n') (fuel : Nat) (rest : List Char) :
    basic? (fuel + 1) (encoded ++ rest) =
      (basic? fuel rest).map fun (inside, rest) => (c :: inside, rest) := by
  cases h with
  | plain hquote hallowed hescape =>
    have hbackslash := hescape rfl
    cases hread : basic? fuel rest <;> simp [basic?, hallowed, hread]
  | lineBreak _ => exact absurd rfl hbreak
  | escape _ hbody =>
    cases hread : basic? fuel rest <;> simp [basic?, hbody, hread]

theorem basic?_flatMap {encode : Char → List Char} {text : List Char}
    (h : ∀ c ∈ text, Token '"' true (encode c) c) (hbreak : '\n' ∉ text) {fuel : Nat}
    (hfuel : text.length ≤ fuel) (rest : List Char) :
    basic? fuel (text.flatMap encode ++ '"' :: rest) = some (text, rest) := by
  induction text generalizing fuel with
  | nil => simp [basic?]
  | cons c text ih =>
    obtain ⟨hc, htext⟩ := List.forall_mem_cons.mp h
    obtain ⟨hne, hnot⟩ := not_or.mp (mt List.mem_cons.mpr hbreak)
    obtain ⟨fuel, rfl⟩ : ∃ less, fuel = less + 1 :=
      Nat.exists_eq_add_one.mpr (by simp at hfuel; omega)
    rw [List.flatMap_cons, List.append_assoc, basic?_token hc (Ne.symm hne),
      ih htext hnot (by simpa using hfuel)]
    rfl

theorem literal?_append {text : List Char}
    (h : ∀ c ∈ text, isForbidden c = false ∧ c ≠ '\x27') (rest : List Char) :
    literal? (text ++ '\x27' :: rest) = some (text, rest) := by
  induction text with
  | nil => simp [literal?]
  | cons c text ih =>
    obtain ⟨⟨hallowed, hquote⟩, htext⟩ := List.forall_mem_cons.mp h
    simp [literal?, hallowed, ih htext]

/-! ## Over several lines -/

/-- What is written between three quotes for a text, after so many quotes in a row. -/
inductive Inside (quote : Char) (hasEscapes : Bool) : Nat → List Char → List Char → Prop where
  | done {run : Nat} (hrun : run ≤ 2) : Inside quote hasEscapes run [] []
  | quote {run : Nat} {encoded text : List Char}
      (h : Inside quote hasEscapes (run + 1) encoded text) :
      Inside quote hasEscapes run (quote :: encoded) (quote :: text)
  | token {run : Nat} {first encoded text : List Char} {c : Char} (hrun : run ≤ 2)
      (hfirst : Token quote hasEscapes first c) (h : Inside quote hasEscapes 0 encoded text) :
      Inside quote hasEscapes run (first ++ encoded) (c :: text)

section Inside

variable {quote : Char} {hasEscapes : Bool} {run : Nat} {encoded text : List Char}

theorem Inside.length_le (h : Inside quote hasEscapes run encoded text) :
    text.length ≤ encoded.length := by
  induction h with
  | done _ => exact Nat.le_refl _
  | quote _ ih => exact Nat.succ_le_succ ih
  | token _ hfirst _ ih =>
    have hpos := hfirst.length_pos
    rw [List.length_append, List.length_cons]
    omega

/-- Either nothing but a few quotes is left, or something else comes after a few quotes. -/
theorem Inside.quotes_or (h : Inside quote hasEscapes run encoded text) (hne : quote ≠ '\\') :
    (∃ n, n + run ≤ 2 ∧ encoded = List.replicate n quote ∧ text = List.replicate n quote) ∨
      ∃ n c more, n + run ≤ 2 ∧ c ≠ quote ∧ encoded = List.replicate n quote ++ c :: more := by
  induction h with
  | done hrun => exact .inl ⟨0, by omega, rfl, rfl⟩
  | quote _ ih =>
    rcases ih with ⟨n, hn, rfl, rfl⟩ | ⟨n, c, more, hn, hc, rfl⟩
    · exact .inl ⟨n + 1, by omega, rfl, rfl⟩
    · exact .inr ⟨n + 1, c, more, by omega, hc, rfl⟩
  | token hrun hfirst _ _ =>
    obtain ⟨c, more, rfl, hc⟩ := hfirst.exists_cons hne
    exact .inr ⟨0, c, _, by omega, hc, rfl⟩

theorem length_takeWhile_replicate {rest : List Char} (n : Nat) (h : rest.head? ≠ some quote) :
    ((List.replicate n quote ++ rest).takeWhile (· == quote)).length = n := by
  rw [List.takeWhile_append_of_pos (by simp)]
  cases rest with
  | nil => simp
  | cons c rest => simp_all

/-- The quotes before the closing ones are part of the string. -/
theorem closing?_replicate {rest : List Char} {n : Nat} (hn : n ≤ 2)
    (h : rest.head? ≠ some quote) :
    closing? quote (List.replicate n quote ++ (List.replicate 3 quote ++ rest)) =
      some (List.replicate n quote, rest) := by
  rw [← List.append_assoc, List.replicate_append_replicate]
  have hkept : min (n + 3 - 3) 2 = n := by omega
  have hdrop : (List.replicate (n + 3) quote ++ rest).drop (n + 3) = rest :=
    List.drop_left' List.length_replicate
  simp only [closing?, length_takeWhile_replicate _ h, hkept, hdrop]
  exact if_neg (by omega)

theorem closing?_of_ne {c : Char} {more : List Char} {n : Nat} (hn : n ≤ 2) (hc : c ≠ quote) :
    closing? quote (List.replicate n quote ++ c :: more) = none := by
  rw [closing?, length_takeWhile_replicate _ (by simpa using hc), if_pos (by omega)]

/-- An escape is no line break to be joined. -/
theorem joinLine?_of_escape? {text : List Char} {read : Char × List Char}
    (h : escape? text = some read) : joinLine? text = none := by
  unfold escape? at h
  split at h
  all_goals first | rfl | exact absurd h (by simp)

theorem severalLines?_cons {c : Char} {rest : List Char}
    (hclosing : closing? quote (c :: rest) = none) (hreturn : c ≠ '\r') (fuel : Nat) :
    severalLines? quote hasEscapes (fuel + 1) (c :: rest) =
      if hasEscapes && c == '\\' then
        match joinLine? rest with
        | some rest => severalLines? quote hasEscapes fuel rest
        | none => do
            let (escaped, rest) ← escape? rest
            let (inside, rest) ← severalLines? quote hasEscapes fuel rest
            return (escaped :: inside, rest)
      else if isForbidden c && c != '\n' then none
      else do
        let (inside, rest) ← severalLines? quote hasEscapes fuel rest
        return (c :: inside, rest) := by
  simp only [severalLines?, hclosing]
  split
  · next h => exact absurd h (by simp)
  · next h => exact absurd (List.cons.inj h).1 hreturn
  · next h =>
    obtain ⟨rfl, rfl⟩ := List.cons.inj h
    rfl
  · next h => exact absurd h (by simp)

theorem severalLines?_plain {c : Char} {rest : List Char}
    (hclosing : closing? quote (c :: rest) = none) (hallowed : isForbidden c = false ∨ c = '\n')
    (hescape : hasEscapes = true → c ≠ '\\') (fuel : Nat) :
    severalLines? quote hasEscapes (fuel + 1) (c :: rest) =
      (severalLines? quote hasEscapes fuel rest).map fun (inside, rest) => (c :: inside, rest) := by
  have hreturn : c ≠ '\r' := by
    rintro rfl
    exact absurd hallowed (by decide)
  have hplain : (hasEscapes && c == '\\') = false := by
    cases hasEscapes with
    | false => rfl
    | true => simpa using hescape rfl
  have hpasses : (isForbidden c && c != '\n') = false := by
    rcases hallowed with h | rfl
    · simp [h]
    · rfl
  rw [severalLines?_cons hclosing hreturn, hplain, hpasses]
  cases severalLines? quote hasEscapes fuel rest <;> rfl

theorem severalLines?_escape {body rest : List Char} {c : Char}
    (hclosing : closing? quote ('\\' :: (body ++ rest)) = none) (hescape : hasEscapes = true)
    (hbody : escape? (body ++ rest) = some (c, rest)) (fuel : Nat) :
    severalLines? quote hasEscapes (fuel + 1) ('\\' :: (body ++ rest)) =
      (severalLines? quote hasEscapes fuel rest).map fun (inside, rest) => (c :: inside, rest) := by
  rw [severalLines?_cons hclosing (by decide), hescape, joinLine?_of_escape? hbody, hbody,
    beq_self_eq_true, Bool.and_self, if_pos rfl]
  cases hread : severalLines? quote true fuel rest <;> simp [hread]

theorem severalLines?_token {first rest : List Char} {c : Char}
    (hfirst : Token quote hasEscapes first c) (hclosing : closing? quote (first ++ rest) = none)
    (fuel : Nat) :
    severalLines? quote hasEscapes (fuel + 1) (first ++ rest) =
      (severalLines? quote hasEscapes fuel rest).map fun (inside, rest) => (c :: inside, rest) := by
  cases hfirst with
  | plain _ hallowed hescape => exact severalLines?_plain hclosing (.inl hallowed) hescape fuel
  | lineBreak _ => exact severalLines?_plain hclosing (.inr rfl) (fun _ => by decide) fuel
  | escape hescape hbody => exact severalLines?_escape hclosing hescape (hbody rest) fuel

/-- The reader gives back the text and what follows its closing quotes. While only quotes are
left, the run of quotes is read at once; before that, one token after the other. -/
theorem severalLines?_of_inside (h : Inside quote hasEscapes run encoded text)
    (hne : quote ≠ '\\') (hallowed : isForbidden quote = false) {rest : List Char}
    (hrest : rest.head? ≠ some quote) {fuel : Nat} (hfuel : text.length < fuel) :
    severalLines? quote hasEscapes fuel (encoded ++ (List.replicate 3 quote ++ rest)) =
      some (text, rest) := by
  induction h generalizing fuel with
  | done _ =>
    obtain ⟨fuel, rfl⟩ : ∃ less, fuel = less + 1 := Nat.exists_eq_add_one.mpr (by omega)
    have hclosed := closing?_replicate (n := 0) (by omega) hrest
    simp only [List.replicate_zero, List.nil_append] at hclosed ⊢
    simp only [severalLines?, hclosed]
  | @quote run encoded text h ih =>
    obtain ⟨fuel, rfl⟩ : ∃ less, fuel = less + 1 := Nat.exists_eq_add_one.mpr (by omega)
    rcases h.quote.quotes_or hne with ⟨n, hn, hencoded, htext⟩ | ⟨n, c, more, hn, hc, hencoded⟩
    · rw [hencoded, htext]
      simp only [severalLines?, closing?_replicate (by omega : n ≤ 2) hrest]
    · have hclosing : closing? quote
          (quote :: (encoded ++ (List.replicate 3 quote ++ rest))) = none := by
        rw [← List.cons_append, hencoded, List.append_assoc, List.cons_append]
        exact closing?_of_ne (by omega) hc
      rw [List.cons_append, severalLines?_plain hclosing (.inl hallowed) fun _ => hne,
        ih (by simpa using hfuel)]
      rfl
  | @token run first encoded text c hrun hfirst h ih =>
    obtain ⟨fuel, rfl⟩ : ∃ less, fuel = less + 1 := Nat.exists_eq_add_one.mpr (by omega)
    have hclosing : closing? quote
        (first ++ (encoded ++ (List.replicate 3 quote ++ rest))) = none := by
      obtain ⟨d, more, rfl, hd⟩ := hfirst.exists_cons hne
      exact closing?_of_ne (n := 0) (by omega) hd
    rw [List.append_assoc, severalLines?_token hfirst hclosing, ih (by simpa using hfuel)]
    rfl

/-- What stands first between the quotes of a text without line breaks is no line break. -/
theorem Inside.newline?_eq_none (h : Inside quote hasEscapes run encoded text)
    (hbreak : '\n' ∉ text) (hallowed : isForbidden quote = false) (rest : List Char) :
    newline? (encoded ++ quote :: rest) = none := by
  have hnone : ∀ {c : Char} (rest : List Char), isForbidden c = false →
      newline? (c :: rest) = none := by
    intro c rest hc
    unfold newline?
    split
    · next h => exact absurd ((List.cons.inj h).1 ▸ hc) (by decide)
    · next h => exact absurd ((List.cons.inj h).1 ▸ hc) (by decide)
    · rfl
  cases h with
  | done _ | quote _ => exact hnone _ hallowed
  | token _ hfirst _ =>
    cases hfirst with
    | plain _ hc _ => exact hnone _ hc
    | lineBreak _ => exact absurd List.mem_cons_self hbreak
    | escape _ _ => exact hnone _ (by decide)

/-- A string over several lines may begin on the line after its quotes, and has to if its text
has line breaks. -/
theorem multiline?_of_inside (h : Inside quote hasEscapes 0 encoded text) (hne : quote ≠ '\\')
    (hallowed : isForbidden quote = false) {isMultiline : Bool}
    (hbreak : isMultiline = false → '\n' ∉ text) {rest : List Char}
    (hrest : rest.head? ≠ some quote) :
    multiline? quote hasEscapes ((if isMultiline then ['\n'] else []) ++
        (encoded ++ (List.replicate 3 quote ++ rest))) =
      some (text, rest) := by
  have hbody : (newline? ((if isMultiline then ['\n'] else []) ++
      (encoded ++ (List.replicate 3 quote ++ rest)))).getD ((if isMultiline then ['\n'] else []) ++
        (encoded ++ (List.replicate 3 quote ++ rest))) =
      encoded ++ (List.replicate 3 quote ++ rest) := by
    cases isMultiline with
    | true => rfl
    | false =>
      have hnone := h.newline?_eq_none (hbreak rfl) hallowed (quote :: quote :: rest)
      simp [hnone]
  have hlength := h.length_le
  rw [multiline?, hbody, severalLines?_of_inside h hne hallowed hrest]
  rw [List.length_append]
  omega

end Inside

/-! ## What the writer writes -/

theorem hasTriple_of_cons {c x : Char} {text : List Char} (h : hasTriple c (x :: text) = false) :
    hasTriple c text = false := by
  match text with
  | [] | [_] => rfl
  | y :: z :: rest => exact (Bool.or_eq_false_iff.mp h).2

theorem hasTriple_of_append {c : Char} {first second : List Char}
    (h : hasTriple c (first ++ second) = false) : hasTriple c second = false := by
  induction first with
  | nil => exact h
  | cons x first ih => exact ih (hasTriple_of_cons h)

/-- A text without three quotes in a row needs no escapes on their account. -/
theorem inside_flatMap {quote : Char} {hasEscapes : Bool} {encode : Char → List Char}
    {text : List Char}
    (h : ∀ c ∈ text, c = quote ∧ encode c = [quote] ∨ Token quote hasEscapes (encode c) c)
    {run : Nat} (hrun : run ≤ 2)
    (htriple : hasTriple quote (List.replicate run quote ++ text) = false) :
    Inside quote hasEscapes run (text.flatMap encode) text := by
  induction text generalizing run with
  | nil => exact .done hrun
  | cons c text ih =>
    obtain ⟨hc, htext⟩ := List.forall_mem_cons.mp h
    rw [List.flatMap_cons]
    rcases hc with ⟨rfl, hencode⟩ | htoken
    · have hmore : List.replicate run c ++ c :: text = List.replicate (run + 1) c ++ text := by
        rw [List.replicate_succ', List.append_assoc, List.singleton_append]
      rw [hmore] at htriple
      have hle : run + 1 ≤ 2 := by
        rcases Nat.lt_or_eq_of_le hrun with hlt | rfl
        · exact hlt
        · exact absurd htriple (by simp [List.replicate_succ, hasTriple])
      rw [hencode]
      exact .quote (ih htext hle htriple)
    · rw [← List.singleton_append, ← List.append_assoc] at htriple
      have htail : hasTriple quote (List.replicate 0 quote ++ text) = false :=
        hasTriple_of_append htriple
      exact .token hrun htoken (ih htext (Nat.zero_le 2) htail)

theorem inside_escapeLines {run : Nat} (hrun : run ≤ 2) (text : List Char) :
    Inside '"' true run (escapeLines run text) text := by
  fun_induction escapeLines run text with
  | case1 run => exact .done hrun
  | case2 rest ih => exact .token hrun (token_escapeOf '"') (ih (Nat.zero_le 2))
  | case3 run rest hfull ih => exact .quote (ih (by omega))
  | case4 run rest ih => exact .token hrun (.lineBreak (by decide)) (ih (Nat.zero_le 2))
  | case5 run c rest _ _ ih => exact .token hrun (token_escapeOf c) (ih (Nat.zero_le 2))

theorem Quoting.fits_of (text : List Char) : (Quoting.of text).fits text = true := by
  unfold Quoting.of
  cases hfind : List.find? _ _ with
  | none => rfl
  | some quoting => exact List.find?_some hfind

/-! ## Whole strings -/

/-- Behind the quote that opens a string on one line there are no two quotes more. -/
theorem ne_two_quotes {quote : Char} {encoded rest : List Char}
    (hencoded : encoded.head? ≠ some quote) (hrest : rest.head? ≠ some quote)
    (more : List Char) : encoded ++ quote :: rest ≠ quote :: quote :: more := by
  intro h
  cases encoded with
  | nil => exact hrest (by rw [(List.cons.inj h).2]; rfl)
  | cons c encoded => exact hencoded (by rw [(List.cons.inj h).1]; rfl)

theorem string?_eq_basic? {body : List Char} (h : ∀ more, body ≠ '"' :: '"' :: more) :
    string? ('"' :: body) = string?.finish (basic? body.length body) := by
  unfold string?
  split
  · next heq => exact absurd (List.cons.inj heq).2 (h _)
  · next heq => exact absurd (List.cons.inj heq).1 (by decide)
  · next heq => rw [(List.cons.inj heq).2]
  · next heq => exact absurd (List.cons.inj heq).1 (by decide)
  · next hne _ => exact absurd rfl (hne body)

theorem string?_eq_literal? {body : List Char} (h : ∀ more, body ≠ '\x27' :: '\x27' :: more) :
    string? ('\x27' :: body) = string?.finish (literal? body) := by
  unfold string?
  split
  · next heq => exact absurd (List.cons.inj heq).1 (by decide)
  · next heq => exact absurd (List.cons.inj heq).2 (h _)
  · next heq => exact absurd (List.cons.inj heq).1 (by decide)
  · next heq => rw [(List.cons.inj heq).2]
  · next hne => exact absurd rfl (hne body)

theorem string?_basic {encode : Char → List Char} {text rest : List Char}
    (h : ∀ c ∈ text, Token '"' true (encode c) c) (hbreak : '\n' ∉ text)
    (hrest : rest.head? ≠ some '"') :
    string? ('"' :: (text.flatMap encode ++ '"' :: rest)) = some (String.ofList text, rest) := by
  have hlength : text.length ≤ (text.flatMap encode ++ '"' :: rest).length := by
    rw [List.length_append]
    exact Nat.le_add_right_of_le (length_le_flatMap h)
  have hhead : (text.flatMap encode).head? ≠ some '"' := by
    cases text with
    | nil => simp
    | cons c text =>
      obtain ⟨d, more, hencode, hd⟩ := (h c List.mem_cons_self).exists_cons (by decide)
      simpa [hencode] using hd
  rw [string?_eq_basic? (ne_two_quotes hhead hrest), basic?_flatMap h hbreak hlength]
  rfl

theorem string?_literal {text rest : List Char}
    (h : ∀ c ∈ text, isForbidden c = false ∧ c ≠ '\x27') (hrest : rest.head? ≠ some '\x27') :
    string? ('\x27' :: (text ++ '\x27' :: rest)) = some (String.ofList text, rest) := by
  have hhead : text.head? ≠ some '\x27' := fun hhead =>
    (h _ (List.mem_of_head? hhead)).2 rfl
  rw [string?_eq_literal? (ne_two_quotes hhead hrest), literal?_append h]
  rfl

theorem string?_triple {quote : Char} (hquote : quote = '"' ∨ quote = '\x27')
    {encoded text rest : List Char} (h : Inside quote (quote == '"') 0 encoded text)
    {isMultiline : Bool} (hbreak : isMultiline = false → '\n' ∉ text)
    (hrest : rest.head? ≠ some quote) :
    string? (triple quote isMultiline encoded ++ rest) = some (String.ofList text, rest) := by
  have htriple : triple quote isMultiline encoded ++ rest = quote :: quote :: quote ::
      ((if isMultiline then ['\n'] else []) ++ (encoded ++ (List.replicate 3 quote ++ rest))) := by
    simp [triple, List.replicate_succ]
  rw [htriple]
  rcases hquote with rfl | rfl
  · have hread := multiline?_of_inside h (by decide) (by decide) hbreak hrest
    exact congrArg string?.finish hread
  · have hread := multiline?_of_inside h (by decide) (by decide) hbreak hrest
    exact congrArg string?.finish hread

theorem string?_writeString (s : String) {rest : List Char} (hrest : rest.head? ≠ some '"')
    (hrest' : rest.head? ≠ some '\x27') :
    string? ((writeString s).toList ++ rest) = some (s, rest) := by
  have hfits := Quoting.fits_of s.toList
  have hcontains : s.toList.contains '\n' = false → '\n' ∉ s.toList := by simp
  rw [writeString, String.toList_ofList]
  cases hquoting : Quoting.of s.toList with
  | basic =>
    simp only [hquoting, Quoting.fits, List.all_eq_true, Bool.and_eq_true, Bool.not_eq_true',
      bne_iff_ne] at hfits
    have hbreak : '\n' ∉ s.toList := fun hmem => (hfits _ hmem).1.1.2 rfl
    have hread := string?_basic
      (fun c hc => token_escapeTab (hfits c hc).2 (hfits c hc).1.1.1 (hfits c hc).1.2) hbreak hrest
    simpa [escapeTabs] using hread
  | literal =>
    simp only [hquoting, Quoting.fits, List.all_eq_true, Bool.and_eq_true, Bool.not_eq_true',
      bne_iff_ne] at hfits
    have hallowed : ∀ c ∈ s.toList, isForbidden c = false ∧ c ≠ '\x27' := fun c hc =>
      ⟨isForbidden_of_not_isControl (hfits c hc).1.1 (hfits c hc).1.2, (hfits c hc).2⟩
    simpa using string?_literal hallowed hrest'
  | multilineBasic =>
    simp only [hquoting, Quoting.fits, List.all_eq_true, Bool.and_eq_true, Bool.not_eq_true',
      bne_iff_ne] at hfits
    have hinside : Inside '"' true 0 (escapeTabs s.toList) s.toList := by
      refine inside_flatMap (fun c hc => ?_) (Nat.zero_le 2) hfits.2
      by_cases hquote : c = '"'
      · exact .inl ⟨hquote, by rw [hquote]; rfl⟩
      · exact .inr (token_escapeTab hquote (hfits.1 c hc).1 (hfits.1 c hc).2)
    simpa using string?_triple (.inl rfl) hinside hcontains hrest
  | multilineLiteral =>
    simp only [hquoting, Quoting.fits, List.all_eq_true, Bool.and_eq_true, Bool.not_eq_true']
      at hfits
    have hinside : Inside '\x27' false 0 (s.toList.flatMap fun c => [c]) s.toList := by
      refine inside_flatMap (fun c hc => ?_) (Nat.zero_le 2) hfits.2
      by_cases hquote : c = '\x27'
      · exact .inl ⟨hquote, by rw [hquote]⟩
      by_cases hline : c = '\n'
      · exact .inr (hline ▸ .lineBreak (by decide))
      · have hforbidden := isForbidden_of_not_isControl (hfits.1 c hc) hline
        exact .inr (.plain hquote hforbidden fun h => absurd h (by decide))
    rw [List.flatMap_singleton'] at hinside
    simpa using string?_triple (.inr rfl) hinside hcontains hrest'
  | escaped =>
    by_cases hmulti : '\n' ∈ s.toList
    · have hinside := inside_escapeLines (Nat.zero_le 2) s.toList
      have hbreak : true = false → '\n' ∉ s.toList := by simp
      have hread := string?_triple (.inl rfl) hinside hbreak hrest
      simpa [hmulti] using hread
    · have hread := string?_basic (fun c _ => token_escapeOf c) hmulti hrest
      simpa [hmulti] using hread

end Toml
end Clearance
