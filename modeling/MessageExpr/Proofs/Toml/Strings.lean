import MessageExpr.Proofs.Text.Basic
import MessageExpr.Toml.Written

/-!
# Reading strings and names back

A string is written in one of four forms, by what it holds, and a name in one of three. The readers
tell the forms apart by their first characters and find in each of them the text that was written
(`readString_writtenString`, `readName_writtenKey`).

On one line a text is written character by character, and each character can be told from what
follows it. On several lines one or two quotes may stand as they are, and the reader has to look
ahead: up to two quotes in front of the closing ones belong to the text. What is written there never
has three quotes in a row (`SpelledOut`), so a reader that looks ahead by three finds the end
(`ReadsLines.read_spelledOut`). This is the same for the two kinds of quotes.
-/

set_option autoImplicit false

namespace MessageExpr.Toml

/-! ## Characters -/

/-- A character that needs no escape and is no line end may stand in every string. -/
theorem isPlain_of_not_needsEscape {character : Char} (unescaped : needsEscape character = false)
    (notNewline : character ≠ '\n') : isPlain character = true := by
  simp only [needsEscape, Bool.and_eq_false_iff, decide_eq_false_iff_not, Bool.or_eq_false_iff,
    ne_eq, Classical.not_not] at unescaped
  obtain (rfl | rfl) | ⟨visible, notDelete⟩ := unescaped
  · rfl
  · exact absurd rfl notNewline
  · have above : ' ' ≤ character := Char.not_lt.mp visible
    simp [isPlain, above, notDelete]

theorem ne_return_of_isPlain {character : Char} (plain : isPlain character = true) :
    character ≠ '\r' := by
  rintro rfl
  cases plain

/-- A character in a form that starts with a backslash. -/
inductive Escape : Char → List Char → Prop where
  | letter {letter character : Char} (means : escaped? letter = some character) :
      Escape character ['\\', letter]
  | code {a b c d character : Char} (means : ofHexDigits? [a, b, c, d] = some character) :
      Escape character ['\\', 'u', a, b, c, d]

theorem fourHexDigits_spec : ∀ code < 128,
    (fourHexDigits code).length = 4 ∧ ofHexDigits? (fourHexDigits code) = some (Char.ofNat code) := by
  decide

theorem escape_code {character : Char} (low : character.toNat < 128) :
    Escape character (['\\', 'u'] ++ fourHexDigits character.toNat) := by
  obtain ⟨four, means⟩ := fourHexDigits_spec character.toNat low
  match digits : fourHexDigits character.toNat, four with
  | [a, b, c, d], _ =>
      rw [digits, Char.ofNat_toNat] at means
      exact .code means

theorem toNat_lt_of_needsEscape {character : Char} (needs : needsEscape character = true) :
    character.toNat < 128 := by
  simp only [needsEscape, Bool.and_eq_true, Bool.or_eq_true, decide_eq_true_eq] at needs
  obtain ⟨-, below | rfl⟩ := needs
  · have : character.toNat < ' '.toNat := below
    exact Nat.lt_trans this (by decide)
  · decide

/-- **A character is written as an escape, or as it is and may then stand between quotes.** -/
theorem writtenCharacter_cases (character : Char) :
    Escape character (writtenCharacter character) ∨
      writtenCharacter character = [character] ∧ isPlain character = true ∧ character ≠ '\\' ∧
        character ≠ '"' := by
  rw [writtenCharacter]
  -- Seven characters have a letter of their own.
  iterate 7
    split
    · rename_i same
      exact .inl (.letter (by rw [same]; rfl))
  split
  · rename_i needs
    exact .inl (escape_code (toNat_lt_of_needsEscape needs))
  · rename_i notNewline _ _ notQuote notBackslash unescaped
    have plain := isPlain_of_not_needsEscape (Bool.eq_false_iff.mpr unescaped) notNewline
    exact .inr ⟨rfl, plain, notBackslash, notQuote⟩

/-! ## Reading characters -/

/-- No letter of an escape is the one before digits. -/
theorem not_codeLetter_of_escaped? {letter character : Char}
    (means : escaped? letter = some character) : letter ≠ 'u' ∧ letter ≠ 'U' := by
  constructor <;> rintro rfl <;> cases means

theorem Escape.readBasic {character : Char} {written : List Char}
    (escape : Escape character written) (rest : List Char) :
    readBasic (written ++ rest) = consing character (readBasic rest) := by
  cases escape with
  | @letter letter _ means =>
      obtain ⟨notSmall, notCapital⟩ := not_codeLetter_of_escaped? means
      simp [Toml.readBasic, notSmall, notCapital, means, consingEscape]
  | code means => simp [Toml.readBasic, means, consingEscape]

theorem Escape.readMultilineBasic {character : Char} {written : List Char}
    (escape : Escape character written) (rest : List Char) :
    readMultilineBasic false (written ++ rest) =
      consing character (readMultilineBasic false rest) := by
  cases escape with
  | @letter letter _ means =>
      obtain ⟨notSmall, notCapital⟩ := not_codeLetter_of_escaped? means
      simp [Toml.readMultilineBasic, notSmall, notCapital, means]
  | code means => simp [Toml.readMultilineBasic, means, consingEscape]

theorem readBasic_cons {character : Char} (plain : isPlain character = true)
    (notBackslash : character ≠ '\\') (notQuote : character ≠ '"') (rest : List Char) :
    readBasic (character :: rest) = consing character (readBasic rest) := by
  simp [readBasic, plain, notBackslash]

/-! ## Strings on one line -/

theorem readBasic_writtenCharacter (character : Char) (rest : List Char) :
    readBasic (writtenCharacter character ++ rest) = consing character (readBasic rest) := by
  obtain escape | ⟨itself, plain, notBackslash, notQuote⟩ := writtenCharacter_cases character
  · exact escape.readBasic rest
  · rw [itself]
    exact readBasic_cons plain notBackslash notQuote rest

/-- **A text between double quotes is read back.** -/
theorem readBasic_flatMap_writtenCharacter (content rest : List Char) :
    readBasic (content.flatMap writtenCharacter ++ '"' :: rest) = some (content, rest) := by
  induction content with
  | nil => rfl
  | cons character more ih =>
      rw [List.flatMap_cons, List.append_assoc, readBasic_writtenCharacter, ih]
      rfl

theorem readLiteral_cons {character : Char} (plain : isPlain character = true)
    (notQuote : character ≠ '\'') (rest : List Char) :
    readLiteral (character :: rest) = consing character (readLiteral rest) := by
  simp [readLiteral, plain]

theorem isPlainLiteral_iff {content : List Char} :
    isPlainLiteral content = true ↔
      ∀ character ∈ content, needsEscape character = false ∧ character ≠ '\'' ∧
        character ≠ '\n' := by
  simp only [isPlainLiteral, Bool.and_eq_true, Bool.not_eq_true', List.any_eq_false]
  grind

/-- **A text between single quotes is read back if it can stand there.** -/
theorem readLiteral_content {content : List Char} (plain : isPlainLiteral content = true)
    (rest : List Char) : readLiteral (content ++ '\'' :: rest) = some (content, rest) := by
  rw [isPlainLiteral_iff] at plain
  induction content with
  | nil => rfl
  | cons character more ih =>
      obtain ⟨⟨unescaped, notQuote, notNewline⟩, morePlain⟩ := List.forall_mem_cons.mp plain
      rw [List.cons_append,
        readLiteral_cons (isPlain_of_not_needsEscape unescaped notNewline) notQuote, ih morePlain]
      rfl

/-! ## Strings on several lines -/

/-- How a text is written on several lines between three quotes, where `run` quotes stand before it:
character by character as it is or as an escape, with at most two quotes in a row. -/
inductive SpelledOut (quote : Char) (asItIs : Char → Prop) (escape : Char → List Char → Prop) :
    Nat → List Char → List Char → Prop where
  | nil (run : Nat) : SpelledOut quote asItIs escape run [] []
  | plain {run : Nat} {character : Char} {content written : List Char} (stands : asItIs character)
      (more : SpelledOut quote asItIs escape 0 content written) :
      SpelledOut quote asItIs escape run (character :: content) (character :: written)
  | quoted {run : Nat} {content written : List Char} (few : run < 2)
      (more : SpelledOut quote asItIs escape (run + 1) content written) :
      SpelledOut quote asItIs escape run (quote :: content) (quote :: written)
  | escaped {run : Nat} {character : Char} {form content written : List Char}
      (escapes : escape character form) (more : SpelledOut quote asItIs escape 0 content written) :
      SpelledOut quote asItIs escape run (character :: content) (form ++ written)

/-- The reader takes what is written on several lines one character at a time, and ends at three
quotes. -/
structure ReadsLines (quote : Char) (asItIs : Char → Prop) (escape : Char → List Char → Prop)
    (read : Reader (List Char)) : Prop where
  closing : ∀ rest, read (quote :: quote :: quote :: rest) = readClosing quote rest
  plain : ∀ {character}, asItIs character →
    ∀ rest, read (character :: rest) = consing character (read rest)
  quoted : ∀ {rest}, ¬ [quote, quote] <+: rest → read (quote :: rest) = consing quote (read rest)
  escaped : ∀ {character form}, escape character form →
    ∀ rest, read (form ++ rest) = consing character (read rest)
  stands : ∀ {character}, asItIs character → character = '\n' ∨ isPlain character = true
  notQuote : ∀ {character}, asItIs character → character ≠ quote
  backslash : ∀ {character form}, escape character form → ∃ more, form = '\\' :: more
  isQuote : isPlain quote = true ∧ quote ≠ '\\'

section SeveralLines

variable {quote : Char} {asItIs : Char → Prop} {escape : Char → List Char → Prop}
  {read : Reader (List Char)} {content written : List Char}

theorem readClosing_replicate {count : Nat} (few : count ≤ 2) {rest : List Char}
    (stops : rest.head? ≠ some quote) :
    readClosing quote (List.replicate count quote ++ rest) =
      some (List.replicate count quote, rest) := by
  have notNext : ∀ {next more}, rest = next :: more → next ≠ quote := by
    rintro next more rfl rfl
    exact stops rfl
  match count, few with
  | 0, _ => match rest with
    | [] => rfl
    | [last] => simp [readClosing, notNext rfl]
    | first :: second :: more => simp [readClosing, notNext rfl]
  | 1, _ => match rest with
    | [] => simp [readClosing]
    | next :: more => simp [readClosing, notNext rfl]
  | 2, _ => simp [readClosing, List.replicate]

/-- Where a quote comes next, it is one of the text or the text is at its end. -/
theorem SpelledOut.cases_of_quote (reads : ReadsLines quote asItIs escape read) {run : Nat}
    (spelled : SpelledOut quote asItIs escape run content written) {rest : List Char}
    (next : [quote] <+: written ++ rest) :
    content = [] ∧ written = [] ∨
      ∃ more left, run < 2 ∧ content = quote :: more ∧ written = quote :: left ∧
        SpelledOut quote asItIs escape (run + 1) more left := by
  cases spelled with
  | nil => exact .inl ⟨rfl, rfl⟩
  | plain stands more =>
      obtain ⟨same, -⟩ := List.cons_prefix_cons.mp next
      exact absurd same.symm (reads.notQuote stands)
  | quoted few more => exact .inr ⟨_, _, few, rfl, rfl, more⟩
  | escaped escapes more =>
      obtain ⟨others, rfl⟩ := reads.backslash escapes
      obtain ⟨same, -⟩ := List.cons_prefix_cons.mp next
      exact absurd same reads.isQuote.2

/-- Two quotes behind a first one belong to the closing ones, except for at most one of the text. -/
theorem SpelledOut.eq_replicate (reads : ReadsLines quote asItIs escape read) {run : Nat}
    (spelled : SpelledOut quote asItIs escape (run + 1) content written) {rest : List Char}
    (next : [quote, quote] <+: written ++ rest) :
    ∃ count ≤ 1, content = List.replicate count quote ∧ written = List.replicate count quote := by
  have one : [quote] <+: [quote, quote] := ⟨[quote], rfl⟩
  obtain ⟨rfl, rfl⟩ | ⟨more, left, -, rfl, rfl, spelledMore⟩ :=
    spelled.cases_of_quote reads (one.trans next)
  · exact ⟨0, Nat.zero_le 1, rfl, rfl⟩
  obtain ⟨-, nextAgain⟩ := List.cons_prefix_cons.mp next
  obtain ⟨rfl, rfl⟩ | ⟨_, _, few, -⟩ := spelledMore.cases_of_quote reads nextAgain
  · exact ⟨1, Nat.le_refl 1, rfl, rfl⟩
  · omega

/-- **What is written between three quotes is read back.** -/
theorem ReadsLines.read_spelledOut (reads : ReadsLines quote asItIs escape read) {run : Nat}
    (spelled : SpelledOut quote asItIs escape run content written) {rest : List Char}
    (stops : rest.head? ≠ some quote) :
    read (written ++ quote :: quote :: quote :: rest) = some (content, rest) := by
  induction spelled with
  | nil run =>
      rw [List.nil_append, reads.closing]
      exact readClosing_replicate (Nat.zero_le 2) stops
  | plain stands more ih =>
      rw [List.cons_append, reads.plain stands, ih]
      rfl
  | escaped escapes more ih =>
      rw [List.append_assoc, reads.escaped escapes, ih]
      rfl
  | @quoted run content written few more ih =>
      by_cases goesOn : [quote, quote] <+: written ++ quote :: quote :: quote :: rest
      · obtain ⟨count, few, rfl, rfl⟩ := more.eq_replicate reads goesOn
        -- The reader takes the first three quotes for the closing ones and gives the last back.
        have moved : quote :: List.replicate count quote ++ quote :: quote :: quote :: rest =
            quote :: quote :: quote :: (List.replicate (count + 1) quote ++ rest) := by
          match count, few with
          | 0, _ => rfl
          | 1, _ => rfl
        rw [moved, reads.closing, readClosing_replicate (by omega) stops]
        rfl
      · rw [List.cons_append, reads.quoted goesOn, ih]
        rfl

/-- A text without line ends is not written with one at its front. -/
theorem SpelledOut.dropNewline_eq (reads : ReadsLines quote asItIs escape read) {run : Nat}
    (spelled : SpelledOut quote asItIs escape run content written) (oneLine : '\n' ∉ content)
    (rest : List Char) : dropNewline (written ++ quote :: rest) = written ++ quote :: rest := by
  have visible : ∀ {first : Char}, isPlain first = true → ∀ more,
      dropNewline (first :: more) = first :: more := by
    intro first plain more
    have notNewline : first ≠ '\n' := by
      rintro rfl
      cases plain
    have notReturn := ne_return_of_isPlain plain
    simp [dropNewline, readNewline?, notNewline, notReturn]
  cases spelled with
  | nil => exact visible reads.isQuote.1 rest
  | plain stands more =>
      have notNewline := Ne.symm (List.ne_of_not_mem_cons oneLine)
      exact visible ((reads.stands stands).resolve_left notNewline) _
  | quoted few more => exact visible reads.isQuote.1 _
  | escaped escapes more =>
      obtain ⟨others, rfl⟩ := reads.backslash escapes
      exact visible rfl _

/-- A line end is put in front of a text that has one, and taken off again. -/
theorem SpelledOut.dropNewline_openingLine (reads : ReadsLines quote asItIs escape read) {run : Nat}
    (spelled : SpelledOut quote asItIs escape run content written) (rest : List Char) :
    dropNewline (openingLine content ++ (written ++ quote :: rest)) = written ++ quote :: rest := by
  rw [openingLine]
  split
  · rfl
  · rename_i oneLine
    refine spelled.dropNewline_eq reads (fun member => oneLine ?_) rest
    simpa using member

theorem le_longestRun (run : Nat) (content : List Char) : run ≤ longestRun quote run content := by
  induction content generalizing run with
  | nil => exact Nat.le_refl run
  | cons character more ih =>
      rw [longestRun]
      split
      · exact Nat.le_trans (Nat.le_succ run) (ih (run + 1))
      · exact Nat.le_max_left _ _

/-- A text without more than two quotes in a row is written as it is. -/
theorem SpelledOut.of_longestRun {run : Nat}
    (stands : ∀ character ∈ content, character ≠ quote → asItIs character)
    (few : longestRun quote run content ≤ 2) :
    SpelledOut quote asItIs escape run content content := by
  induction content generalizing run with
  | nil => exact .nil run
  | cons character more ih =>
      obtain ⟨first, moreStands⟩ := List.forall_mem_cons.mp stands
      rw [longestRun] at few
      split at few
      · rename_i same
        subst same
        have fewBefore := Nat.le_trans (le_longestRun (run + 1) more) few
        exact .quoted (by omega) (ih moreStands few)
      · rename_i notQuote
        have fewMore := Nat.le_trans (Nat.le_max_right _ _) few
        exact .plain (first notQuote) (ih moreStands fewMore)

end SeveralLines

/-- The characters that stand as they are on several lines between double quotes. -/
def StandsInBasic (character : Char) : Prop :=
  (character = '\n' ∨ isPlain character = true) ∧ character ≠ '\\' ∧ character ≠ '"'

/-- The characters that stand as they are on several lines between single quotes. -/
def StandsInLiteral (character : Char) : Prop :=
  (character = '\n' ∨ isPlain character = true) ∧ character ≠ '\''

theorem readsLines_basic : ReadsLines '"' StandsInBasic Escape (readMultilineBasic false) where
  closing := fun rest => by simp [readMultilineBasic]
  plain := by
    rintro character ⟨newline | plain, notBackslash, notQuote⟩ rest
    · subst newline
      rfl
    · have notReturn := ne_return_of_isPlain plain
      simp [readMultilineBasic, plain, notBackslash, notQuote, notReturn]
  quoted := by
    intro rest alone
    have notClosing : ∀ left, rest = '"' :: '"' :: left → False := by
      rintro left rfl
      exact alone ⟨left, rfl⟩
    rw [readMultilineBasic]
    · simp [isPlain]
    · exact fun left _ => notClosing left
    all_goals simp
  escaped := fun escape rest => escape.readMultilineBasic rest
  stands := fun stands => stands.1
  notQuote := fun stands => stands.2.2
  backslash := by
    rintro character form (means | means)
    · exact ⟨_, rfl⟩
    · exact ⟨_, rfl⟩
  isQuote := ⟨rfl, by decide⟩

theorem readsLines_literal :
    ReadsLines '\'' StandsInLiteral (fun _ _ => False) readMultilineLiteral where
  closing := fun rest => by simp [readMultilineLiteral]
  plain := by
    rintro character ⟨newline | plain, notQuote⟩ rest
    · subst newline
      rfl
    · have notReturn := ne_return_of_isPlain plain
      simp [readMultilineLiteral, plain, notQuote, notReturn]
  quoted := by
    intro rest alone
    have notClosing : ∀ left, rest = '\'' :: '\'' :: left → False := by
      rintro left rfl
      exact alone ⟨left, rfl⟩
    rw [readMultilineLiteral]
    · simp [isPlain]
    · exact fun left _ => notClosing left
    all_goals simp
  escaped := fun escape => escape.elim
  stands := fun stands => stands.1
  notQuote := fun stands => stands.2
  backslash := fun escape => escape.elim
  isQuote := ⟨rfl, by decide⟩

/-- Of quotes in a row every third is escaped. -/
theorem spelledOut_writtenLines (run : Nat) (content : List Char) :
    SpelledOut '"' StandsInBasic Escape run content (writtenLines run content) := by
  induction content generalizing run with
  | nil => exact .nil run
  | cons character more ih =>
      rw [writtenLines]
      split
      · rename_i newline
        subst newline
        exact .plain ⟨.inl rfl, by decide, by decide⟩ (ih 0)
      split
      · rename_i few
        simp only [Bool.and_eq_true, decide_eq_true_eq] at few
        obtain ⟨rfl, few⟩ := few
        exact .quoted few (ih (run + 1))
      · obtain escape | ⟨itself, plain, notBackslash, notQuote⟩ := writtenCharacter_cases character
        · exact .escaped escape (ih 0)
        · rw [itself]
          exact .plain ⟨.inr plain, notBackslash, notQuote⟩ (ih 0)

/-- What can stand on several lines between single quotes is written there as it is. -/
theorem spelledOut_of_isPlainMultilineLiteral {content : List Char}
    (plain : isPlainMultilineLiteral content = true) :
    SpelledOut '\'' StandsInLiteral (fun _ _ => False) 0 content content := by
  simp only [isPlainMultilineLiteral, Bool.and_eq_true, Bool.not_eq_true', List.any_eq_false,
    decide_eq_true_eq] at plain
  obtain ⟨unescaped, few⟩ := plain
  refine .of_longestRun (fun character member notQuote => ⟨?_, notQuote⟩) few
  refine Decidable.or_iff_not_imp_left.mpr fun notNewline => ?_
  exact isPlain_of_not_needsEscape (Bool.eq_false_iff.mpr (unescaped character member)) notNewline

/-! ## Strings -/

/-- The text does not start with a quote. -/
def NoQuote (rest : List Char) : Prop := rest.head? ≠ some '"' ∧ rest.head? ≠ some '\''

section Strings

variable {content written rest : List Char} (noQuote : NoQuote rest)
include noQuote

theorem readString_basic (content : List Char) :
    readString (writtenBasic content ++ rest) = some (String.ofList content, rest) := by
  have form : writtenBasic content ++ rest =
      '"' :: (content.flatMap writtenCharacter ++ '"' :: rest) := by
    simp [writtenBasic]
  have read := readBasic_flatMap_writtenCharacter content rest
  rw [form]
  generalize content.flatMap writtenCharacter ++ '"' :: rest = text at read
  -- Two more quotes in front would be an empty string before one of them.
  have alone : ∀ left, text = '"' :: '"' :: left → False := by
    rintro left rfl
    cases read
    exact noQuote.1 rfl
  simp [readString, read]

theorem readString_literal (plain : isPlainLiteral content = true) :
    readString (writtenLiteral content ++ rest) = some (String.ofList content, rest) := by
  have form : writtenLiteral content ++ rest = '\'' :: (content ++ '\'' :: rest) := by
    simp [writtenLiteral]
  have read := readLiteral_content plain rest
  rw [form]
  generalize content ++ '\'' :: rest = text at read
  have alone : ∀ left, text = '\'' :: '\'' :: left → False := by
    rintro left rfl
    cases read
    exact noQuote.2 rfl
  simp [readString, read]

theorem readString_multilineBasic (content : List Char) :
    readString (writtenMultilineBasic content ++ rest) = some (String.ofList content, rest) := by
  have form : writtenMultilineBasic content ++ rest =
      '"' :: '"' :: '"' ::
        (openingLine content ++ (writtenLines 0 content ++ '"' :: '"' :: '"' :: rest)) := by
    simp [writtenMultilineBasic]
  have spelled := spelledOut_writtenLines 0 content
  simp only [form, readString, spelled.dropNewline_openingLine readsLines_basic,
    readsLines_basic.read_spelledOut spelled noQuote.1]
  rfl

theorem readString_multilineLiteral (plain : isPlainMultilineLiteral content = true) :
    readString (writtenMultilineLiteral content ++ rest) = some (String.ofList content, rest) := by
  have form : writtenMultilineLiteral content ++ rest =
      '\'' :: '\'' :: '\'' ::
        (openingLine content ++ (content ++ '\'' :: '\'' :: '\'' :: rest)) := by
    simp [writtenMultilineLiteral]
  have spelled := spelledOut_of_isPlainMultilineLiteral plain
  simp only [form, readString, spelled.dropNewline_openingLine readsLines_literal,
    readsLines_literal.read_spelledOut spelled noQuote.2]
  rfl

/-- **A string is read back in whatever form it is written.** -/
theorem readString_writtenString (content : List Char) :
    readString (writtenString content ++ rest) = some (String.ofList content, rest) := by
  rw [writtenString]
  split
  · exact readString_basic noQuote content
  split
  · exact readString_literal noQuote ‹_›
  split
  · exact readString_multilineBasic noQuote content
  split
  · exact readString_multilineLiteral noQuote ‹_›
  split
  · exact readString_multilineBasic noQuote content
  · exact readString_basic noQuote content

end Strings

/-! ## Names -/

theorem readName_bare {content rest : List Char} (nonempty : content ≠ [])
    (bare : ∀ character ∈ content, isBare character = true) (stops : Text.StopsAt isBare rest) :
    readName (content ++ rest) = some (String.ofList content, rest) := by
  have name := Text.takeWhile_span bare stops
  have left := Text.dropWhile_span bare stops
  obtain ⟨first, more, rfl⟩ := List.exists_cons_of_ne_nil nonempty
  have notDouble : first ≠ '"' := by
    rintro rfl
    cases bare _ List.mem_cons_self
  have notSingle : first ≠ '\'' := by
    rintro rfl
    cases bare _ List.mem_cons_self
  rw [List.cons_append] at name left ⊢
  simp [readName, name, left, notDouble, notSingle]

theorem readName_basic (content rest : List Char) :
    readName (writtenBasic content ++ rest) = some (String.ofList content, rest) := by
  simp [writtenBasic, readName, readBasic_flatMap_writtenCharacter]

/-- **A name is read back in whatever form it is written**, if what follows is no part of it. -/
theorem readName_writtenKey (content : List Char) {rest : List Char}
    (stops : Text.StopsAt isBare rest) :
    readName (writtenKey content ++ rest) = some (String.ofList content, rest) := by
  rw [writtenKey]
  split
  · rename_i bare
    simp only [Bool.and_eq_true, Bool.not_eq_true', List.isEmpty_eq_false_iff, List.all_eq_true]
      at bare
    exact readName_bare bare.1 bare.2 stops
  split
  · exact readName_basic content rest
  split
  · rename_i plain
    simp [writtenLiteral, readName, readLiteral_content plain]
  · exact readName_basic content rest

end MessageExpr.Toml
