import MessageExpr.Proofs.Toml.Strings
import MessageExpr.Proofs.Toml.Words
import MessageExpr.Toml.Document

/-!
# Reading lines back

A written line is a pair of a name and a value, the header of a table, or blank. Each is read as
such, whatever follows it (`IsLine`). The first character of a written name or value tells the reader
what it is: a name starts with a quote or a character that needs none, a string with a quote, and a
natural number with a digit.
-/

set_option autoImplicit false

namespace MessageExpr.Toml

open Decimal Text

/-! ## Keys -/

/-- The character a written name can start with. -/
def StartsName (first : Char) : Prop := first = '"' ∨ first = '\'' ∨ isBare first = true

theorem startsName_writtenKey (content : List Char) :
    ∃ first more, writtenKey content = first :: more ∧ StartsName first := by
  rw [writtenKey]
  split
  · rename_i bare
    simp only [Bool.and_eq_true, Bool.not_eq_true', List.isEmpty_eq_false_iff, List.all_eq_true]
      at bare
    obtain ⟨first, more, rfl⟩ := List.exists_cons_of_ne_nil bare.1
    exact ⟨first, more, rfl, .inr (.inr (bare.2 first List.mem_cons_self))⟩
  split
  · exact ⟨_, _, rfl, .inl rfl⟩
  split
  · exact ⟨_, _, rfl, .inr (.inl rfl)⟩
  · exact ⟨_, _, rfl, .inl rfl⟩

/-- No character outside names starts one. -/
theorem StartsName.ne {first other : Char} (starts : StartsName first)
    (outside : ¬ StartsName other) : first ≠ other := by
  rintro rfl
  exact outside starts

instance (first : Char) : Decidable (StartsName first) :=
  inferInstanceAs (Decidable (_ ∨ _ ∨ _))

theorem skipBlanks_cons {first : Char} (visible : isBlank first = false) (more : List Char) :
    skipBlanks (first :: more) = first :: more := by
  simp [skipBlanks, visible]

theorem StartsName.isBlank {first : Char} (starts : StartsName first) : isBlank first = false := by
  have notSpace : first ≠ ' ' := starts.ne (by decide)
  have notTab : first ≠ '\t' := starts.ne (by decide)
  simp [Toml.isBlank, notSpace, notTab]

/-- **A single name is read back as a key.** -/
theorem readKey_writtenKey (limit : Nat) (content : List Char) {rest : List Char}
    (stops : StopsAt isBare rest) (noDot : (skipBlanks rest).head? ≠ some '.') :
    readKey (limit + 1) (writtenKey content ++ rest) =
      some ([String.ofList content], skipBlanks rest) := by
  obtain ⟨first, more, form, starts⟩ := startsName_writtenKey content
  have skipped : skipBlanks (writtenKey content ++ rest) = writtenKey content ++ rest := by
    rw [form, List.cons_append, skipBlanks_cons starts.isBlank]
  rw [readKey, skipped, readName_writtenKey content stops]
  simp only
  split
  · rename_i dotted
    exact absurd (by rw [dotted]; rfl) noDot
  · rfl

/-! ## Values -/

theorem startsQuote_writtenString (content : List Char) :
    ∃ more, writtenString content = '"' :: more ∨ writtenString content = '\'' :: more := by
  rw [writtenString]
  split
  · exact ⟨_, .inl rfl⟩
  split
  · exact ⟨_, .inr rfl⟩
  split
  · exact ⟨_, .inl rfl⟩
  split
  · exact ⟨_, .inr rfl⟩
  split
  · exact ⟨_, .inl rfl⟩
  · exact ⟨_, .inl rfl⟩

theorem readValue_writtenString (depth : Nat) (content : List Char) {rest : List Char}
    (noQuote : NoQuote rest) :
    readValue depth (writtenString content ++ rest) =
      some (.text (String.ofList content), rest) := by
  have read := readString_writtenString noQuote content
  obtain ⟨more, form | form⟩ := startsQuote_writtenString content
  · rw [form, List.cons_append] at read ⊢
    cases depth <;> simp [readValue, read]
  · rw [form, List.cons_append] at read ⊢
    cases depth <;> simp [readValue, read]

theorem readValue_toDigits (depth : Nat) {natural : Nat} (fits : natural ≤ 9223372036854775807)
    {rest : List Char} (stops : StopsAt isWordCharacter rest) (noSpace : rest.head? ≠ some ' ') :
    readValue depth (Nat.toDigits 10 natural ++ rest) = some (.integer natural, rest) := by
  have read := readWord_toDigits fits stops noSpace
  obtain ⟨nonempty, areDigits⟩ := digits_toDigits natural
  obtain ⟨first, more, form⟩ := List.exists_cons_of_ne_nil nonempty
  rw [form] at read areDigits ⊢
  have isDigit := areDigits first List.mem_cons_self
  have notDouble : first ≠ '"' := ne_of_isDigit isDigit rfl
  have notSingle : first ≠ '\'' := ne_of_isDigit isDigit rfl
  have notBracket : first ≠ '[' := ne_of_isDigit isDigit rfl
  have notBrace : first ≠ '\x7b' := ne_of_isDigit isDigit rfl
  rw [List.cons_append] at read ⊢
  cases depth with
  | zero => simp [readValue, read, notDouble, notSingle]
  | succ depth => simp [readValue, read, notDouble, notSingle, notBracket, notBrace]

/-! ## Lines -/

/-- The text is read as this line, whatever follows it. -/
def IsLine (text : List Char) (line : Line) : Prop :=
  text ≠ [] ∧ ∀ rest, readLine (text ++ rest) = some (line, rest)

/-- A written line ends where its content does. -/
theorem readLine_of_content {characters rest : List Char} {line : Line}
    (read : readLineContent characters = some (line, '\n' :: rest)) :
    readLine characters = some (line, rest) := by
  simp only [readLine, read]
  rfl

/-- A line that starts with a name is a pair. -/
theorem readLineContent_of_name {first : Char} (starts : StartsName first) (more : List Char) :
    readLineContent (first :: more) =
      (readPairOf (readValue nestingLimit) (first :: more)).map fun ((names, node), left) =>
        (.pair names node, left) := by
  have notBracket : first ≠ '[' := starts.ne (by decide)
  have notHash : first ≠ '#' := starts.ne (by decide)
  have notNewline : first ≠ '\n' := starts.ne (by decide)
  have notReturn : first ≠ '\r' := starts.ne (by decide)
  have noEnd : readNewline? (first :: more) = none := by
    simp [readNewline?, notNewline, notReturn]
  simp [readLineContent, skipBlanks_cons starts.isBlank, notBracket, notHash, noEnd]

/-- **A name, an equals sign and a value are read as a pair.** -/
theorem readLine_pair (content : List Char) {value : List Char} {node : Node}
    (starts : ∃ initial others, value = initial :: others ∧ isBlank initial = false)
    (read : ∀ rest, readValue nestingLimit (value ++ '\n' :: rest) = some (node, '\n' :: rest))
    (rest : List Char) :
    readLine (writtenKey content ++ ' ' :: '=' :: ' ' :: (value ++ '\n' :: rest)) =
      some (.pair [String.ofList content] node, rest) := by
  obtain ⟨initial, others, rfl, visible⟩ := starts
  obtain ⟨first, more, form, starts⟩ := startsName_writtenKey content
  have key : readKey nestingLimit
      (writtenKey content ++ ' ' :: '=' :: ' ' :: (initial :: others ++ '\n' :: rest)) =
        some ([String.ofList content], '=' :: ' ' :: (initial :: others ++ '\n' :: rest)) :=
    readKey_writtenKey 78 content (stopsAt_cons rfl) (by simp [skipBlanks, isBlank])
  have skipped : skipBlanks (' ' :: (initial :: others ++ '\n' :: rest)) =
      initial :: others ++ '\n' :: rest := by
    rw [skipBlanks, List.dropWhile_cons_of_pos rfl]
    exact skipBlanks_cons visible _
  have pair : readPairOf (readValue nestingLimit)
      (writtenKey content ++ ' ' :: '=' :: ' ' :: (initial :: others ++ '\n' :: rest)) =
        some (([String.ofList content], node), '\n' :: rest) := by
    simp only [readPairOf, key, skipped, read]
    rfl
  apply readLine_of_content
  rw [form, List.cons_append] at pair ⊢
  rw [readLineContent_of_name starts, pair]
  rfl

theorem isLine_stringLine (key content : String) :
    IsLine (stringLine key content).toList (.pair [key] (.text content)) := by
  refine ⟨by simp [stringLine], fun rest => ?_⟩
  have form : (stringLine key content).toList ++ rest =
      writtenKey key.toList ++ ' ' :: '=' :: ' ' ::
        (writtenString content.toList ++ '\n' :: rest) := by
    simp [stringLine]
  have starts : ∃ initial others, writtenString content.toList = initial :: others ∧
      isBlank initial = false := by
    obtain ⟨more, quoted | quoted⟩ := startsQuote_writtenString content.toList
    · exact ⟨_, more, quoted, rfl⟩
    · exact ⟨_, more, quoted, rfl⟩
  have noQuote : ∀ rest, NoQuote ('\n' :: rest) := fun rest => ⟨by simp, by simp⟩
  have line := readLine_pair key.toList starts
    (fun rest => readValue_writtenString nestingLimit content.toList (noQuote rest)) rest
  rwa [String.ofList_toList, String.ofList_toList, ← form] at line

theorem isLine_naturalLine (key : String) {natural : Nat} (fits : natural ≤ 9223372036854775807) :
    IsLine (naturalLine key natural).toList (.pair [key] (.integer natural)) := by
  refine ⟨by simp [naturalLine], fun rest => ?_⟩
  have form : (naturalLine key natural).toList ++ rest =
      writtenKey key.toList ++ ' ' :: '=' :: ' ' :: (Nat.toDigits 10 natural ++ '\n' :: rest) := by
    simp [naturalLine]
  have starts : ∃ initial others, Nat.toDigits 10 natural = initial :: others ∧
      isBlank initial = false := by
    obtain ⟨nonempty, areDigits⟩ := digits_toDigits natural
    obtain ⟨initial, others, digits⟩ := List.exists_cons_of_ne_nil nonempty
    have isDigit := areDigits initial (digits ▸ List.mem_cons_self)
    have notSpace : initial ≠ ' ' := ne_of_isDigit isDigit rfl
    have notTab : initial ≠ '\t' := ne_of_isDigit isDigit rfl
    exact ⟨initial, others, digits, by simp [isBlank, notSpace, notTab]⟩
  have line := readLine_pair key.toList starts
    (fun rest => readValue_toDigits nestingLimit fits (stopsAt_cons rfl) (by simp)) rest
  rwa [String.ofList_toList, ← form] at line

theorem isLine_headerLine (name : String) : IsLine (headerLine name).toList (.header [name]) := by
  refine ⟨by simp [headerLine], fun rest => ?_⟩
  have form : (headerLine name).toList ++ rest =
      '[' :: (writtenKey name.toList ++ ']' :: '\n' :: rest) := by
    simp [headerLine]
  obtain ⟨first, more, written, starts⟩ := startsName_writtenKey name.toList
  have key : readKey nestingLimit (writtenKey name.toList ++ ']' :: '\n' :: rest) =
      some ([String.ofList name.toList], ']' :: '\n' :: rest) :=
    readKey_writtenKey 78 name.toList (stopsAt_cons rfl) (by simp [skipBlanks, isBlank])
  have notBracket : first ≠ '[' := starts.ne (by decide)
  rw [form]
  apply readLine_of_content
  rw [written, List.cons_append, String.ofList_toList] at key
  rw [written, List.cons_append, readLineContent, skipBlanks_cons rfl]
  simp [notBracket, key]

theorem isLine_blank : IsLine ['\n'] .blank := by
  refine ⟨List.cons_ne_nil _ _, fun rest => ?_⟩
  exact readLine_of_content rfl

end MessageExpr.Toml
