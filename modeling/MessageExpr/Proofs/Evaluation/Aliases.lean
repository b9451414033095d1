import MessageExpr.Proofs.Evaluation.Naming

/-!
# What an alias means

An alias at the front of an expression stands for a message to the object that advertises it.
Expanding it is a change of text: the name of the object and the message take the place of the
word, and the result is read and evaluated like any other expression.

The name is read as the head if it has no space, quote or bracket in it, and a head means the value
of its entry unless it is one of the two constructors' (`registeredMeaning`). So the expansion is
evaluated as if the object stood under any other name that nothing in the expression looks up, and a
word that nobody advertises is the failure (`alias_means_message`).
-/

set_option autoImplicit false

namespace MessageExpr

/-! ## The first word -/

section FirstWord

variable {blanks word rest : String}
  (blank : ∀ character ∈ blanks.toList, Text.isBlank character = true) (nonempty : word ≠ "")
  (unbroken : ∀ character ∈ word.toList, Text.isBlank character = false)
  (ends : ∀ character, rest.toList.head? = some character → Text.isBlank character = true)
include blank nonempty unbroken ends

/-- The first word of an expression stands behind its blanks, and one blank after the word belongs
to neither the word nor what follows. -/
theorem Alias.splitWord_eq :
    splitWord (blanks ++ word ++ rest) = (word, String.ofList (rest.toList.drop 1)) := by
  have characters : (blanks ++ word ++ rest).toList =
      blanks.toList ++ (word.toList ++ rest.toList) := by simp
  have trimmed : (blanks.toList ++ (word.toList ++ rest.toList)).dropWhile Text.isBlank =
      word.toList ++ rest.toList := by
    refine Text.dropWhile_span blank ?_
    obtain ⟨first, more, letters⟩ :=
      List.exists_cons_of_ne_nil fun none => nonempty (String.toList_eq_nil_iff.mp none)
    rw [letters]
    exact Text.stopsAt_cons (unbroken first (by simp [letters]))
  have taken : (word.toList ++ rest.toList).takeWhile (fun character => !Text.isBlank character) =
      word.toList := by
    refine Text.takeWhile_span (fun character member => ?_) fun character first => ?_
    · rw [unbroken character member, Bool.not_false]
    · rw [ends character first, Bool.not_true]
  simp only [splitWord, characters, trimmed, taken, List.drop_length_add_append,
    String.ofList_toList]

end FirstWord

/-! ## The entry that is meant -/

/-- The entry is the first one of the registry that advertises the word, as short for the target. -/
def FirstAdvertises (registry : Registry) (word name : String) (value : Value) (target : String) :
    Prop :=
  ∃ before after, registry.entries = before ++ (name, value) :: after ∧
    (∀ entry ∈ before, entry.2.aliases.get? word = none) ∧
    value.aliases.get? word = some target

theorem FirstAdvertises.mem_entries {registry : Registry} {word name target : String}
    {value : Value} (first : FirstAdvertises registry word name value target) :
    (name, value) ∈ registry.entries := by
  obtain ⟨before, after, entries, -, -⟩ := first
  rw [entries]
  exact List.mem_append_right before List.mem_cons_self

namespace Alias

theorem find?_of_silent {word : String} {before : List (String × Value)}
    (silent : ∀ entry ∈ before, entry.2.aliases.get? word = none) (rest : List (String × Value)) :
    find? word (before ++ rest) = find? word rest := by
  induction before with
  | nil => rfl
  | cons entry more ih =>
      obtain ⟨here, later⟩ := List.forall_mem_cons.mp silent
      rw [List.cons_append, find?, here]
      exact ih later

theorem find?_of_first {registry : Registry} {word name target : String} {value : Value}
    (first : FirstAdvertises registry word name value target) :
    find? word registry.entries = some (name, target) := by
  obtain ⟨before, after, entries, silent, advertises⟩ := first
  rw [entries, find?_of_silent silent, find?, advertises]

end Alias

/-- The name of an entry is not that of an earlier one. -/
theorem Registry.absent_before {registry : Registry} {before after : List (String × Value)}
    {name : String} {value : Value}
    (entries : registry.entries = before ++ (name, value) :: after) :
    name ∉ before.map Prod.fst := by
  have distinct := registry.distinct
  rw [entries, List.map_append, List.map_cons] at distinct
  obtain ⟨-, -, different⟩ := List.nodup_append.mp distinct
  exact fun present => different name present name List.mem_cons_self rfl

/-- The value of an entry is what is found under its name. -/
theorem Registry.get?_of_mem {registry : Registry} {name : String} {value : Value}
    (member : (name, value) ∈ registry.entries) : registry.get? name = some value := by
  obtain ⟨before, after, entries⟩ := List.append_of_mem member
  have absent := Registry.absent_before entries
  rw [Registry.get?, entries, List.lookup_eq_some_iff]
  refine ⟨before, after, rfl, fun entry earlier => ?_⟩
  rw [bne_iff_ne]
  rintro rfl
  exact absent (List.mem_map_of_mem earlier)

variable {World : Type}

/-- What the name of a registered value means as a head: the value, but never for the names of the
two constructors. -/
def registeredMeaning (context : Context World) (name : String) (value : Value) :
    Run World Value :=
  if name = "Date" then (Run.ofState context.clock).andThen fun instant => .returning (.date instant)
  else if name = "String" then .returning (.string "")
  else .returning value

theorem resolve_of_mem (context : Context World) {registry : Registry} {name : String}
    {value : Value} (member : (name, value) ∈ registry.entries) :
    resolve context registry name = registeredMeaning context name value := by
  rw [resolve, registeredMeaning, Registry.get?_of_mem member]

/-! ## Expressions with another head -/

/-- The same failure, where it quotes an expression that is too short with another expression. -/
def Failure.quoting (source : String) : Failure → Failure
  | .expressionTooShort _ => .expressionTooShort source
  | failure => failure

/-- Expressions that differ in a plain head have the same messages, or have no tokens for the same
reason. -/
theorem Token.scan_renamed {name other : String} (plain : PlainName name)
    (otherPlain : PlainName other) (rest : String) :
    (∃ messages, scan (name ++ " " ++ rest) = .ok (.head name :: messages) ∧
      scan (other ++ " " ++ rest) = .ok (.head other :: messages)) ∨
    ∃ failure, scan (name ++ " " ++ rest) = .error failure ∧
      scan (other ++ " " ++ rest) = .error (failure.quoting (other ++ " " ++ rest)) := by
  simp only [scan, plain.componentsOf, otherPlain.componentsOf]
  cases MessageExpr.componentsOf rest with
  | nil => exact .inr ⟨_, rfl, rfl⟩
  | cons message messages =>
      obtain ⟨tokens, read, -⟩ | ⟨position, keyword, failed, -⟩ :=
        ofMessages_spec (message :: messages)
      · exact .inl ⟨tokens, by simp only [read, Except.map], by simp only [read, Except.map]⟩
      · refine .inr ⟨.expectedArgumentButFoundNil keyword, ?_, ?_⟩
        · simp only [failed, Except.map]
        · simp only [failed, Except.map, Failure.quoting]

/-- The name is the head of a bracketed expression of the text, however deep. -/
def HeadsBracket (name text : String) : Prop :=
  ∃ inner, "[" ++ inner ++ "]" ∈ componentsOf text ∧ IsHead name inner

/-- A name that is no head of a bracketed expression behind it is none of its tokens'. -/
theorem PlainName.not_isHead {name text : String} (plain : PlainName name)
    (free : ¬ HeadsBracket name text) {messages : List Token}
    (scanned : Token.scan (name ++ " " ++ text) = .ok (.head name :: messages)) :
    ∀ token ∈ messages, ∀ inner, token.inner? = some inner → ¬ IsHead name inner := by
  intro token member inner inside isHead
  have isComponent :=
    Token.brackets_mem_componentsOf scanned (List.mem_cons_of_mem _ member) inside
  rw [plain.componentsOf] at isComponent
  rcases List.mem_cons.mp isComponent with isName | inText
  · obtain ⟨-, -, notBracket⟩ := plain.unmarked '[' (by simp [← isName])
    exact notBracket rfl
  · exact free ⟨inner, inText, isHead⟩

section Renamed

variable {registry : Registry} {name standIn text : String} {value : Value}
  (plain : PlainName name) (standInPlain : PlainName standIn)
include plain standInPlain

/-- **A registered value can stand under another name.** An expression on the name of an entry is
evaluated like the same expression on any other name that nothing in it looks up, with the meaning
of the entry under that name. -/
theorem evaluate_renamed (member : (name, value) ∈ registry.entries) (notDate : standIn ≠ "Date")
    (notString : standIn ≠ "String") (free : ¬ HeadsBracket standIn text) {tokens : List Token}
    (scanned : Token.scan (standIn ++ " " ++ text) = .ok tokens) (context : Context World) :
    evaluate context registry (name ++ " " ++ text) =
      (registeredMeaning context name value).andThen fun meant =>
        evaluate context (registry.insert standIn meant) (standIn ++ " " ++ text) := by
  obtain ⟨messages, standInScanned, nameScanned⟩ | ⟨failure, failed, -⟩ :=
    Token.scan_renamed standInPlain plain text
  · have uncaptured := standInPlain.not_isHead free standInScanned
    rw [evaluate_of_head nameScanned, resolve_of_mem context member]
    simp only [evaluate_insert_head standInScanned notDate notString uncaptured]
  · rw [failed] at scanned
    cases scanned

/-- An expression without tokens fails like the same expression on another name, up to the
expression that the failure quotes. -/
theorem evaluate_renamed_of_scan_error {failure : Failure}
    (failed : Token.scan (standIn ++ " " ++ text) = .error failure) (context : Context World)
    (registry : Registry) :
    evaluate context registry (name ++ " " ++ text) =
      .failing (failure.quoting (name ++ " " ++ text)) := by
  obtain ⟨messages, standInScanned, -⟩ | ⟨other, standInFailed, nameFailed⟩ :=
    Token.scan_renamed standInPlain plain text
  · rw [failed] at standInScanned
    cases standInScanned
  · obtain rfl : failure = other := Except.error.inj (failed.symm.trans standInFailed)
    exact evaluate_of_scan_error nameFailed context registry

end Renamed

/-! ## Aliased expressions -/

/-- What an alias puts behind the name of its entry: the target, and what follows the alias. -/
def spelledOut (target tail : String) : String :=
  target ++ if tail = "" then "" else " " ++ tail

/-- The bracketed expressions behind an alias are those of its target and those of what follows the
alias, unless the target leaves a region open for the rest to close. -/
theorem headsBracket_spelledOut {name target tail : String} (outside : EndsOutside target) :
    HeadsBracket name (spelledOut target tail) ↔
      HeadsBracket name target ∨ HeadsBracket name tail := by
  by_cases empty : tail = ""
  · have noneBehind : ¬ HeadsBracket name "" := by
      rintro ⟨inner, isComponent, -⟩
      cases isComponent
    simp [spelledOut, empty, noneBehind]
  · simp only [spelledOut, if_neg empty, ← String.append_assoc, HeadsBracket,
      componentsOf_append_space outside, List.mem_append, or_and_right, exists_or]

theorem Alias.expand_of_first {registry : Registry} {expression word tail name target : String}
    {value : Value} (split : splitWord expression = (word, tail)) (nonempty : word ≠ "")
    (first : FirstAdvertises registry word name value target) :
    expand registry expression = .ok (name ++ " " ++ spelledOut target tail) := by
  simp [expand, split, nonempty, find?_of_first first, spelledOut, String.append_assoc]

theorem Alias.expand_of_silent {registry : Registry} {expression word tail : String}
    (split : splitWord expression = (word, tail)) (nonempty : word ≠ "")
    (silent : ∀ entry ∈ registry.entries, entry.2.aliases.get? word = none) :
    expand registry expression = .error (.unrecognisedAlias word) := by
  have nobody : find? word registry.entries = none := by
    simpa [find?] using find?_of_silent silent []
  simp [expand, split, nonempty, nobody]

/-- **An alias means a message to the object that advertises it.** A word that nobody advertises is
the failure, and nothing else happens. Otherwise the expression is evaluated like the target and the
rest of the expression on any name that they do not look up, with the meaning of the first entry
that advertises the word under this name. If the two cannot be read, they fail alike at once, up to
the expression that the failure quotes. -/
theorem alias_means_message {blanks word rest : String}
    (blank : ∀ character ∈ blanks.toList, Text.isBlank character = true) (nonempty : word ≠ "")
    (unbroken : ∀ character ∈ word.toList, Text.isBlank character = false)
    (ends : ∀ character, rest.toList.head? = some character → Text.isBlank character = true)
    (context : Context World) (registry : Registry) :
    let aliased := evaluateAliased context registry (blanks ++ word ++ rest)
    let tail := String.ofList (rest.toList.drop 1)
    ((∀ entry ∈ registry.entries, entry.2.aliases.get? word = none) →
      aliased = .failing (.unrecognisedAlias word)) ∧
    ∀ name value target, FirstAdvertises registry word name value target → PlainName name →
      ∀ standIn, PlainName standIn → standIn ≠ "Date" → standIn ≠ "String" →
        ¬ HeadsBracket standIn (spelledOut target tail) →
        let spelled := standIn ++ " " ++ spelledOut target tail
        (∀ tokens, Token.scan spelled = .ok tokens →
          aliased = (registeredMeaning context name value).andThen fun meant =>
            evaluate context (registry.insert standIn meant) spelled) ∧
        ∀ failure, Token.scan spelled = .error failure →
          aliased = .failing (failure.quoting (name ++ " " ++ spelledOut target tail)) ∧
          ∀ meant, evaluate context (registry.insert standIn meant) spelled = .failing failure := by
  intro aliased tail
  have split := Alias.splitWord_eq blank nonempty unbroken ends
  refine ⟨fun silent => ?_, ?_⟩
  · simp only [aliased, evaluateAliased, Alias.expand_of_silent split nonempty silent]
    rfl
  · intro name value target first plain standIn standInPlain notDate notString free spelled
    have expanded :
        aliased = evaluate context registry (name ++ " " ++ spelledOut target tail) := by
      simp only [aliased, evaluateAliased, Alias.expand_of_first split nonempty first]
      rfl
    rw [expanded]
    refine ⟨fun tokens scanned => ?_, fun failure failed => ⟨?_, fun meant => ?_⟩⟩
    · exact evaluate_renamed plain standInPlain first.mem_entries notDate notString free scanned
        context
    · exact evaluate_renamed_of_scan_error plain standInPlain failed context registry
    · exact evaluate_of_scan_error failed context _

/-- The target opens a bracket that the rest of the expression closes. An empty target with nothing
behind it is no message. -/
theorem alias_means_message_gate :
    let gate := Value.object
      ⟨0, "Gate", "a gate", .ofList [("open", "description [yes"), ("wait", "")]⟩
    let registry := (Registry.empty.insert "yes" (.bool true)).insert "gate" gate
    FirstAdvertises registry "open" "gate" gate "description [yes" ∧ PlainName "gate" ∧
      PlainName "it" ∧ ¬ HeadsBracket "it" "description [yes intValue]" ∧
      evaluateAliased countingContext registry " \topen\nintValue]" =
        evaluate countingContext (registry.insert "it" gate) "it description [yes intValue]" ∧
      evaluateAliased countingContext registry "wait" = .failing (.expressionTooShort "gate ") := by
  intro gate registry
  have advertises : ∀ word target, gate.aliases.get? word = some target →
      FirstAdvertises registry word "gate" gate target :=
    fun word target advertised =>
      ⟨[("yes", .bool true)], [], rfl, List.forall_mem_singleton.mpr rfl, advertised⟩
  have opening : FirstAdvertises registry "open" "gate" gate "description [yes" :=
    advertises _ _ (by simp [gate, Value.aliases, Dictionary.ofList, Dictionary.insertAll,
      Dictionary.get?_insert])
  have waiting : FirstAdvertises registry "wait" "gate" gate "" :=
    advertises _ _ (by simp [gate, Value.aliases, Dictionary.ofList, Dictionary.insertAll,
      Dictionary.get?_insert])
  have gatePlain : PlainName "gate" := ⟨by decide, by simp⟩
  have itPlain : PlainName "it" := ⟨by decide, by simp⟩
  have free : ¬ HeadsBracket "it" "description [yes intValue]" := by
    rintro ⟨inner, isComponent, isHead⟩
    have read : componentsOf "description [yes intValue]" = ["description", "[yes intValue]"] := by
      decide
    have innerScanned : Token.scan "yes intValue" = .ok [.head "yes", .unary "intValue"] := by
      decide
    have bracketed := bracketInner?_brackets inner
    rw [read] at isComponent
    rcases List.mem_cons.mp isComponent with isSelector | isBracket
    · rw [isSelector] at bracketed
      cases bracketed
    · rw [List.mem_singleton.mp isBracket] at bracketed
      obtain rfl : "yes intValue" = inner := Option.some.inj bracketed
      rw [isHead_iff_of_scan innerScanned] at isHead
      simp [Token.inner?] at isHead
  have nothing : ¬ HeadsBracket "it" (spelledOut "" "") := by
    rintro ⟨inner, isComponent, -⟩
    cases isComponent
  have blank : ∀ character ∈ " \t".toList, Text.isBlank character = true :=
    List.all_eq_true.mp (by decide)
  have openUnbroken : ∀ character ∈ "open".toList, Text.isBlank character = false := by
    simpa only [List.all_eq_true, Bool.not_eq_true'] using
      show "open".toList.all (fun character => !Text.isBlank character) = true by decide
  have waitUnbroken : ∀ character ∈ "wait".toList, Text.isBlank character = false := by
    simpa only [List.all_eq_true, Bool.not_eq_true'] using
      show "wait".toList.all (fun character => !Text.isBlank character) = true by decide
  obtain ⟨opened, -⟩ := (@alias_means_message _ " \t" "open" "\nintValue]" blank (by decide)
    openUnbroken (by rintro character ⟨⟩; decide) countingContext registry).2 _ _ _ opening
    gatePlain "it" itPlain (by decide) (by decide) free
  obtain ⟨-, waited⟩ := (@alias_means_message _ "" "wait" "" (by simp) (by decide) waitUnbroken
    (by simp) countingContext registry).2 _ _ _ waiting gatePlain "it" itPlain (by decide)
    (by decide) nothing
  refine ⟨opening, gatePlain, itPlain, free, ?_, ?_⟩
  · exact opened [.head "it", .unary "description", .bracket "yes intValue"] (by decide)
  · exact (waited (.expressionTooShort "it ") (by decide)).1

end MessageExpr
