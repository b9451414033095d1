import MessageExpr.Message.Vocabulary
import MessageExpr.Proofs.Dictionary

/-!
# What a value understands

A value's message is an entry of its own table or one of the common messages
(`Directory.find?_cases`). The table of all its messages holds the same messages under the same
selectors (`Directory.get?_messages`), and the signatures that the common messages read are those of
this table (`Directory.signatures_eq`).

A listing is a title and then one line for each signature, in the order of the selectors
(`listing_eq_intercalate`).
-/

set_option autoImplicit false

namespace MessageExpr

/-! ## Tables -/

namespace Directory

variable {World : Type} {directory : Directory World} {value : Value} {selector : String}

/-- An own message takes the place of a common one. -/
theorem find?_eq_or (directory : Directory World) (value : Value) (selector : String) :
    directory.find? value selector =
      ((directory.ownMessages value).get? selector).or
        (directory.commonMessages.get? selector) := by
  rw [Directory.find?, Option.orElse_eq_or]

/-- A message is an own one of its receiver or a common one. -/
theorem find?_cases {message : Message World}
    (found : directory.find? value selector = some message) :
    (directory.ownMessages value).get? selector = some message ∨
      directory.commonMessages.get? selector = some message := by
  rw [find?_eq_or] at found
  exact (Option.or_eq_some_iff.mp found).imp_right And.right

variable (directory value selector)

/-- **The table of all messages holds the message that a selector means.** -/
theorem get?_messages :
    (directory.messages value).get? selector = directory.find? value selector := by
  rw [messages, Dictionary.get?_overlay, find?_eq_or]

theorem get?_commonMessages_selectors :
    directory.commonMessages.get? "selectors" = some ⟨.unary .string, fun receiver _ =>
      .returning (.string (listing (directory.signatures receiver)))⟩ := by
  simp [commonMessages, Dictionary.ofList, Dictionary.insertAll, Dictionary.get?_insert]

theorem get?_commonMessages_respondsToSelector :
    directory.commonMessages.get? "respondsToSelector:" =
      some ⟨⟨.string, .bool⟩, fun receiver argument =>
        .returning (.bool
          ((directory.signatures receiver).get? (argument.string?.getD "")).isSome)⟩ := by
  simp [commonMessages, Dictionary.ofList, Dictionary.insertAll, Dictionary.get?_insert]

theorem signatures_commonMessages :
    directory.commonMessages.mapItems Message.signature = commonSignatures := by
  rw [commonMessages, Dictionary.ofList, Dictionary.mapItems_insertAll]
  rfl

/-- **The signatures of a value are those of all its messages.** -/
theorem signatures_eq :
    directory.signatures value = (directory.messages value).mapItems Message.signature := by
  rw [signatures, messages, Dictionary.mapItems_overlay, signatures_commonMessages]

theorem get?_signatures :
    (directory.signatures value).get? selector =
      (directory.find? value selector).map Message.signature := by
  rw [signatures_eq, Dictionary.get?_mapItems, get?_messages]

end Directory

/-! ## Listings -/

/-- A line of a listing. It shows the type of the argument if there is one, and that of the result if
there is one. -/
def Signature.line (selector : String) (signature : Signature) : String :=
  "- " ++ selector ++ (if signature.argument = .null then "" else " " ++ signature.argument.name) ++
    if signature.result = .null then "" else " -> " ++ signature.result.name

theorem listingLine_eq (selector : String) (signature : Signature) :
    listingLine selector signature = "\n" ++ signature.line selector := by
  have marked : "\n- " = "\n" ++ "- " := rfl
  have argument : (if signature.takesArgument then " " ++ signature.argument.name else "") =
      if signature.argument = .null then "" else " " ++ signature.argument.name := by
    simp [Signature.takesArgument]
  have result : (if signature.result ≠ .null then " -> " ++ signature.result.name else "") =
      if signature.result = .null then "" else " -> " ++ signature.result.name := by
    simp
  simp only [listingLine, Signature.line, argument, result, marked, String.append_assoc]

/-- Joining lines by a separator puts it in front of each line but the first. -/
theorem intercalate_cons_eq_join (separator first : String) (rest : List String) :
    separator.intercalate (first :: rest) = first ++ String.join (rest.map (separator ++ ·)) := by
  induction rest generalizing first with
  | nil => simp
  | cons next more ih =>
      rw [String.intercalate_cons_cons, ih, List.map_cons, String.join_cons]
      simp only [String.append_assoc]

/-- **A listing is its title and then one line for each signature.** -/
theorem listing_eq_intercalate (signatures : Dictionary Signature) :
    listing signatures =
      "\n".intercalate
        ("**Selectors**" :: signatures.entries.map fun entry => entry.2.line entry.1) := by
  rw [intercalate_cons_eq_join, listing, List.map_map]
  simp only [listingLine_eq, Function.comp_def]

example :
    listing (.ofList [("intValue", .unary .int), ("removing:", ⟨.any, .null⟩)]) =
      "**Selectors**\n- intValue -> Int\n- removing: Any" := by
  decide

end MessageExpr
