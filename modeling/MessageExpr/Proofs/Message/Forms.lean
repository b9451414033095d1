import MessageExpr.Proofs.Message.Tables

/-!
# Forms of messages

The messages that no host provides have few forms of implementations: most of them compute a reply,
one reads the clock, one sends, and those of two selectors choose (`Message.Form`). Every message that
is found is a host's own or has one of the forms (`Directory.find?_form`). So what is to be known of
all these messages has to be shown for each form only.
-/

set_option autoImplicit false

namespace MessageExpr

variable {World : Type}

section Forms

open Collective

/-- How messages that no host provides are implemented. Only those of fixed selectors send or choose. -/
inductive Message.Form : String → Message World → Prop where
  | computing (selector : String) (argument result : ValueType)
      (compute : Value → Value → Except BuiltinFailure Value) :
      Form selector (.computing argument result compute)
  | computingUnary (selector : String) (result : ValueType)
      (compute : Value → Except BuiltinFailure Value) :
      Form selector (.computingUnary result compute)
  | replying (selector : String) (signature : Signature) (reply : Value → Value → Value) :
      Form selector ⟨signature, fun receiver argument => .returning (reply receiver argument)⟩
  | reading (selector : String) (result : ValueType) (reply : Instant → Value) :
      Form selector ⟨.unary result, fun _ _ => .now fun instant => .returning (reply instant)⟩
  | mapping : Form "map:" ⟨⟨.string, .array⟩, fun receiver argument =>
      withOperands (arrayOperand "map:" receiver) fun elements =>
        withOperands (stringOperand "map:" argument) fun selector =>
          sendToEach selector elements []⟩
  | choosing {Data : Type} (operands : Value → Except BuiltinFailure Data)
      (values : Data → List Value) :
      Form "randomElement" ⟨.unary .any, fun receiver _ =>
        withOperands (operands receiver) fun data => choosing (values data)⟩
  | shuffling : Form "shuffledArray" ⟨.unary .array, fun receiver _ =>
      withOperands (arrayOperand "shuffledArray" receiver) fun elements =>
        shuffling elements.length elements []⟩

end Forms

attribute [simp] Message.Form.computing Message.Form.computingUnary

/-! ## Tables -/

/-- All messages of a table have one of the forms. -/
def MessageTable.HasForms (table : MessageTable World) : Prop :=
  ∀ selector message, table.get? selector = some message → message.Form selector

theorem MessageTable.hasForms_ofList {entries : List (String × Message World)}
    (all : ∀ entry ∈ entries, entry.2.Form entry.1) : MessageTable.HasForms (.ofList entries) :=
  fun _ _ found =>
    Dictionary.property_of_get?_ofList (fun selector message => message.Form selector) all found

theorem Numeric.hasForms_boolMessages : MessageTable.HasForms (boolMessages : MessageTable World) :=
  MessageTable.hasForms_ofList (by simp)

theorem Numeric.hasForms_intMessages : MessageTable.HasForms (intMessages : MessageTable World) :=
  MessageTable.hasForms_ofList (by simp [arithmeticMessages, arithmetic])

theorem Numeric.hasForms_doubleMessages :
    MessageTable.HasForms (doubleMessages : MessageTable World) :=
  MessageTable.hasForms_ofList (by simp [arithmeticMessages, arithmetic])

theorem Textual.hasForms_messages : MessageTable.HasForms (messages : MessageTable World) :=
  MessageTable.hasForms_ofList (by simp [transforming])

theorem Temporal.hasForms_messages : MessageTable.HasForms (messages : MessageTable World) := by
  refine MessageTable.hasForms_ofList ?_
  have today : Message.Form "today"
      (⟨.unary .date, fun _ _ => .now fun instant => .returning (.date instant)⟩ :
        Message World) := .reading "today" .date .date
  simp [describing, measuring, today]

theorem Collective.hasForms_arrayMessages :
    MessageTable.HasForms (arrayMessages : MessageTable World) := by
  refine MessageTable.hasForms_ofList ?_
  simp only [List.forall_mem_cons, Message.Form.computing, Message.Form.computingUnary,
    List.not_mem_nil, false_implies, implies_true, true_and, and_true]
  exact ⟨.mapping, .choosing (arrayOperand "randomElement") fun elements => elements, .shuffling⟩

theorem Collective.hasForms_mapMessages :
    MessageTable.HasForms (mapMessages : MessageTable World) := by
  refine MessageTable.hasForms_ofList ?_
  simp only [List.forall_mem_cons, Message.Form.computing, Message.Form.computingUnary,
    List.not_mem_nil, false_implies, implies_true, true_and, and_true]
  exact .choosing (mapOperand "randomElement") fun entries => entries.map Prod.snd

/-- **All messages of a value that is no host object have one of the forms.** -/
theorem hasForms_builtinMessages (value : Value) :
    MessageTable.HasForms (builtinMessages value : MessageTable World) := by
  cases value with
  | bool truth => exact Numeric.hasForms_boolMessages
  | int integer => exact Numeric.hasForms_intMessages
  | double number => exact Numeric.hasForms_doubleMessages
  | string text => exact Textual.hasForms_messages
  | date instant => exact Temporal.hasForms_messages
  | array elements => exact Collective.hasForms_arrayMessages
  | map entries => exact Collective.hasForms_mapMessages
  | null => exact fun _ _ absent => nomatch absent
  | any => exact fun _ _ absent => nomatch absent
  | object host => exact fun _ _ absent => nomatch absent

namespace Directory

variable {directory : Directory World} {value : Value} {selector : String} {message : Message World}

theorem hasForms_commonMessages (directory : Directory World) :
    MessageTable.HasForms directory.commonMessages := by
  refine MessageTable.hasForms_ofList ?_
  simp only [List.forall_mem_cons, List.not_mem_nil, false_implies, implies_true, and_true]
  exact ⟨.replying _ _ _, .replying _ _ _, .replying _ _ _⟩

/-- **A message that is found is one of a host's or has one of the forms.** -/
theorem find?_form (found : directory.find? value selector = some message) :
    (∃ host, value = .object host ∧ (directory host.identity).get? selector = some message) ∨
      message.Form selector := by
  rcases find?_cases found with own | common
  · rw [ownMessages.eq_def] at own
    split at own
    · exact .inl ⟨_, rfl, own⟩
    · exact .inr (hasForms_builtinMessages value selector message own)
  · exact .inr (hasForms_commonMessages directory selector message common)

end Directory

end MessageExpr
