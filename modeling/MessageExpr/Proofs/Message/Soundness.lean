import MessageExpr.Proofs.Message.Tables
import MessageExpr.Proofs.Run.Safety
import MessageExpr.Proofs.Value.HostFree

/-!
# Built-in messages keep to their signatures

A message is sound for a receiver if on every argument that its signature admits it replies with a
value that its signature declares, or fails ordinarily (`Message.Sound`). The missing value is a
reply of only a few messages (`selectorsOfMissing`). A sound message sends at most unary messages,
and none unless its argument is checked.

Every message of a table is sound for the values that the table belongs to, so everything that a
value free of hosts understands is sound for it (`Directory.sound_of_find?`).
-/

set_option autoImplicit false

namespace MessageExpr

variable {World : Type} {maxDepth : Option Nat}

/-! ## Replies -/

/-- What a message with this selector and this declared result may reply. -/
structure Replies (selector : String) (result : ValueType) (value : Value) : Prop where
  hostFree : value.HostFree
  admitted : result.Admits value
  missing : value.isNull = true → selector ∈ selectorsOfMissing

/-- A value of the declared type is a reply. -/
theorem Replies.of_type {selector : String} {result : ValueType} {value : Value}
    (hostFree : value.HostFree) (isType : value.type = result) (present : value.isNull = false) :
    Replies selector result value :=
  ⟨hostFree, .inr isType, fun missing => by rw [present] at missing; cases missing⟩

/-- A computation ends with a good value or with an ordinary failure. -/
def Computes (good : Value → Prop) : Except BuiltinFailure Value → Prop
  | .ok value => good value
  | .error failure => failure.Ordinary

namespace Behaviour

/-- The replies are good values and ordinary failures. What is sent, if anything may be, is sent
without an argument to values free of hosts. -/
def Sound (maxDepth : Option Nat) (sends : Prop) (good : Value → Prop) : Behaviour World → Prop
  | .finish (.ok value) => good value
  | .finish (.error cause) => cause.Ordinary maxDepth
  | .send receiver _ argument next =>
    sends ∧ receiver.HostFree ∧ argument = none ∧
      (∀ value : Value, value.HostFree → (next (.ok value)).Sound maxDepth sends good) ∧
      ∀ cause : Failure, cause.Ordinary maxDepth →
        (next (.error cause)).Sound maxDepth sends good
  | .now next => ∀ instant, (next instant).Sound maxDepth sends good
  | .userInfo _ => False
  | .choose _ next => ∀ choice, (next choice).Sound maxDepth sends good
  | .change _ _ => False

theorem sound_ofOperands {sends : Prop} {good : Value → Prop}
    {computed : Except BuiltinFailure Value} (computes : Computes good computed) :
    (ofOperands computed : Behaviour World).Sound maxDepth sends good := by
  cases computed with
  | ok value => exact computes
  | error failure => exact computes

end Behaviour

/-! ## Messages -/

/-- The message declares a result and keeps to its signature for this receiver. -/
structure Message.Sound (maxDepth : Option Nat) (receiver : Value) (selector : String)
    (message : Message World) : Prop where
  declares : message.signature.result ≠ .null
  keeps : ∀ argument : Value, argument.HostFree → message.signature.argument.Admits argument →
    (message.implementation receiver argument).Sound maxDepth
      (message.signature.argument.isUnchecked = false)
      (Replies selector message.signature.result)

/-- All messages of a table are sound for this receiver. -/
def MessageTable.Sound (maxDepth : Option Nat) (receiver : Value)
    (table : MessageTable World) : Prop :=
  ∀ selector message, table.get? selector = some message →
    message.Sound maxDepth receiver selector

theorem MessageTable.sound_ofList {receiver : Value} {entries : List (String × Message World)}
    (all : ∀ entry ∈ entries, entry.2.Sound maxDepth receiver entry.1) :
    MessageTable.Sound maxDepth receiver (.ofList entries) :=
  fun _ _ found =>
    Dictionary.property_of_get?_ofList
      (fun selector message => message.Sound maxDepth receiver selector) all found

namespace Message

variable {receiver : Value} {selector : String} {result : ValueType}

theorem computing_sound {expected : ValueType}
    {compute : Value → Value → Except BuiltinFailure Value} (declares : result ≠ .null)
    (computes : ∀ argument : Value, argument.HostFree → expected.Admits argument →
      Computes (Replies selector result) (compute receiver argument)) :
    (computing expected result compute : Message World).Sound maxDepth receiver selector :=
  ⟨declares, fun argument hostFree admits =>
    Behaviour.sound_ofOperands (computes argument hostFree admits)⟩

theorem computingUnary_sound {compute : Value → Except BuiltinFailure Value}
    (declares : result ≠ .null) (computes : Computes (Replies selector result) (compute receiver)) :
    (computingUnary result compute : Message World).Sound maxDepth receiver selector :=
  ⟨declares, fun _ _ _ => Behaviour.sound_ofOperands computes⟩

end Message

/-! ## Truth values and numbers -/

namespace Numeric

theorem boolMessages_sound (truth : Bool) :
    MessageTable.Sound maxDepth (.bool truth) (boolMessages : MessageTable World) := by
  refine MessageTable.sound_ofList ?_
  simp only [List.forall_mem_cons, List.not_mem_nil, false_implies, implies_true, and_true]
  refine ⟨Message.computingUnary_sound (by decide) ?_, Message.computingUnary_sound (by decide) ?_⟩
  · exact Replies.of_type (.bool _) rfl rfl
  · exact Replies.of_type (.int _) rfl rfl

/-- The values that arithmetic is done on. -/
theorem arithmeticMessages_sound {receiver : Value}
    (isNumber : ∀ selector, ∃ number, numberOperand selector receiver = .ok number) :
    ∀ entry ∈ (arithmeticMessages : List (String × Message World)),
      entry.2.Sound maxDepth receiver entry.1 := by
  have combining : ∀ (selector : String) (combine : Binary64 → Binary64 → Binary64),
      (arithmetic selector combine : String × Message World).2.Sound maxDepth receiver
        selector := by
    intro selector combine
    obtain ⟨left, isLeft⟩ := isNumber selector
    refine Message.computing_sound (by decide) fun argument _ admits => ?_
    obtain ⟨right, rfl⟩ := admits.exists_double
    rw [isLeft]
    exact Replies.of_type (.double _) rfl rfl
  simp only [arithmeticMessages, List.forall_mem_cons, List.not_mem_nil, false_implies,
    implies_true, and_true]
  refine ⟨combining _ _, combining _ _, combining _ _, combining _ _, ?_⟩
  obtain ⟨number, isNumber⟩ := isNumber "squareRoot"
  refine Message.computingUnary_sound (by decide) ?_
  rw [isNumber]
  exact Replies.of_type (.double _) rfl rfl

theorem intMessages_sound (integer : Int64) :
    MessageTable.Sound maxDepth (.int integer) (intMessages : MessageTable World) := by
  refine MessageTable.sound_ofList ?_
  rw [List.forall_mem_append, List.forall_mem_singleton]
  refine ⟨arithmeticMessages_sound fun _ => ⟨_, rfl⟩, ?_⟩
  exact Message.computingUnary_sound (by decide) (Replies.of_type (.double _) rfl rfl)

theorem computes_intValue (selector : String) (number : Binary64) :
    Computes (Replies selector .int) (intValue number) := by
  rw [intValue]
  split
  · split
    · exact Replies.of_type (.int _) rfl rfl
    · trivial
  · trivial

theorem doubleMessages_sound (number : Binary64) :
    MessageTable.Sound maxDepth (.double number) (doubleMessages : MessageTable World) := by
  refine MessageTable.sound_ofList ?_
  rw [List.forall_mem_append, List.forall_mem_singleton]
  refine ⟨arithmeticMessages_sound fun _ => ⟨_, rfl⟩, ?_⟩
  exact Message.computingUnary_sound (by decide) (computes_intValue _ number)

end Numeric

/-! ## Texts -/

theorem Textual.messages_sound (text : String) :
    MessageTable.Sound maxDepth (.string text) (messages : MessageTable World) := by
  have transforming_sound : ∀ (selector : String) (transform : String → String),
      (transforming selector transform : String × Message World).2.Sound maxDepth
        (.string text) selector := by
    intro selector transform
    exact Message.computingUnary_sound (by decide) (Replies.of_type (.string _) rfl rfl)
  refine MessageTable.sound_ofList ?_
  simp only [List.forall_mem_cons, List.not_mem_nil, false_implies, implies_true, and_true]
  refine ⟨transforming_sound _ _, transforming_sound _ _, transforming_sound _ _,
    transforming_sound _ _, transforming_sound _ _, ?characters, ?separated⟩
  case characters =>
    refine Message.computingUnary_sound (by decide) ?_
    exact Replies.of_type (.array (Value.hostFree_of_mem_strings _ text.toList)) rfl rfl
  case separated =>
    refine Message.computing_sound (by decide) fun argument _ admits => ?_
    obtain ⟨separator, rfl⟩ := admits.exists_string
    exact Replies.of_type (.array (Value.hostFree_of_mem_strings id _)) rfl rfl

/-! ## Dates -/

namespace Temporal

theorem computes_adding (selector : String) (instant : Instant) (seconds : Binary64) :
    Computes (Replies selector .date) (adding instant seconds) := by
  rw [adding]
  split
  · split
    · exact Replies.of_type (.date _) rfl rfl
    · trivial
  · trivial

theorem computes_reading (selector text : String) :
    Computes (Replies selector .date) (reading text) := by
  rw [reading]
  split
  · exact Replies.of_type (.date _) rfl rfl
  · trivial

theorem computes_writing (selector : String) (instant : Instant) (pattern : String) :
    Computes (Replies selector .string) (writing instant pattern) := by
  rw [writing]
  split
  · exact Replies.of_type (.string _) rfl rfl
  · trivial

theorem messages_sound (instant : Instant) :
    MessageTable.Sound maxDepth (.date instant) (messages : MessageTable World) := by
  have describing_sound : ∀ (selector : String) (describe : Instant → String),
      (describing selector describe : String × Message World).2.Sound maxDepth
        (.date instant) selector := by
    intro selector describe
    exact Message.computingUnary_sound (by decide) (Replies.of_type (.string _) rfl rfl)
  have measuring_sound : ∀ (selector : String) (measure : Instant → Binary64),
      (measuring selector measure : String × Message World).2.Sound maxDepth
        (.date instant) selector := by
    intro selector measure
    exact Message.computingUnary_sound (by decide) (Replies.of_type (.double _) rfl rfl)
  refine MessageTable.sound_ofList ?_
  simp only [List.forall_mem_cons, List.not_mem_nil, false_implies, implies_true, and_true]
  refine ⟨?adding, ?reading, describing_sound _ _, describing_sound _ _, describing_sound _ _,
    describing_sound _ _, describing_sound _ _, ?today, ?writing, measuring_sound _ _,
    measuring_sound _ _, ?distance⟩
  case adding =>
    refine Message.computing_sound (by decide) fun argument _ admits => ?_
    obtain ⟨seconds, rfl⟩ := admits.exists_double
    exact computes_adding _ instant seconds
  case reading =>
    refine Message.computing_sound (by decide) fun argument _ admits => ?_
    obtain ⟨text, rfl⟩ := admits.exists_string
    exact computes_reading _ text
  case today =>
    refine ⟨nofun, fun _ _ _ now => ?_⟩
    exact Replies.of_type (.date now) rfl rfl
  case writing =>
    refine Message.computing_sound (by decide) fun argument _ admits => ?_
    obtain ⟨pattern, rfl⟩ := admits.exists_string
    exact computes_writing _ instant pattern
  case distance =>
    refine Message.computing_sound (by decide) fun argument _ admits => ?_
    obtain ⟨earlier, rfl⟩ := admits.exists_date
    exact Replies.of_type (.double _) rfl rfl

end Temporal

/-! ## Collections -/

namespace Collective

variable {sends : Prop} {selector : String}

/-- All results are collected, or the first failure ends the mapping. -/
theorem sendToEach_sound (allowed : sends) (sent : String) {elements results : List Value}
    (elementsHostFree : ∀ element ∈ elements, element.HostFree)
    (resultsHostFree : ∀ result ∈ results, result.HostFree) :
    (sendToEach sent elements results : Behaviour World).Sound maxDepth sends
      (Replies selector .array) := by
  induction elements generalizing results with
  | nil =>
      refine Replies.of_type (.array fun result member => ?_) rfl rfl
      exact resultsHostFree result (List.mem_reverse.mp member)
  | cons element rest ih =>
      obtain ⟨elementHostFree, restHostFree⟩ := List.forall_mem_cons.mp elementsHostFree
      refine ⟨allowed, elementHostFree, rfl, fun result hostFree => ?_, fun cause ordinary => ?_⟩
      · exact ih restHostFree (List.forall_mem_cons.mpr ⟨hostFree, resultsHostFree⟩)
      · exact ordinary

theorem choosing_sound {values : List Value} (hostFree : ∀ value ∈ values, value.HostFree)
    (mayMiss : selector ∈ selectorsOfMissing) :
    (choosing values : Behaviour World).Sound maxDepth sends (Replies selector .any) := by
  rw [choosing]
  split
  · exact ⟨.null, .inl rfl, fun _ => mayMiss⟩
  · intro index
    refine ⟨?_, .inl rfl, fun _ => mayMiss⟩
    rw [List.getD_eq_getElem?_getD]
    cases found : values[index]? with
    | none => exact .null
    | some value => exact hostFree value (List.mem_of_getElem? found)

theorem shuffling_sound {steps : Nat} {left taken : List Value}
    (leftHostFree : ∀ value ∈ left, value.HostFree)
    (takenHostFree : ∀ value ∈ taken, value.HostFree) :
    (shuffling steps left taken : Behaviour World).Sound maxDepth sends
      (Replies selector .array) := by
  induction steps generalizing left taken with
  | zero =>
      refine Replies.of_type (.array fun value member => ?_) rfl rfl
      rcases List.mem_append.mp member with isTaken | isLeft
      · exact takenHostFree value (List.mem_reverse.mp isTaken)
      · exact leftHostFree value isLeft
  | succ steps ih =>
      intro index
      refine ih (fun value member => ?_) (fun value member => ?_)
      · exact leftHostFree value (List.mem_of_mem_eraseIdx member)
      · rcases List.mem_append.mp member with chosen | isTaken
        · have found : left[index]? = some value := Option.mem_toList.mp chosen
          exact leftHostFree value (List.mem_of_getElem? found)
        · exact takenHostFree value isTaken

theorem computes_elementAt {elements : List Value}
    (hostFree : ∀ element ∈ elements, element.HostFree) (index : Int64) :
    Computes (Replies "elementAtIndex:" .any) (elementAt elements index) := by
  simp only [elementAt]
  split
  · trivial
  split
  · rename_i element found
    exact ⟨hostFree element (List.mem_of_getElem? found), .inl rfl, fun _ => by decide⟩
  · trivial

theorem computes_elementFor {entries : List (String × Value)}
    (hostFree : ∀ entry ∈ entries, entry.2.HostFree) (key : String) :
    Computes (Replies "elementForKey:" .any) (elementFor entries key) := by
  rw [elementFor]
  split
  · rename_i value found
    have member : (key, value) ∈ entries := Dictionary.mem_of_lookup_eq_some found
    exact ⟨hostFree (key, value) member, .inl rfl, fun _ => by decide⟩
  · trivial

theorem arrayMessages_sound {elements : List Value}
    (hostFree : ∀ element ∈ elements, element.HostFree) :
    MessageTable.Sound maxDepth (.array elements) (arrayMessages : MessageTable World) := by
  refine MessageTable.sound_ofList ?_
  simp only [List.forall_mem_cons, List.not_mem_nil, false_implies, implies_true, and_true]
  refine ⟨?appending, ?count, ?joined, ?mapping, ?choosing, ?reversed, ?shuffling, ?elementAt⟩
  case appending =>
    refine Message.computing_sound (by decide) fun argument argumentHostFree _ => ?_
    refine Replies.of_type (.array fun element member => ?_) rfl rfl
    rcases List.mem_append.mp member with old | new
    · exact hostFree element old
    · exact List.mem_singleton.mp new ▸ argumentHostFree
  case count =>
    exact Message.computingUnary_sound (by decide) (Replies.of_type (.int _) rfl rfl)
  case joined =>
    refine Message.computing_sound (by decide) fun argument _ admits => ?_
    obtain ⟨separator, rfl⟩ := admits.exists_string
    exact Replies.of_type (.string _) rfl rfl
  case mapping =>
    refine ⟨nofun, fun argument _ admits => ?_⟩
    obtain ⟨selector, rfl⟩ := admits.exists_string
    exact sendToEach_sound rfl selector hostFree nofun
  case choosing => exact ⟨nofun, fun _ _ _ => choosing_sound hostFree (by decide)⟩
  case reversed =>
    refine Message.computingUnary_sound (by decide) ?_
    refine Replies.of_type (.array fun element member => ?_) rfl rfl
    exact hostFree element (List.mem_reverse.mp member)
  case shuffling => exact ⟨nofun, fun _ _ _ => shuffling_sound hostFree nofun⟩
  case elementAt =>
    refine Message.computing_sound (by decide) fun argument _ admits => ?_
    obtain ⟨index, rfl⟩ := admits.exists_int
    exact computes_elementAt hostFree index

theorem mapMessages_sound {entries : List (String × Value)}
    (hostFree : ∀ entry ∈ entries, entry.2.HostFree) :
    MessageTable.Sound maxDepth (.map entries) (mapMessages : MessageTable World) := by
  have valuesHostFree : ∀ value ∈ entries.map Prod.snd, value.HostFree :=
    List.forall_mem_map.mpr hostFree
  refine MessageTable.sound_ofList ?_
  simp only [List.forall_mem_cons, List.not_mem_nil, false_implies, implies_true, and_true]
  refine ⟨?count, ?joined, ?keys, ?values, ?choosing, ?elementFor⟩
  case count =>
    exact Message.computingUnary_sound (by decide) (Replies.of_type (.int _) rfl rfl)
  case joined =>
    refine Message.computing_sound (by decide) fun argument _ admits => ?_
    obtain ⟨separator, rfl⟩ := admits.exists_string
    exact Replies.of_type (.string _) rfl rfl
  case keys =>
    have keysHostFree := Value.hostFree_of_mem_strings Prod.fst entries
    exact Message.computingUnary_sound (by decide)
      (Replies.of_type (.array keysHostFree) rfl rfl)
  case values =>
    exact Message.computingUnary_sound (by decide)
      (Replies.of_type (.array valuesHostFree) rfl rfl)
  case choosing => exact ⟨nofun, fun _ _ _ => choosing_sound valuesHostFree (by decide)⟩
  case elementFor =>
    refine Message.computing_sound (by decide) fun argument _ admits => ?_
    obtain ⟨key, rfl⟩ := admits.exists_string
    exact computes_elementFor hostFree key

end Collective

/-! ## All messages -/

/-- **All messages of a value free of hosts are sound for it.** -/
theorem builtinMessages_sound {receiver : Value} (hostFree : receiver.HostFree) :
    MessageTable.Sound maxDepth receiver (builtinMessages receiver : MessageTable World) := by
  cases hostFree with
  | bool truth => exact Numeric.boolMessages_sound truth
  | int integer => exact Numeric.intMessages_sound integer
  | double number => exact Numeric.doubleMessages_sound number
  | string text => exact Textual.messages_sound text
  | date instant => exact Temporal.messages_sound instant
  | array all => exact Collective.arrayMessages_sound all
  | map all => exact Collective.mapMessages_sound all
  | null => exact fun _ _ absent => nomatch absent
  | any => exact fun _ _ absent => nomatch absent

namespace Directory

theorem commonMessages_sound (directory : Directory World) (receiver : Value) :
    MessageTable.Sound maxDepth receiver directory.commonMessages := by
  refine MessageTable.sound_ofList ?_
  simp only [List.forall_mem_cons, List.not_mem_nil, false_implies, implies_true, and_true]
  refine ⟨⟨nofun, fun _ _ _ => ?_⟩, ⟨nofun, fun _ _ _ => ?_⟩, ⟨nofun, fun _ _ _ => ?_⟩⟩
  · exact Replies.of_type (.string _) rfl rfl
  · exact Replies.of_type (.string _) rfl rfl
  · exact Replies.of_type (.bool _) rfl rfl

theorem ownMessages_of_hostFree {receiver : Value} (hostFree : receiver.HostFree)
    (directory : Directory World) :
    directory.ownMessages receiver = builtinMessages receiver := by
  cases hostFree <;> rfl

/-- **What a value free of hosts understands is sound for it, whatever the host provides.** -/
theorem sound_of_find? {directory : Directory World} {receiver : Value}
    (hostFree : receiver.HostFree) {selector : String} {message : Message World}
    (found : directory.find? receiver selector = some message) :
    message.Sound maxDepth receiver selector := by
  rcases find?_cases found with own | common
  · rw [ownMessages_of_hostFree hostFree] at own
    exact builtinMessages_sound hostFree selector message own
  · exact commonMessages_sound directory receiver selector message common

end Directory

end MessageExpr
