import MessageExpr.Proofs.Run.Dispatch

/-!
# Types across a send

What an implementation receives and what a send returns fit the signature of the message that was
found, whatever the receiver's table says (`send_typeSound`). A checked type admits the values of
its own; the types of host objects are told from the built-in ones even if they are named alike.
-/

set_option autoImplicit false

namespace MessageExpr

variable {World : Type} {context : Context World}
  {nested : Value → String → Option Value → Run World Value} {receiver : Value}
  {selector : String} {argument : Option Value} {world : World}

/-- The gatekeeper is asked. -/
def Event.IsQuestion : Event → Prop
  | .asked _ _ _ => True
  | _ => False

theorem Admission.isQuestion {signature : Signature} {questions : List Event} {entered : World}
    (admission : Admission context selector signature world questions entered) :
    ∀ event ∈ questions, event.IsQuestion := by
  cases admission with
  | unasked => exact fun event absent => nomatch absent
  | accepted => exact List.forall_mem_singleton.mpr trivial

/-- What stands behind leading questions is determined. -/
theorem eq_behind_questions {first second after later : List Event} {event other : Event}
    (firstQuestions : ∀ event ∈ first, event.IsQuestion)
    (secondQuestions : ∀ event ∈ second, event.IsQuestion) (noQuestion : ¬ event.IsQuestion)
    (otherNoQuestion : ¬ other.IsQuestion)
    (same : first ++ event :: after = second ++ other :: later) :
    event = other ∧ after = later := by
  induction first generalizing second with
  | nil =>
      cases second with
      | nil => simpa using same
      | cons question rest =>
          obtain ⟨rfl, -⟩ := List.cons.inj same
          exact absurd (secondQuestions _ List.mem_cons_self) noQuestion
  | cons question rest ih =>
      cases second with
      | nil =>
          obtain ⟨rfl, -⟩ := List.cons.inj same
          exact absurd (firstQuestions _ List.mem_cons_self) otherNoQuestion
      | cons question rest =>
          exact ih (fun _ member => firstQuestions _ (List.mem_cons_of_mem _ member))
            (fun _ member => secondQuestions _ (List.mem_cons_of_mem _ member))
            (List.cons.inj same).2

/-- How what an implementation receives depends on what is sent and on the declared type. -/
structure Receives (declared : ValueType) (argument : Option Value) (received : Value) : Prop where
  /-- The missing value is received exactly if no argument or the missing value is sent. -/
  null_iff : received = .null ↔ argument = none ∨ argument = some .null
  /-- Only two declared types let the missing value pass. -/
  declared_of_null : received = .null → declared = .null ∨ declared = .any
  /-- A value that the declared type admits is received unchanged. -/
  unchanged : ∀ value, argument = some value → value ≠ .null →
    declared = .null ∨ declared = .any ∨ declared = value.type → received = value
  /-- Any other value is replaced by one of the declared type. -/
  replaced : ∀ value, argument = some value → value ≠ .null →
    ¬ (declared = .null ∨ declared = .any ∨ declared = value.type) →
      received.type = declared ∧ StandsIn value declared received

theorem StandsIn.ne_null {value standIn : Value} {declared : ValueType}
    (standsIn : StandsIn value declared standIn) : standIn ≠ .null := by
  cases standsIn <;> nofun

theorem Prepared.receives {declared : ValueType} {received : Value}
    (prepared : Prepared declared argument received) : Receives declared argument received := by
  cases prepared with
  | missing isMissing unchecked =>
      have nothingElse : ∀ value, argument = some value → value = .null := by
        rintro value rfl
        simpa [MissingArgument] using isMissing
      exact {
        null_iff := ⟨fun _ => isMissing, fun _ => rfl⟩
        declared_of_null := fun _ => ValueType.isUnchecked_iff.mp unchecked
        unchanged := fun value sent present => absurd (nothingElse value sent) present
        replaced := fun value sent present => absurd (nothingElse value sent) present }
  | unchanged present admits =>
      have isSent : ∀ value, some received = some value → received = value := fun _ => Option.some.inj
      exact {
        null_iff := by simp [present]
        declared_of_null := fun isNull => absurd isNull present
        unchanged := fun value sent _ _ => isSent value sent
        replaced := by
          rintro value ⟨⟩ - refuses
          exact absurd (ValueType.admits_iff.mp admits) refuses }
  | replaced present refuses standsIn =>
      exact {
        null_iff := by simp [present, standsIn.ne_null]
        declared_of_null := fun isNull => absurd isNull standsIn.ne_null
        unchanged := by
          rintro value ⟨⟩ - admits
          exact absurd (ValueType.admits_iff.mpr admits) refuses
        replaced := by
          rintro value ⟨⟩ - -
          exact ⟨standsIn.type, standsIn⟩ }

/-- **What the signature of a message promises of a send and its ending.** -/
structure Ending.TypeSound (context : Context World)
    (nested : Value → String → Option Value → Run World Value) (receiver : Value)
    (selector : String) (argument : Option Value) (world : World) (ending : Ending World Value) :
    Prop where
  /-- If an implementation runs next after the send and its questions, then it is that of the
  message that was found, it runs on what is prepared from the argument, and all that follows is
  what it does and the check of its result. -/
  received : ∀ questions name signature target value rest,
    ending.events = .sent receiver selector argument ::
      (questions ++ .ran name signature target value :: rest) →
    (∀ event ∈ questions, event.IsQuestion) →
      ∃ message entered, context.directory.find? receiver selector = some message ∧
        name = selector ∧ signature = message.signature ∧ target = receiver ∧
        Receives message.signature.argument argument value ∧
        implement context nested selector message receiver value entered =
          ⟨ending.outcome, ending.world, rest⟩
  /-- What is returned is of the declared type, if that is checked, and is missing only if no
  result is declared. -/
  returned : ∀ value, ending.outcome = .value value →
    ∃ message, context.directory.find? receiver selector = some message ∧
      (value = .null → message.signature.result = .null) ∧
      (value ≠ .null → message.signature.result = .null ∨ message.signature.result = .any ∨
        value.type = message.signature.result)
  /-- A failure to prepare the argument is the end: nobody is asked and nothing runs. It names the
  selector if the argument is missing, and else both types as well. -/
  unprepared : ∀ message cause, context.directory.find? receiver selector = some message →
    prepareArgument selector message.signature.argument argument = .error cause →
      ending = ⟨.failure cause, world, [.sent receiver selector argument]⟩ ∧
      ((argument = none ∨ argument = some .null) ∧
          cause = .expectedArgumentButFoundNil selector ∨
        ∃ value, argument = some value ∧ value ≠ .null ∧
          cause = .unexpectedArgumentType selector message.signature.argument value.type)

/-- What an implementation returns, past the check, is what the signature declares. -/
theorem declared_of_implement {message : Message World} {received value : Value} {entered : World}
    (returns : (implement context nested selector message receiver received entered).outcome =
      .value value) :
    (value = .null → message.signature.result = .null) ∧
      (value ≠ .null → message.signature.result = .null ∨ message.signature.result = .any ∨
        value.type = message.signature.result) := by
  obtain ⟨result, -, checked⟩ := Run.value_of_andThen returns
  cases passes : checkResult receiver.type selector message.signature.result result with
  | error cause =>
      rw [passes] at checked
      cases checked
  | ok returned =>
      rw [passes] at checked
      cases checked
      obtain ⟨rfl, ⟨isNull, noResult⟩ | ⟨present, admits⟩⟩ := checkResult_eq_ok_iff.mp passes
      · exact ⟨fun _ => noResult, fun present => absurd isNull present⟩
      · refine ⟨fun isNull => absurd isNull present, fun _ => ?_⟩
        rw [eq_comm (a := value.type)]
        exact ValueType.admits_iff.mp admits

theorem Unprepared.names {declared : ValueType} {cause : Failure}
    (unprepared : Unprepared selector declared argument cause) :
    (argument = none ∨ argument = some .null) ∧ cause = .expectedArgumentButFoundNil selector ∨
      ∃ value, argument = some value ∧ value ≠ .null ∧
        cause = .unexpectedArgumentType selector declared value.type := by
  cases unprepared with
  | missing isMissing => exact .inl ⟨isMissing, rfl⟩
  | @mismatched value present => exact .inr ⟨value, rfl, present, rfl⟩

/-- **However a send ends, it keeps what the signature promises.** -/
theorem Dispatch.typeSound {ending : Ending World Value}
    (dispatch : Dispatch context nested receiver selector argument world ending) :
    ending.TypeSound context nested receiver selector argument world := by
  cases dispatch with
  | unknown absent =>
      constructor
      case received => simp
      case returned => nofun
      case unprepared =>
        intro message cause found
        rw [absent] at found
        cases found
  | @unprepared message cause found unprepared =>
      constructor
      case received => simp
      case returned => nofun
      case unprepared =>
        intro other failure alsoFound failed
        obtain rfl : message = other := Option.some.inj (found.symm.trans alsoFound)
        rw [unprepared.prepareArgument] at failed
        cases failed
        exact ⟨rfl, unprepared.names⟩
  | @refused message prepared gatekeeper cause found isPrepared asks refuses =>
      constructor
      case received =>
        intro questions name signature target value rest events
        cases questions <;> simp at events
      case returned => nofun
      case unprepared =>
        intro other failure alsoFound failed
        obtain rfl : message = other := Option.some.inj (found.symm.trans alsoFound)
        rw [isPrepared.prepareArgument] at failed
        cases failed
  | @ran message received questions entered found isPrepared admission =>
      constructor
      case received =>
        intro others name signature target value rest events areQuestions
        obtain ⟨same, rfl⟩ := eq_behind_questions admission.isQuestion areQuestions id id
          (List.cons.inj events).2
        cases same
        exact ⟨message, entered, found, rfl, rfl, rfl, isPrepared.receives, rfl⟩
      case returned => exact fun value returns => ⟨message, found, declared_of_implement returns⟩
      case unprepared =>
        intro other failure alsoFound failed
        obtain rfl : message = other := Option.some.inj (found.symm.trans alsoFound)
        rw [isPrepared.prepareArgument] at failed
        cases failed

/-- **Implementations receive and callers get what the signature of the message declares.** -/
theorem send_typeSound (context : Context World) (receiver : Value) (selector : String)
    (argument : Option Value) (world : World) :
    (send context receiver selector argument world).TypeSound context
      (sendWithin context (context.hostNesting + 1)) receiver selector argument world :=
  (sendWithin_dispatch context (context.hostNesting + 1) receiver selector argument world).typeSound

/-- A context whose host objects understand a message about whole numbers and one about host objects
of a type with the same name. -/
def namesakeContext : Context Unit where
  clock world := (default, world)
  choose _ world := (0, world)
  userInfo := none
  gatekeeper := none
  maxDepth := none
  directory _ := .ofList
    [("echo:", ⟨⟨.int, .int⟩, fun _ argument => .returning argument⟩),
      ("adopt:", ⟨⟨.object "Int", .null⟩, fun _ _ => .returning .null⟩)]
  hostNesting := 0

/-- A text stands in for a whole number; a host object of a type named like that of whole numbers
does not, and no whole number is such a host object. -/
theorem send_typeSound_namesake :
    let namesake := Value.object ⟨0, "Int", "a number", .empty⟩
    (∃ message, namesakeContext.directory.find? namesake "echo:" = some message ∧
      Receives message.signature.argument (some (.string "+7")) (.int 7)) ∧
    send namesakeContext namesake "echo:" (some namesake) () =
      ⟨.failure (.unexpectedArgumentType "echo:" .int (.object "Int")), (),
        [.sent namesake "echo:" (some namesake)]⟩ ∧
    send namesakeContext namesake "adopt:" (some (.int 7)) () =
      ⟨.failure (.unexpectedArgumentType "adopt:" (.object "Int") .int), (),
        [.sent namesake "adopt:" (some (.int 7))]⟩ := by
  intro namesake
  have sound := fun selector argument => send_typeSound namesakeContext namesake selector argument ()
  refine ⟨?_, ?_, ?_⟩
  · obtain ⟨message, -, found, -, -, -, receives, -⟩ :=
      (sound "echo:" (some (.string "+7"))).received [] "echo:" ⟨.int, .int⟩ namesake (.int 7) []
        rfl (fun _ absent => nomatch absent)
    exact ⟨message, found, receives⟩
  · exact ((sound "echo:" (some namesake)).unprepared _ _ rfl rfl).1
  · exact ((sound "adopt:" (some (.int 7))).unprepared _ _ rfl rfl).1

end MessageExpr
