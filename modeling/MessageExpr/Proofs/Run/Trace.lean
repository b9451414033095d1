import MessageExpr.Run.Send

/-!
# The events of runs under a gatekeeper

The events of a run under a gatekeeper follow one grammar (`MediatedTrace`). A send that the
receiver does not understand, or whose argument cannot be prepared, is recorded and nothing is
asked. Every other send is followed by one question; an accepted one is followed by the start of the
implementation that it accepts, a refused one by nothing.

The grammar says of each event what stands next to it (`MediatedTrace.placed`), and that accepted
questions and implementations are the same in their order (`MediatedTrace.runs_eq_acceptances`).
-/

set_option autoImplicit false

namespace MessageExpr

variable {World : Type}

/-! ## Traces -/

/-- The receiver understands the selector by a message with this signature, and this argument is
prepared from the one that is sent. -/
def Delivers (context : Context World) (receiver : Value) (selector : String)
    (argument : Option Value) (signature : Signature) (prepared : Value) : Prop :=
  ∃ message, context.directory.find? receiver selector = some message ∧
    message.signature = signature ∧
    prepareArgument selector signature.argument argument = .ok prepared

/-- The answer is one that the gatekeeper gives in some state of the host. -/
def Answers (gatekeeper : Gatekeeper World) (selector : String) (signature : Signature)
    (refusal : Option Failure) : Prop :=
  ∃ world, (gatekeeper selector signature world).1 = refusal

/-- The events of runs under a gatekeeper, and the refusal that they end with if there is one. -/
inductive MediatedTrace (context : Context World) (gatekeeper : Gatekeeper World) :
    List Event → Option Failure → Prop where
  | done : MediatedTrace context gatekeeper [] none
  /-- A send that comes to no question. -/
  | unasked {receiver : Value} {selector : String} {argument : Option Value}
      {events : List Event} {refusal : Option Failure}
      (undelivered : ∀ signature prepared,
        ¬ Delivers context receiver selector argument signature prepared)
      (rest : MediatedTrace context gatekeeper events refusal) :
      MediatedTrace context gatekeeper (.sent receiver selector argument :: events) refusal
  /-- A send that is refused. -/
  | refused {receiver : Value} {selector : String} {argument : Option Value}
      {signature : Signature} {prepared : Value} {cause : Failure}
      (delivers : Delivers context receiver selector argument signature prepared)
      (answers : Answers gatekeeper selector signature (some cause)) :
      MediatedTrace context gatekeeper
        [.sent receiver selector argument, .asked selector signature (some cause)] (some cause)
  /-- A send that is accepted, and what its implementation does and what follows. -/
  | accepted {receiver : Value} {selector : String} {argument : Option Value}
      {signature : Signature} {prepared : Value} {events : List Event} {refusal : Option Failure}
      (delivers : Delivers context receiver selector argument signature prepared)
      (answers : Answers gatekeeper selector signature none)
      (rest : MediatedTrace context gatekeeper events refusal) :
      MediatedTrace context gatekeeper
        (.sent receiver selector argument :: .asked selector signature none ::
          .ran selector signature receiver prepared :: events) refusal

variable {context : Context World} {gatekeeper : Gatekeeper World}

/-- Events without a refusal can be followed by others. -/
theorem MediatedTrace.append {first second : List Event} {refusal : Option Failure}
    (before : MediatedTrace context gatekeeper first none)
    (after : MediatedTrace context gatekeeper second refusal) :
    MediatedTrace context gatekeeper (first ++ second) refusal := by
  generalize noRefusal : (none : Option Failure) = accepted at before
  induction before with
  | done => exact after
  | unasked undelivered _ ih => exact .unasked undelivered (ih noRefusal)
  | refused => cases noRefusal
  | accepted delivers answers _ ih => exact .accepted delivers answers (ih noRefusal)

/-! ## Neighbours -/

/-- What stands before an event and after it, if the events end with this refusal. -/
inductive Placed (context : Context World) (gatekeeper : Gatekeeper World)
    (refusal : Option Failure) : List Event → Event → List Event → Prop where
  /-- A send that comes to no question stands anywhere. -/
  | unaskedSend {receiver : Value} {selector : String} {argument : Option Value}
      {before after : List Event}
      (undelivered : ∀ signature prepared,
        ¬ Delivers context receiver selector argument signature prepared) :
      Placed context gatekeeper refusal before (.sent receiver selector argument) after
  /-- Any other send stands in front of a question. -/
  | askedSend {receiver : Value} {selector : String} {argument : Option Value}
      {signature : Signature} {prepared : Value} {before after : List Event}
      (delivers : Delivers context receiver selector argument signature prepared)
      (answer : Option Failure) :
      Placed context gatekeeper refusal before (.sent receiver selector argument)
        (.asked selector signature answer :: after)
  /-- A refused question stands between a send and the end. -/
  | refusedQuestion (before : List Event) {receiver : Value} {selector : String}
      {argument : Option Value} {signature : Signature} {prepared : Value} {cause : Failure}
      (delivers : Delivers context receiver selector argument signature prepared)
      (answers : Answers gatekeeper selector signature (some cause))
      (last : refusal = some cause) :
      Placed context gatekeeper refusal (before ++ [.sent receiver selector argument])
        (.asked selector signature (some cause)) []
  /-- An accepted question stands between a send and an implementation. -/
  | acceptedQuestion (before : List Event) {after : List Event} {receiver : Value}
      {selector : String} {argument : Option Value} {signature : Signature} {prepared : Value}
      (delivers : Delivers context receiver selector argument signature prepared)
      (answers : Answers gatekeeper selector signature none) :
      Placed context gatekeeper refusal (before ++ [.sent receiver selector argument])
        (.asked selector signature none) (.ran selector signature receiver prepared :: after)
  /-- An implementation stands behind a send and an accepted question. -/
  | implementation (before : List Event) {after : List Event} {receiver : Value}
      {selector : String} {argument : Option Value} {signature : Signature} {prepared : Value}
      (delivers : Delivers context receiver selector argument signature prepared) :
      Placed context gatekeeper refusal
        (before ++ [.sent receiver selector argument, .asked selector signature none])
        (.ran selector signature receiver prepared) after

/-- More events in front change no neighbours. -/
theorem Placed.behind {refusal : Option Failure} {before after : List Event} {event : Event}
    (placed : Placed context gatekeeper refusal before event after) (first : Event) :
    Placed context gatekeeper refusal (first :: before) event after := by
  cases placed with
  | unaskedSend undelivered => exact .unaskedSend undelivered
  | askedSend delivers answer => exact .askedSend delivers answer
  | refusedQuestion before delivers answers last =>
      exact .refusedQuestion (first :: before) delivers answers last
  | acceptedQuestion before delivers answers =>
      exact .acceptedQuestion (first :: before) delivers answers
  | implementation before delivers => exact .implementation (first :: before) delivers

/-- **Every event of the grammar stands where its kind says.** -/
theorem MediatedTrace.placed {events : List Event} {refusal : Option Failure}
    (trace : MediatedTrace context gatekeeper events refusal) {before after : List Event}
    {event : Event} (split : events = before ++ event :: after) :
    Placed context gatekeeper refusal before event after := by
  induction trace generalizing before with
  | done => simp at split
  | unasked undelivered _ ih =>
      rcases List.cons_eq_append_iff.mp split with ⟨rfl, same⟩ | ⟨before, rfl, rest⟩
      · cases same
        exact .unaskedSend undelivered
      · exact (ih rest).behind _
  | refused delivers answers =>
      rcases List.cons_eq_append_iff.mp split with ⟨rfl, same⟩ | ⟨sent, rfl, rest⟩
      · cases same
        exact .askedSend delivers _
      rcases List.cons_eq_append_iff.mp rest with ⟨rfl, same⟩ | ⟨asked, rfl, absent⟩
      · cases same
        exact .refusedQuestion [] delivers answers rfl
      · simp at absent
  | accepted delivers answers _ ih =>
      rcases List.cons_eq_append_iff.mp split with ⟨rfl, same⟩ | ⟨sent, rfl, rest⟩
      · cases same
        exact .askedSend delivers _
      rcases List.cons_eq_append_iff.mp rest with ⟨rfl, same⟩ | ⟨asked, rfl, further⟩
      · cases same
        exact .acceptedQuestion [] delivers answers
      rcases List.cons_eq_append_iff.mp further with ⟨rfl, same⟩ | ⟨ran, rfl, later⟩
      · cases same
        exact .implementation [] delivers
      · exact (((ih later).behind _).behind _).behind _

/-! ## Acceptances and implementations -/

/-- The message that a question accepts. -/
def Event.acceptance? : Event → Option (String × Signature)
  | .asked selector signature none => some (selector, signature)
  | _ => none

/-- The message whose implementation starts. -/
def Event.run? : Event → Option (String × Signature)
  | .ran selector signature _ _ => some (selector, signature)
  | _ => none

/-- The implementations that start are those that were accepted, in the same order. -/
theorem MediatedTrace.runs_eq_acceptances {events : List Event} {refusal : Option Failure}
    (trace : MediatedTrace context gatekeeper events refusal) :
    events.filterMap Event.run? = events.filterMap Event.acceptance? := by
  induction trace with
  | done => rfl
  | unasked _ _ ih => simp only [List.filterMap_cons, Event.run?, Event.acceptance?, ih]
  | refused => rfl
  | accepted _ _ _ ih => simp only [List.filterMap_cons, Event.run?, Event.acceptance?, ih]

end MessageExpr
