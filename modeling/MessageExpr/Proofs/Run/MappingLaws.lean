import MessageExpr.Proofs.Run.Mapping

/-!
# Mapping and the other messages of arrays

Elements that always answer in the same way can be taken out, reversed and extended before they are
sent a message, or the results can be afterwards (`mappingCommutes_of_answer`). Values free of hosts
are such elements, as long as the message does not choose, the clock is fixed and no gatekeeper is
asked: that they answer follows from one mapping that succeeds (`exists_results`).
-/

set_option autoImplicit false

namespace MessageExpr

variable {World : Type} {context : Context World}

/-! ## Messages of arrays -/

theorem answersWith_appending (elements : List Value) (argument : Value) :
    AnswersWith context (.array elements) "appending:" (some argument)
      (.ok (.array (elements ++ [argument]))) := by
  have found := @Directory.find?_of_entry _ (.array elements) "appending:" context.directory _ _ rfl
    (by simp) (List.mem_of_getElem? (i := 0) rfl)
  refine answersWith_of_reply found ?_ rfl ?_
  · cases argument <;> rfl
  · rintro _ ⟨⟩
    exact checkResult_of_type rfl rfl

theorem answersWith_reversedArray (elements : List Value) :
    AnswersWith context (.array elements) "reversedArray" none (.ok (.array elements.reverse)) := by
  have found := @Directory.find?_of_entry _ (.array elements) "reversedArray" context.directory _ _
    rfl (by simp) (List.mem_of_getElem? (i := 5) rfl)
  refine answersWith_of_computingUnary found rfl rfl ?_
  rintro _ ⟨⟩
  rfl

theorem elementAt_of_inside {elements : List Value} {index : Int64} {element : Value}
    (nonnegative : 0 ≤ index.toInt) (isElement : elements[index.toInt.toNat]? = some element) :
    Collective.elementAt elements index = .ok element := by
  simp only [Collective.elementAt, if_neg (Int.not_lt.mpr nonnegative), isElement]

theorem elementAt_of_outside {elements : List Value} {index : Int64}
    (outside : index.toInt < 0 ∨ (elements.length : Int) ≤ index.toInt) :
    Collective.elementAt elements index = .error (.indexOutOfBounds index elements.length) := by
  rw [Collective.elementAt]
  split
  · rfl
  · have absent : elements[index.toInt.toNat]? = none := by
      rw [List.getElem?_eq_none_iff]
      omega
    rw [absent]

/-- An index is outside of the elements or that of one of them. -/
theorem elementAt_cases (elements : List Value) (index : Int64) :
    (∃ element ∈ elements, Collective.elementAt elements index = .ok element) ∨
      Collective.elementAt elements index = .error (.indexOutOfBounds index elements.length) := by
  by_cases outside : index.toInt < 0 ∨ (elements.length : Int) ≤ index.toInt
  · exact .inr (elementAt_of_outside outside)
  · obtain ⟨nonnegative, below⟩ : 0 ≤ index.toInt ∧ index.toInt.toNat < elements.length := by omega
    have isElement := List.getElem?_eq_getElem below
    exact .inl ⟨_, List.getElem_mem below, elementAt_of_inside nonnegative isElement⟩

theorem answersWith_elementAtIndex {elements : List Value}
    (present : ∀ element ∈ elements, element ≠ .null) (index : Int64) :
    AnswersWith context (.array elements) "elementAtIndex:" (some (.int index))
      (Collective.elementAt elements index) := by
  have found := @Directory.find?_of_entry _ (.array elements) "elementAtIndex:" context.directory
    _ _ rfl (by simp) (List.mem_of_getElem? (i := 7) rfl)
  refine answersWith_of_reply found rfl rfl fun element isElement => ?_
  rcases elementAt_cases elements index with ⟨other, member, same⟩ | failed
  · obtain rfl : other = element := Except.ok.inj (same.symm.trans isElement)
    exact checkResult_eq_ok_iff.mpr ⟨rfl, .inr ⟨present other member, .inl rfl⟩⟩
  · cases failed.symm.trans isElement

/-! ## Mapping without a gatekeeper -/

/-- Sends a message and then another one to its result. -/
def sendThen (context : Context World) (receiver : Value) (selector : String)
    (argument : Option Value) (following : String) (furtherArgument : Option Value) :
    Run World Value :=
  (send context receiver selector argument).andThen fun result =>
    send context result following furtherArgument

section Unasked

variable (nobody : context.gatekeeper = none) {selector : String}
include nobody

theorem outcome_send_map (elements : List Value) (selector : String) (world : World) :
    (send context (.array elements) "map:" (some (.string selector)) world).outcome =
      ((sendEach (nestedSend context) selector elements).andThen
        (fun results => .returning (.array results)) world).outcome := by
  rw [send_map, Context.ask_eq_returning nobody]
  rfl

theorem send_map_stays {elements results : List Value}
    (answer : List.Forall₂ (AlwaysAnswers (nestedSend context) selector) elements results)
    (world : World) :
    (send context (.array elements) "map:" (some (.string selector))).Stays world
      (.value (.array results)) := by
  rw [send_map, Context.ask_eq_returning nobody]
  simp only [Run.returning_andThen]
  refine (Run.Stays.record _ world).andThen ((Run.Stays.record _ world).andThen ?_)
  exact (sendEach_stays answer world).andThen (.returning _ world)

end Unasked

section Laws

variable {selector : String} {elements results : List Value} (nobody : context.gatekeeper = none)
  (answer : List.Forall₂ (AlwaysAnswers (nestedSend context) selector) elements results)
include nobody answer

theorem mapping_then_reversing (world : World) :
    (sendThen context (.array elements) "map:" (some (.string selector)) "reversedArray"
      none).Stays world (.value (.array results.reverse)) :=
  (send_map_stays nobody answer world).andThen
    ((answersWith_reversedArray results).stays nobody world)

theorem reversing_then_mapping (world : World) :
    (sendThen context (.array elements) "reversedArray" none "map:"
      (some (.string selector))).Stays world (.value (.array results.reverse)) :=
  ((answersWith_reversedArray elements).stays nobody world).andThen
    (send_map_stays nobody (List.forall₂_reverse_iff.mpr answer) world)

theorem mapping_then_appending (argument : Value) (world : World) :
    (sendThen context (.array elements) "map:" (some (.string selector)) "appending:"
      (some argument)).Stays world (.value (.array (results ++ [argument]))) :=
  (send_map_stays nobody answer world).andThen
    ((answersWith_appending results argument).stays nobody world)

theorem mapping_then_indexing (present : ∀ result ∈ results, result ≠ .null) (index : Int64)
    (world : World) :
    (sendThen context (.array elements) "map:" (some (.string selector)) "elementAtIndex:"
      (some (.int index))).Stays world (.ofReply (Collective.elementAt results index)) :=
  (send_map_stays nobody answer world).andThen
    ((answersWith_elementAtIndex present index).stays nobody world)

/-- What is appended is sent the message last, in the state in which the mapping started. -/
theorem appending_then_mapping {argument result : Value} {world : World}
    (answers : (nestedSend context argument selector none world).outcome = .value result) :
    (sendThen context (.array elements) "appending:" (some argument) "map:"
      (some (.string selector)) world).outcome = .value (.array (results ++ [result])) := by
  rw [sendThen, ((answersWith_appending elements argument).stays nobody world).outcome_andThen,
    outcome_send_map nobody, sendEach_append, Run.andThen_assoc,
    (sendEach_stays answer world).outcome_andThen]
  cases ending : nestedSend context argument selector none world with
  | mk outcome reached events =>
      rw [ending] at answers
      cases answers
      simp only [sendEach, Run.andThen_assoc, Run.andThen_of_value ending, Run.returning_andThen,
        Run.returning]

omit answer in
theorem indexing_outside {index : Int64} (present : ∀ element ∈ elements, element ≠ .null)
    (outside : index.toInt < 0 ∨ (elements.length : Int) ≤ index.toInt) (world : World) :
    (sendThen context (.array elements) "elementAtIndex:" (some (.int index)) selector none).Stays
      world (.failure (.ofBuiltin (.indexOutOfBounds index elements.length))) := by
  have stays := (answersWith_elementAtIndex present index).stays nobody world
  rw [elementAt_of_outside outside] at stays
  exact stays.andThen_of_failure

theorem indexing_then_mapping (proper : ∀ element ∈ elements, element.Proper) {index : Int64}
    (nonnegative : 0 ≤ index.toInt) {result : Value}
    (isResult : results[index.toInt.toNat]? = some result) (world : World) :
    (sendThen context (.array elements) "elementAtIndex:" (some (.int index)) selector none).Stays
      world (.value result) := by
  obtain ⟨belowResults, rfl⟩ := List.getElem?_eq_some_iff.mp isResult
  have below : index.toInt.toNat < elements.length := answer.length_eq ▸ belowResults
  have present : ∀ element ∈ elements, element ≠ .null :=
    fun element member => (proper element member).ne_null
  have stays := (answersWith_elementAtIndex present index).stays nobody world
  rw [elementAt_of_inside nonnegative (List.getElem?_eq_getElem below)] at stays
  have answers : AlwaysAnswers (nestedSend context) selector elements[index.toInt.toNat]
      results[index.toInt.toNat] := answer.get below belowResults
  have same : nestedSend context elements[index.toInt.toNat] selector none =
      send context elements[index.toInt.toNat] selector none :=
    sendWithin_unary_eq (proper _ (List.getElem_mem below)).hostFree selector _ _
  refine stays.andThen ?_
  rw [← same]
  exact answers world

end Laws

/-! ## Mapping in any context -/

/-- If the elements answer once, each of them always answers with a value that is there. -/
theorem exists_results {elements : List Value} {selector : String} {world : World} {mapped : Value}
    (nobody : context.gatekeeper = none) (proper : ∀ element ∈ elements, element.Proper)
    (fixed : context.HasFixedClock) (noChoice : selector ∉ selectorsOfChoice)
    (maps : (send context (.array elements) "map:" (some (.string selector)) world).outcome =
      .value mapped) :
    ∃ results, mapped = .array results ∧ (∀ result ∈ results, result ≠ .null) ∧
      List.Forall₂ (AlwaysAnswers (nestedSend context) selector) elements results := by
  rw [outcome_send_map nobody] at maps
  obtain ⟨results, ends, same⟩ := Run.value_of_andThen maps
  cases same
  have steady : ∀ element ∈ elements, (nestedSend context element selector none).Steady :=
    fun element member =>
      sendWithin_unary_steady (proper element member).hostFree selector fixed nobody noChoice _
  have answer := alwaysAnswer_of_sendEach steady ends
  refine ⟨results, rfl, fun result member => ?_, answer⟩
  obtain ⟨place, below, rfl⟩ := List.mem_iff_getElem.mp member
  have belowElements : place < elements.length := answer.length_eq ▸ below
  have answers : AlwaysAnswers (nestedSend context) selector elements[place] results[place] :=
    answer.get belowElements below
  have safe : (nestedSend context elements[place] selector none).Safe none Value.Proper :=
    unarySafe_sendWithin nobody context.hostNesting _ selector
      (proper _ (List.getElem_mem belowElements)).hostFree
  have isProper := safe world
  rw [(answers world).outcome_eq] at isProper
  exact isProper.ne_null

/-- From this state, the other messages of an array can be sent before or after a mapping with these
results. -/
structure MappingCommutes (context : Context World) (selector : String)
    (elements results : List Value) (world : World) : Prop where
  /-- The result at an index is the answer of the element there. -/
  indexing : ∀ index : Int64, 0 ≤ index.toInt → index.toInt < elements.length →
    ∃ result, results[index.toInt.toNat]? = some result ∧
      (sendThen context (.array elements) "map:" (some (.string selector))
        "elementAtIndex:" (some (.int index)) world).outcome = .value result ∧
      (sendThen context (.array elements) "elementAtIndex:" (some (.int index))
        selector none world).outcome = .value result
  /-- Where there is no element there is no result, and the failure is the same. -/
  outside : ∀ index : Int64, index.toInt < 0 ∨ (elements.length : Int) ≤ index.toInt →
    (sendThen context (.array elements) "map:" (some (.string selector))
      "elementAtIndex:" (some (.int index)) world).outcome =
        .failure (.ofBuiltin (.indexOutOfBounds index elements.length)) ∧
    (sendThen context (.array elements) "elementAtIndex:" (some (.int index))
      selector none world).outcome =
        .failure (.ofBuiltin (.indexOutOfBounds index elements.length))
  /-- The results in reverse are the answers of the elements in reverse. -/
  reversing :
    (sendThen context (.array elements) "map:" (some (.string selector))
      "reversedArray" none world).outcome = .value (.array results.reverse) ∧
    (sendThen context (.array elements) "reversedArray" none
      "map:" (some (.string selector)) world).outcome = .value (.array results.reverse)
  /-- A value that answers can be appended before, and its result after. It may be a host object, if
  its sends are not nested too deeply. -/
  appending : ∀ argument result,
    (send context argument selector none world).outcome = .value result →
    argument.HostFree ∨ (nestedSend context argument selector none world).outcome ≠ .exhausted →
      (sendThen context (.array elements) "appending:" (some argument)
        "map:" (some (.string selector)) world).outcome = .value (.array (results ++ [result])) ∧
      (sendThen context (.array elements) "map:" (some (.string selector))
        "appending:" (some result) world).outcome = .value (.array (results ++ [result]))

theorem mappingCommutes_of_answer {selector : String} {elements results : List Value}
    (nobody : context.gatekeeper = none) (proper : ∀ element ∈ elements, element.Proper)
    (present : ∀ result ∈ results, result ≠ .null)
    (answer : List.Forall₂ (AlwaysAnswers (nestedSend context) selector) elements results)
    (world : World) : MappingCommutes context selector elements results world where
  indexing := by
    intro index nonnegative below
    have belowResults : index.toInt.toNat < results.length := by
      have sameLength := answer.length_eq
      omega
    have isResult := List.getElem?_eq_getElem belowResults
    have after := mapping_then_indexing nobody answer present index world
    rw [elementAt_of_inside nonnegative isResult] at after
    exact ⟨_, isResult, after.outcome_eq,
      (indexing_then_mapping nobody answer proper nonnegative isResult world).outcome_eq⟩
  outside := by
    intro index outside
    have after := mapping_then_indexing nobody answer present index world
    rw [elementAt_of_outside (answer.length_eq ▸ outside), ← answer.length_eq] at after
    exact ⟨after.outcome_eq,
      (indexing_outside nobody (fun element member => (proper element member).ne_null) outside
        world).outcome_eq⟩
  reversing :=
    ⟨(mapping_then_reversing nobody answer world).outcome_eq,
      (reversing_then_mapping nobody answer world).outcome_eq⟩
  appending := by
    intro argument result answers free
    have ends : (nestedSend context argument selector none world).outcome ≠ .exhausted := by
      rcases free with hostFree | ends
      · exact sendWithin_unary_ends hostFree selector _ world
      · exact ends
    have same := (nestedSend_settles argument selector none world).resolve_left ends
    rw [same] at answers
    exact ⟨appending_then_mapping nobody answer answers,
      (mapping_then_appending nobody answer result world).outcome_eq⟩

/-- **`map:` sends to the elements in their order and stops at the first failure, and it commutes
with the other messages of arrays.** What `map:` does, after its own question, is to send to the
elements by the dispatch of every send; nothing is sent behind a failure. If the elements are there
and free of hosts, the clock is fixed, nobody is asked, the message does not choose and the mapping
succeeds, then taking an element, reversing and appending can be done before or after. -/
theorem map_commutes (context : Context World) (elements : List Value) (selector : String) :
    (∃ mapping : Run World (List Value),
      send context (.array elements) "map:" (some (.string selector)) =
          ((Run.record (.sent (.array elements) "map:" (some (.string selector)))).andThen fun _ =>
            (context.ask "map:" ⟨.string, .array⟩).andThen fun _ =>
              (Run.record (.ran "map:" ⟨.string, .array⟩ (.array elements)
                (.string selector))).andThen fun _ =>
                  mapping.andThen fun results => .returning (.array results)) ∧
        ∀ world, Mapping context selector elements world (mapping world) ∧
          ∀ results, (mapping world).outcome = .value results →
            results.length = elements.length) ∧
      ((∀ element ∈ elements, element ≠ .null ∧ element.HostFree) → context.HasFixedClock →
        context.gatekeeper = none → selector ≠ "randomElement" → selector ≠ "shuffledArray" →
        ∀ world mapped,
          (send context (.array elements) "map:" (some (.string selector)) world).outcome =
              .value mapped →
            ∃ results, mapped = .array results ∧ results.length = elements.length ∧
              MappingCommutes context selector elements results world) := by
  refine ⟨⟨sendEach (nestedSend context) selector elements, send_map context elements selector,
    fun world => ?_⟩, ?_⟩
  · have mapping := @mapping_sendEach _ context selector elements world
    exact ⟨mapping, fun results ends => mapping.length_eq ends⟩
  intro given fixed nobody notRandom notShuffled world mapped maps
  have proper : ∀ element ∈ elements, element.Proper := fun element member =>
    ⟨(given element member).2,
      Bool.eq_false_iff.mpr fun isNull => (given element member).1 (Value.isNull_iff.mp isNull)⟩
  have noChoice : selector ∉ selectorsOfChoice := by
    simp [selectorsOfChoice, notRandom, notShuffled]
  obtain ⟨results, rfl, present, answer⟩ := exists_results nobody proper fixed noChoice maps
  exact ⟨results, rfl, answer.length_eq.symm,
    mappingCommutes_of_answer nobody proper present answer world⟩

/-- Two elements, each mapped to its description. -/
theorem map_commutes_descriptions :
    let elements := [Value.bool true, .string "a"]
    let mapped := Value.array [.string "true", .string "a"]
    (∀ element ∈ elements, element ≠ .null ∧ element.HostFree) ∧ plainContext.HasFixedClock ∧
      plainContext.gatekeeper = none ∧ "description" ≠ "randomElement" ∧
      "description" ≠ "shuffledArray" ∧
      (send plainContext (.array elements) "map:" (some (.string "description")) ()).outcome =
        .value mapped ∧
      ∃ results, mapped = .array results ∧ results.length = elements.length ∧
        MappingCommutes plainContext "description" elements results () := by
  intro elements mapped
  have given : ∀ element ∈ elements, element ≠ .null ∧ element.HostFree := by
    simp only [elements, List.forall_mem_cons, List.not_mem_nil, false_implies, implies_true,
      and_true]
    exact ⟨⟨by simp, .bool true⟩, by simp, .string "a"⟩
  have fixed : plainContext.HasFixedClock := ⟨default, fun _ => rfl⟩
  have maps : (send plainContext (.array elements) "map:"
      (some (.string "description")) ()).outcome = .value mapped := rfl
  exact ⟨given, fixed, rfl, by decide, by decide, maps,
    (map_commutes plainContext elements "description").2 given fixed rfl (by decide) (by decide) ()
      mapped maps⟩

end MessageExpr
