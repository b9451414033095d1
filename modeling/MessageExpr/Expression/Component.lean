/-!
# Components of an expression

A component is a word, a text between double quotes or a region between brackets. Spaces outside
quotes and brackets separate components; a closing quote and the closing bracket of a region also
end the component that they close. Brackets nest, and a quoted text inside a region hides the
brackets in it.

An expression is read character by character. What is known between two characters is the component
under way and the regions that are open (`OpenComponent`); each character leads to the next such
state and may complete a component (`OpenComponent.step`).
-/

set_option autoImplicit false

namespace MessageExpr

/-- The component under way between two characters. -/
structure OpenComponent where
  /-- The text of the component so far. -/
  text : String
  /-- Whether a quote outside brackets is open. -/
  inQuote : Bool
  /-- Whether a bracket region is open. -/
  inBracket : Bool
  /-- How many brackets are open. -/
  bracketLevel : Nat
  /-- Whether a quote inside the bracket region is open. -/
  quoteInBracket : Bool
deriving DecidableEq, Inhabited

namespace OpenComponent

/-- The state at the start of an expression and after each completed component. -/
def fresh : OpenComponent := ⟨"", false, false, 0, false⟩

/-- Whether a space belongs to the component. -/
def expectsSpace (state : OpenComponent) : Bool := state.inQuote || state.inBracket

/-- Adds a character to the component. -/
def push (state : OpenComponent) (character : Char) : OpenComponent :=
  { state with text := state.text.push character }

/-- Whether the text of the component is a whole quoted text. -/
def holdsCompleteQuote (state : OpenComponent) : Bool :=
  match state.text.toList with
  | '"' :: rest => rest.getLast? == some '"'
  | _ => false

/-- Completes the component, if it has any text. -/
def complete (state : OpenComponent) : OpenComponent × Option String :=
  if state.text.isEmpty then (state, none) else ({ state with text := "" }, some state.text)

/-- Reads a quote outside brackets. -/
def stepQuote (state : OpenComponent) : OpenComponent × Option String :=
  let pushed := state.push '"'
  if state.inQuote && pushed.holdsCompleteQuote then complete { pushed with inQuote := false }
  else ({ pushed with inQuote := !state.inQuote }, none)

/-- Reads a bracket that closes one of the open ones. -/
def stepClose (state : OpenComponent) : OpenComponent × Option String :=
  let pushed := { state.push ']' with bracketLevel := state.bracketLevel - 1 }
  if pushed.bracketLevel = 0 then complete { pushed with inBracket := false } else (pushed, none)

/-- Reads a character. -/
def step (state : OpenComponent) (character : Char) : OpenComponent × Option String :=
  if character = '"' then
    if state.inBracket then
      ({ state.push '"' with quoteInBracket := !state.quoteInBracket }, none)
    else stepQuote state
  else if character = '[' then
    if state.inQuote || state.quoteInBracket then (state.push '[', none)
    else ({ state.push '[' with inBracket := true, bracketLevel := state.bracketLevel + 1 }, none)
  else if character = ']' && state.inBracket && !state.quoteInBracket then stepClose state
  else if character = ' ' && !state.expectsSpace then complete state
  else (state.push character, none)

/-- The component that is left at the end of an expression. -/
def finish (state : OpenComponent) : Option String := (complete state).2

/-- Reads characters from a state: the components completed on the way and the last state. -/
def read (state : OpenComponent) : List Char → List String × OpenComponent
  | [] => ([], state)
  | character :: rest =>
    let (next, completed) := state.step character
    let (more, last) := next.read rest
    (completed.toList ++ more, last)

end OpenComponent

/-- The components of an expression in their order. -/
def componentsOf (expression : String) : List String :=
  let (completed, last) := OpenComponent.fresh.read expression.toList
  completed ++ last.finish.toList

end MessageExpr
