import MessageExpr.Proofs.Evaluation.Heads
import MessageExpr.Proofs.Run.Mediation

/-!
# Evaluation under a gatekeeper

Evaluation does nothing with messages but send them, one after the other, so it is mediated because
sends are (`evaluateAt_mediated`): at every depth of brackets and for every expression. An
evaluation under a gatekeeper is therefore completely mediated (`evaluate_completelyMediated`): no
implementation runs without its own accepted question, no question is asked without a send that
needs it, and a refusal is the end.
-/

set_option autoImplicit false

namespace MessageExpr

variable {World : Type} {context : Context World} {gatekeeper : Gatekeeper World}

/-- Naming a receiver asks nothing. -/
theorem resolve_mediated (registry : Registry) (name : String) :
    (resolve context registry name).Mediated context gatekeeper := by
  have meaning := resolves context registry name
  generalize resolve context registry name = run at meaning ⊢
  cases meaning with
  | clock => exact .andThen (.ofState _) fun instant => .returning _
  | emptyText => exact .returning _
  | entry => exact .returning _
  | literal => exact .returning _
  | nothing => exact .failing _

/-- Runs in sequence are mediated because their parts are. -/
theorem compositional_mediated :
    Run.Compositional fun run _ : Run World Value => run.Mediated context gatekeeper where
  returning := .returning
  failing := fun cause _ => .failing cause
  andThen := .andThen

/-- **An expression is mediated at every depth if sends are.** -/
theorem evaluateAt_mediated (sends : ∀ receiver selector argument,
      (send context receiver selector argument).Mediated context gatekeeper)
    (registry : Registry) (expression : String) (depth : Nat) :
    (evaluateAt context registry depth expression).Mediated context gatekeeper :=
  evaluateAt_related compositional_mediated registry registry (fun _ _ _ _ => .failing _)
    (fun _ within => within) sends expression (fun name _ => resolve_mediated registry name) depth

/-- **Every evaluation under a gatekeeper is completely mediated if the host's messages pass
failures on.** -/
theorem evaluate_completelyMediated (asks : context.gatekeeper = some gatekeeper)
    (hosts : ∀ identity, MessageTable.PassesFailuresOn (context.directory identity))
    (registry : Registry) (expression : String) (world : World) :
    (evaluate context registry expression world).CompletelyMediated context gatekeeper := by
  have sends := send_mediated asks hosts
  have mediated : (evaluate context registry expression).Mediated context gatekeeper :=
    .andThen (evaluateAt_mediated sends registry expression 0)
      (present_related compositional_mediated)
  exact (mediated world).completely

/-- Refuses the second question; the state counts the questions. -/
def refuseSecond : Gatekeeper Nat := fun _ _ world =>
  (if world = 1 then some (.raised (.report "not again")) else none, world + 1)

/-- A context whose host objects send `description` to themselves when they are sent `echo`. -/
def echoingContext : Context Nat where
  clock world := (default, world)
  choose _ world := (0, world)
  userInfo := none
  gatekeeper := some refuseSecond
  maxDepth := none
  directory _ := .ofList
    [("echo", ⟨.unary .string, fun receiver _ => .send receiver "description" none .finish⟩)]
  hostNesting := 4

/-- The send of an implementation is refused: nothing runs after it. -/
theorem evaluate_completelyMediated_echo :
    let registry := Registry.empty.insert "echoing" (.object ⟨0, "Echo", "an echo", .empty⟩)
    let ending := evaluate echoingContext registry "echoing echo" 0
    echoingContext.gatekeeper = some refuseSecond ∧
      (∀ identity, MessageTable.PassesFailuresOn (echoingContext.directory identity)) ∧
      ending.CompletelyMediated echoingContext refuseSecond ∧
      ending.events.filterMap Event.run? = [("echo", .unary .string)] ∧
      ending.outcome = .failure (.raised (.report "not again")) := by
  intro registry ending
  have hosts : ∀ identity, MessageTable.PassesFailuresOn (echoingContext.directory identity) := by
    intro identity
    refine MessageTable.passesFailuresOn_ofList ?_
    intro entry member
    cases List.mem_singleton.mp member
    exact fun receiver _ => ⟨fun cause => rfl, fun value => trivial⟩
  have scanned : Token.scan "echoing echo" = .ok [.head "echoing", .unary "echo"] := by decide
  have ends : ending =
      evaluateTokens echoingContext registry [.head "echoing", .unary "echo"] 0 := by
    rw [evaluateTokens_of_scan _ _ scanned]
  refine ⟨rfl, hosts, ?_, ?_, ?_⟩
  · exact evaluate_completelyMediated rfl hosts registry "echoing echo" 0
  · rw [ends]
    rfl
  · rw [ends]
    rfl

end MessageExpr
