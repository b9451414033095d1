import MessageExpr.Message.Vocabulary
import MessageExpr.Run.Basic

/-!
# Contexts

A context is what a host sets up around evaluations: a clock, a source of choices, the user
information, a gatekeeper that may refuse messages, a limit on nested brackets, and the messages of
the host's objects. The clock, the choices and the gatekeeper may depend on the host's state and
change it.
-/

set_option autoImplicit false

namespace MessageExpr

/-- Decides on a message before its implementation runs; a cause is a refusal. -/
abbrev Gatekeeper (World : Type) := String → Signature → World → Option Failure × World

/-- The surroundings of an evaluation. -/
structure Context (World : Type) where
  /-- Tells the time. -/
  clock : World → Instant × World
  /-- Chooses a number, which is taken modulo the count of possibilities. -/
  choose : Nat → World → Nat × World
  /-- Information for every implementation to read. -/
  userInfo : Option Value
  /-- Is asked before every implementation, if there is one. -/
  gatekeeper : Option (Gatekeeper World)
  /-- How deeply brackets may be nested; without a limit, as deeply as they are. -/
  maxDepth : Option Nat
  /-- The messages of host objects. -/
  directory : Directory World
  /-- How deeply implementations of the host may nest their sends. -/
  hostNesting : Nat

namespace Context

variable {World : Type}

/-- How deeply sends may be nested. Built-in messages need two levels: `map:` sends to elements, and
what it can send there sends nothing itself. -/
def sendNesting (context : Context World) : Nat := context.hostNesting + 2

/-- Asks the gatekeeper about a message and records its answer; a refusal is a failure. -/
def ask (context : Context World) (selector : String) (signature : Signature) : Run World Unit :=
  match context.gatekeeper with
  | none => .returning ()
  | some gatekeeper =>
    (Run.ofState (gatekeeper selector signature)).andThen fun refusal =>
      (Run.record (.asked selector signature refusal)).andThen fun _ =>
        match refusal with
        | none => .returning ()
        | some cause => .failing cause

end Context

/-- Takes the steps of a behaviour. `send` is how it sends messages. -/
def Behaviour.run {World : Type} (context : Context World)
    (send : Value → String → Option Value → Run World Value) : Behaviour World → Run World Value
  | .finish reply => .ofExcept reply
  | .send receiver selector argument next =>
    (send receiver selector argument).attempt.andThen fun reply => (next reply).run context send
  | .now next => (Run.ofState context.clock).andThen fun instant => (next instant).run context send
  | .userInfo next => (next context.userInfo).run context send
  | .choose count next =>
    (Run.ofState (context.choose count)).andThen fun choice =>
      (next (choice % count)).run context send
  | .change update next =>
    (Run.ofState fun world => (update world, update world)).andThen fun world =>
      (next world).run context send

end MessageExpr
