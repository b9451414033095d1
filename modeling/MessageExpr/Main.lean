import MessageExpr.CommandLine.Response
import Std.Time.DateTime.Timestamp

/-!
# The program

The program reads the clock, the environment and the files that a request needs, and has the request
answered. A session reads its lines one by one, and shows its prompt if they are typed.
-/

set_option autoImplicit false

namespace MessageExpr.Program

open CommandLine

/-- The content of a file that can be read. -/
def contentOf (path : String) : IO (Option String) :=
  try
    return some (← IO.FS.readFile path)
  catch _ =>
    return none

/-- The present instant. -/
def now : IO Instant := do
  let nanoseconds := (← Std.Time.Timestamp.now).toNanosecondsSinceUnixEpoch.val
  let second : Int := Instant.nanosecondsPerSecond
  return ⟨nanoseconds / second, (nanoseconds % second).toNat⟩

/-- The paths of the usual files of a configuration. -/
def configPaths : IO (List String) := do
  let home := (← IO.getEnv "HOME").getD "."
  let folder :=
    match ← IO.getEnv "XDG_CONFIG_HOME" with
    | some path => if path.startsWith "/" then path else home ++ "/.config"
    | none => home ++ "/.config"
  return ["smoltalk.toml", home ++ "/.smoltalk.toml", folder ++ "/smoltalk/config.toml"]

/-- What a request finds around it. -/
def surroundings (request : Request) : IO Surroundings := do
  let usual ← configPaths
  let mut contents : List (String × String) := []
  for path in request.config?.toList ++ usual do
    match ← contentOf path with
    | some content => contents := (path, content) :: contents
    | none => pure ()
  let instant ← now
  return { fileText := fun path => contents.lookup path, configPaths := usual, now := instant,
           seed := instant.nanoseconds }

/-- The line without its end. -/
def withoutEnd (line : String) : String := String.ofList (line.toList.filter (· ≠ '\n'))

/-- Adds lines to the file that keeps those of sessions, as far as it can be written. -/
def keepHistory (session : OpenSession) (lines : List String) : IO Unit := do
  match session.historyFile with
  | none => pure ()
  | some path =>
    let before := ((← contentOf path).map linesOf).getD []
    let all := before ++ lines
    let kept := all.drop (all.length - session.configuration.maxHistory)
    try
      IO.FS.writeFile path (String.join (kept.map (· ++ "\n")))
    catch _ =>
      pure ()

/-- Reads and answers the lines of a session and returns them, the last first. -/
partial def sessionLoop (session : OpenSession) (input output : IO.FS.Stream) (typed : Bool)
    (seed : Nat) (lines : List String) : IO (List String) := do
  if typed then
    output.putStr session.configuration.prompt
    output.flush
  let line ← input.getLine
  if line.isEmpty then return lines
  let read := withoutEnd line
  match sessionLine (← now) session read seed with
  | (none, _) => return read :: lines
  | (some text, next) =>
    output.putStr text
    output.flush
    sessionLoop session input output typed next (read :: lines)

/-- Answers a request and returns the exit status. -/
def run (arguments : List String) : IO UInt32 := do
  let request := Request.ofArguments arguments
  let found ← surroundings request
  let output ← IO.getStdout
  match respond found request with
  | .answer answer =>
    output.putStr answer.output
    (← IO.getStderr).putStr answer.errors
    return answer.status.toUInt32
  | .session session =>
    output.putStr (banner session.configuration)
    output.flush
    let input ← IO.getStdin
    let lines ← sessionLoop session input output (← input.isTty) found.seed []
    keepHistory session lines.reverse
    return 0

end MessageExpr.Program

/-- The program. -/
def main (arguments : List String) : IO UInt32 := MessageExpr.Program.run arguments
