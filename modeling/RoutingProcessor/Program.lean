import RoutingProcessor.Config.Load
import RoutingProcessor.Options.Read
import RoutingProcessor.Server.Session
import RoutingProcessor.Shutdown.Handler

namespace RoutingProcessor.Program

open Files Server

def name : String := "ext-proc-routing"

def release : String := "0.1.0"

-- Why the program ends before it serves.
inductive Refusal where
  | options (error : Options.Error)
  | config (failure : Failure)

namespace Refusal

def exitCode : Refusal → Nat
  | options error => error.exitCode
  | config _ => 1

-- The line that says what is wrong with the configuration.
def complaint? : Refusal → Option String
  | options _ => none
  | config failure => some (name ++ ": " ++ failure.message)

-- What was asked for instead of a run.
def output : Refusal → String
  | options .displayVersion => name ++ " " ++ release ++ "\n"
  | _ => ""

end Refusal

-- Finds out how to run.
def configure (arguments : List String) (settings : List (String × String))
    (wording : Config.Wording) (find : String → Except Int Entry) : Except Refusal Config := do
  let options ← (Options.read arguments settings).mapError .options
  (Config.load wording find options).mapError .config

-- A run of the program. The result is missing as long as the server serves.
structure Run where
  session : Session
  handler : Shutdown.Handler
  log : List Log.Event
  result : Option (Except Failure Unit)

def event (level : Log.Level) (message : String) : Log.Event := .plain level "ext_proc_routing" message

namespace Run

def ended (r : Run) (result : Except Failure Unit) : Run :=
  { r with
    result := some result
    log := r.log ++ [match result with
      | .ok () => event .info "server exited cleanly"
      | .error failure => event .error ("server failed: " ++ failure.message)] }

-- Starts the signal handler and the server.
def start (setup : Setup) (files : Directory) : Run :=
  let (session, report) := (Session.initial files).serve setup
  let run : Run := {
    session
    handler := Shutdown.Handler.initial.subscribe.install
    log := event .debug "resolved configuration" :: session.server.log
    result := none }
  match report with
  | .failed failure => run.ended (.error failure)
  | .returned => run.ended (.ok ())
  | _ => run

-- What a task has logged since.
def since (before after : List Log.Event) : List Log.Event := after.drop before.length

-- A signal reaches the handler, which has the server stopped over the bridge.
def signal (setup : Setup) (signal : Shutdown.Signal) (r : Run) : Run :=
  match r.result with
  | some _ => r
  | none =>
    let handler := (r.handler.receive signal).broadcast signal
    let bridge := handler.bridge.map Shutdown.Bridge.run
    let (session, report) := r.session.stop setup
    let run : Run := { r with
      session
      handler := { handler with bridge }
      log := r.log ++ since r.handler.log handler.log ++ (bridge.map Shutdown.Bridge.log).getD [] ++
        since r.session.server.log session.server.log }
    match report with
    | .stopped result _ => run.ended result
    | _ => run

def exitCode (r : Run) : Nat :=
  match r.result with
  | some (.error _) => 1
  | _ => 0

end Run

-- What of the log is written.
def written (logging : LoggingSection) (directives : Option String) (log : List Log.Event) :
    List Log.Event :=
  let filter := logging.filter directives
  log.filter fun e => filter.allows e.level e.target

end RoutingProcessor.Program
