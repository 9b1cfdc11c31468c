import RoutingProcessor.Program

namespace RoutingProcessor.Program

-- What a path leads to on this machine.
def lookUp (path : String) : IO (Except Int Files.Entry) := do
  try
    return .ok (.file (← IO.FS.readBinFile path).toList)
  catch
    | .inappropriateType _ code _ =>
      return if code.toNat = 21 then .ok .directory else .error code.toNat
    | .noFileOrDirectory _ code _ | .permissionDenied _ code _ => return .error code.toNat
    | _ => return .error Files.notFound

-- The reader of documents does not tell here where it fails.
def wording : Config.Wording := ⟨fun _ => "not a document", fun _ => ""⟩

-- The variables of the environment that have a meaning here.
def settings (names : List String) : IO (List (String × String)) := do
  let values ← names.mapM fun name => return (name, ← IO.getEnv name)
  return values.filterMap fun (name, value) => value.map (name, ·)

def writeLog (logging : LoggingSection) (directives : Option String) (log : List Log.Event) :
    IO Unit :=
  for event in written logging directives log do
    IO.println (match logging.logFormat with
      | .text => event.text
      | .json => event.json)

-- The clients of this machine, of which none is served.
def setup (config : Config) : Server.Setup :=
  ⟨config, ⟨[], 49152, fun _ => false⟩, fun _ => .unreachable⟩

-- Runs until the first line of the input, which stands for a signal, or its end.
def serve (config : Config) : IO UInt32 := do
  let directives ← IO.getEnv "RUST_LOG"
  let started := Run.start (setup config) ⟨[]⟩
  writeLog config.logging directives started.log
  let run ← match started.result with
    | some _ => pure started
    | none => do
      let line ← (← IO.getStdin).getLine
      let signal := if line.trimAscii == "interrupt" then .interrupt else .terminate
      pure (started.signal (setup config) signal)
  writeLog config.logging directives (Run.since started.log run.log)
  return run.exitCode.toUInt32

-- Runs the program on this machine.
def execute (arguments : List String) : IO UInt32 := do
  let environment ← settings (Options.Key.all.map Options.Key.environmentName)
  let found ← match Options.read arguments environment with
    | .ok options => lookUp (options.config.getD "")
    | .error _ => pure (.error Files.notFound)
  match configure arguments environment wording fun _ => found with
  | .ok config => serve config
  | .error refusal =>
    IO.print refusal.output
    match refusal.complaint? with
    | some line => IO.eprintln line
    | none => pure ()
    return refusal.exitCode.toUInt32

end RoutingProcessor.Program

def main (arguments : List String) : IO UInt32 := RoutingProcessor.Program.execute arguments
