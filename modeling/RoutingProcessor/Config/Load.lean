import RoutingProcessor.Config.OfYaml
import RoutingProcessor.Config.Overlay
import RoutingProcessor.Config.Validate
import RoutingProcessor.Failure.Basic
import RoutingProcessor.Files.Directory

namespace RoutingProcessor.Config

open Files

-- Reads the configuration in a file. A socket cannot be opened, and a directory can be
-- opened but not read. What a path leads to is up to the host.
def ofFile (wording : Wording) (find : String → Except Int Entry) (path : String) :
    Except Failure Config :=
  let unopened (code : Int) : Failure :=
    (Failure.ofCause (.system code)).context ("failed to open " ++ path)
  let unparsed (message : String) : Failure :=
    (Failure.ofCause (.document message)).context ("failed to parse " ++ path)
  match find path with
  | .error code => .error (unopened code)
  | .ok .socket => .error (unopened noDevice)
  | .ok .directory => .error (unparsed (Failure.Cause.system isDirectory).message)
  | .ok (.file content) =>
    (ofYaml content).mapError fun trouble => unparsed (trouble.message wording content)

-- The configuration of a run: that of the file if one is named, what the options give
-- over it, and the whole checked.
def load (wording : Wording) (find : String → Except Int Entry) (options : Options) :
    Except Failure Config := do
  let config ← match options.config with
    | some path => ofFile wording find path
    | none => pure .default
  let config := config.overlay options
  match config.validate with
  | .ok () => return config
  | .error error => throw ((Failure.ofCause (.config error)).context "invalid configuration")

end RoutingProcessor.Config
