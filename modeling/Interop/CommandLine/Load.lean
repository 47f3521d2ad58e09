import Interop.Codec.Settings
import Interop.CommandLine.Parse
import Interop.Config.Validation
import Interop.Source.CompilationUnit

/-!
# Settings of a command line

The settings of a run: those of the configuration file that the command line names, under those of
the command line itself.
-/

namespace Interop

namespace CommandLine

/-- The settings for a command line, where `read` gives the content of a file. -/
def load (line : CommandLine) (read : String → Option String) : Except ConfigError Config :=
  match line.configFile with
  | none => .ok line.config
  | some path =>
    match read path with
    | none => .error (.unreadable ("cannot read " ++ path))
    | some content =>
      match Config.ofText? content with
      | none => .error (.malformed ("no settings in " ++ path))
      | some config => .ok (config.merge line.config)

/-- How the program is called. -/
def usage : String := "Usage: " ++ Generator.current.name ++ " [OPTIONS]"

end CommandLine

namespace ConfigError

/-- What the user is told about unusable settings. -/
def lines (error : ConfigError) : List String :=
  CommandLine.usage :: error.problems.map ("  error: " ++ ·)

end ConfigError

end Interop
