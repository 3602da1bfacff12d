import HlaCoordination.Config.Load
import HlaCoordination.Config.LogFilter
import HlaCoordination.Daemon

/-!
The command that runs a daemon on a network of its own. It fails at the first stage of the start
that does, or serves until it is told to stop and then shuts the daemon down.
-/

namespace HlaCoordination.CommandLine

structure Exit where
  code : UInt32
  complaint : Option String := none
  deriving DecidableEq, Repr

def complain (message : String) : Exit := ⟨1, some ("rtid: " ++ message)⟩

/-- Only a filter that cannot be read keeps logging from being set up. -/
def logging (c : Config) : Except TelemetryError Unit :=
  if LogFilter.isValid c.logFilter then .ok () else .error (.filter none)

def start (s : Sources) : Except BootstrapError (Daemon × Network) :=
  Daemon.start (Config.loaded s.load?) logging {}

def exit (s : Sources) (signal : Except ShutdownError Unit) : Exit :=
  match start s with
  | .error e => complain e.message
  | .ok (d, n) =>
    match (d.runUntil signal n).1 with
    | .ok () => ⟨0, none⟩
    | .error e => complain e.message

/-- The files a configuration may be loaded from, most important first. -/
def candidateFiles (arguments : List String) (environment : List (String × String)) : List String :=
  ((Arguments.read? arguments).bind Arguments.configPath).toList
    ++ (Environment.configPath? environment).toList

def variableNames : List String :=
  "RTI_CONFIG_PATH" :: (Vocabulary.members : List Config.Field).map fun f =>
    "RTI_" ++ (Vocabulary.word f).toUpper

end HlaCoordination.CommandLine
