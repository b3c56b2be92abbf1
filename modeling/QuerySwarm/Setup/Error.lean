import QuerySwarm.Binary64.Decimal
import QuerySwarm.Duration
import QuerySwarm.Files
import QuerySwarm.Scenario
import QuerySwarm.Url.Basic

/-!
# Why a run cannot start

Every cause that stops a run before its first user, and its wording.
-/

namespace QuerySwarm

/-- Why a run cannot start. -/
inductive SetupError where
  | missingToken (variableName : String)
  | emptyTokenFile (path : String)
  | tokenFile (path : String) (error : FileError)
  | thinkTimeBounds (min max : Binary64)
  | thinkTimeOrder (min max : Binary64)
  | thinkTimeTooLong (max : Binary64)
  | hostNotUrl (host : String) (error : Url.Error)
  | hostScheme (host scheme : String)
  | noUsers
  | spawnRateNotPositive (rate : Binary64)
  | spawnRateTooSmall (rate : Binary64)
  | noRequestTimeout
  | durationTooLong (duration : Duration)
  | noTasks
  | unknownTask (name : String) (scenario : Scenario) (available : List String)

namespace SetupError

/-- The wording for a host that cannot be used. -/
def hostMessage (host reason : String) : String :=
  "invalid host URL '" ++ host ++ "': " ++ reason

def message : SetupError → String
  | missingToken name =>
    "environment variable " ++ name ++
      " is not set or empty; export a bearer token (e.g. `oc whoami -t`)"
  | emptyTokenFile path => "token file " ++ path ++ " is empty"
  | tokenFile path error => "failed to read token file " ++ path ++ ": " ++ error.message
  | thinkTimeBounds min max =>
    "think-time bounds must be non-negative numbers, got " ++ min.text ++ ".." ++ max.text
  | thinkTimeOrder min max =>
    "invalid think-time range: min " ++ min.text ++ "s is greater than max " ++ max.text ++ "s"
  | thinkTimeTooLong max => "think-time max " ++ max.text ++ "s is too large"
  | hostNotUrl host error => hostMessage host error.message
  | hostScheme host scheme => hostMessage host ("unsupported scheme '" ++ scheme ++ "'")
  | noUsers => "--users must be at least 1"
  | spawnRateNotPositive rate => "--spawn-rate must be positive, got " ++ rate.text
  | spawnRateTooSmall rate => "--spawn-rate " ++ rate.text ++ " is too small"
  | noRequestTimeout => "--request-timeout must be at least 1 second"
  | durationTooLong duration => "--duration " ++ natText duration.seconds ++ "s is too large"
  | noTasks => "task set is empty"
  | unknownTask name scenario available =>
    "unknown task '" ++ name ++ "' for scenario " ++ scenario.name ++ "; available: " ++
      ", ".intercalate available

end SetupError

end QuerySwarm
