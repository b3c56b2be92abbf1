import QuerySwarm.CommandLine.Options
import QuerySwarm.LoadProfile
import QuerySwarm.Settings
import QuerySwarm.Url.Parser

/-!
# Settings from options

The settings of a run are put together from the options and the profile: an option that is given
wins, and what is not given is taken from the profile. They are checked before they are given out.

Main statement: settings that are given out pass the check (`Settings.check_of_ofOptions`).
-/

namespace QuerySwarm.Settings

def parseHost (host : String) : Except SetupError Url :=
  match Url.parse host with
  | .error e => .error (.hostNotUrl host e)
  | .ok url =>
    if Url.isHttp url.scheme then .ok url
    else .error (.hostScheme host (String.ofList url.scheme))

/-- The settings that options and a profile make together, with their think time and host. -/
def assemble (o : RunOptions) (profile : LoadProfile) (thinkTime : ThinkTime) (host : Url) :
    Settings where
  host := host
  users := o.users.getD profile.users
  spawnRate := o.spawnRate.getD profile.spawnRate
  thinkTime := thinkTime
  duration := .ofSeconds o.duration
  requestTimeout := .ofSeconds o.requestTimeout
  reportInterval := o.reportInterval
  reportPath := o.reportPath
  tagOperations := o.tagOperations
  debugResponses := o.debugResponses
  validateResponses := o.validateResponses

/-- Put the settings together with a profile: first the think time, then the host, then the rest. -/
def ofProfile (clock : Clock) (o : RunOptions) (profile : LoadProfile) :
    Except SetupError Settings :=
  match ThinkTime.ofBounds (o.minWait.getD profile.thinkTime.min)
      (o.maxWait.getD profile.thinkTime.max) with
  | .error e => .error e
  | .ok thinkTime =>
    match parseHost o.host with
    | .error e => .error e
    | .ok host =>
      let settings := assemble o profile thinkTime host
      match settings.check clock with
      | .error e => .error e
      | .ok () => .ok settings

/-- The settings that the options ask for, and what is reported on the way. -/
def ofOptions (clock : Clock) (o : RunOptions) : Except SetupError Settings × Log :=
  let profile := LoadProfile.named o.profile
  (ofProfile clock o profile.1, profile.2)

/-- Settings that are given out pass the check. -/
theorem check_of_ofOptions {clock : Clock} {o : RunOptions} {s : Settings} {log : Log}
    (h : ofOptions clock o = (.ok s, log)) : s.check clock = .ok () := by
  simp only [ofOptions, Prod.mk.injEq] at h
  have h := h.1
  unfold ofProfile at h
  split at h
  · cases h
  · split at h
    · cases h
    · dsimp only at h
      split at h
      · cases h
      · next hcheck =>
        cases h
        exact hcheck

end QuerySwarm.Settings
