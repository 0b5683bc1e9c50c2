import Toolflow.Config.Basic
import Toolflow.Text.Blank
import Toolflow.Text.Count

/-!
Configuration from the variables of an environment.
-/

namespace Toolflow

open Toolflow.Text

inductive SettingFault where
  | count (fault : CountFault)
  | boolean
deriving DecidableEq

def SettingFault.message : SettingFault → String
  | .count fault => fault.message
  | .boolean => "provided string was not `true` or `false`"

inductive EnvironmentFault where
  | invalidValue (name raw : String) (cause : SettingFault)
  | invalidConfig (cause : ConfigFault)
deriving DecidableEq

/-- What is wrong, followed by its cause. -/
def EnvironmentFault.messages : EnvironmentFault → List String
  | .invalidValue name raw cause => [s!"{name} has invalid value '{raw}'", cause.message]
  | .invalidConfig cause => ["invalid engine configuration from environment", cause.message]

def readSetting (cs : List Char) : Except SettingFault UInt64 :=
  match readCount cs with
  | .ok n => .ok (UInt64.ofNat n)
  | .error fault => .error (.count fault)

def readFlag (cs : List Char) : Except SettingFault Bool :=
  if String.ofList cs = "true" then .ok true
  else if String.ofList cs = "false" then .ok false
  else .error .boolean

abbrev Environment := List (String × String)

/-- The setting of a variable, blanks around it ignored; none if the variable is not there. -/
def Environment.setting? {α : Type} (vars : Environment) (read : List Char → Except SettingFault α)
    (name : String) :
    Except EnvironmentFault (Option α) :=
  match vars.lookup name with
  | none => .ok none
  | some raw =>
    match read (trim raw.toList) with
    | .ok x => .ok (some x)
    | .error cause => .error (.invalidValue name raw cause)

def Environment.settings (vars : Environment) : Except EnvironmentFault Settings := do
  let seconds ← vars.setting? readSetting "CHAIN_CACHE_TTL_SECS"
  let largeThreshold ← vars.setting? readSetting "CHAIN_LARGE_RESULT_THRESHOLD"
  let maxSteps ← vars.setting? readSetting "CHAIN_MAX_STEPS"
  let cleanup ← vars.setting? readFlag "CHAIN_CLEANUP_ON_COMPLETION"
  return {
    lifespan := seconds.map .ofSeconds
    keyPrefix := vars.lookup "CHAIN_CACHE_KEY_PREFIX"
    largeThreshold, maxSteps, cleanup }

def Config.ofEnvironment (vars : Environment) : Except EnvironmentFault Config := do
  let settings ← vars.settings
  match settings.build with
  | .ok config => .ok config
  | .error cause => .error (.invalidConfig cause)

end Toolflow
