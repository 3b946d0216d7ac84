import Agentme.Net.Addr

/-! The plugin framework's error type and its messages. JSON values stay a type
parameter wherever the framework carries them without looking inside. -/

namespace Agentme

/-- `PluginError`; `duration_ms` is a `u64`. -/
inductive PluginError where
  | alreadyRegistered (name : String)
  | notFound (name : String)
  | initializationFailed (plugin reason : String)
  | actionFailed (action reason : String)
  | providerFailed (provider reason : String)
  | serviceFailed (service reason : String)
  | invalidConfig (key reason : String)
  | dependencyNotSatisfied (plugin dependency : String)
  | disabled (name : String)
  | timeout (operation : String) (durationMs : Nat)
  | serdeError (msg : String)
  | ioError (msg : String)
  | other (msg : String)
  deriving DecidableEq, Repr

/-- `impl Display for PluginError`. -/
def PluginError.fmt : PluginError → String
  | .alreadyRegistered name => "Plugin '" ++ name ++ "' is already registered"
  | .notFound name => "Plugin '" ++ name ++ "' not found"
  | .initializationFailed plugin reason =>
    "Plugin '" ++ plugin ++ "' initialization failed: " ++ reason
  | .actionFailed action reason => "Action '" ++ action ++ "' failed: " ++ reason
  | .providerFailed provider reason => "Provider '" ++ provider ++ "' failed: " ++ reason
  | .serviceFailed service reason => "Service '" ++ service ++ "' failed: " ++ reason
  | .invalidConfig key reason => "Invalid config key '" ++ key ++ "': " ++ reason
  | .dependencyNotSatisfied plugin dependency =>
    "Plugin '" ++ plugin ++ "' has unsatisfied dependency: " ++ dependency
  | .disabled name => "Plugin '" ++ name ++ "' is disabled"
  | .timeout operation durationMs =>
    "Operation '" ++ operation ++ "' timed out after " ++ toString durationMs ++ "ms"
  | .serdeError msg => "Serialization error: " ++ msg
  | .ioError msg => "IO error: " ++ msg
  | .other msg => msg

end Agentme
