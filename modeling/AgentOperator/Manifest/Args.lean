import AgentOperator.Dict
import AgentOperator.Log

/-!
# Container arguments

The arguments of the agent's command. The flag that names the configuration is the operator's own
wherever the primary configuration is mounted, comes first, and takes the place of a declared flag
of that name; the declared flags follow in order of their keys.
-/

namespace AgentOperator.Args

/-- The directory in which the agent looks for its configuration. -/
def configDir : String := "/conf"

/-- The flag that names the configuration. -/
def configFlag : String := "config"

/-- A flag as an argument. -/
def render (key value : String) : String := "--" ++ key ++ "=" ++ value

/-- The declared flags that are passed on. -/
def kept (declared : Dict String) (addConfig : Bool) : List (String × String) :=
  declared.entries.filter fun flag => !(addConfig && flag.1 = configFlag)

/-- The arguments for a configuration under the key `entry`. -/
def assemble (entry : String) (declared : Dict String) (addConfig : Bool) : List String :=
  let own := if addConfig then [render configFlag (configDir ++ "/" ++ entry)] else []
  own ++ (kept declared addConfig).map fun flag => render flag.1 flag.2

/-- The notice that a declared flag is not passed on. -/
def notices (declared : Dict String) (addConfig : Bool) : List Log.Record :=
  if addConfig && (declared.get? configFlag).isSome then
    [{ level := .info, message := "the 'config' flag isn't allowed and is being ignored",
       fields := [("flag", .text configFlag)] }]
  else []

end AgentOperator.Args
