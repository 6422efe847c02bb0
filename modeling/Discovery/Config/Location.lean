import Discovery.Config.Environment

namespace Discovery

/-!
# Where the configuration is kept

The path of the configuration is set outright, or else follows from the
directory for configurations, which in turn follows from the home directory
unless it is set.
-/

namespace Config

/-- A name inside a directory; the directory without a name is the current one. -/
def inside (directory name : String) : String :=
  if directory.isEmpty || directory.endsWith "/" then directory ++ name
  else directory ++ "/" ++ name

/-- The home directory. -/
def home (environment : Environment) : String :=
  (environment.text? "HOME").getD "/tmp"

/-- The directory for configurations. -/
def directory (environment : Environment) : String :=
  inside ((environment.text? "XDG_CONFIG_HOME").getD (inside (home environment) ".config")) "beacon"

/-- The path of the configuration. -/
def path (environment : Environment) : String :=
  (environment.text? "BEACON_CONFIG").getD (inside (directory environment) "config.toml")

end Config

end Discovery
