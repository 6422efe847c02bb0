import Discovery.Bytes
import Discovery.Config.Basic
import Discovery.Text.Blank
import Discovery.Text.Numeral
import Discovery.Text.Separated

namespace Discovery

/-!
# Environment variables

Four variables override settings, whichever file the settings came from.  A
number that cannot be read leaves its setting alone, and so does a variable
whose value is not text.
-/

/-- The variables that are set, with the bytes of their values; the first of a name counts. -/
abbrev Environment := List (String × Bytes)

/-- The text of a variable, if it is set to one. -/
def Environment.text? (environment : Environment) (name : String) : Option String :=
  (environment.lookup name).bind Bytes.toText?

/-- The number that a variable sets, or else the one that was set before. -/
def Environment.number
    (environment : Environment)
    (name : String)
    (limit : Nat)
    (previous : Nat) :
    Nat :=
  ((environment.text? name).bind (Text.wholeNumber? limit)).getD previous

namespace Config

/-- The categories in a list that is separated by commas. -/
def categories (list : String) : List String :=
  (((Text.split ',' list.toList).map Text.trimCharacters).filter (!·.isEmpty)).map String.ofList

/-- The agent's settings under an environment. -/
def overrideAgent (environment : Environment) (settings : AgentSettings) : AgentSettings :=
  { settings with
    resourceExpiry :=
      .ofNat (environment.number "BEACON_AGENT__RESOURCE_EXPIRY_SECS" UInt32.size
        settings.resourceExpiry.toNat) }

/-- The network settings under an environment. -/
def overrideNetwork (environment : Environment) (settings : NetworkSettings) : NetworkSettings :=
  { settings with
    interface := (environment.text? "BEACON_NETWORK__INTERFACE").getD settings.interface
    port := .ofNat (environment.number "BEACON_NETWORK__PORT" UInt16.size settings.port.toNat) }

/-- A configuration under an environment. -/
def override (environment : Environment) (config : Config) : Config :=
  { config with
    subscribe := ((environment.text? "BEACON_SUBSCRIBE").map categories).getD config.subscribe
    agent := overrideAgent environment config.agent
    network := overrideNetwork environment config.network }

end Config

end Discovery
