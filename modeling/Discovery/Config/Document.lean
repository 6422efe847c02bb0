import Discovery.Config.Basic
import Discovery.Toml.Reader

namespace Discovery

/-!
# Configurations as TOML

A configuration is written as a TOML document.  Each group of settings is a
table, or an array of its settings in their order.  Settings that are not
written have their defaults, and what is not a setting is passed over; but a
setting that is written must have a value of its own kind and range.
-/

namespace Toml.Value

/-- The key under which a date or time counts as a table of its own. -/
def momentKey : String := "$__toml_private_datetime"

/-- The entries of a table; a date or time has one. -/
def entries? : Value → Option (List (String × Value))
  | .table entries => some entries
  | .moment standardForm => some [(momentKey, .text standardForm)]
  | _ => none

/-- The text that a value is. -/
def text? : Value → Option String
  | .text content => some content
  | _ => none

/-- The number below a limit that a value is. -/
def natural? (limit : Nat) : Value → Option Nat
  | .integer (.ofNat value) => some value |>.filter (· < limit)
  | _ => none

/-- The items of an array. -/
def items? : Value → Option (List Value)
  | .array items => some items
  | _ => none

end Toml.Value

namespace Config

/-- The settings of one group as they are written. -/
inductive Group where
  | named (entries : List (String × Toml.Value))
  | inOrder (items : List Toml.Value)

namespace Group

/-- The group that a value is. -/
def ofValue? (value : Toml.Value) : Option Group :=
  match value.items? with
  | some items => some (.inOrder items)
  | none => value.entries?.map .named

/-- The value of a setting, which has a position and a name. -/
def value? (group : Group) (position : Nat) (name : String) : Option Toml.Value :=
  match group with
  | .named entries => entries.lookup name
  | .inOrder items => items[position]?

/-- A setting, which must be readable if it is written. -/
def setting?
    {Setting : Type}
    (group : Group)
    (position : Nat)
    (name : String)
    (read : Toml.Value → Option Setting)
    (default : Setting) :
    Option Setting :=
  match group.value? position name with
  | none => some default
  | some value => read value

end Group

/-- The agent's settings in a group. -/
def agentOfGroup? (group : Group) : Option AgentSettings := do
  let default : AgentSettings := {}
  some
    { resourceExpiry := ←
        group.setting? 0 "resource_expiry_secs"
          (fun value => (value.natural? UInt32.size).map .ofNat) default.resourceExpiry
      shutdownFlush := ←
        group.setting? 1 "shutdown_flush_ms"
          (fun value => (value.natural? UInt64.size).map .ofNat) default.shutdownFlush }

/-- The network settings in a group. -/
def networkOfGroup? (group : Group) : Option NetworkSettings := do
  let default : NetworkSettings := {}
  some
    { interface := ← group.setting? 0 "interface" (·.text?) default.interface
      port := ←
        group.setting? 1 "port"
          (fun value => (value.natural? UInt16.size).map .ofNat) default.port
      multicastAddress := ← group.setting? 2 "multicast_addr" (·.text?) default.multicastAddress }

/-- The attributes that a value states. -/
def attributesOfValue? (value : Toml.Value) : Option Attributes := do
  let entries ← (← value.entries?).mapM fun (key, value) => value.text?.map (key, ·)
  some (Table.ofList entries)

/-- The published resource in a group. -/
def publishEntryOfGroup? (group : Group) : Option PublishEntry := do
  let default : PublishEntry := {}
  some
    { category := ← group.setting? 0 "category" (·.text?) default.category
      connection := ← group.setting? 1 "connection" (·.text?) default.connection
      attributes := ← group.setting? 2 "attributes" attributesOfValue? default.attributes }

/-- The list that an array states, each item read alike. -/
def listOfValue? {Item : Type} (read : Toml.Value → Option Item) (value : Toml.Value) :
    Option (List Item) :=
  value.items?.bind (·.mapM read)

/-- The configuration in a group. -/
def ofGroup? (group : Group) : Option Config := do
  let default : Config := {}
  some
    { subscribe := ← group.setting? 0 "subscribe" (listOfValue? (·.text?)) default.subscribe
      publish := ←
        group.setting? 1 "publish"
          (listOfValue? fun value => (Group.ofValue? value).bind publishEntryOfGroup?)
          default.publish
      agent := ←
        group.setting? 2 "agent"
          (fun value => (Group.ofValue? value).bind agentOfGroup?) default.agent
      network := ←
        group.setting? 3 "network"
          (fun value => (Group.ofValue? value).bind networkOfGroup?) default.network }

/-- Read a configuration. -/
def parse? (document : String) : Option Config :=
  (Toml.parse? document).bind fun entries => ofGroup? (.named entries)

/-- The document for someone who has no configuration yet: every setting at its default. -/
def defaultDocument : String :=
  String.intercalate "\n"
    [ "subscribe = []"
    , "publish = []"
    , ""
    , "[agent]"
    , "resource_expiry_secs = 30"
    , "shutdown_flush_ms = 50"
    , ""
    , "[network]"
    , "interface = \"\""
    , "port = 45277"
    , "multicast_addr = \"ff02::1\""
    , "" ]

end Config

end Discovery
