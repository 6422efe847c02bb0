import Discovery.Address.Ipv6
import Discovery.Config.Basic

namespace Discovery.Datagram

/-!
# Datagram settings

The network settings of a configuration are texts and numbers; a transport
needs an interface that exists and a group that is one.  The interface is
looked at first.
-/

/-- What the host offers. -/
structure Host where
  /-- The names of the network interfaces; their indices count from one. -/
  interfaces : List String
  /-- Whether the host can send datagrams to itself. -/
  loopback : Bool
  deriving DecidableEq, Repr

/-- The index of a named interface. -/
def Host.interfaceIndex? (host : Host) (name : String) : Option Nat :=
  (host.interfaces.idxOf? name).map (· + 1)

/-- Where a transport sends and listens. -/
structure Settings where
  /-- The index of the interface, or zero to let the system choose. -/
  interfaceIndex : Nat
  port : UInt16
  group : Ipv6Address
  deriving DecidableEq, Repr

/-- Why network settings cannot be used. -/
inductive SettingsError where
  | nulInInterface (position : Nat)
  | unknownInterface (name : String)
  | notAnAddress (text : String)
  | notMulticast (group : Ipv6Address)
  deriving DecidableEq, Repr

/-- What is said about network settings that cannot be used. -/
def SettingsError.message : SettingsError → String
  | .nulInInterface position =>
      "interface name contains null byte: nul byte found in provided data at position: " ++
        toString position
  | .unknownInterface name => "interface '" ++ name ++ "' not found"
  | .notAnAddress text =>
      "invalid multicast address '" ++ text ++ "': invalid IPv6 address syntax"
  | .notMulticast group => "'" ++ group.text ++ "' is not a multicast address"

/-- The index of the interface with a name; the empty name leaves the choice open. -/
def resolveInterface (host : Host) (name : String) : Except SettingsError Nat :=
  if name.isEmpty then .ok 0
  else
    match (Bytes.ofText name).idxOf? 0 with
    | some position => .error (.nulInInterface position)
    | none =>
        match host.interfaceIndex? name with
        | some index => .ok index
        | none => .error (.unknownInterface name)

/-- The multicast group that a text names. -/
def resolveGroup (text : String) : Except SettingsError Ipv6Address :=
  match Ipv6Address.parse? text with
  | none => .error (.notAnAddress text)
  | some group => if group.isMulticast then .ok group else .error (.notMulticast group)

/-- The settings of a transport on a host. -/
def Settings.resolve (host : Host) (network : NetworkSettings) : Except SettingsError Settings := do
  let interfaceIndex ← resolveInterface host network.interface
  let group ← resolveGroup network.multicastAddress
  .ok ⟨interfaceIndex, network.port, group⟩

end Discovery.Datagram
