import Discovery.Agent.Basic

namespace Discovery

/-!
# Descriptions

How resources, subscriptions and editors look when they are shown for
inspection.  Identifiers are shown by labels, which are up to the reader.
-/

/-- How identifiers are shown. -/
abbrev Labelling := ResourceId → String

/-- An identifier as part of a description. -/
def describeId (label : Labelling) (id : ResourceId) : String :=
  "ResourceId(" ++ label id ++ ")"

/-- A truth value as part of a description. -/
def describeFlag (flag : Bool) : String :=
  if flag then "true" else "false"

/-- A resource of either kind. -/
def describeResource
    (label : Labelling)
    (id : ResourceId)
    (isLocal : Bool)
    (category connection : String)
    (attributes : Attributes) : String :=
  Text.describe "Resource"
    [ ("id", describeId label id)
    , ("local", describeFlag isLocal)
    , ("category", Text.quote category)
    , ("connection", Text.quote connection)
    , ("attributes", Text.quoteMapping attributes.entries) ]

/-- A resource of someone else. -/
def RemoteResource.describe (label : Labelling) (resource : RemoteResource) : String :=
  describeResource label resource.id false resource.category resource.connection
    resource.attributes

namespace LocalResource

/-- A resource of one's own, among resources of either kind. -/
def describeAny (label : Labelling) (resource : LocalResource) : String :=
  describeResource label resource.id true resource.category resource.connection
    resource.attributes

/-- A resource of one's own. -/
def describe (label : Labelling) (resource : LocalResource) : String :=
  Text.describe "LocalResource"
    [ ("id", describeId label resource.id)
    , ("category", Text.quote resource.category)
    , ("edit_serial", toString resource.editSerial) ]

end LocalResource

/-- An edit under way, with the resource as it is now. -/
def Editor.describe (label : Labelling) (resource : LocalResource) (editor : Editor) : String :=
  Text.describe "Editor"
    [ ("resource", resource.describe label)
    , ("baseline", toString editor.baseline)
    , ("puts", Text.quoteMapping editor.changes.puts.entries)
    , ("removes", Text.quoteSet editor.changes.removes.keys) ]

/-- A subscription with the serial number that it shows. -/
def Subscription.describe (serial : Nat) (subscription : Subscription) : String :=
  Text.describe "Subscription"
    [ ("id", toString subscription.id)
    , ("category", Text.quote subscription.category)
    , ("serial", toString serial)
    , ("disposed", describeFlag subscription.disposed) ]

end Discovery
