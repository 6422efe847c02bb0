import Discovery.Json.Reader
import Discovery.Resource.Local
import Discovery.Resource.Remote
import Discovery.Text.Separated

namespace Discovery

/-!
# Snapshots of resources

What can be said of a resource at one moment, of whichever kind it is, and its
form in JSON: an object with the identifier, the category, the connection and
the attributes in this order.  Reading accepts the members in any order, passes
over members that it does not know, and also accepts the four values as an
array.
-/

/-- What a resource is at one moment. -/
structure ResourceInfo where
  id : ResourceId
  category : String
  connection : String
  attributes : Attributes
  deriving DecidableEq, Repr

/-- A snapshot of a resource of one's own. -/
def LocalResource.info (resource : LocalResource) : ResourceInfo :=
  ⟨resource.id, resource.category, resource.connection, resource.attributes⟩

/-- A snapshot of a resource of someone else. -/
def RemoteResource.info (resource : RemoteResource) : ResourceInfo :=
  ⟨resource.id, resource.category, resource.connection, resource.attributes⟩

namespace ResourceInfo

/-- Attributes as a JSON object. -/
def attributesJson (attributes : Attributes) : List Char :=
  '\x7b' ::
    (Text.join ',' (attributes.entries.map fun entry =>
        Json.quote entry.1 ++ ':' :: Json.quote entry.2) ++ ['\x7d'])

/-- A snapshot as a JSON object without spaces. -/
def json (info : ResourceInfo) : String :=
  String.ofList
    ('\x7b' ::
      (Text.join ','
          [ Json.quote "id" ++ ':' :: Json.quote info.id.text
          , Json.quote "category" ++ ':' :: Json.quote info.category
          , Json.quote "connection" ++ ':' :: Json.quote info.connection
          , Json.quote "attributes" ++ ':' :: attributesJson info.attributes ] ++
        ['\x7d']))

/-- The identifier that a value spells. -/
def readId? (value : Json.Value) : Option ResourceId :=
  value.text?.bind fun digits => (ResourceId.parse digits).toOption

/-- The attributes that a value states; a key that comes again replaces its earlier value. -/
def readAttributes? : Json.Value → Option Attributes
  | .object members => do
      let entries ← members.mapM fun (key, value) => do
        some ((← key), (← value.text?))
      some (Table.ofList entries)
  | _ => none

/-- The value of a member that must be there exactly once. -/
def member? (members : List (Option String × Json.Value)) (key : String) : Option Json.Value :=
  match members.filter fun member => member.1 == some key with
  | [(_, value)] => some value
  | _ => none

/-- The snapshot that four values state. -/
def ofValues? (id category connection attributes : Json.Value) : Option ResourceInfo := do
  some ⟨← readId? id, ← category.text?, ← connection.text?, ← readAttributes? attributes⟩

/-- The snapshot that a value states. -/
def ofValue? : Json.Value → Option ResourceInfo
  | .object members =>
      if members.any fun member => member.1.isNone then none
      else do
        ofValues? (← member? members "id") (← member? members "category")
          (← member? members "connection") (← member? members "attributes")
  | .array [id, category, connection, attributes] =>
      ofValues? id category connection attributes
  | _ => none

/-- Read a snapshot from JSON. -/
def parse? (text : String) : Option ResourceInfo :=
  (Json.Value.parse? text).bind ofValue?

end ResourceInfo

end Discovery
