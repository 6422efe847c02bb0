import Discovery.Resource.Attributes

namespace Discovery.Wire

/-!
# Messages

Four kinds of message keep participants informed of each other's resources.
A query asks the owners of a category to answer at once; a hello announces a
resource to everyone and a reply to the one who asked; a bye-bye withdraws it.
The identifier of the resource is not part of any message: it is the stream on
which the message travels.
-/

/-- What a hello or a reply says of a resource. -/
structure Announcement where
  category : String
  connection : String
  /-- Seconds from receipt until the announcement lapses. -/
  expiry : Int32
  attributes : Attributes
  deriving DecidableEq, Repr

/-- One message. -/
inductive Message where
  | query (category : String)
  | hello (announcement : Announcement)
  | reply (announcement : Announcement)
  | byeBye
  deriving DecidableEq, Repr

/-- The four bytes that open a query. -/
def queryTag : Bytes := [0x42, 0x43, 0x51, 0x31]

/-- The four bytes that open a hello. -/
def helloTag : Bytes := [0x42, 0x43, 0x48, 0x31]

/-- The four bytes that open a reply. -/
def replyTag : Bytes := [0x42, 0x43, 0x52, 0x31]

/-- The four bytes that open a bye-bye. -/
def byeByeTag : Bytes := [0x42, 0x43, 0x42, 0x31]

namespace Message

/-- The four bytes that open a message. -/
def tag : Message → Bytes
  | .query _ => queryTag
  | .hello _ => helloTag
  | .reply _ => replyTag
  | .byeBye => byeByeTag

/-- The name of a message's kind. -/
def kind : Message → String
  | .query _ => "query"
  | .hello _ => "hello"
  | .reply _ => "reply"
  | .byeBye => "bye-bye"

end Message

end Discovery.Wire
