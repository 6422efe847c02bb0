import Discovery.Wire.Limits

namespace Discovery.Wire

/-!
# Writing messages

A message is its tag and then its parts in a fixed order.  A text is its
length in bytes, as a word, and its bytes; an announcement is the category,
the connection, the expiry, the number of attributes and the attributes in the
order of their keys.  Writing checks no limit: what is too long or too many
states a length or count that every reader refuses.
-/

/-- A text, after its length. -/
def textBytes (text : String) : Bytes :=
  Bytes.wordBytes (lengthWord text.utf8ByteSize) ++ Bytes.ofText text

/-- Entries in the order given, each key before its value. -/
def entriesBytes (entries : List (String × String)) : Bytes :=
  entries.flatMap fun entry => textBytes entry.1 ++ textBytes entry.2

/-- The parts of an announcement, in the order in which they travel. -/
def Announcement.encode (announcement : Announcement) : Bytes :=
  textBytes announcement.category ++
    (textBytes announcement.connection ++
      (Bytes.wordBytes announcement.expiry.toUInt32 ++
        (Bytes.wordBytes (countWord announcement.attributes.size).toUInt32 ++
          entriesBytes announcement.attributes.entries)))

/-- The payload of a message. -/
def Message.encode : Message → Bytes
  | .query category => queryTag ++ textBytes category
  | .hello announcement => helloTag ++ announcement.encode
  | .reply announcement => replyTag ++ announcement.encode
  | .byeBye => byeByeTag

end Discovery.Wire
