import Discovery.Text.Hex
import Discovery.Wire.Message

namespace Discovery.Wire

/-!
# Limits of the wire format

A payload is refused for one of six reasons.  A sender can check in advance
whether its message will be accepted: `Message.validate` looks at the parts of
a message in the order in which they travel, so the reason it gives is the one
that a receiver would find.
-/

/-- The longest text on the wire, in bytes. -/
def maxTextLength : Nat := 65536

/-- The most attributes that one announcement carries. -/
def maxAttributes : Nat := 1024

/-- Why a payload is refused. -/
inductive WireError where
  | truncated
  | unknownTag (first second third fourth : UInt8)
  | textTooLong (length : UInt32)
  | invalidUtf8
  | negativeExpiry (expiry : Int32)
  | badAttributeCount (count : Int32)
  deriving DecidableEq, Repr

/-- What is said about a payload that is refused. -/
def WireError.message : WireError → String
  | .truncated => "message truncated"
  | .unknownTag first second third fourth =>
      let digits := [first, second, third, fourth].map fun byte => Text.Hex.encode [byte]
      "unknown message tag: [" ++ String.intercalate ", " digits ++ "]"
  | .textTooLong length =>
      "string length " ++ toString length.toNat ++ " exceeds maximum " ++ toString maxTextLength
  | .invalidUtf8 => "string is not valid UTF-8"
  | .negativeExpiry expiry => "negative expiry: " ++ toString expiry.toInt
  | .badAttributeCount count =>
      "attribute count " ++ toString count.toInt ++ " outside 0..=" ++ toString maxAttributes

/-- A length as the wire states it: one that does not fit becomes the greatest that does. -/
def lengthWord (length : Nat) : UInt32 :=
  UInt32.ofNat (min length 0xFFFFFFFF)

/-- A count as the wire states it: one that does not fit becomes the greatest that does. -/
def countWord (count : Nat) : Int32 :=
  Int32.ofNat (min count 0x7FFFFFFF)

/-- Accept a text that is short enough. -/
def checkText (text : String) : Except WireError Unit :=
  if text.utf8ByteSize ≤ maxTextLength then .ok ()
  else .error (.textTooLong (lengthWord text.utf8ByteSize))

/-- Accept entries whose keys and values are short enough, the first failure deciding. -/
def checkEntries : List (String × String) → Except WireError Unit
  | [] => .ok ()
  | entry :: rest => do
      checkText entry.1
      checkText entry.2
      checkEntries rest

/-- Accept attributes that are few enough and short enough. -/
def checkAttributes (attributes : Attributes) : Except WireError Unit :=
  if attributes.size ≤ maxAttributes then checkEntries attributes.entries
  else .error (.badAttributeCount (countWord attributes.size))

/-- Accept an announcement that every receiver will accept. -/
def Announcement.validate (announcement : Announcement) : Except WireError Unit := do
  checkText announcement.category
  checkText announcement.connection
  if announcement.expiry < 0 then .error (.negativeExpiry announcement.expiry)
  checkAttributes announcement.attributes

/-- Accept a message that every receiver will accept. -/
def Message.validate : Message → Except WireError Unit
  | .query category => checkText category
  | .hello announcement => announcement.validate
  | .reply announcement => announcement.validate
  | .byeBye => .ok ()

end Discovery.Wire
