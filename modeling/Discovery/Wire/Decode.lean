import Discovery.Wire.Limits

namespace Discovery.Wire

/-!
# Reading messages

Each reader takes its part from the front of the bytes and returns what
follows, so the parts of a message are read one after another and whatever
stands behind the last is left alone.  A length is judged before the text that
it announces, and both words of an announcement must be there before either is
judged.
-/

/-- Take a word. -/
def takeWord : Bytes → Except WireError (UInt32 × Bytes)
  | first :: second :: third :: fourth :: rest =>
      .ok (Bytes.word first second third fourth, rest)
  | _ => .error .truncated

/-- Take as many bytes as a text has, and read them as that text. -/
def takeTextOf (length : Nat) (bytes : Bytes) : Except WireError (String × Bytes) :=
  let body := bytes.take length
  if body.length < length then .error .truncated
  else
    match Bytes.toText? body with
    | some text => .ok (text, bytes.drop length)
    | none => .error .invalidUtf8

/-- Take a text: its length and then its bytes. -/
def takeText (bytes : Bytes) : Except WireError (String × Bytes) := do
  let (length, rest) ← takeWord bytes
  if maxTextLength < length.toNat then .error (.textTooLong length)
  else takeTextOf length.toNat rest

/-- Take some entries; a key that comes again replaces its earlier value. -/
def takeEntries : Nat → Attributes → Bytes → Except WireError (Attributes × Bytes)
  | 0, known, bytes => .ok (known, bytes)
  | count + 1, known, bytes => do
      let (key, afterKey) ← takeText bytes
      let (value, rest) ← takeText afterKey
      takeEntries count (known.insert key value) rest

/-- Take the expiry and the number of attributes, refusing a negative expiry first. -/
def takeExpiryAndCount (bytes : Bytes) : Except WireError ((Int32 × Nat) × Bytes) :=
  match bytes with
  | e0 :: e1 :: e2 :: e3 :: c0 :: c1 :: c2 :: c3 :: rest =>
      let expiry := (Bytes.word e0 e1 e2 e3).toInt32
      let count := (Bytes.word c0 c1 c2 c3).toInt32
      if expiry < 0 then .error (.negativeExpiry expiry)
      else if count < 0 ∨ maxAttributes < count.toInt.toNat then .error (.badAttributeCount count)
      else .ok ((expiry, count.toInt.toNat), rest)
  | _ => .error .truncated

/-- Take an announcement. -/
def takeAnnouncement (bytes : Bytes) : Except WireError (Announcement × Bytes) := do
  let (category, afterCategory) ← takeText bytes
  let (connection, afterConnection) ← takeText afterCategory
  let ((expiry, count), afterCount) ← takeExpiryAndCount afterConnection
  let (attributes, rest) ← takeEntries count ∅ afterCount
  .ok (⟨category, connection, expiry, attributes⟩, rest)

/-- Take a message and return what follows it. -/
def takeMessage : Bytes → Except WireError (Message × Bytes)
  | first :: second :: third :: fourth :: body =>
      let tag := [first, second, third, fourth]
      if tag = queryTag then (takeText body).map fun (category, rest) => (.query category, rest)
      else if tag = helloTag then
        (takeAnnouncement body).map fun (announcement, rest) => (.hello announcement, rest)
      else if tag = replyTag then
        (takeAnnouncement body).map fun (announcement, rest) => (.reply announcement, rest)
      else if tag = byeByeTag then .ok (.byeBye, body)
      else .error (.unknownTag first second third fourth)
  | _ => .error .truncated

/-- Read a payload; bytes behind the message are ignored. -/
def Message.decode (payload : Bytes) : Except WireError Message :=
  (takeMessage payload).map (·.1)

end Discovery.Wire
