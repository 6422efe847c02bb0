import Discovery.Resource.Id

namespace Discovery.Datagram

/-!
# Frames

Every datagram opens with a header of thirty-two bytes: a magic word, a version,
flags, two reserved bytes, the stream, the sender and the sequence number.  The
payload follows.  A datagram with another magic word or version belongs to
someone else and is passed over, as is one that is too short.
-/

/-- The four bytes that open a datagram. -/
def magic : Bytes := [0x42, 0x43, 0x4e, 0x30]

/-- The version of the header. -/
def version : UInt8 := 1

/-- The flags of a datagram that answers another. -/
def replyFlags : UInt8 := 1

/-- The number of bytes in a header. -/
def headerLength : Nat := 32

/-- What a header says, its magic word and version apart. -/
structure Header where
  flags : UInt8
  reservedFirst : UInt8
  reservedSecond : UInt8
  stream : StreamId
  sender : UInt32
  sequence : UInt32
  deriving DecidableEq, Repr

namespace Header

/-- The header of a datagram of our own. -/
def outgoing (flags : UInt8) (stream : StreamId) (sender sequence : UInt32) : Header :=
  ⟨flags, 0, 0, stream, sender, sequence⟩

/-- Whether the flags are those of an answer. -/
def isReply (header : Header) : Bool :=
  header.flags == replyFlags

/-- The thirty-two bytes of a header. -/
def encode (header : Header) : Bytes :=
  magic ++
    ([version, header.flags, header.reservedFirst, header.reservedSecond] ++
      (header.stream.bytes ++
        (Bytes.wordBytes header.sender ++ Bytes.wordBytes header.sequence)))

/-- Read the part of a header that follows the stream, and the payload. -/
def parseTail
    (flags reservedFirst reservedSecond : UInt8)
    (stream : StreamId) : Bytes → Option (Header × Bytes)
  | s0 :: s1 :: s2 :: s3 :: q0 :: q1 :: q2 :: q3 :: payload =>
      some
        (⟨flags, reservedFirst, reservedSecond, stream,
          Bytes.word s0 s1 s2 s3, Bytes.word q0 q1 q2 q3⟩, payload)
  | _ => none

/-- Read a datagram as a header and its payload. -/
def parse : Bytes → Option (Header × Bytes)
  | m0 :: m1 :: m2 :: m3 :: v :: flags :: r0 :: r1 :: rest =>
      if [m0, m1, m2, m3] = magic ∧ v = version then
        (ResourceId.ofBytes? (rest.take 16)).bind fun stream =>
          parseTail flags r0 r1 stream (rest.drop 16)
      else none
  | _ => none

end Header

end Discovery.Datagram
