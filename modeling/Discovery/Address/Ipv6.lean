import Discovery.Text.Digit
import Discovery.Text.Quoted

namespace Discovery

/-!
# IPv6 addresses

An address is eight groups of sixteen bits.  Its text form separates the
groups by colons; one run of zero groups may be left out, marked by two colons,
and the last two groups may be written as a dotted quad.  Printing leaves out
the longest run of at least two zero groups, the first of several, and writes
an address that stands for a dotted quad with the quad.
-/

/-- Eight groups of sixteen bits. -/
structure Ipv6Address where
  groups : List UInt16
  size : groups.length = 8
  deriving DecidableEq, Repr

namespace Ipv6Address

/-- One group: one to four digits. -/
def group? (field : List Char) : Option UInt16 :=
  if field.isEmpty ∨ 4 < field.length then none
  else (Text.number? 16 field).map UInt16.ofNat

/-- One part of a dotted quad: a number below 256 without leading zeros. -/
def octet? (field : List Char) : Option Nat :=
  if field.isEmpty ∨ 3 < field.length ∨ (field.head? = some '0' ∧ 1 < field.length) then none
  else (Text.number? 10 field).bind fun value =>
    if value < 256 then some value else none

/-- The fields of a text between separators. -/
def fields (separator : Char) : List Char → List (List Char)
  | [] => [[]]
  | character :: rest =>
      if character = separator then [] :: fields separator rest
      else
        match fields separator rest with
        | [] => [[character]]
        | field :: others => (character :: field) :: others

/-- A dotted quad as two groups. -/
def quad? (field : List Char) : Option (List UInt16) :=
  match (fields '.' field).mapM octet? with
  | some [first, second, third, fourth] =>
      some [UInt16.ofNat (256 * first + second), UInt16.ofNat (256 * third + fourth)]
  | _ => none

/-- The last field of an address: a group or a dotted quad. -/
def lastField? (field : List Char) : Option (List UInt16) :=
  if field.contains '.' then quad? field else (group? field).map ([·])

/-- The groups of some fields, of which only the last may be a dotted quad. -/
def groups? (quadAllowed : Bool) : List (List Char) → Option (List UInt16)
  | [] => some []
  | [field] => if quadAllowed then lastField? field else (group? field).map ([·])
  | field :: rest => do
      let first ← group? field
      let others ← groups? quadAllowed rest
      some (first :: others)

/-- The groups of one side of the mark for left-out zeros; a side may be empty. -/
def side? (quadAllowed : Bool) (characters : List Char) : Option (List UInt16) :=
  if characters.isEmpty then some [] else groups? quadAllowed (fields ':' characters)

/-- What stands before and after the first pair of colons, if there is one. -/
def splitAtPair : List Char → Option (List Char × List Char)
  | ':' :: ':' :: rest => some ([], rest)
  | character :: rest =>
      (splitAtPair rest).map fun (before, behind) => (character :: before, behind)
  | [] => none

/-- The address with the given groups, if they are eight. -/
def ofGroups? (groups : List UInt16) : Option Ipv6Address :=
  if size : groups.length = 8 then some ⟨groups, size⟩ else none

/-- Read an address. -/
def parse? (text : String) : Option Ipv6Address :=
  match splitAtPair text.toList with
  | none => (groups? true (fields ':' text.toList)).bind ofGroups?
  | some (before, behind) => do
      let front ← side? false before
      let back ← side? true behind
      if front.length + back.length < 8 then
        ofGroups? (front ++ List.replicate (8 - front.length - back.length) 0 ++ back)
      else none

/-- Whether an address names a group of receivers. -/
def isMulticast (address : Ipv6Address) : Bool :=
  address.groups.head?.any fun group => group.toNat / 256 == 255

/-- The length of the run of zeros at the front. -/
def zerosAtFront (groups : List UInt16) : Nat :=
  (groups.takeWhile (· == 0)).length

/-- The start and length of the longest run of zeros, the first of several. -/
def longestZeros (position : Nat) : List UInt16 → Nat × Nat
  | [] => (position, 0)
  | group :: rest =>
      let here := zerosAtFront (group :: rest)
      let later := longestZeros (position + 1) rest
      if later.2 ≤ here then (position, here) else later

/-- Groups in hexadecimal, separated by colons. -/
def groupsText (groups : List UInt16) : String :=
  String.intercalate ":" (groups.map fun group => Text.hexNumeral group.toNat)

/-- The four numbers of two groups. -/
def quadText (high low : UInt16) : String :=
  String.intercalate "."
    ([high.toNat / 256, high.toNat % 256, low.toNat / 256, low.toNat % 256].map toString)

/-- An address in its shortest form. -/
def text (address : Ipv6Address) : String :=
  match address.groups with
  | [0, 0, 0, 0, 0, 0xffff, high, low] => "::ffff:" ++ quadText high low
  | groups =>
      let (start, length) := longestZeros 0 groups
      if length < 2 then groupsText groups
      else groupsText (groups.take start) ++ "::" ++ groupsText (groups.drop (start + length))

end Ipv6Address

end Discovery
