import Discovery.Bytes
import Discovery.Table

namespace Discovery

/-!
# Attributes

A resource carries a mapping of texts to texts.  Its entries are listed in the
order of their keys' bytes, so that equal mappings are announced in equal
bytes.
-/

/-- Texts ordered by their UTF-8 bytes. -/
def byteOrder (first second : String) : Ordering :=
  compare (Bytes.ofText first) (Bytes.ofText second)

instance : Std.TransCmp byteOrder where
  eq_swap := Std.OrientedCmp.eq_swap (α := Bytes)
  isLE_trans := Std.TransCmp.isLE_trans (α := Bytes)

instance : Std.LawfulEqCmp byteOrder where
  compare_self := Std.ReflCmp.compare_self (α := Bytes)
  eq_of_compare same := Bytes.ofText_injective (Std.LawfulEqCmp.eq_of_compare same)

/-- The attributes of a resource. -/
abbrev Attributes := Table String String byteOrder

end Discovery
