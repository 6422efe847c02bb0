namespace Discovery.Toml

/-!
# TOML values

A document is a table of values.  A date or time is kept in its standard form,
in which it is written with a capital letter between date and time, with two
digits for each part, and without zeros at the end of a fraction.
-/

/-- A TOML value. -/
inductive Value where
  | text (content : String)
  | integer (value : Int)
  | float (numeral : String)
  | boolean (value : Bool)
  | moment (standardForm : String)
  | array (items : List Value)
  | table (entries : List (String × Value))
  deriving Repr

end Discovery.Toml
