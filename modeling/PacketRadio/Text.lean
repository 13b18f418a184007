/-!
# One-line records

The text in which the driver shows its values: a record is its name followed
by its fields in braces, a list is its items in brackets, and both separate
their parts by a comma and a blank.

## Main definitions

* `Text.record`: A record with named fields.
* `Text.list`: A list.
-/

namespace PacketRadio

namespace Text

/-- A record on one line: its name, then each field with its value. -/
def record (name : String) (fields : List (String × String)) : String :=
  name ++ " \x7b " ++ ", ".intercalate (fields.map fun field => field.1 ++ ": " ++ field.2) ++
    " \x7d"

/-- A list on one line, in brackets. -/
def list (items : List String) : String :=
  "[" ++ ", ".intercalate items ++ "]"

end Text

end PacketRadio
