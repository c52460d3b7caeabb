/-! The text of records and tagged values in messages. -/

namespace GuestSim.Text

/-- A record: its name and its fields between braces. -/
def record (name : String) (fields : List (String × String)) : String :=
  name ++ " \x7b " ++ ", ".intercalate (fields.map fun (key, value) => key ++ ": " ++ value)
    ++ " \x7d"

/-- A tag with its argument between parentheses. -/
def tagged (name argument : String) : String :=
  name ++ "(" ++ argument ++ ")"

end GuestSim.Text
