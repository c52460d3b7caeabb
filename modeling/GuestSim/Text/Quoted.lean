import GuestSim.Text.Printable

/-! Text between double quotes. -/

namespace GuestSim.Text

/-- Short escapes for the usual controls, for the quote and for the backslash; a code point in
hexadecimal for any other character that cannot be shown. -/
def escape (c : Char) : String :=
  match c with
  | '\x00' => "\\0"
  | '\t' => "\\t"
  | '\r' => "\\r"
  | '\n' => "\\n"
  | '"' => "\\\""
  | '\\' => "\\\\"
  | _ =>
    if isPrintable c then c.toString
    else "\\u\x7b" ++ String.ofList (Nat.toDigits 16 c.toNat) ++ "\x7d"

def quote (text : String) : String :=
  "\"" ++ String.join (text.toList.map escape) ++ "\""

end GuestSim.Text
