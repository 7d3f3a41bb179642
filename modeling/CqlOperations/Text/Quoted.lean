import CqlOperations.Text.Invisible

/-! Text in double quotes, as structural texts show it. -/
namespace CqlOperations.Text

/-- Lowercase hexadecimal digits without leading zeros. -/
def hexNumber (n : Nat) : String :=
  String.ofList (Nat.toDigits 16 n)

/-- A character inside quotes. Quotes, backslashes and invisible characters are escaped. -/
def escaped : Char → String
  | '"' => "\\\""
  | '\\' => "\\\\"
  | '\n' => "\\n"
  | '\r' => "\\r"
  | '\t' => "\\t"
  | '\x00' => "\\0"
  | c => if isInvisible c then "\\u\x7b" ++ hexNumber c.toNat ++ "\x7d" else c.toString

def quoted (s : String) : String :=
  "\"" ++ String.join (s.toList.map escaped) ++ "\""

end CqlOperations.Text
