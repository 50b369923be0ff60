import TraceReplay.Text.Graphic

/-!
# Quoted text

A text between double quotes, with a backslash before quotes and backslashes and with escapes for
characters that do not show by themselves.
-/

namespace TraceReplay.Text

/-- The hexadecimal digits of a code, without zeros in front. -/
def smallHex (n : Nat) : String := String.ofList (Nat.toDigits 16 n)

/-- A character by its code. -/
def escapeCode (c : Char) : String := "\\u\x7b" ++ smallHex c.toNat ++ "\x7d"

/-- One character inside double quotes. -/
def escape (c : Char) : String :=
  if c = '"' then "\\\""
  else if c = '\\' then "\\\\"
  else if c = '\n' then "\\n"
  else if c = '\r' then "\\r"
  else if c = '\t' then "\\t"
  else if c.toNat = 0 then "\\0"
  else if isGraphic c then String.singleton c
  else escapeCode c

/-- A text in quotes. -/
def quote (s : String) : String := "\"" ++ String.join (s.toList.map escape) ++ "\""

end TraceReplay.Text
