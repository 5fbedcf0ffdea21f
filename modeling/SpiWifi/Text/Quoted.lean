import SpiWifi.Text.Visible

/-!
# Quoted characters and texts

Characters and texts as they are quoted inside messages. The quote that stands around and the
backslash are escaped, line controls are written by their letter, and every other character that would
not show as itself by its code in braces.
-/

namespace SpiWifi.Text.Quoted

def hexNumber (n : Nat) : String := String.ofList (Nat.toDigits 16 n)

def escape (quote : Char) (c : Char) : String :=
  if c = quote ∨ c = '\\' then "\\" ++ c.toString
  else
    match c with
    | '\x00' => "\\0"
    | '\t' => "\\t"
    | '\n' => "\\n"
    | '\r' => "\\r"
    | _ => if isVisible c then c.toString else "\\u\x7b" ++ hexNumber c.toNat ++ "\x7d"

def char (c : Char) : String := "'" ++ escape '\'' c ++ "'"

def text (s : String) : String := "\"" ++ String.join (s.toList.map (escape '"')) ++ "\""

end SpiWifi.Text.Quoted
