import CardFirmware.Text.Hidden
import CardFirmware.Text.Numeral

/-! Texts quoted inside a message. A quote, a backslash and the common controls are written with
a backslash, a hidden character by its number in braces, and every other character as it is. -/

namespace CardFirmware.Text.Quoted

def escapeChar (c : Char) : List Char :=
  if c = '\x00' then ['\\', '0']
  else if c = '\t' then ['\\', 't']
  else if c = '\r' then ['\\', 'r']
  else if c = '\n' then ['\\', 'n']
  else if c = '\\' ∨ c = '"' then ['\\', c]
  else if isHidden c then '\\' :: 'u' :: '{' :: Nat.toDigits 16 c.toNat ++ ['}']
  else [c]

def quote (s : String) : String :=
  String.ofList ('"' :: s.toList.flatMap escapeChar ++ ['"'])

end CardFirmware.Text.Quoted
