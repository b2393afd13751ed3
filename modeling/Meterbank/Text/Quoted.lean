/-
  Meterbank.Text.Quoted — a text in quotes, as error messages show it.

  The quoted form can be read on one line whatever the text holds: the
  quote, the backslash and the common controls get a two-character form,
  every other character of the table `isEscaped` is written by its code
  point in braces, and the rest stands for itself.
-/
import Meterbank.Text.Escaped

namespace Meterbank.Text

/-! ## One character -/

/-- The lower-case hexadecimal digits of a number, without leading zeros. -/
def hexDigits (n : Nat) : List Char :=
  Nat.toDigits 16 n

/-- The form of one character inside quotes. -/
def quotedChar (c : Char) : List Char :=
  if c = Char.ofNat 0 then ['\\', '0']
  else if c = '\t' then ['\\', 't']
  else if c = '\r' then ['\\', 'r']
  else if c = '\n' then ['\\', 'n']
  else if c = '\\' then ['\\', '\\']
  else if c = '"' then ['\\', '"']
  else if isEscaped c then ['\\', 'u', '{'] ++ hexDigits c.toNat ++ ['}']
  else [c]

/-! ## Whole texts -/

/-- A text in quotes. -/
def quoted (s : String) : String :=
  String.ofList ('"' :: s.toList.flatMap quotedChar ++ ['"'])

end Meterbank.Text
