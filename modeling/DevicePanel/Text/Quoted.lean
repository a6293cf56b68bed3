import DevicePanel.Text.Combining
import DevicePanel.Text.Property.Visibility

/-!
# Texts quoted in messages

How a message shows a text that it speaks about: between quotes, with escapes for
the quote, the backslash and all characters that cannot be seen by themselves.
-/

namespace DevicePanel.Text

/-- The hexadecimal digits of a code point, in lower case and without padding. -/
def hexDigits (n : Nat) : List Char := Nat.toDigits 16 n

/-- Characters that cannot be seen by themselves. -/
def isUnseen (c : Char) : Bool :=
  isCombining c || defaultIgnorable.contains c || unprintable.contains c

/-- How a character is shown between quotes. -/
def shown (c : Char) : List Char :=
  match c with
  | '\x00' => ['\\', '0']
  | '\t' => ['\\', 't']
  | '\r' => ['\\', 'r']
  | '\n' => ['\\', 'n']
  | '"' => ['\\', '"']
  | '\\' => ['\\', '\\']
  | _ =>
    if ' ' ≤ c ∧ c ≤ '~' then [c]
    else if isUnseen c then
      ['\\', 'u', '{'] ++ hexDigits c.toNat ++ ['}']
    else [c]

/-- A text between quotes. -/
def quoted (s : String) : String :=
  String.ofList ('"' :: s.toList.flatMap shown ++ ['"'])

end DevicePanel.Text
