/-
**Quoted text: a string between double quotes, with every character visible.**

* `escape`: what one character becomes between the quotes.
* `quoted`: the quoted form of a string.
* `Labelled`: types whose values have a name to be shown in messages.
-/

import ExtensionHost.Text.Unprintable

namespace ExtensionHost.Text

/-- The code point in hexadecimal between braces, without padding. -/
def codePoint (c : Char) : List Char :=
  ['\\', 'u', '\x7b'] ++ Nat.toDigits 16 c.toNat ++ ['\x7d']

/-- One character between quotes: five controls and marks have a short form, other unprintable
characters are written by code point, and the rest stand for themselves. -/
def escape (c : Char) : List Char :=
  if c = '\x00' then ['\\', '0']
  else if c = '\t' then ['\\', 't']
  else if c = '\r' then ['\\', 'r']
  else if c = '\n' then ['\\', 'n']
  else if c = '"' then ['\\', '"']
  else if c = '\\' then ['\\', '\\']
  else if isUnprintable c then codePoint c
  else [c]

/-- The string between double quotes, every character escaped. -/
def quoted (text : String) : String :=
  String.ofList (['"'] ++ text.toList.flatMap escape ++ ['"'])

/-- Types whose values are named in messages. -/
class Labelled (α : Type) where
  /-- The name of a value, as a message shows it. -/
  label : α → String

instance : Labelled String where
  label := quoted

instance : Labelled Int where
  label value := toString value

end ExtensionHost.Text
