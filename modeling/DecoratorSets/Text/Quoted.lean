import DecoratorSets.Text.Hexadecimal
import DecoratorSets.Text.Printable

/-!
# Quoted text in messages

A message that names a text shows it in quotes, with everything escaped that
a reader could not see. Single quotes are used unless the text holds one and
holds no double quote, so that as few characters as possible need a backslash.
-/

namespace DecoratorSets

namespace Quoted

/-- The quotation mark for a text. -/
def mark (cs : List Char) : Char :=
  if cs.contains '\'' && !cs.contains '"' then '"' else '\''

/-- A character between quotation marks: the mark itself and the backslash are
escaped, and so is what has no visible form. -/
def escape (quote c : Char) : List Char :=
  if c = quote ∨ c = '\\' then ['\\', c]
  else if c = '\n' then ['\\', 'n']
  else if c = '\r' then ['\\', 'r']
  else if c = '\t' then ['\\', 't']
  else if Printable.isPrintable c then [c]
  else if c.toNat < 0x100 then '\\' :: 'x' :: Hexadecimal.padded 2 c.toNat
  else if c.toNat < 0x10000 then '\\' :: 'u' :: Hexadecimal.padded 4 c.toNat
  else '\\' :: 'U' :: Hexadecimal.padded 8 c.toNat

/-- A byte between quotation marks. Bytes beyond ASCII are no characters. -/
def escapeByte (quote c : Char) : List Char :=
  if c.toNat < 0x7f then escape quote c else '\\' :: 'x' :: Hexadecimal.padded 2 c.toNat

end Quoted

/-- The text in quotation marks. -/
def quoted (s : String) : String :=
  let quote := Quoted.mark s.toList
  String.ofList (quote :: s.toList.flatMap (Quoted.escape quote) ++ [quote])

/-- The bytes in quotation marks. -/
def quotedBytes (data : List UInt8) : String :=
  let cs := data.map fun b => Char.ofNat b.toNat
  let quote := Quoted.mark cs
  String.ofList ('b' :: quote :: cs.flatMap (Quoted.escapeByte quote) ++ [quote])

end DecoratorSets
