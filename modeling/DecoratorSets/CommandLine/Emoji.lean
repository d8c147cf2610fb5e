import DecoratorSets.CommandLine.EmojiNames
import DecoratorSets.Text.LowerCase

/-!
# Pictures in messages

A message shows a picture where the name of one stands between two colons. The
letters of the name may be capital ones. Behind the name a dash and a word may
ask for the picture to be drawn as text or in colours. Colons around anything
else stay as they are, and so does what is between them.
-/

namespace DecoratorSets

namespace Emoji

/-- The ways to draw a picture, by the word that asks for one. A character behind
the picture says how to draw it. -/
def variants : List (String × Char) := [("-emoji", '\ufe0f'), ("-text", '\ufe0e')]

/-- What is shown for a name between two colons. -/
def drawn? (name : String) : Option String := picture? (lowerCase name)

/-- The characters of a code without the word at their end, if they end in it. -/
def withoutEnding? (ending : String) (code : List Char) : Option (List Char) :=
  if ending.toList.isSuffixOf code then some (code.take (code.length - ending.length)) else none

/-- What is shown for a code: the characters between two colons. -/
def shownCode (code : List Char) : List Char :=
  let variant := variants.findSome? fun (ending, mark) =>
    (withoutEnding? ending code).map fun name => (name, [mark])
  let (name, mark) := variant.getD (code, [])
  match drawn? (String.ofList name) with
  | some picture => picture.toList ++ mark
  | none => ':' :: code ++ [':']

/-- Characters with pictures in place of their codes. A colon may have been met
already, with some characters behind it, the last one first. -/
def drawFrom : Option (List Char) → List Char → List Char
  | none, [] => []
  | none, c :: rest => if c = ':' then drawFrom (some []) rest else c :: drawFrom none rest
  | some code, [] => ':' :: code.reverse
  | some code, c :: rest =>
    if c = ':' then shownCode code.reverse ++ drawFrom none rest
    else if Blank.isBlank c then ':' :: code.reverse ++ c :: drawFrom none rest
    else drawFrom (some (c :: code)) rest

/-- Characters with pictures in place of their codes. -/
def draw (cs : List Char) : List Char := drawFrom none cs

end Emoji

end DecoratorSets
