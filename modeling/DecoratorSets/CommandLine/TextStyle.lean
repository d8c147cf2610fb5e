import DecoratorSets.Number.Numeral
import DecoratorSets.Text.LowerCase
import DecoratorSets.Text.Parts

/-!
# Styles of text

A style is written in words: how letters are drawn, their colour, the colour
behind them, the address that they lead to. A word may be given in several forms
and the words in any order, so what names a style is its normal form, in which
each style has one text. Words that are no style are their own normal form, in
lower case.
-/

namespace DecoratorSets

/-- A way to draw letters. -/
inductive LetterForm where
  | bold
  | dim
  | italic
  | underline
  | blink
  | fastBlink
  | reverse
  | conceal
  | strike
  | doubleUnderline
  | frame
  | encircle
  | overline
deriving DecidableEq

namespace LetterForm

/-- The ways to draw letters, in the order of the normal form. -/
def all : List LetterForm :=
  [.bold, .dim, .italic, .underline, .blink, .fastBlink, .reverse, .conceal, .strike,
    .doubleUnderline, .frame, .encircle, .overline]

/-- The word for a way to draw letters. -/
def word : LetterForm → String
  | .bold => "bold"
  | .dim => "dim"
  | .italic => "italic"
  | .underline => "underline"
  | .blink => "blink"
  | .fastBlink => "blink2"
  | .reverse => "reverse"
  | .conceal => "conceal"
  | .strike => "strike"
  | .doubleUnderline => "underline2"
  | .frame => "frame"
  | .encircle => "encircle"
  | .overline => "overline"

/-- The short words for ways to draw letters. -/
def shortWords : List (String × LetterForm) :=
  [("b", .bold), ("d", .dim), ("i", .italic), ("u", .underline), ("r", .reverse),
    ("c", .conceal), ("s", .strike), ("uu", .doubleUnderline), ("o", .overline)]

/-- The way to draw letters that a word stands for. -/
def ofWord? (w : String) : Option LetterForm :=
  (all.find? fun form => form.word == w).or (shortWords.lookup w)

end LetterForm

/-- A style: the ways to draw letters that it asks for or against, and the rest
where it says something about it. -/
structure TextStyle where
  letters : List (LetterForm × Bool)
  color : Option String
  background : Option String
  address : Option String

/-- A reason why words are no style. -/
inductive StyleFault where
  | unreadable
  /-- A part of a colour that is no number. -/
  | numeral (cause : NumeralFault)
deriving DecidableEq

/-! ## Colours -/

namespace ColorName

/-- The names of colours. -/
def nameList : String := "
  black red green yellow blue magenta cyan white bright_black bright_red bright_green bright_yellow
  bright_blue bright_magenta bright_cyan bright_white grey0 gray0 navy_blue dark_blue blue3 blue1
  dark_green deep_sky_blue4 dodger_blue3 dodger_blue2 green4 spring_green4 turquoise4 deep_sky_blue3
  dodger_blue1 green3 spring_green3 dark_cyan light_sea_green deep_sky_blue2 deep_sky_blue1
  spring_green2 cyan3 dark_turquoise turquoise2 green1 spring_green1 medium_spring_green cyan2 cyan1
  dark_red deep_pink4 purple4 purple3 blue_violet orange4 grey37 gray37 medium_purple4 slate_blue3
  royal_blue1 chartreuse4 dark_sea_green4 pale_turquoise4 steel_blue steel_blue3 cornflower_blue
  chartreuse3 cadet_blue sky_blue3 steel_blue1 pale_green3 sea_green3 aquamarine3 medium_turquoise
  chartreuse2 sea_green2 sea_green1 aquamarine1 dark_slate_gray2 dark_magenta dark_violet purple
  light_pink4 plum4 medium_purple3 slate_blue1 yellow4 wheat4 grey53 gray53 light_slate_grey
  light_slate_gray medium_purple light_slate_blue dark_olive_green3 dark_sea_green light_sky_blue3
  sky_blue2 dark_sea_green3 dark_slate_gray3 sky_blue1 chartreuse1 light_green pale_green1
  dark_slate_gray1 red3 medium_violet_red magenta3 dark_orange3 indian_red hot_pink3 medium_orchid3
  medium_orchid medium_purple2 dark_goldenrod light_salmon3 rosy_brown grey63 gray63 medium_purple1
  gold3 dark_khaki navajo_white3 grey69 gray69 light_steel_blue3 light_steel_blue yellow3
  dark_sea_green2 light_cyan3 light_sky_blue1 green_yellow dark_olive_green2 dark_sea_green1
  pale_turquoise1 deep_pink3 magenta2 hot_pink2 orchid medium_orchid1 orange3 light_pink3 pink3
  plum3 violet light_goldenrod3 tan misty_rose3 thistle3 plum2 khaki3 light_goldenrod2 light_yellow3
  grey84 gray84 light_steel_blue1 yellow2 dark_olive_green1 honeydew2 light_cyan1 red1 deep_pink2
  deep_pink1 magenta1 orange_red1 indian_red1 hot_pink dark_orange salmon1 light_coral
  pale_violet_red1 orchid2 orchid1 orange1 sandy_brown light_salmon1 light_pink1 pink1 plum1 gold1
  navajo_white1 misty_rose1 thistle1 yellow1 light_goldenrod1 khaki1 wheat1 cornsilk1 grey100
  gray100 grey3 gray3 grey7 gray7 grey11 gray11 grey15 gray15 grey19 gray19 grey23 gray23 grey27
  gray27 grey30 gray30 grey35 gray35 grey39 gray39 grey42 gray42 grey46 gray46 grey50 gray50 grey54
  gray54 grey58 gray58 grey62 gray62 grey66 gray66 grey70 gray70 grey74 gray74 grey78 gray78 grey82
  gray82 grey85 gray85 grey89 gray89 grey93 gray93
"

/-- The colours that have names. -/
def names : List String := (Blank.words nameList.toList).map String.ofList

/-- The characters between an opening word and a closing bracket at the end. -/
def inBrackets? (opening : String) (cs : List Char) : Option (List Char) :=
  if opening.toList.isPrefixOf cs && cs.getLast? == some ')' then
    some (cs.drop opening.length).dropLast
  else none

/-- Whether characters are the six digits of a colour behind its mark. -/
def isHexadecimal (cs : List Char) : Bool :=
  match cs with
  | '#' :: digits => digits.length == 6 && digits.all fun d => (Hexadecimal.digit? d).isSome
  | _ => false

/-- The normal form of a colour: a name, a number, six digits, or three numbers
up to 255. -/
def read (word : String) : Except StyleFault String := do
  let color := lowerCase word
  if color = "default" ∨ names.contains color ∨ isHexadecimal color.toList then return color
  match inBrackets? "color(" color.toList, inBrackets? "rgb(" color.toList with
  | some digits, _ =>
    if digits.isEmpty ∨ 3 < digits.length ∨ !digits.all Digit.isAscii
        ∨ 255 < Digit.number digits then
      throw .unreadable
    return color
  | none, some inner =>
    let levels := partsAt ',' inner
    if inner.isEmpty ∨ levels.length ≠ 3 ∨ !inner.all fun c => c == ',' || (Digit.value? c).isSome then
      throw .unreadable
    let levels ← levels.mapM fun level => (Numeral.integer 10 level).mapError StyleFault.numeral
    if levels.any fun level => decide (255 < level) then throw .unreadable
    return color
  | none, none => throw .unreadable

end ColorName

/-! ## Reading and writing styles -/

namespace TextStyle

/-- The style that says nothing. -/
def plain : TextStyle := ⟨[], none, none, none⟩

/-- Reads words into a style. -/
def readWords (style : TextStyle) : List String → Except StyleFault TextStyle
  | [] => .ok style
  | word :: rest =>
    match lowerCase word, rest with
    | "on", color :: rest => do
      let color ← ColorName.read color
      readWords { style with background := some color } rest
    | "not", word :: rest =>
      match LetterForm.ofWord? word with
      | some form => readWords { style with letters := (form, false) :: style.letters } rest
      | none => .error .unreadable
    | "link", address :: rest => readWords { style with address := some address } rest
    | "on", [] | "not", [] | "link", [] => .error .unreadable
    | word, rest =>
      match LetterForm.ofWord? word with
      | some form => readWords { style with letters := (form, true) :: style.letters } rest
      | none => do
        let color ← ColorName.read word
        readWords { style with color := some color } rest

/-- The text of a style. -/
def render (style : TextStyle) : String :=
  let letters := LetterForm.all.filterMap fun form =>
    (style.letters.lookup form).map fun asked => if asked then form.word else "not " ++ form.word
  let words := letters ++ style.color.toList
    ++ (style.background.map ("on " ++ ·)).toList ++ (style.address.map ("link " ++ ·)).toList
  if words.isEmpty then "none" else " ".intercalate words

/-- The normal form of a text for a style. -/
def normalForm (text : String) : Except NumeralFault String :=
  let stripped := String.ofList (Blank.strip Blank.isBlank text.toList)
  if stripped = "none" then .ok "none"
  else
    match readWords plain ((Blank.words text.toList).map String.ofList) with
    | .ok style => .ok style.render
    | .error .unreadable => .ok (lowerCase stripped)
    | .error (.numeral cause) => .error cause

end TextStyle

end DecoratorSets
