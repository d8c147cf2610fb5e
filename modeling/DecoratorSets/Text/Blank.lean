/-!
# Blank characters

The characters that separate words and lines without being seen (Unicode 14):
`isBlank` admits them all. Numerals may have blanks around them, among which the
separators of ASCII data do not count (`surroundsNumerals`).
-/

namespace DecoratorSets

namespace Blank

/-- The blanks beyond ASCII, as closed ranges. -/
def ranges : List (Nat × Nat) :=
  [(0x85, 0x85), (0xa0, 0xa0), (0x1680, 0x1680), (0x2000, 0x200a), (0x2028, 0x2029),
   (0x202f, 0x202f), (0x205f, 0x205f), (0x3000, 0x3000)]

/-- Whether a character is a blank that may stand around a numeral. -/
def surroundsNumerals (c : Char) : Bool :=
  c == ' ' || (decide (0x09 ≤ c.toNat) && decide (c.toNat ≤ 0x0d))
    || ranges.any fun range => decide (range.1 ≤ c.toNat) && decide (c.toNat ≤ range.2)

/-- Whether a character is a blank. -/
def isBlank (c : Char) : Bool :=
  surroundsNumerals c || (decide (0x1c ≤ c.toNat) && decide (c.toNat ≤ 0x1f))

/-- Characters without those at their beginning and end that pass a test. -/
def strip (test : Char → Bool) (cs : List Char) : List Char :=
  ((cs.dropWhile test).reverse.dropWhile test).reverse

/-- The words of a text: its longest stretches without blanks. -/
def words (cs : List Char) : List (List Char) :=
  (cs.foldr (fun c words =>
    if isBlank c then [] :: words
    else match words with
      | word :: others => (c :: word) :: others
      | [] => [[c]]) [[]]).filter (!·.isEmpty)

end Blank

end DecoratorSets
