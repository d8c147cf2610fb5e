/-!
# Bytes as text

Base 64 writes three bytes as four characters of six bits each; what is missing
at the end is filled up with `=`. The reader passes over characters that stand
for no bits, as line breaks do, and stops where the filling is complete.
-/

namespace DecoratorSets

namespace Base64

/-- The characters that stand for six bits, in order. -/
def alphabet : List Char :=
  "ABCDEFGHIJKLMNOPQRSTUVWXYZabcdefghijklmnopqrstuvwxyz0123456789+/".toList

/-- The bits that a character stands for. -/
def bits? (c : Char) : Option Nat := alphabet.idxOf? c

/-- The character that stands for six bits. -/
def charOf (n : Nat) : Char := alphabet.getD n '='

/-- The bytes that up to four groups of six bits make. -/
def bytesOf (groups : List Nat) : List UInt8 :=
  let all := (groups ++ List.replicate (4 - groups.length) 0).foldl (fun n group => 64 * n + group) 0
  [UInt8.ofNat (all / 65536 % 256), UInt8.ofNat (all / 256 % 256), UInt8.ofNat (all % 256)].take
    (groups.length - 1)

/-- The bytes of a text from the next character on, behind groups of six bits
that no byte was made of yet and marks of filling that followed them. -/
def decodeFrom : List Nat → Nat → List Char → Option (List UInt8)
  | pending, _, [] => if pending.isEmpty then some [] else none
  | pending, filling, c :: rest =>
    if c = '=' then
      if pending.length < 2 then decodeFrom pending filling rest
      else if 4 ≤ pending.length + filling + 1 then some (bytesOf pending)
      else decodeFrom pending (filling + 1) rest
    else
      match bits? c with
      | none => decodeFrom pending filling rest
      | some group =>
        let pending := pending ++ [group]
        if pending.length = 4 then (decodeFrom [] 0 rest).map (bytesOf pending ++ ·)
        else decodeFrom pending 0 rest

/-- The bytes that a text stands for; none if groups are left over at its end. -/
def decode? (cs : List Char) : Option (List UInt8) := decodeFrom [] 0 cs

/-- The text of some bytes, in one line. -/
def encode : List UInt8 → List Char
  | [] => []
  | [a] =>
    let n := a.toNat * 16
    [charOf (n / 64), charOf (n % 64), '=', '=']
  | [a, b] =>
    let n := (a.toNat * 256 + b.toNat) * 4
    [charOf (n / 4096), charOf (n / 64 % 64), charOf (n % 64), '=']
  | a :: b :: c :: rest =>
    let n := (a.toNat * 256 + b.toNat) * 256 + c.toNat
    [charOf (n / 262144), charOf (n / 4096 % 64), charOf (n / 64 % 64), charOf (n % 64)] ++ encode rest

/-- The number of bytes that a line of text holds. -/
def lineBytes : Nat := 57

/-- The lines of text of some bytes, of which there are at most `n` times as many
as a line holds. -/
def linesWithin : Nat → List UInt8 → List (List Char)
  | 0, _ => []
  | _ + 1, [] => []
  | n + 1, data => encode (data.take lineBytes) :: linesWithin n (data.drop lineBytes)

/-- The lines of text of some bytes. -/
def lines (data : List UInt8) : List (List Char) := linesWithin data.length data

end Base64

end DecoratorSets
