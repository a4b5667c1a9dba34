import HostedStreams.Text.Blank

/-! Decimal numerals: unsigned ones that fit 64 bits, and those of any number. -/
namespace HostedStreams.Text

/-- The number that ASCII digits write, most significant first. -/
def digitsValue (digits : List Char) : Nat :=
  digits.foldl (fun n c => n * 10 + (c.toNat - '0'.toNat)) 0

/-- Digits, at least one, behind an optional plus sign. Zeros in front are allowed. -/
def numeral? (text : List Char) : Option Nat :=
  let digits := match text with
    | '+' :: rest => rest
    | _ => text
  if !digits.isEmpty && digits.all Char.isDigit then some (digitsValue digits) else none

/-- A numeral whose value fits 64 bits. -/
def word? (text : List Char) : Option UInt64 :=
  match numeral? text with
  | some n => if n < UInt64.size then some (UInt64.ofNat n) else none
  | none => none

/-- Digits, at least one, behind an optional sign. -/
def isInteger : List Char → Bool
  | '+' :: digits | '-' :: digits => !digits.isEmpty && digits.all Char.isDigit
  | digits => !digits.isEmpty && digits.all Char.isDigit

/-- Digits, at least one, which may have a point in front, behind or between, and a
power of ten behind. -/
def isDecimal (text : List Char) : Bool :=
  let whole := text.takeWhile Char.isDigit
  let (fraction, rest) := match text.dropWhile Char.isDigit with
    | '.' :: rest => (rest.takeWhile Char.isDigit, rest.dropWhile Char.isDigit)
    | rest => ([], rest)
  !(whole.isEmpty && fraction.isEmpty) &&
    match rest with
    | [] => true
    | 'e' :: power | 'E' :: power => isInteger power
    | _ => false

/-- A decimal or the name of infinity or of no number, behind an optional sign. -/
def isNumber (text : List Char) : Bool :=
  let unsigned := match text with
    | '+' :: rest | '-' :: rest => rest
    | _ => text
  isDecimal unsigned ||
    ["inf", "infinity", "nan"].contains (String.ofList (unsigned.map lowerAscii))

end HostedStreams.Text
