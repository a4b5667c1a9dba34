import HostedStreams.Json.Reader
import HostedStreams.Json.Printer
import HostedStreams.Text.Blank

/-! Identifiers of streams and of read requests. -/
namespace HostedStreams

/-- A universally unique identifier: 128 bits. -/
structure Uuid where
  bits : BitVec 128
  deriving DecidableEq

namespace Uuid

def ofNat (n : Nat) : Uuid := ⟨BitVec.ofNat 128 n⟩

/-- The value of hexadecimal digits, most significant first. -/
def hexNumber? (digits : List Char) : Option Nat :=
  digits.foldlM (fun n c => (Json.hexValue? c).map (n * 16 + ·)) 0

def simple? (digits : List Char) : Option Uuid :=
  if digits.length = 32 then (hexNumber? digits).map ofNat else none

/-- Five groups of 8, 4, 4, 4 and 12 digits with hyphens between them. -/
def hyphenated? (text : List Char) : Option Uuid :=
  match text.drop 8, text.drop 13, text.drop 18, text.drop 23 with
  | '-' :: _, '-' :: _, '-' :: _, '-' :: last =>
    simple? (text.take 8 ++ (text.drop 9).take 4 ++ (text.drop 14).take 4 ++
      (text.drop 19).take 4 ++ last)
  | _, _, _, _ => none

/-- What the namespace of identifiers is called in front of one. -/
def namespaceName : List Char :=
  "urn:uuid:".toList

/-- The written forms: digits alone, digits in hyphenated groups, and the groups
inside braces or behind the name of the identifier's namespace. Letters may be of
either case. -/
def parse? (s : String) : Option Uuid :=
  match s.toList with
  | '{' :: rest =>
    if rest.getLast? = some '}' then hyphenated? rest.dropLast else none
  | text =>
    if (text.take namespaceName.length).map Text.lowerAscii = namespaceName then
      hyphenated? (text.drop namespaceName.length)
    else if text.length = 32 then simple? text
    else hyphenated? text

/-- The digit of the given place, counted from the most significant of the 32. -/
def digit (u : Uuid) (place : Nat) : Char :=
  Json.hexDigit ((u.bits.toNat >>> (4 * (31 - place))) % 16)

/-- Small digits in hyphenated groups. -/
def display (u : Uuid) : String :=
  let digits := (List.range 32).map u.digit
  String.ofList (digits.take 8 ++ '-' :: (digits.drop 8).take 4 ++ '-' :: (digits.drop 12).take 4 ++
    '-' :: (digits.drop 16).take 4 ++ '-' :: digits.drop 20)

end Uuid

/-- What the host routes notifications by. An identifier is chosen by the caller
or drawn at random; drawn ones are told apart by the order of drawing, since two
drawings never agree with each other or with a chosen one. -/
inductive StreamId where
  | chosen (uuid : Uuid)
  | drawn (serial : Nat)
  deriving DecidableEq

/-- Numbers the read requests of one stream. -/
structure RequestId where
  number : UInt64
  deriving DecidableEq

namespace RequestId

/-- The largest number follows itself. -/
def next (id : RequestId) : RequestId :=
  if id.number = 0xffffffffffffffff then id else ⟨id.number + 1⟩

def display (id : RequestId) : String :=
  "#" ++ toString id.number.toNat

def fromJson? (v : Json) : Option RequestId :=
  v.word?.map RequestId.mk

def toJson (id : RequestId) : Json :=
  Json.ofWord id.number

end RequestId
end HostedStreams
