import DeploymentGateway.Text.Letters
import DeploymentGateway.Text.Split
/-!
Percent encoding: texts inside the path of a request and inside the pairs of a query. Decoding
works on octets; a text comes back from them strictly, or with U+FFFD for what is no UTF-8.
-/

set_option autoImplicit false

namespace DeploymentGateway.Text.Percent

/-- The octets of a text in UTF-8. -/
def octets (s : String) : List UInt8 :=
  s.toUTF8.toList

/-- Letters, digits and the four marks that are never encoded. -/
def isUnreserved (c : Char) : Bool :=
  c.isAlphanum || c == '-' || c == '_' || c == '.' || c == '~'

/-- One octet as a percent sign and two capital hexadecimal digits. -/
def escape (octet : UInt8) : List Char :=
  ['%', hexDigit true (octet.toNat / 16), hexDigit true (octet.toNat % 16)]

/-- Every character outside `keep` becomes the escapes of its octets. -/
def encodeWith (keep : Char → Bool) (s : String) : String :=
  String.ofList <| s.toList.flatMap fun c =>
    if keep c then [c] else (octets (String.singleton c)).flatMap escape

/-- A text as one segment of a path. -/
def encode (s : String) : String :=
  encodeWith isUnreserved s

/-- The octets that an encoded text stands for; a percent sign without two hexadecimal digits stands
for itself. -/
def decodeOctets : List Char → List UInt8
  | [] => []
  | '%' :: a :: b :: rest =>
    match hexValue? a, hexValue? b with
    | some high, some low => UInt8.ofNat (high * 16 + low) :: decodeOctets rest
    | _, _ => UInt8.ofNat 0x25 :: decodeOctets (a :: b :: rest)
  | c :: rest => octets (String.singleton c) ++ decodeOctets rest

/-- The text an encoded text stands for, if its octets are UTF-8. -/
def decode? (s : String) : Option String :=
  String.fromUTF8? (decodeOctets s.toList).toByteArray

end DeploymentGateway.Text.Percent

namespace DeploymentGateway.Text.Utf8

/-- A continuation octet. -/
private def isTail (octet : UInt8) : Bool :=
  0x80 ≤ octet && octet ≤ 0xBF

/-- The number of tails that a leading octet calls for, with the bounds of the first of them. -/
private def shape? (lead : UInt8) : Option (Nat × UInt8 × UInt8) :=
  if 0xC2 ≤ lead && lead ≤ 0xDF then some (1, 0x80, 0xBF)
  else if lead == 0xE0 then some (2, 0xA0, 0xBF)
  else if (0xE1 ≤ lead && lead ≤ 0xEC) || lead == 0xEE || lead == 0xEF then some (2, 0x80, 0xBF)
  else if lead == 0xED then some (2, 0x80, 0x9F)
  else if lead == 0xF0 then some (3, 0x90, 0xBF)
  else if 0xF1 ≤ lead && lead ≤ 0xF3 then some (3, 0x80, 0xBF)
  else if lead == 0xF4 then some (3, 0x80, 0x8F)
  else none

/-- How many of the octets after a lead belong to its sequence: as many as keep it a start of
well-formed UTF-8, and at most the number it calls for. -/
private def tailCount (count : Nat) (low high : UInt8) (rest : List UInt8) : Nat :=
  match rest with
  | [] => 0
  | first :: more =>
    if low ≤ first && first ≤ high then 1 + ((more.take (count - 1)).takeWhile isTail).length else 0

/-- The code point of a complete sequence. -/
private def codePoint (lead : UInt8) (tails : List UInt8) : Nat :=
  let leadBits := match tails.length with
    | 1 => lead.toNat % 32
    | 2 => lead.toNat % 16
    | _ => lead.toNat % 8
  tails.foldl (fun code tail => code * 64 + tail.toNat % 64) leadBits

/-- Octets as text. Each longest start of a sequence that is then broken off, and each octet that
starts none, gives one U+FFFD. -/
def decodeLossy (octets : List UInt8) : List Char :=
  match octets with
  | [] => []
  | lead :: rest =>
    if lead < 0x80 then Char.ofNat lead.toNat :: decodeLossy rest
    else match shape? lead with
      | none => '\uFFFD' :: decodeLossy rest
      | some (count, low, high) =>
        let found := tailCount count low high rest
        (if found = count then Char.ofNat (codePoint lead (rest.take count)) else '\uFFFD') ::
          decodeLossy (rest.drop found)
termination_by octets.length

end DeploymentGateway.Text.Utf8

namespace DeploymentGateway.Text.Form

/-- A name or value of a form: a plus is a space, then percent escapes are decoded. -/
def decodePart (s : List Char) : String :=
  String.ofList <| Utf8.decodeLossy <| Percent.decodeOctets <|
    s.map fun c => if c = '+' then ' ' else c

/-- The pairs of a query string, in order. Empty pairs are skipped, and a pair without an equals
sign has an empty value. -/
def pairs (query : String) : List (String × String) :=
  ((pieces (· == '&') query.toList).filter fun pair => !pair.isEmpty).map fun pair =>
    match splitFirst? '=' pair with
    | some (name, value) => (decodePart name, decodePart value)
    | none => (decodePart pair, "")

end DeploymentGateway.Text.Form
