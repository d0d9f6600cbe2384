import DocQuery.Cluster.Encoding

/-!
# Hosts of addresses

A host is a domain name, four numbers, or eight groups of hexadecimal digits in
brackets. A name whose last part is a number has to be an address of four
numbers, in any of the notations that are in use for them. Domain names outside
ASCII are not supported.
-/

namespace DocQuery.Cluster

/-- What is wrong with an address. -/
inductive UrlFault where
  | relative
  | emptyHost
  | invalidPort
  | invalidDomain
  | invalidIpv4
  | invalidIpv6
  | invalidDomainCharacter
  deriving DecidableEq, Repr

/-- The wording of a fault. -/
def UrlFault.message : UrlFault → String
  | .relative => "relative URL without a base"
  | .emptyHost => "empty host"
  | .invalidPort => "invalid port number"
  | .invalidDomain => "invalid international domain name"
  | .invalidIpv4 => "invalid IPv4 address"
  | .invalidIpv6 => "invalid IPv6 address"
  | .invalidDomainCharacter => "invalid domain character"

/-- A host. -/
inductive Host where
  | domain (name : String)
  | ipv4 (value : Nat)
  | ipv6 (groups : List Nat)
  deriving DecidableEq, Repr

namespace Host

/-- The value of a run of hexadecimal digits. -/
def hexNumber (digits : List Char) : Nat :=
  digits.foldl (fun value digit => value * 16 + (hexValue? digit).getD 0) 0

/-- The value of a run of octal digits. -/
def octalNumber (digits : List Char) : Nat :=
  digits.foldl (fun value digit => value * 8 + Text.digitValue digit) 0

/-- Whether all characters are hexadecimal digits. -/
def allHex (chars : List Char) : Bool := chars.all fun c => (hexValue? c).isSome

/-- A part of an address of four numbers: decimal, or octal after a zero, or
hexadecimal after `0x`. -/
def ipv4Part? : List Char → Option Nat
  | [] => none
  | '0' :: 'x' :: digits | '0' :: 'X' :: digits =>
    if allHex digits then some (hexNumber digits) else none
  | '0' :: digits =>
    if digits.all fun c => c.isDigit && c ≤ '7' then some (octalNumber digits) else none
  | digits => Text.readNat? digits

/-- The parts of a domain name, without an empty last one. -/
def domainParts (name : List Char) : List (List Char) :=
  let parts := name.splitOn '.'
  if parts.getLast? = some [] then parts.dropLast else parts

/-- Whether the last part of a name is a number. -/
def endsInNumber (name : List Char) : Bool :=
  match (domainParts name).getLast? with
  | none => false
  | some last => (Text.readNat? last).isSome || (ipv4Part? last).isSome

/-- An address of up to four numbers; the last one fills the bytes that are left. -/
def readIpv4 (name : List Char) : Except UrlFault Host :=
  match (domainParts name).mapM ipv4Part? with
  | none => .error .invalidIpv4
  | some numbers =>
    match numbers.getLast? with
    | none => .error .invalidIpv4
    | some last =>
      let leading := numbers.dropLast
      if 4 < numbers.length ∨ Nat.pow 256 (4 - leading.length) ≤ last ∨ leading.any (255 < ·) then
        .error .invalidIpv4
      else
        .ok (.ipv4 ((leading.foldl (fun value n => value * 256 + n) 0) *
          Nat.pow 256 (4 - leading.length) + last))

/-- A group of one to four hexadecimal digits. -/
def ipv6Group? (digits : List Char) : Option Nat :=
  if 1 ≤ digits.length ∧ digits.length ≤ 4 ∧ allHex digits then some (hexNumber digits) else none

/-- A decimal number of one byte without leading zeros. -/
def byteNumber? (digits : List Char) : Option Nat := do
  let n ← Text.readNat? digits
  if n ≤ 255 ∧ (digits.length = 1 ∨ digits.head? ≠ some '0') then some n else none

/-- The two groups of four decimal numbers. -/
def ipv6Tail? (chars : List Char) : Option (List Nat) := do
  let [a, b, c, d] ← (chars.splitOn '.').mapM byteNumber? | none
  some [a * 256 + b, c * 256 + d]

/-- Groups with colons between them; four decimal numbers may stand for the last two. -/
def ipv6Groups? (chars : List Char) : Option (List Nat) :=
  if chars.isEmpty then some []
  else do
    let parts := chars.splitOn ':'
    let leading ← parts.dropLast.mapM ipv6Group?
    let last := parts.getLast?.getD []
    let closing ← (ipv6Group? last).map (fun group => [group]) <|> ipv6Tail? last
    some (leading ++ closing)

/-- Splits at the first two colons in a row. -/
def splitDoubleColon : List Char → Option (List Char × List Char)
  | [] => none
  | ':' :: ':' :: rest => some ([], rest)
  | c :: rest => (splitDoubleColon rest).map fun (before, after) => (c :: before, after)

/-- Eight groups; two colons in a row stand for one or more groups of zero. -/
def readIpv6 (chars : List Char) : Except UrlFault Host :=
  let groups? : Option (List Nat) :=
    match splitDoubleColon chars with
    | none => do
      let groups ← ipv6Groups? chars
      if groups.length = 8 then some groups else none
    | some (before, after) => do
      let left ← if before.contains '.' then none else ipv6Groups? before
      let right ← ipv6Groups? after
      if left.length + right.length ≤ 7 then
        some (left ++ List.replicate (8 - (left.length + right.length)) 0 ++ right)
      else none
  match groups? with
  | some groups => .ok (.ipv6 groups)
  | none => .error .invalidIpv6

/-- Reads what stands between brackets. -/
def readBracketed (chars : List Char) : Except UrlFault Host :=
  if chars.getLast? = some ']' then readIpv6 chars.dropLast else .error .invalidIpv6

/-- Whether a character may not occur in a domain name. -/
def isForbiddenInDomain (c : Char) : Bool :=
  isUnprintable c || " %#/:<>?@[\\]^|".toList.contains c

/-- Reads the host of an address on the web: escapes are resolved and letters are
lower case. -/
def read : List Char → Except UrlFault Host
  | '[' :: rest => readBracketed rest
  | chars =>
    match Text.decode? (unescape chars) with
    | none => .error .invalidDomain
    | some decoded =>
      let name := decoded.toList.map Char.toLower
      if name.any isForbiddenInDomain then .error .invalidDomain
      else if name.isEmpty then .error .emptyHost
      else if endsInNumber name then readIpv4 name
      else .ok (.domain (String.ofList name))

/-- Reads the host of any other address, as it is. -/
def readOpaque : List Char → Except UrlFault Host
  | '[' :: rest => readBracketed rest
  | chars =>
    if chars.any fun c => "\x00\t\n\r #/:<>?@[\\]^|".toList.contains c then
      .error .invalidDomainCharacter
    else .ok (.domain (String.ofList chars))

/-- Whether the host is an empty name. -/
def isEmpty : Host → Bool
  | .domain name => name.isEmpty
  | _ => false

/-- The start and the length of the first longest run of zeros. -/
def zeroRun : (position : Nat) → List Nat → Nat × Nat
  | _, [] => (0, 0)
  | position, group :: rest =>
    let here := ((group :: rest).takeWhile (· == 0)).length
    let (start, length) := zeroRun (position + 1) rest
    if here ≠ 0 ∧ length ≤ here then (position, here) else (start, length)

/-- Groups in lower-case digits with colons between them. -/
def groupsText (groups : List Nat) : String :=
  ":".intercalate (groups.map fun group => String.ofList (Nat.toDigits 16 group))

/-- The text of eight groups; the first longest run of two zeros and more is left out. -/
def ipv6Text (groups : List Nat) : String :=
  let (start, length) := zeroRun 0 groups
  if length < 2 then groupsText groups
  else groupsText (groups.take start) ++ "::" ++ groupsText (groups.drop (start + length))

/-- The text of a host. -/
def text : Host → String
  | .domain name => name
  | .ipv4 value =>
    ".".intercalate
      ([value / 0x100_0000, value / 0x1_0000 % 256, value / 256 % 256, value % 256].map
        Text.natText)
  | .ipv6 groups => "[" ++ ipv6Text groups ++ "]"

end Host

end DocQuery.Cluster
