import LintServer.Uri.Domain
import LintServer.Uri.Percent

/-!
# Hosts

The host of a URI whose scheme is known to name hosts is a domain in its normal form, an address of
four numbers or an address between brackets. The host of any other URI is kept as it stands, but
for encoding.
-/

namespace LintServer.Uri

open Domain (labels joinLabels)

/-- Why a text is no URI. -/
inductive Fault where
  | noScheme
  | emptyHost
  | invalidPort
  | invalidAddress4
  | invalidAddress6
  | invalidDomain
  | invalidCharacter
  deriving Repr, DecidableEq

def Fault.message : Fault → String
  | .noScheme => "relative URL without a base"
  | .emptyHost => "empty host"
  | .invalidPort => "invalid port number"
  | .invalidAddress4 => "invalid IPv4 address"
  | .invalidAddress6 => "invalid IPv6 address"
  | .invalidDomain => "invalid international domain name"
  | .invalidCharacter => "invalid domain character"

/-! ## Addresses of four numbers -/

/-- A number in decimal, or after `0x` in base sixteen, or after `0` in base eight. -/
def addressNumber? (text : List Char) : Option Nat :=
  let digits (base : Nat) (cs : List Char) : Option Nat :=
    cs.foldlM
      (fun n c => do
        let b ← hexDigitValue? (UInt8.ofNat c.toNat)
        if c.toNat < 0x80 && b.toNat < base then some (n * base + b.toNat) else none) 0
  match text with
  | [] => none
  | '0' :: 'x' :: cs | '0' :: 'X' :: cs => digits 16 cs
  | '0' :: c :: cs => digits 8 (c :: cs)
  | cs => digits 10 cs

/-- The labels without an empty one at the end. -/
def trimLastLabel (ls : List (List Char)) : List (List Char) :=
  if 1 < ls.length ∧ ls.getLast? = some [] then ls.dropLast else ls

/-- Whether a domain has to be read as an address. -/
def endsInNumber (domain : List Char) : Bool :=
  match (trimLastLabel (labels domain)).getLast? with
  | some last => (!last.isEmpty && last.all Char.isDigit) || (addressNumber? last).isSome
  | none => false

def address4? (domain : List Char) : Option (List Char) := do
  let ls := trimLastLabel (labels domain)
  if 4 < ls.length then none
  let numbers ← ls.mapM addressNumber?
  let last ← numbers.getLast?
  let others := numbers.dropLast
  if others.any (255 < ·) || Nat.pow 256 (4 - others.length) ≤ last then none
  let value := others.zipIdx.foldl (fun value (n, i) => value + n * Nat.pow 256 (3 - i)) last
  let byte (i : Nat) := Nat.toDigits 10 (value / Nat.pow 256 (3 - i) % 256)
  return joinLabels [byte 0, byte 1, byte 2, byte 3]

/-! ## Addresses between brackets -/

/-- A group of up to four digits. -/
def addressGroup? (text : List Char) : Option Nat :=
  if text.isEmpty || 4 < text.length then none
  else
    text.foldlM
      (fun n c => do
        let b ← hexDigitValue? (UInt8.ofNat c.toNat)
        if c.toNat < 0x80 then some (n * 16 + b.toNat) else none) 0

/-- Four decimal numbers as two groups. -/
def dottedGroups? (text : List Char) : Option (List Nat) := do
  let numbers ← (labels text).mapM fun digits =>
    if digits.isEmpty || 3 < digits.length || !digits.all Char.isDigit ||
        (1 < digits.length && digits.head? == some '0') then none
    else addressNumber? digits
  match numbers with
  | [a, b, c, d] =>
    if [a, b, c, d].all (· ≤ 255) then some [a * 256 + b, c * 256 + d] else none
  | _ => none

/-- The groups of a text without `::`; the last piece may be four decimal numbers. -/
def groups? (last : Bool) (text : List Char) : Option (List Nat) :=
  if text.isEmpty then some []
  else
    let pieces := Text.pieces ':' text
    let plain := pieces.dropLast.mapM addressGroup?
    match plain, pieces.getLast? with
    | some front, some back =>
      if last && back.contains '.' then (dottedGroups? back).map (front ++ ·)
      else (addressGroup? back).map fun group => front ++ [group]
    | _, _ => none

/-- The text before and after the first `::`. -/
def cutDoubleColon? : List Char → Option (List Char × List Char)
  | ':' :: ':' :: rest => some ([], rest)
  | c :: rest => (cutDoubleColon? rest).map fun (front, back) => (c :: front, back)
  | [] => none

def address6? (text : List Char) : Option (List Nat) :=
  match cutDoubleColon? text with
  | none => (groups? true text).filter fun groups => groups.length == 8
  | some (front, back) => do
    let front ← groups? false front
    let back ← groups? true back
    let missing := 8 - front.length - back.length
    if missing = 0 then none else return front ++ List.replicate missing 0 ++ back

/-- Where the longest run of at least two zero groups starts, and how long it is. -/
def longestZeros (groups : List Nat) : Nat × Nat :=
  (List.range groups.length).foldl
    (fun best start =>
      let length := ((groups.drop start).takeWhile (· == 0)).length
      if 1 < length && best.2 < length then (start, length) else best)
    (0, 0)

def groupText (groups : List Nat) : List Char :=
  [':'].intercalate (groups.map (Nat.toDigits 16))

def address6Text (groups : List Nat) : List Char :=
  let (start, length) := longestZeros groups
  if length = 0 then groupText groups
  else groupText (groups.take start) ++ [':', ':'] ++ groupText (groups.drop (start + length))

/-! ## Hosts of both kinds -/

def isForbiddenInHost (c : Char) : Bool :=
  c.toNat == 0 ||
    ['\t', '\n', '\r', ' ', '#', '/', ':', '<', '>', '?', '@', '[', '\\', ']', '^', '|'].contains c

def bracketed (host : List Char) : Except Fault (List Char) :=
  if host.getLast? = some ']' then
    match address6? (host.drop 1).dropLast with
    | some groups => .ok ('[' :: address6Text groups ++ [']'])
    | none => .error .invalidAddress6
  else .error .invalidAddress6

/-- The host of a special scheme. -/
def specialHost (host : List Char) : Except Fault (List Char) :=
  if host.head? = some '[' then bracketed host
  else
    let text := Text.textOf? (decodeBytes (Text.bytesOf (String.ofList host)))
    match text.bind fun text => Domain.ascii? text.toList with
    | none => .error .invalidDomain
    | some domain =>
      if domain.isEmpty then .error .emptyHost
      else if endsInNumber domain then
        match address4? domain with
        | some address => .ok address
        | none => .error .invalidAddress4
      else .ok domain

/-- The host of any other scheme. -/
def otherHost (host : List Char) : Except Fault (List Char) :=
  if host.head? = some '[' then bracketed host
  else if host.any isForbiddenInHost then .error .invalidCharacter
  else .ok (encode isControl host)

end LintServer.Uri
