/-
**Addresses of remotes.**

An address is a scheme, mostly a host, and a path. Of an address whose scheme is not followed by a slash the path
is opaque: nothing can be looked up below it. Control characters and blanks around an address, and ends of
lines inside it, are let pass.
-/

import StreamWatch.Json.Reader
import StreamWatch.Number.Decimal
import StreamWatch.Text.Blank
import StreamWatch.Text.Utf8

namespace StreamWatch

open Number Text

/-- An address that other addresses can be looked up from. -/
structure Url where
  scheme : String
  /-- the host with what stands around it, when there is one -/
  authority : Option String
  /-- the path, or nothing when it is opaque -/
  path : Option (List Char)
deriving DecidableEq, Repr

namespace Url

/-- The schemes whose addresses always have a host. -/
def hosted : List String := ["http", "https", "ws", "wss", "ftp"]

/-- The schemes in which a backslash counts as a slash. -/
def special : List String := "file" :: hosted

/-- Whether a character is an ASCII letter. -/
def isLetter (c : Char) : Bool := ('a' ≤ c && c ≤ 'z') || ('A' ≤ c && c ≤ 'Z')

/-- Whether a character may stand in a scheme after its first. -/
def isSchemeChar (c : Char) : Bool := isLetter c || isDigit c || c == '+' || c == '-' || c == '.'

/-- The text without control characters and blanks around it and without ends of lines inside it. -/
def cleaned (text : List Char) : List Char :=
  let outer (c : Char) : Bool := c.toNat ≤ 0x20
  (((text.dropWhile outer).reverse.dropWhile outer).reverse).filter fun c =>
    c != '\t' && c != '\n' && c != '\r'

/-- The scheme in lower case, and what follows its colon. -/
def scheme? (text : List Char) : Option (String × List Char) :=
  match text with
  | c :: _ =>
    if isLetter c then
      match text.dropWhile isSchemeChar with
      | ':' :: rest => some (String.ofList ((text.takeWhile isSchemeChar).map Char.toLower), rest)
      | _ => none
    else none
  | [] => none

/-! ### Hosts -/

/-- The pieces of a text between separators. -/
def pieces (separator : Char) : List Char → List (List Char)
  | [] => [[]]
  | c :: rest =>
    if c = separator then [] :: pieces separator rest
    else
      match pieces separator rest with
      | [] => [[c]]
      | first :: more => (c :: first) :: more

/-- The value of digits of a base. -/
def valueIn? (base : Nat) (digits : List Char) : Option Nat :=
  digits.foldlM (fun n c => ((Json.hexValue? c).filter (· < base)).map (n * base + ·)) 0

/-- One part of a numeric host: decimal, octal after a zero, or hexadecimal after `0x`. -/
def part? (text : List Char) : Option Nat :=
  match text with
  | [] => none
  | '0' :: 'x' :: digits | '0' :: 'X' :: digits => valueIn? 16 digits
  | '0' :: c :: digits => valueIn? 8 (c :: digits)
  | _ => valueIn? 10 text

/-- The parts of a host between points, a last empty one left out. -/
def hostParts (host : List Char) : List (List Char) :=
  let parts := pieces '.' host
  if parts.getLast? = some [] ∧ 1 < parts.length then parts.dropLast else parts

/-- Whether the last part of a host is a number, so that the whole has to be numeric. -/
def endsInNumber (host : List Char) : Bool :=
  match (hostParts host).getLast? with
  | some last => (!last.isEmpty && last.all isDigit) || (part? last).isSome
  | none => false

/-- Whether a numeric host stands for four bytes. -/
def isNumericHost (host : List Char) : Bool :=
  let parts := hostParts host
  match parts.mapM part? with
  | none => false
  | some values =>
    values.length ≤ 4 && (values.dropLast.all (· ≤ 255)) &&
      values.getLastD 0 < twoTo (8 * (5 - values.length))

/-- The number of groups of a bracketed host, or nothing when one of them is malformed. A last group may
be four decimal bytes, which count as two groups. -/
def groups? (text : List Char) : Option Nat :=
  if text.isEmpty then some 0
  else
    let parts := pieces ':' text
    let isGroup (part : List Char) : Bool := 1 ≤ part.length && part.length ≤ 4 && (valueIn? 16 part).isSome
    let isByte (part : List Char) : Bool :=
      match digitsValue? part with
      | some n => n ≤ 255 && (part.length == 1 || part.head? != some '0')
      | none => false
    let isQuad (part : List Char) : Bool :=
      let bytes := pieces '.' part
      bytes.length == 4 && bytes.all isByte
    if parts.all isGroup then some parts.length
    else if parts.dropLast.all isGroup && isQuad (parts.getLastD []) then some (parts.length + 1)
    else none

/-- The text around the first pair of colons. -/
def aroundGap? : List Char → Option (List Char × List Char)
  | ':' :: ':' :: rest => some ([], rest)
  | c :: rest => (aroundGap? rest).map fun (before, after) => (c :: before, after)
  | [] => none

/-- Whether a host between brackets is made of eight groups, of which one gap may stand for several. -/
def isBracketedHost (text : List Char) : Bool :=
  match aroundGap? text with
  | none => groups? text == some 8
  | some (before, after) =>
    let isShort : Option Nat := do
      if before.contains '.' then none
      pure ((← groups? before) + (← groups? after))
    match isShort with
    | some n => n ≤ 7
    | none => false

/-- The bytes of a text in which a percent sign with two digits stands for a byte. -/
def percentDecoded : List Char → List UInt8
  | '%' :: a :: b :: rest =>
    match Json.hexValue? a, Json.hexValue? b with
    | some high, some low => UInt8.ofNat (high * 16 + low) :: percentDecoded rest
    | _, _ => 37 :: percentDecoded (a :: b :: rest)
  | c :: rest => (String.singleton c).toUTF8.toList ++ percentDecoded rest
  | [] => []

/-- Whether a character may not stand in any host. -/
def isForbidden (c : Char) : Bool :=
  c == '\x00' || c == '\t' || c == '\n' || c == '\r' || "#/:<>?@[\\]^| ".toList.contains c

/-- Whether a host that is a name, or looks like one, is well formed. -/
def isName (host : List Char) : Bool :=
  let name := decodeLossy (percentDecoded host)
  !name.isEmpty && name.all (fun c => !(isForbidden c || c.toNat < 0x20 || c == '%' || c == '\x7F')) &&
    (!endsInNumber name || isNumericHost name)

/-- Whether a host is well formed. An empty one is so only where a host is not needed. -/
def isHost (isSpecial : Bool) (host : List Char) : Bool :=
  match host with
  | '[' :: rest => rest.getLast? == some ']' && isBracketedHost rest.dropLast
  | _ => if isSpecial then isName host else host.all fun c => !isForbidden c

/-- Whether the number after a host is one of 16 bits, or empty. -/
def isPortNumber (text : List Char) : Bool :=
  text.isEmpty || ((digitsValue? text).filter (· < 65536)).isSome

/-- The host of an authority without user information, and the number after it; a colon inside brackets does not
count. -/
def hostAndPortNumber (text : List Char) : List Char × Option (List Char) :=
  match text with
  | '[' :: _ =>
    let host := text.takeWhile (· != ']')
    match text.dropWhile (· != ']') with
    | ']' :: ':' :: portNumber => (host ++ [']'], some portNumber)
    | ']' :: [] => (host ++ [']'], none)
    | rest => (host ++ rest, none)
  | _ =>
    match splitOnce? (· == ':') text with
    | some (host, portNumber) => (host, some portNumber)
    | none => (text, none)

/-- Whether an authority is well formed. -/
def isAuthority (isSpecial mayBeEmpty : Bool) (text : List Char) : Bool :=
  let user := text.contains '@'
  let rest := if user then (text.reverse.takeWhile (· != '@')).reverse else text
  let (host, portNumber) := hostAndPortNumber rest
  if host.isEmpty then mayBeEmpty && !user && portNumber.isNone
  else isHost isSpecial host && (portNumber.map isPortNumber).getD true

/-! ### Addresses -/

/-- The path of what follows an authority. -/
def pathOf (text : List Char) : List Char :=
  match text.takeWhile fun c => c != '?' && c != '#' with
  | [] => ['/']
  | path => path

/-- The address of a text. -/
def parse? (text : String) : Option Url := do
  let (scheme, rest) ← scheme? (cleaned text.toList)
  let isSpecial := special.contains scheme
  let isSlash (c : Char) : Bool := c == '/' || (isSpecial && c == '\\')
  let ends (c : Char) : Bool := isSlash c || c == '?' || c == '#'
  let withAuthority (mayBeEmpty : Bool) (rest : List Char) : Option Url :=
    let authority := rest.takeWhile fun c => !ends c
    if isAuthority isSpecial mayBeEmpty authority then
      some ⟨scheme, some (String.ofList authority), some (pathOf (rest.dropWhile fun c => !ends c))⟩
    else none
  if hosted.contains scheme then withAuthority false (rest.dropWhile isSlash)
  else
    match rest with
    | a :: b :: more =>
      if isSlash a && isSlash b then withAuthority true more
      else if isSlash a || isSpecial then some ⟨scheme, none, some (pathOf rest)⟩
      else some ⟨scheme, none, none⟩
    | [a] =>
      if isSlash a || isSpecial then some ⟨scheme, none, some (pathOf rest)⟩
      else some ⟨scheme, none, none⟩
    | [] => if isSpecial then some ⟨scheme, none, some ['/']⟩ else some ⟨scheme, none, none⟩

/-- The path with another looked up from it: what follows the last slash gives way. -/
def join? (url : Url) (path : String) : Option Url :=
  url.path.map fun base =>
    { url with path := some ((base.reverse.dropWhile (· != '/')).reverse ++ path.toList) }

end Url
end StreamWatch
