import Evacuation.Decimal.Integer
import Evacuation.Host.Address
import Evacuation.Host.Name
/-!
# Addresses of pages

An address has a scheme before a colon, an authority after two slashes, and a path; what follows a
question mark or a hash does not belong to the path. Each of these may be missing. The authority
names a user, a host and a port. A host of which the address is written in groups stands between
brackets. An authority is refused if its brackets do not match or if it would read differently once
its characters are replaced by their plain variants.

To send an address, its host is written in plain characters and its user with escapes.
-/
namespace Evacuation

/-- An address in parts. -/
structure Url where
  scheme : List Char := []
  authority : List Char := []
  path : List Char := []
  deriving DecidableEq, Repr

/-- Why an address is refused. -/
inductive UrlError where
  /-- The brackets of the authority do not match. -/
  | brackets
  /-- What stands between brackets is no numeric address. -/
  | noAddress (text : List Char)
  /-- An address of four bytes stands between brackets. -/
  | fourBytes
  /-- An address of a version to come is not well written. -/
  | futureAddress
  /-- The authority has variants of characters that end it or separate its parts. -/
  | misleading (authority : List Char)
  /-- The host has no plain form. -/
  | host (cause : Host.NameError)
  /-- The port is no number. -/
  | port (text : List Char)
  /-- The port has too many digits. -/
  | longPort (cause : Malformed)
  | portOutOfRange
  deriving DecidableEq, Repr

/-- The text that reports why an address is refused. -/
def UrlError.message : UrlError → String
  | .brackets => "Invalid IPv6 URL"
  | .noAddress text =>
    Text.quoted (String.ofList text) ++ " does not appear to be an IPv4 or IPv6 address"
  | .fourBytes => "An IPv4 address cannot be in brackets"
  | .futureAddress => "IPvFuture address is invalid"
  | .misleading authority =>
    "netloc '" ++ String.ofList authority ++
      "' contains invalid characters under NFKC normalization"
  | .host cause => cause.message
  | .port text => "Port could not be cast to integer value as " ++ Text.quoted (String.ofList text)
  | .longPort cause => cause.message
  | .portOutOfRange => "Port out of range 0-65535"

namespace Url

/-! ## Splitting -/

/-- The parts of a text around the first character of a kind, with that character in front of the
second part. -/
def breakAt (isEnd : Char → Bool) (text : List Char) : List Char × List Char :=
  (text.takeWhile (!isEnd ·), text.dropWhile (!isEnd ·))

/-- A character that may stand in a scheme. -/
def isSchemeChar (c : Char) : Bool := c.isAlphanum || c == '+' || c == '-' || c == '.'

/-- The scheme of an address, in small letters, and the rest. -/
def splitScheme (text : List Char) : List Char × List Char :=
  match Text.splitFirst ':' text with
  | some (first :: more, rest) =>
    if first.isAlpha && more.all isSchemeChar then ((first :: more).map Char.toLower, rest)
    else ([], text)
  | _ => ([], text)

/-- A control character or a space. -/
def isControlOrSpace (c : Char) : Bool := c.toNat ≤ 0x20

/-- A character that is left out of addresses. -/
def isLeftOut (c : Char) : Bool := c == '\t' || c == '\r' || c == '\n'

/-- An address without what does not count: controls and spaces at its front, and tabs and ends of
lines anywhere. -/
def cleaned (text : List Char) : List Char := (text.dropWhile isControlOrSpace).filter (!isLeftOut ·)

/-- The part of an authority after the user. -/
def hostAndPort (authority : List Char) : List Char :=
  match Text.splitLast '@' authority with
  | some (_, rest) => rest
  | none => authority

/-- The text around the first occurrence of a character; the second part is empty if there is
none. -/
def partition (separator : Char) (text : List Char) : List Char × List Char :=
  (Text.splitFirst separator text).getD (text, [])

/-- The address of a version to come: its number in hexadecimal digits, a dot and something. -/
def isFutureAddress (text : List Char) : Bool :=
  match Text.splitFirst '.' text with
  | some (_ :: version, c :: rest) =>
    !version.isEmpty && version.all (fun d => (Text.hexValue? d).isSome) &&
      (c :: rest).all (· != '\n')
  | _ => false

/-- A zone after an address of groups: not empty, and without a percent sign. -/
def isZone (zone : List Char) : Bool := !zone.isEmpty && !zone.contains '%'

/-- What stands between brackets is the address of a host. -/
def checkBracketed (host : List Char) : Except UrlError Unit :=
  if host.head? = some 'v' then
    if isFutureAddress host then .ok () else .error .futureAddress
  else if (Host.strictAddress? host).isSome then .error .fourBytes
  else
    match Host.zonedGroups? host with
    | some (_, zone) => if zone.all isZone then .ok () else .error (.noAddress host)
    | none => .error (.noAddress host)

/-- The brackets of an authority stand around its host, with nothing before them and only a port
after them. -/
def checkBrackets (authority : List Char) : Except UrlError Unit :=
  if authority.contains '[' != authority.contains ']' then .error .brackets
  else if !authority.contains '[' then .ok ()
  else
    let text := hostAndPort authority
    match Text.splitFirst '[' text with
    | none => checkBracketed (partition ':' text).1
    | some (before, bracketed) =>
      let (host, after) := partition ']' bracketed
      if !before.isEmpty || after.head?.any (· != ':') then .error .brackets
      else checkBracketed host

/-- A character with a plain variant that ends an authority or separates its parts. -/
def isMisleading (c : Char) : Bool :=
  c == '⁇' || c == '⁈' || c == '⁉' || c == '℀' || c == '℁' || c == '℅' || c == '℆' || c == '⩴' ||
    c == '︓' || c == '︖' || c == '﹕' || c == '﹖' || c == '﹟' || c == '﹫' || c == '＃' ||
    c == '／' || c == '：' || c == '？' || c == '＠'

/-- An address in parts. -/
def split (address : List Char) : Except UrlError Url := do
  let (scheme, rest) := splitScheme (cleaned address)
  let (authority, rest) :=
    match rest with
    | '/' :: '/' :: more => breakAt (fun c => c == '/' || c == '?' || c == '#') more
    | _ => ([], rest)
  checkBrackets authority
  if authority.any isMisleading then throw (.misleading authority)
  return { scheme, authority, path := (breakAt (fun c => c == '?' || c == '#') rest).1 }

/-! ## Hosts and ports -/

/-- The text of the host of an authority, and that of its port. -/
def hostAndPortTexts (authority : List Char) : List Char × List Char :=
  let text := hostAndPort authority
  match Text.splitFirst '[' text with
  | some (_, bracketed) =>
    let (host, after) := partition ']' bracketed
    (host, (partition ':' after).2)
  | none => partition ':' text

/-- The host of an authority, in small letters up to its zone. -/
def hostOf (authority : List Char) : List Char :=
  let host := (hostAndPortTexts authority).1
  let (name, zone) := breakAt (· == '%') host
  name.map Char.toLower ++ zone

/-- The bound of ports. -/
def portBound : Int := 65536

/-- The port of an authority; zero if there is none. -/
def portOf (authority : List Char) : Except UrlError Int :=
  let text := (hostAndPortTexts authority).2
  if text.isEmpty then .ok 0
  else if !text.all Char.isDigit then .error (.port text)
  else do
    let port ← (Decimal.readInteger (String.ofList text)).mapError .longPort
    if port < portBound then return port else throw .portOutOfRange

/-- The user of an authority and the password, if there is one. -/
def userOf (authority : List Char) : List Char × Option (List Char) :=
  match Text.splitLast '@' authority with
  | none => ([], none)
  | some (user, _) =>
    match Text.splitFirst ':' user with
    | none => (user, none)
    | some (name, password) => (name, some password)

/-! ## Sending -/

/-- A character that is sent without an escape in the name of a user. -/
def isSentPlainly (c : Char) : Bool :=
  c.isAlphanum || "_.-~%!$&'()*+,;=".toList.contains c

/-- The escape of a byte. -/
def byteEscape (byte : UInt8) : List Char :=
  '%' :: (Text.hexDigits 2 byte.toNat).map Char.toUpper

/-- A text with escapes where they are needed. -/
def escaped (text : List Char) : List Char :=
  text.flatMap fun c =>
    if isSentPlainly c then [c]
    else (String.singleton c).toUTF8.toList.flatMap byteEscape

/-- An authority as it is sent. -/
def sentAuthority (authority : List Char) : Except UrlError (List Char) := do
  let name ← (Host.plainName (hostOf authority)).mapError .host
  let port ← portOf authority
  let host := if name.contains ':' then '[' :: name ++ [']'] else name
  let hostAndPort := if port = 0 then host else host ++ ':' :: (toString port).toList
  match userOf authority with
  | ([], _) => return hostAndPort
  | (user, none) | (user, some []) => return escaped user ++ '@' :: hostAndPort
  | (user, some password) => return escaped user ++ ':' :: escaped password ++ '@' :: hostAndPort

/-- An address put together again from its parts. -/
def join (url : Url) : List Char :=
  (if url.scheme.isEmpty then [] else url.scheme ++ [':']) ++
    (if url.authority.isEmpty then [] else '/' :: '/' :: url.authority) ++ url.path

/-- An address as it is sent, apart from the escapes in its path. -/
def sent (address : List Char) : Except UrlError Url := do
  let url ← split address
  return { url with authority := ← sentAuthority url.authority }

end Url

end Evacuation
