import Evacuation.Host.Address
import Evacuation.Host.Name
import Evacuation.Metrics
import Evacuation.Text.Repertoire
/-!
# Collectors of counts

Counts may be sent one by one, as packets of plain characters, to a host that collects them. The
host is given by a numeric address or by a name, and what is sent goes to an address of four bytes.
No names are known here but the one of the host itself. Ports are counted around.
-/
namespace Evacuation

/-- Why a host cannot be sent packets. -/
inductive HostError where
  /-- The name has no plain form. -/
  | name (cause : Host.NameError)
  /-- There is no port. -/
  | noPort
  /-- The port is no number of 64 bits. -/
  | portTooLarge
  /-- The last 32 bits of the port are those of a negative number. -/
  | noSuchPort
  /-- The host has an address, but not one of four bytes. -/
  | otherFamily
  /-- The name is none that a host can have. -/
  | noSuchHost
  /-- Nobody can be asked for the address of the host. -/
  | notFound
  deriving DecidableEq, Repr

/-- The text that reports a bad host. -/
def HostError.message : HostError → String
  | .name cause => cause.message
  | .noPort => "Int or String expected"
  | .portTooLarge => "Python int too large to convert to C long"
  | .noSuchPort => "[Errno -8] Servname not supported for ai_socktype"
  | .otherFamily => "[Errno -9] Address family for hostname not supported"
  | .noSuchHost => "[Errno -2] Name or service not known"
  | .notFound => "[Errno -3] Temporary failure in name resolution"

/-- The program reports the error itself. A port that is no number of a machine is none that it could
name. -/
def HostError.isReported : HostError → Bool
  | .portTooLarge => false
  | _ => true

/-- A host that collects counts, by its address, and its port. -/
structure Collector where
  host : String
  port : Int
  deriving DecidableEq, Repr

namespace Collector

/-! ## Ports -/

/-- The bound of numbers of 64 bits with a sign. -/
def longBound : Int := 9223372036854775808

/-- The number of values of 32 bits. -/
def words : Int := 4294967296

/-- The number of ports. -/
def ports : Int := 65536

/-- The port that a number stands for. -/
def portOf (number : Option Int) : Except HostError Int :=
  match number with
  | none => .error .noPort
  | some number =>
    if number < -longBound ∨ longBound ≤ number then .error .portTooLarge
    else if words ≤ 2 * (number % words) then .error .noSuchPort
    else .ok (number % words % ports)

/-! ## Hosts -/

/-- The address of the host itself. -/
def ownAddress : List Nat := [127, 0, 0, 1]

/-- A character of the name of a host. -/
def isNameChar (c : Char) : Bool := c.isAlphanum || c == '-' || c == '_' || c == '.'

/-- The most characters of a name. -/
def mostInName : Nat := 253

/-- A text of digits and dots that looks like an address. -/
def looksNumeric (name : List Char) : Bool :=
  (name.all fun c => c.isDigit || c == '.') && name.getLast? != some '.'

/-- A host can have this name. -/
def isName (name : List Char) : Bool :=
  !name.isEmpty && name.all isNameChar && name.head? != some '-' && !looksNumeric name &&
    decide (name.length ≤ mostInName)

/-- A zone that is a number of 32 bits. -/
def isNumberedZone (zone : List Char) : Bool :=
  !zone.isEmpty && zone.all Char.isDigit && decide ((Text.decimalNumber zone : Int) < words)

/-- The address of a host by its name. -/
def addressOfName (name : List Char) : Except HostError (List Nat) :=
  if name.map Char.toLower = "localhost".toList then .ok ownAddress
  else if isName name then .error .notFound
  else .error .noSuchHost

/-- The address of a host. A lone asterisk stands for the host itself. -/
def addressOf (host : List Char) : Except HostError (List Nat) :=
  if host = ['*'] then .ok ownAddress
  else
    match Host.fourByteAddress? host with
    | some bytes => .ok bytes
    | none =>
      match Host.zonedGroups? host with
      | none => addressOfName host
      | some (groups, zone) =>
        match Host.mappedBytes? groups with
        | none => .error .otherFamily
        | some bytes => if zone.all isNumberedZone then .ok bytes else .error .noSuchHost

/-- A text up to the character that ends texts. -/
def upToEnd (text : List Char) : List Char := text.takeWhile (· != Char.ofNat 0)

/-- The collector at a host; none if no host is given. -/
def at? (host : Option String) (port : Option Int) : Except HostError (Option Collector) :=
  match host with
  | none | some "" => .ok none
  | some host => do
    let name ← (Host.plainName host.toList).mapError .name
    let port ← portOf port
    let address ← addressOf (upToEnd name)
    return some ⟨Host.dotted address, port⟩

end Collector

/-! ## Packets -/

/-- The packet of a text, which must be plain. -/
def packetOf (text : String) : Except Text.Outside String :=
  match Text.Repertoire.plain.outside? text.toList with
  | some outside => .error outside
  | none => .ok text

/-- The text of the packet that counts a result once. -/
def countText (series : Series) (result : String) : String :=
  s!"{metricsRoot}.{series.label}.{result}:1|c"

/-- Count a result once, and tell the collector if there is one. The result is counted even if it
cannot be told. -/
def Metrics.recordFor (collector : Option Collector) (series : Series) (result : String)
    (metrics : Metrics) : Except Text.Outside (List String) × Metrics :=
  let counted := metrics.record series result
  match collector with
  | none => (.ok [], counted)
  | some _ => ((packetOf (countText series result)).map fun packet => [packet], counted)

end Evacuation
