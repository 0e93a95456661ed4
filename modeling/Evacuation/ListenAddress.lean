import Evacuation.Decimal.Integer
import Evacuation.Text.Split
/-!
# Listen addresses

A listen address is written `[HOST]:PORT`. The port follows the last colon and consists of digits
alone; brackets around the host are dropped, and without a host the address stands for all
interfaces. A port may be written with digits of any script that have a place value.
-/
namespace Evacuation

/-- Where to listen. -/
structure ListenAddress where
  host : String
  port : Int
  deriving DecidableEq, Repr

namespace ListenAddress

/-- The host that stands for all interfaces. -/
def anyHost : String := "0.0.0.0"

/-- A square bracket. -/
def isBracket (c : Char) : Bool := c == '[' || c == ']'

/-- A host without the brackets at its ends. -/
def unbracketed (host : List Char) : List Char :=
  ((host.dropWhile isBracket).reverse.dropWhile isBracket).reverse

/-- The address written in a text. -/
def read (text : String) : Except Malformed ListenAddress :=
  match Text.splitLast ':' text.toList with
  | none => .error (.listenAddress text)
  | some (host, port) =>
    if port.isEmpty || !port.all Text.isDigit then .error (.listenAddress text)
    else
      (Decimal.readInteger (String.ofList port)).map fun number =>
        match unbracketed host with
        | [] => ⟨anyHost, number⟩
        | name => ⟨String.ofList name, number⟩

/-- An address as written, with the port in Latin digits. -/
def render (address : ListenAddress) : String := s!"{address.host}:{address.port}"

end ListenAddress

end Evacuation
