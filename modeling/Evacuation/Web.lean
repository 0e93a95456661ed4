import Evacuation.ListenAddress
import Evacuation.Metrics
import Evacuation.Url
/-!
# The web pages

Two pages are served: the counts, and a page that tells that the program is alive and answers
every request. Files are looked for under a third address, but there are none. A request to a page
by a method it does not know is told which methods it does know. No page takes part in an open
conversation, and a request that names its host wrongly is refused before its page is looked up.
-/
namespace Evacuation.Web

/-- What can be asked for. -/
inductive Page where
  | metrics
  | health
  /-- Files, of which there are none. -/
  | files
  deriving DecidableEq, Repr

namespace Page

/-- The methods a page knows, in alphabetical order. -/
def methods : Page → List String
  | .metrics | .files => ["GET", "HEAD", "OPTIONS"]
  | .health => ["DELETE", "GET", "HEAD", "OPTIONS", "PATCH", "POST", "PUT"]

/-- The name of a file: it does not begin with a slash and is written in one line. -/
def isFileName : List Char → Bool
  | [] => false
  | first :: rest => first != '/' && !rest.contains '\n'

/-- The page under a path. -/
def at? (path : List Char) : Option Page :=
  if path = "/metrics".toList then some .metrics
  else if path = "/healthz".toList then some .health
  else
    match Text.dropStart? "/static/".toList path with
    | some name => if isFileName name then some .files else none
    | none => none

end Page

/-- The answer to a request. -/
structure Response where
  status : Nat
  /-- The methods the page knows, where the answer names them. -/
  allow : Option (List String) := none
  type : String := "text/html; charset=utf-8"
  body : String := ""
  deriving Repr

/-- A path with its escapes replaced. An escape that is none is left as it stands. -/
def unescaped : List Char → List Char
  | '%' :: high :: low :: rest =>
    match Text.hexValue? high, Text.hexValue? low with
    | some h, some l => Char.ofNat (16 * h + l) :: unescaped rest
    | _, _ => '%' :: unescaped (high :: low :: rest)
  | c :: rest => c :: unescaped rest
  | [] => []

/-- Where a request goes. -/
structure Target where
  scheme : List Char
  /-- The host and the port, and a user before them. -/
  authority : List Char
  path : List Char
  deriving DecidableEq, Repr

namespace Target

/-- The scheme of an address that names none. -/
def usualScheme : List Char := "http".toList

/-- The host of an address that names none. -/
def usualHost : List Char := "localhost".toList

/-- A value in place of an empty one. -/
def orUsual (usual text : List Char) : List Char := if text.isEmpty then usual else text

/-- The path that is asked for: the escapes are replaced and one slash stands at its front. -/
def pathOf (sent : List Char) : List Char :=
  match sent with
  | [] => []
  | sent => '/' :: (unescaped sent).dropWhile (· == '/')

/-- Where a request with an address goes. The path of the address may hold an address itself, of
which only the path counts; that one is sent as an address again. -/
def read (address : List Char) : Except UrlError Target := do
  let whole ← Url.split address
  let inner ← Url.split whole.path
  let sent ← Url.sent inner.path
  let authority ← Url.sentAuthority (orUsual usualHost whole.authority)
  return {
    scheme := orUsual usualScheme whole.scheme
    authority
    path := pathOf sent.join }

/-- The name of the host can be looked up: its labels are neither empty nor too long. -/
def hasHost (target : Target) : Bool :=
  match Host.checkLabels (Text.splitAll '.' (Url.partition ':' target.authority).1) with
  | .ok () => true
  | .error _ => false

/-- A request that opens a conversation instead of asking for a page. -/
def opensConversation (target : Target) : Bool :=
  target.scheme = "ws".toList || target.scheme = "wss".toList

end Target

/-- The capital letters in place of a small letter, so far as they are plain: a small letter of
another alphabet and a ligature may have plain capitals too. -/
def capitals (c : Char) : List Char :=
  match c with
  | 'ı' => ['I']
  | 'ſ' => ['S']
  | 'ß' => ['S', 'S']
  | 'ﬀ' => ['F', 'F']
  | 'ﬁ' => ['F', 'I']
  | 'ﬂ' => ['F', 'L']
  | 'ﬃ' => ['F', 'F', 'I']
  | 'ﬄ' => ['F', 'F', 'L']
  | 'ﬅ' | 'ﬆ' => ['S', 'T']
  | c => [c.toUpper]

/-- A text in capital letters. -/
def upper (text : String) : String := String.ofList (text.toList.flatMap capitals)

/-- A path with one slash in place of every sequence of slashes. -/
def withSlashesMerged : List Char → List Char
  | [] => []
  | c :: rest =>
    match c, withSlashesMerged rest with
    | '/', '/' :: merged => '/' :: merged
    | c, merged => c :: merged

/-- The page under a path, and whether it is found only once slashes are merged. -/
def find? (path : List Char) : Option (Page × Bool) :=
  match Page.at? path with
  | some page => some (page, false)
  | none => (Page.at? (withSlashesMerged path)).map fun page => (page, true)

/-- The answer of a page to a request by one of its methods. The page of counts is given. -/
def Page.answer (metricsPage method : String) (page : Page) : Response :=
  match page with
  | .health => { status := 200 }
  | .metrics =>
    if method = "OPTIONS" then { status := 200, allow := some page.methods }
    else
      { status := 200, type := Metrics.pageType
        body := if method = "HEAD" then "" else metricsPage }
  | .files =>
    if method = "OPTIONS" then { status := 200, allow := some page.methods }
    else { status := 404 }

/-- The answer to a request that goes somewhere. A page found once slashes are merged has moved for
good. -/
def answer (metricsPage method : String) (target : Target) : Response :=
  if !target.hasHost then { status := 400 }
  else
    match find? target.path with
    | none => { status := 404 }
    | some (page, moved) =>
      if !page.methods.contains method then { status := 405, allow := some page.methods }
      else if target.opensConversation then { status := 400 }
      else if moved then { status := 308 }
      else page.answer metricsPage method

/-- Answer a request by a method to an address. The page of counts is given. -/
def respond (metricsPage method address : String) : Except UrlError Response :=
  (Target.read address.toList).map (answer metricsPage (upper method))

/-! ## Serving -/

/-- What serving pages comes to. -/
inductive Act where
  /-- Listen at an address; requests may be answered side by side. -/
  | listen (address : ListenAddress) (threaded : Bool)
  /-- Answer requests until the program is to stop. -/
  | serve
  | shutdown
  deriving DecidableEq, Repr

/-- Serve pages at an address until the program is to stop. -/
def serve (address : String) : Except Malformed (List Act) :=
  (ListenAddress.read address).map fun address => [.listen address true, .serve, .shutdown]

end Evacuation.Web
