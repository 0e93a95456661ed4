import Evacuation.Access.Expiry
/-!
# Credentials

The user of a context proves an identity in the first way that applies: by a token of a provider, by
a token or a file that holds one, or by a name and a password. A token of a provider may have
expired; then another is asked for by a command, if that can be done at all. A cluster that is
reached safely may be given certificates and keys, in files or as they are.
-/
namespace Evacuation.Access

open Yaml (Value)

/-! ## Files and data -/

/-- Where something is to be taken from. -/
inductive Source where
  | nowhere
  | data (item : Item)
  | file (path : String)

/-- Where something is to be taken from that may be given as it is or in a file. Paths start at the
directory of the access file. -/
def sourceOf (machine : Machine) (accessFile : String) (owner : Item) (fileKey dataKey : String) :
    Except AccessError Source := do
  if !owner.isFull then return .nowhere
  else if ← owner.has dataKey then return .data (← owner.get dataKey)
  else if ← owner.has fileKey then
    match ← owner.get fileKey with
    | .bare (.text path) =>
      let base := Path.absolute machine (Path.directory accessFile)
      return .file (Path.normalized (Path.join base path))
    | item => throw (.misuse (.noPath item.shortKindName))
  else return .nowhere

/-- A certificate or a key can be put to use: data are bytes in six bits each, and a file exists. -/
def checkFile (machine : Machine) (accessFile : String) (owner : Item) (key : String) :
    Except AccessError Unit := do
  match ← sourceOf machine accessFile owner key (key ++ "-data") with
  | .nowhere => return ()
  | .data item =>
    if !item.isFull then return ()
    else
      match item with
      | .bare (.text text) =>
        let _ ← (Text.Base64.decode text.toList).mapError .data
      | item => throw (.misuse (.noBytes item.shortKindName))
  | .file path =>
    match machine.find path with
    | .text _ true => return ()
    | _ => throw (.missingFile path)

/-- The content of a file. -/
def contentOf (machine : Machine) (path : String) : Except AccessError String :=
  if path.toList.contains (Char.ofNat 0) then .error .endedPath
  else
    match machine.find path with
    | .missing => .error (.notFound path)
    | .blocked => .error (.blocked path)
    | .directory => .error (.directory path)
    | .text content _ => .ok content

/-! ## Providers of tokens -/

/-- The first word of a text. -/
def firstWord? (text : List Char) : Option String :=
  match (text.dropWhile Text.isBlank).takeWhile (!Text.isBlank ·) with
  | [] => none
  | word => some (String.ofList word)

/-- The length of an item that has one. -/
def isLong (item : Item) : Except AccessError Bool :=
  match item with
  | .bare (.text text) => .ok !text.isEmpty
  | .part part => .ok part.value.isFull
  | .bare value => .error (.misuse (.noLength value.kindName))

/-- Ask a command for a token. No command can be run. -/
def tokenOfCommand (config : Item) : Except AccessError Unit := do
  let command ← config.get "cmd-path"
  if !(← isLong command) then throw .emptyCommand
  if ← config.has "scopes" then
    match ← config.get "scopes" with
    | .bare (.text "") => pure ()
    | _ => throw .scopedCommand
  if ← config.has "cmd-args" then
    let _ ← (← config.get "cmd-args").textFor "split"
    match command with
    | .bare (.text path) => throw (.notFound path)
    | item => throw (.misuse (.noSum item.kindName))
  else
    match firstWord? (← command.textFor "split").toList with
    | some path => throw (.notFound path)
    | none => throw (.misuse .noWord)

/-- Get a token anew. -/
def renewToken (provider : Item) : Except AccessError Unit := do
  let noToken : AccessError := .misuse (.noAttribute "NoneType" "token")
  if !(← provider.has "config") then throw noToken
  else
    let config ← provider.get "config"
    if ← config.has "cmd-path" then tokenOfCommand config else throw noToken

/-- The token of a provider that gives it by a command. -/
def commandToken (machine : Machine) (provider : Item) : Except AccessError Unit := do
  if !(← provider.has "config") then renewToken provider
  else
    let config ← provider.get "config"
    if !(← config.has "access-token") then renewToken provider
    else if ← hasExpired machine config "expiry" then renewToken provider
    else
      let _ ← config.get "access-token"

/-- The token of a provider that cannot give another. It tells whether there is one. -/
def fixedToken (machine : Machine) (provider : Item) : Except AccessError Bool := do
  if !(← provider.has "config") then return false
  else
    let config ← provider.get "config"
    if !(← config.has "access-token") then return false
    else
      if ← config.has "expires-on" then
        let text ← (← config.get "expires-on").textFor "isdigit"
        if ← (tellsPast machine text).mapError .token then throw (.token .expired)
      let _ ← config.get "access-token"
      return true

/-- What the middle part of a signed token says. -/
def claimsOf (payload : List Char) : Except AccessError Document := do
  let filled := payload ++ List.replicate (4 - payload.length % 4) '='
  if payload.any fun c => 0x80 ≤ c.toNat then throw (.token .notPlain)
  else
    let standard := filled.map fun c => if c == '-' then '+' else if c == '_' then '/' else c
    let bytes ← (Text.Base64.decode standard).mapError fun cause => .token (.base64 cause)
    let text ← (Text.Utf8.decode bytes).mapError fun cause => .token (.bytes cause)
    (Json.read text).mapError fun cause => .token (.document text cause)

/-- The seconds since the start of 1970 that a claim tells. -/
def secondsOf (claim : Document) : Except AccessError Int := do
  let instant (seconds : Float) : Except AccessError Int := do
    let _ ← (showInstant seconds).mapError fun cause => .token (.time cause)
    (TimeScale.second seconds).mapError fun cause => .token (.time cause)
  match claim with
  | .integer seconds => instant (floatOfInt seconds)
  | .decimal seconds => instant seconds
  | .boolean value => return if value then 1 else 0
  | claim => throw (.misuse (.noNumber claim.kindName))

/-- What is known of an issuer of tokens that is asked for another. Nobody can be asked. -/
def askIssuer (config : Item) : Except AccessError Unit := do
  if ← config.has "idp-certificate-authority-data" then
    match ← config.get "idp-certificate-authority-data" with
    | .bare (.text text) =>
      if text.toList.any fun c => 0x80 ≤ c.toNat then throw (.token .notPlain)
      let bytes ← (Text.Base64.decode text.toList).mapError .data
      let _ ← (Text.Utf8.decode bytes).mapError fun cause => .token (.bytes cause)
    | item => throw (.misuse (.noBytes item.shortKindName))
  else if ← config.has "idp-certificate-authority" then
    let _ ← config.get "idp-certificate-authority"
  let _ ← config.get "idp-issuer-url"

/-- The claims of a signed token have not expired, or another is asked for. -/
def checkClaims (machine : Machine) (config : Item) (claims : Document) :
    Except AccessError Unit := do
  if !claims.isObject then throw (.misuse (.noAttribute claims.kindName "get"))
  else
    match claims.get? "exp" with
    | none | some .null => return ()
    | some claim =>
      if ← isOver machine ((← secondsOf claim) * 1000000) 0 then askIssuer config else return ()

/-- A signed token. It tells whether there is one: a text in three parts without characters that
addresses do not allow. -/
def signedToken (machine : Machine) (provider : Item) : Except AccessError Bool := do
  if !(← provider.has "config") then return false
  else
    let config ← provider.get "config"
    let token ← config.get "id-token"
    if (← token.has "=") || (← token.has "+") || (← token.has "/") then return false
    else
      match Text.splitAll '.' (← token.textFor "split").toList with
      | [_, payload, _] =>
        if payload.length % 4 = 1 then return false
        else
          checkClaims machine config (← claimsOf payload)
          return true
      | _ => return false

/-- The token of a provider. It tells whether there is one. -/
def providedToken (machine : Machine) (user : Item) : Except AccessError Bool := do
  if !(← user.has "auth-provider") then return false
  else
    let provider ← user.get "auth-provider"
    if !(← provider.has "name") then return false
    else
      match ← provider.get "name" with
      | .bare (.text "gcp") =>
        commandToken machine provider
        return true
      | .bare (.text "azure") => fixedToken machine provider
      | .bare (.text "oidc") => signedToken machine provider
      | _ => return false

/-! ## Identities -/

/-- A token of the user. It tells whether there is one. -/
def ownToken (machine : Machine) (user : Item) : Except AccessError Bool := do
  match user with
  | .bare value => throw (.misuse (.noAttribute value.kindName "path"))
  | .part part =>
    match ← sourceOf machine part.file user "tokenFile" "token" with
    | .nowhere => return false
    | .data item => return item.isFull
    | .file path => return !(← contentOf machine path).isEmpty

/-- A name and a password, both of which can be sent. -/
def checkPassword (user : Item) : Except AccessError Unit := do
  if (← user.has "username") && (← user.has "password") then
    let name ← match ← user.get "username" with
      | .bare (.text name) => pure name
      | item => throw (.misuse (.noSum item.kindName))
    let password ← match ← user.get "password" with
      | .bare (.text password) => pure password
      | item => throw (.misuse (.noFollower item.kindName))
    match Text.Repertoire.latin.outside? (name ++ ":" ++ password).toList with
    | some outside => throw (.unsendable outside)
    | none => return ()

/-- The user can prove an identity, if there is one to be proved. -/
def checkUser (machine : Machine) (user : Item) : Except AccessError Unit := do
  if !user.isFull then return ()
  else if ← providedToken machine user then return ()
  else if ← ownToken machine user then return ()
  else checkPassword user

end Evacuation.Access
