import Evacuation.Access.Machine
import Evacuation.Access.Part
import Evacuation.Yaml.Reader
/-!
# Access files read together

Several access files may be given, with colons between them; those that exist are read together. The
first file gives all but the entries of the three lists, and each file adds the entries whose names
are new. The current context is that of the last file that tells one. It names a cluster and may
name a user.
-/
namespace Evacuation.Access

open Yaml (Value)

/-- Access files read together. -/
structure Merged where
  /-- The first file, without its lists of entries. -/
  top : Part
  clusters : List Part := []
  contexts : List Part := []
  users : List Part := []

/-- The name of an entry that is new. -/
def nameOf (entry : Value) : Except AccessError Value :=
  match entry with
  | .mapping members =>
    match Value.lookup? (.text "name") members with
    | some name => .ok name
    | none => .error (.misuse (.noKey "name"))
  | .list _ => .error (.misuse .listKey)
  | .text _ => .error (.misuse .textKey)
  | entry => .error (.misuse (.noSubscript entry.kindName))

/-- One of the known entries has the name of a new one. -/
def isKnown (entry : Value) : List Part → Except AccessError Bool
  | [] => .ok false
  | known :: rest => do
    let name ← known.get "name"
    if name.same (.bare (← nameOf entry)) then return true else isKnown entry rest

/-- Entries with those of a file added whose names are new. -/
def addEntries (file : String) (known : List Part) (entries : List Value) :
    Except AccessError (List Part) :=
  entries.foldlM (fun known entry => do
    if ← isKnown entry known then return known
    else return known ++ [⟨s!"{file}/{entry.plain}", file, entry⟩]) known

/-- What stands one after another in a value: the items of a list, the keys of a mapping or the
characters of a text. -/
def itemsOf (value : Value) : Except AccessError (List Value) :=
  if !value.isFull then .ok []
  else
    match value with
    | .list items => .ok items
    | .mapping members => .ok (members.map (·.1))
    | .text text => .ok (text.toList.map fun c => .text (String.singleton c))
    | .enclosing _ => .ok []
    | value => .error (.misuse (.noItems value.kindName))

/-- The files read so far together with one more. -/
def merge (before : Option Merged) (file : String) (value : Value) :
    Except AccessError Merged := do
  let base ← match before, value with
    | _, .null => throw (.emptyFile file)
    | none, .mapping _ => pure { top := ⟨file, file, value⟩ }
    | none, .list _ => throw (.misuse .listKey)
    | none, value => throw (.misuse (.noAssignment value.kindName))
    | some base, .mapping _ => pure base
    | some _, value => throw (.misuse (.noAttribute value.kindName "get"))
  let members := match value with
    | .mapping members => members
    | _ => []
  let entries (key : String) : Except AccessError (List Value) :=
    itemsOf ((Value.lookup? (.text key) members).getD .null)
  let clusters ← addEntries file base.clusters (← entries "clusters")
  let contexts ← addEntries file base.contexts (← entries "contexts")
  let users ← addEntries file base.users (← entries "users")
  let top := match Value.lookup? (.text "current-context") members, base.top.value with
    | some current, .mapping known =>
      { base.top with value := .mapping (Value.write (.text "current-context") current known) }
    | _, _ => base.top
  return { top, clusters, contexts, users }

/-- The paths of access files, with colons between them. -/
def filePaths (machine : Machine) (files : String) : List String :=
  ((Text.splitAll ':' files.toList).filter (!·.isEmpty)).map fun file =>
    Path.expanded machine (String.ofList file)

/-- The files read so far together with one more, if that one exists. -/
def addFile (machine : Machine) (before : Option Merged) (file : String) :
    Except AccessError (Option Merged) :=
  match machine.find file with
  | .missing | .blocked => .ok before
  | .directory => .error (.directory file)
  | .text content _ => do
    let value ← (Yaml.read content).mapError (.unreadable file)
    return some (← merge before file value)

/-- The access files that exist, read together. -/
def Merged.read (machine : Machine) (files : String) : Except AccessError Merged := do
  match ← (filePaths machine files).foldlM (addFile machine) none with
  | some merged => return merged
  | none => throw .noConfiguration

namespace Merged

/-- Where a list of entries stands. -/
def placeOf (merged : Merged) (list : String) : String := s!"{merged.top.place}/{list}"

/-- The user of a context. It need not be listed, but if it is, the entry must describe it. -/
def userOf (merged : Merged) (context : Part) : Except AccessError (Option Item) := do
  match ← memberOf? "user" context.value with
  | none => return none
  | some name =>
    if !name.isFull || merged.users.isEmpty then return none
    else
      match ← entryNamed? (merged.placeOf "users") (← context.get "user") merged.users with
      | none => return none
      | some entry => return some (← entry.get "user")

/-- The user and the cluster of the current context. -/
def current (merged : Merged) : Except AccessError (Option Item × Item) := do
  let name ← merged.top.get "current-context"
  let entry ← entryNamed (merged.placeOf "contexts") name merged.contexts
  match ← entry.get "context" with
  | .bare value => throw (.misuse (.noAttribute value.kindName "safe_get"))
  | .part context =>
    let user ← merged.userOf context
    let name ← context.get "cluster"
    let found ← entryNamed (merged.placeOf "clusters") name merged.clusters
    return (user, ← found.get "cluster")

end Merged

end Evacuation.Access
