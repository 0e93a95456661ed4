import Evacuation.Text.Split
/-!
# The machine

Access files are looked for on the machine on which the program runs. A path is a sequence of names
between slashes; it starts at the root if it begins with a slash, and in the working directory
otherwise. A tilde in front stands for the home of a user.
-/
namespace Evacuation.Access

/-- What a path leads to. -/
inductive FileEntry where
  | missing
  /-- The path goes on behind something that is no directory. -/
  | blocked
  | directory
  /-- A text. A device may have one too, but is no file. -/
  | text (content : String) (isFile : Bool)
  deriving DecidableEq, Repr

/-- What the machine tells. -/
structure Machine where
  /-- What stands under names, one inside the other from the root on. -/
  entry : List String → FileEntry
  /-- The names of the working directory. -/
  workingDirectory : List String := []
  /-- The path of the home of a user; no name stands for the user who runs the program. -/
  home : String → Option String := fun _ => none
  /-- The seconds since the start of 1970, if they are known. -/
  now : Option Int := none

namespace Machine

/-- What names lead to that are followed one after another. -/
def follow (machine : Machine) : (reached : List String) → List String → FileEntry
  | reached, [] => machine.entry reached
  | reached, name :: rest =>
    match machine.entry reached with
    | .missing => .missing
    | .directory =>
      if name = "" ∨ name = "." then machine.follow reached rest
      else if name = ".." then machine.follow reached.dropLast rest
      else machine.follow (reached ++ [name]) rest
    | _ => .blocked

/-- The names of a path. -/
def namesOf (path : String) : List String := (Text.splitAll '/' path.toList).map String.ofList

/-- A path that starts at the root. -/
def isRooted (path : String) : Bool := path.toList.head? == some '/'

/-- What a path leads to. -/
def find (machine : Machine) (path : String) : FileEntry :=
  if path.isEmpty then .missing
  else machine.follow (if isRooted path then [] else machine.workingDirectory) (namesOf path)

end Machine

/-! ## Paths -/

namespace Path

/-- The path of one path behind another. -/
def join (front back : String) : String :=
  if Machine.isRooted back then back
  else if front.isEmpty || front.toList.getLast? == some '/' then front ++ back
  else front ++ "/" ++ back

/-- One more name behind others, the last one first. A name and the way back from it cancel out. -/
def addName (rooted : Bool) (names : List String) (name : String) : List String :=
  if name = "" ∨ name = "." then names
  else if name = ".." then
    match names with
    | [] => if rooted then [] else [name]
    | last :: rest => if last = ".." then name :: names else rest
  else name :: names

/-- The slashes in front of a path: two count as such, more than two as one. -/
def rootOf (path : String) : String :=
  match (path.toList.takeWhile (· == '/')).length with
  | 0 => ""
  | 2 => "//"
  | _ => "/"

/-- A path without detours. -/
def normalized (path : String) : String :=
  let root := rootOf path
  let names := (Machine.namesOf path).foldl (addName (!root.isEmpty)) []
  let text := root ++ "/".intercalate names.reverse
  if text.isEmpty then "." else text

/-- A text without the slashes at its end. -/
def withoutSlashes (text : List Char) : List Char := (text.reverse.dropWhile (· == '/')).reverse

/-- The directory of a path. -/
def directory (path : String) : String :=
  match Text.splitLast '/' path.toList with
  | none => ""
  | some (front, _) =>
    let front := front ++ ['/']
    let bare := withoutSlashes front
    String.ofList (if bare.isEmpty then front else bare)

/-- A path from the root on, without detours. -/
def absolute (machine : Machine) (path : String) : String :=
  normalized (join ("/" ++ "/".intercalate machine.workingDirectory) path)

/-- A path with the home of a user in place of a tilde. -/
def expanded (machine : Machine) (path : String) : String :=
  match path.toList with
  | '~' :: rest =>
    match machine.home (String.ofList (rest.takeWhile (· != '/'))) with
    | none => path
    | some home =>
      let full := withoutSlashes home.toList ++ rest.dropWhile (· != '/')
      if full.isEmpty then "/" else String.ofList full
  | _ => path

/-- A way back cancels the name before it. -/
example : normalized "/a/../b/./c" = "/b/c" := by decide +kernel

end Path

end Evacuation.Access
