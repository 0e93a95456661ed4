import Evacuation.Access.Credential
import Evacuation.Access.Merged
/-!
# Access to the cluster

The address of the cluster is given directly, or it is found in access files: the current context
names a cluster, and the cluster has the address of its server. What the files ask for besides, an
identity and certificates, must be there too. An address given directly goes before the one of the
files, but files that are named are read all the same. Without any of these the file in the home of
the user is read.
-/
namespace Evacuation.ClusterAccess

open Access

/-- The access file in the home of the user. -/
def homeFile : String := "~/.kube/config"

/-- The address of a server, without the slashes at its end. -/
def serverOf (cluster : Item) : Except AccessError String := do
  let server ← (← cluster.get "server").textFor "rstrip"
  return String.ofList (Path.withoutSlashes server.toList)

/-- An address is reached safely, so that certificates are needed. -/
def isSafe (address : String) : Bool := (Text.dropStart? "https".toList address.toList).isSome

/-- The certificates and the key that a cluster and a user name can be put to use. -/
def checkFiles (machine : Machine) (user : Option Item) (cluster : Item) :
    Except AccessError Unit :=
  match cluster with
  | .bare value => .error (.misuse (.noAttribute value.kindName "path"))
  | .part found => do
    checkFile machine found.file cluster "certificate-authority"
    match user with
    | none => return ()
    | some user =>
      checkFile machine found.file user "client-certificate"
      checkFile machine found.file user "client-key"

/-- A member that may be missing, but not without a value. -/
def checkMember (cluster : Item) (key : String) : Except AccessError Unit := do
  if ← cluster.has key then
    let _ ← cluster.get key

/-- The address of a cluster whose access is complete; empty if the cluster has none. -/
def addressOf (machine : Machine) (user : Option Item) (cluster : Item) :
    Except AccessError String := do
  let address ← if ← cluster.has "server" then serverOf cluster else pure ""
  if isSafe address then checkFiles machine user cluster
  checkMember cluster "insecure-skip-tls-verify"
  checkMember cluster "tls-server-name"
  return address

/-- The address of the cluster that access files name. -/
def addressIn (machine : Machine) (files : String) : Except AccessError String := do
  let (user, cluster) ← (← Merged.read machine files).current
  match user with
  | none => pure ()
  | some user => checkUser machine user
  addressOf machine user cluster

/-- The address of the cluster. Empty texts count as missing. -/
def locate (machine : Machine) (kubeconfig master : Option String) : Except AccessError String := do
  let given (text : Option String) := text.filter (!·.isEmpty)
  match given kubeconfig, given master with
  | none, none => addressIn machine homeFile
  | none, some master => return master
  | some files, master =>
    let address ← addressIn machine files
    return master.getD address

end Evacuation.ClusterAccess
