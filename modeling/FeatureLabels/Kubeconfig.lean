import FeatureLabels.Json.Parser
import FeatureLabels.Uri

namespace FeatureLabels

/-- An entry of a list that is looked up by name; its content may be missing. -/
structure NamedEntry (α : Type) where
  name : String
  content : Option α

structure ConfigContext where
  cluster : String
  user : Option String

structure Kubeconfig where
  currentContext : Option String
  contexts : List (NamedEntry ConfigContext)
  /-- The addresses of the clusters' servers. -/
  clusters : List (NamedEntry (Option String))
  users : List (NamedEntry Unit)

namespace NamedEntry

def ofJson? {α : Type} (content : String) (read : Json → Option α) (json : Json) :
    Option (NamedEntry α) := do
  let members ← json.members?
  let name ← Json.required members "name" Json.string?
  some { name, content := ← Json.optional members content read }

def find? {α : Type} (entries : List (NamedEntry α)) (name : String) : Option α :=
  (entries.find? fun e => e.name == name).bind NamedEntry.content

end NamedEntry

namespace Kubeconfig

def list? {α : Type} (members : List (String × Json)) (name : String) (read : Json → Option α) :
    Option (List α) := do
  let items ← Json.optional members name Json.items?
  (items.getD []).mapM read

def context? (json : Json) : Option ConfigContext := do
  let members ← json.members?
  let cluster ← Json.required members "cluster" Json.string?
  let user ← Json.optional members "user" Json.string?
  some { cluster, user }

def server? (json : Json) : Option (Option String) := do
  Json.optional (← json.members?) "server" Json.string?

def ofJson? (json : Json) : Option Kubeconfig := do
  let members ← json.members?
  let _ ← Json.optional members "apiVersion" Json.string?
  let _ ← Json.optional members "kind" Json.string?
  let currentContext ← Json.optional members "current-context" Json.string?
  let contexts ← list? members "contexts" (NamedEntry.ofJson? "context" context?)
  let clusters ← list? members "clusters" (NamedEntry.ofJson? "cluster" server?)
  let users ← list? members "users"
    (NamedEntry.ofJson? "user" fun json => json.members?.map fun _ => ())
  some { currentContext, contexts, clusters, users }

/-- The address of the server that a configuration leads to. A context without a user is used
without one; a user that is named has to be there. -/
def server (config : Kubeconfig) : Option String := do
  let context ← NamedEntry.find? config.contexts (← config.currentContext)
  let server ← NamedEntry.find? config.clusters context.cluster
  let user := context.user.getD ""
  if user.isEmpty then pure () else NamedEntry.find? config.users user
  let address ← server
  if Uri.isUri address then some address else none

def serverOfText? (text : String) : Option String :=
  ((Json.ofText? text).bind ofJson?).bind server

end Kubeconfig

end FeatureLabels
