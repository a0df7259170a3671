import FeatureLabels.Failure
import FeatureLabels.Json.Parser
import FeatureLabels.Json.Printer
import FeatureLabels.LabelEdit
import FeatureLabels.Resource.Document

namespace FeatureLabels

structure Call where
  cluster : String
  edit : LabelEdit
deriving DecidableEq

structure Request where
  method : String
  path : String
  query : String
  contentType : String
  body : String
deriving DecidableEq, Repr

namespace Call

def fieldManager : String := "addon-discovery-operator"

/-- The request for a change. A cluster without a name cannot be addressed. -/
def request? (call : Call) : Option Request :=
  if call.cluster.isEmpty then none
  else
    some
      { method := "PATCH"
        path := Kind.cluster.definition.path none ++ "/" ++ call.cluster
        query := "fieldManager=" ++ fieldManager
        contentType := "application/merge-patch+json"
        body := call.edit.document.text }

end Call

/-- The cluster that an apiserver holds after a change of its labels. Labels that were missing
are there afterwards, even if none is left. -/
def Cluster.edited (c : Cluster) (e : LabelEdit) : Cluster :=
  { c with metadata.labels := some (e.applyTo c.metadata.labelMap) }

structure Answer where
  code : Nat
  body : String
deriving DecidableEq, Repr

namespace ApiStatus

def code? (json : Json) : Option Nat := (json.intBetween? 0 65535).map Int.toNat

def textOr (members : List (String × Json)) (name default : String) : Option String :=
  match Json.lookup members name with
  | none => some default
  | some value => value.string?

def ofJson? (json : Json) : Option ApiStatus := do
  let members ← json.record? ["status", "message", "reason", "code"]
  let status ← Json.required members "status" Json.string?
  let message ← textOr members "message" ""
  let reason ← textOr members "reason" ""
  let code ← Json.required members "code" code?
  some { status, message, reason, code }

def toJson (s : ApiStatus) : Json :=
  .object
    [("status", .string s.status), ("message", .string s.message), ("reason", .string s.reason),
     ("code", Json.ofInt s.code)]

end ApiStatus

def statusPhrases : List (Nat × String) :=
  [(100, "Continue"), (101, "Switching Protocols"), (102, "Processing"), (200, "OK"),
   (201, "Created"), (202, "Accepted"), (203, "Non Authoritative Information"),
   (204, "No Content"), (205, "Reset Content"), (206, "Partial Content"),
   (207, "Multi-Status"), (208, "Already Reported"), (226, "IM Used"),
   (300, "Multiple Choices"), (301, "Moved Permanently"), (302, "Found"), (303, "See Other"),
   (304, "Not Modified"), (305, "Use Proxy"), (307, "Temporary Redirect"),
   (308, "Permanent Redirect"), (400, "Bad Request"), (401, "Unauthorized"),
   (402, "Payment Required"), (403, "Forbidden"), (404, "Not Found"),
   (405, "Method Not Allowed"), (406, "Not Acceptable"),
   (407, "Proxy Authentication Required"), (408, "Request Timeout"), (409, "Conflict"),
   (410, "Gone"), (411, "Length Required"), (412, "Precondition Failed"),
   (413, "Payload Too Large"), (414, "URI Too Long"), (415, "Unsupported Media Type"),
   (416, "Range Not Satisfiable"), (417, "Expectation Failed"), (418, "I'm a teapot"),
   (421, "Misdirected Request"), (422, "Unprocessable Entity"), (423, "Locked"),
   (424, "Failed Dependency"), (425, "Too Early"), (426, "Upgrade Required"),
   (428, "Precondition Required"), (429, "Too Many Requests"),
   (431, "Request Header Fields Too Large"), (451, "Unavailable For Legal Reasons"),
   (500, "Internal Server Error"), (501, "Not Implemented"), (502, "Bad Gateway"),
   (503, "Service Unavailable"), (504, "Gateway Timeout"), (505, "HTTP Version Not Supported"),
   (506, "Variant Also Negotiates"), (507, "Insufficient Storage"), (508, "Loop Detected"),
   (510, "Not Extended"), (511, "Network Authentication Required")]

def statusLine (code : Nat) : String :=
  let phrase := (statusPhrases.find? fun p => p.1 == code).map Prod.snd
  toString code ++ " " ++ phrase.getD "<unknown status code>"

namespace Answer

def refuses (answer : Answer) : Bool := 400 ≤ answer.code && answer.code < 600

def accepts (answer : Answer) : Bool := answer.code < 300

/-- What a refusal says: what its body states, or else the code and the body as it is. -/
def refusal (answer : Answer) : ApiStatus :=
  ((Json.ofText? answer.body).bind ApiStatus.ofJson?).getD
    { status := statusLine answer.code
      message := Text.quoted answer.body
      reason := "Failed to parse error data"
      code := answer.code }

def outcome (answer : Answer) : Except ApiFailure Unit :=
  if answer.refuses then .error (.refused answer.refusal)
  else if ((Json.ofText? answer.body).bind Cluster.ofJson?).isSome then .ok ()
  else .error .unreadable

def ofStatus (s : ApiStatus) : Answer := ⟨s.code, s.toJson.text⟩

def ofCluster (code : Nat) (c : Cluster) : Answer := ⟨code, c.toJson.text⟩

end Answer

/-- What a call comes to when it would be answered like this. Without a request there is no
answer to it. -/
def Call.outcome (call : Call) (answer : Answer) : Except Failure Unit :=
  match call.request? with
  | none => .error (.api .nameless)
  | some _ => answer.outcome.mapError .api

end FeatureLabels
