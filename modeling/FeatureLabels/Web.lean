import FeatureLabels.Json.Parser
import FeatureLabels.Json.Printer
import FeatureLabels.Metrics.Exposition
import FeatureLabels.Operator

namespace FeatureLabels

inductive Page where
  | diagnostics
  | health
  | metrics
deriving DecidableEq, Repr

structure WebAnswer where
  status : Nat
  contentType : Option String
  body : String
deriving DecidableEq, Repr

namespace Page

/-- A path with its percent escapes resolved. Escapes of `%`, `+`, a slash or a character beyond
ASCII stay as they are. -/
def unescape : List Char → List Char
  | '%' :: a :: b :: rest =>
    match Json.hexValue? a, Json.hexValue? b with
    | some high, some low =>
      let c := Char.ofNat (16 * high + low)
      if c.toNat < 128 ∧ c ≠ '%' ∧ c ≠ '+' ∧ c ≠ '/' then c :: unescape rest
      else '%' :: a :: b :: unescape rest
    | _, _ => '%' :: unescape (a :: b :: rest)
  | c :: rest => c :: unescape rest
  | [] => []

def pathOf (address : String) : String :=
  String.ofList (unescape (address.toList.takeWhile fun c => c != '?' && c != '#'))

def at? (method address : String) : Option Page :=
  if method = "GET" then
    let path := pathOf address
    if path = "/" then some .diagnostics
    else if path = "/health" then some .health
    else if path = "/metrics" then some .metrics
    else none
  else none

def answer (lastEvent : String) (op : Operator) : Page → WebAnswer
  | .diagnostics =>
    let last := match op.lastTask with
      | some task => .string task.text
      | none => .null
    ⟨200, some "application/json",
      (Json.object [("last_event", .string lastEvent), ("last_key", last)]).text⟩
  | .health => ⟨200, some "application/json", (Json.string "healthy").text⟩
  | .metrics => ⟨200, some "text/plain; version=0.0.4", op.metrics.text⟩

end Page

def WebAnswer.of (lastEvent : String) (op : Operator) (method address : String) : WebAnswer :=
  match Page.at? method address with
  | some page => page.answer lastEvent op
  | none => ⟨404, none, ""⟩

end FeatureLabels
