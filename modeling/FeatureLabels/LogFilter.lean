import FeatureLabels.LogLine

namespace FeatureLabels

/-- A directive: the lines of a target are let through down to a level. Without a target it is
about all lines. -/
structure LogDirective where
  target : Option String
  verbosity : Nat
deriving DecidableEq, Repr

abbrev LogFilter := List LogDirective

namespace LogDirective

/-- The names of the levels, from none to all; the place of a name is its verbosity. -/
def levelNames : List String := ["off", "error", "warn", "info", "debug", "trace"]

def verbosity? (text : String) : Option Nat :=
  let name := text.map Char.toLower
  let found := levelNames.zipIdx.find? fun p => p.1 == name || toString p.2 == name
  found.map Prod.snd

def everything : Nat := LogLevel.verbosity .trace

def isTargetChar (c : Char) : Bool :=
  c.isAlphanum || c == '_' || c == ':' || c == '-' || 128 ≤ c.toNat

/-- Reads a directive: a level, a target, or both with an equals sign between them. A target
without a level lets everything through. -/
def ofText? (text : String) : Option LogDirective :=
  let cs := text.toList
  let target := cs.takeWhile (· != '=')
  if target.isEmpty || !target.all isTargetChar then none
  else
    let target := String.ofList target
    match cs.drop target.length with
    | [] =>
      match verbosity? text with
      | some verbosity => some ⟨none, verbosity⟩
      | none => some ⟨some target, everything⟩
    | _ :: [] => some ⟨some target, everything⟩
    | _ :: level => (verbosity? (String.ofList level)).map fun v => ⟨some target, v⟩

def concerns (d : LogDirective) (target : String) : Bool :=
  match d.target with
  | none => true
  | some stem => stem.toList.isPrefixOf target.toList

def weight (d : LogDirective) : Nat :=
  match d.target with
  | none => 0
  | some stem => stem.utf8ByteSize + 1

end LogDirective

namespace LogFilter

def alreadyInstalled : String := "a global default trace dispatcher has already been set"

def standard : LogFilter := [⟨none, LogLevel.verbosity .info⟩]

def ofText? (text : String) : Option LogFilter :=
  ((text.splitOn ",").filter fun part => !part.isEmpty).mapM LogDirective.ofText?

/-- The filter for a setting; a missing or malformed one is replaced by the standard. -/
def ofSetting (text : Option String) : LogFilter := (text.bind ofText?).getD standard

/-- The directive that decides about a target: the one with the longest target, and of several
the last. -/
def deciding? (filter : LogFilter) (target : String) : Option LogDirective :=
  (filter.filter fun d => d.concerns target).foldl
    (fun best d =>
      match best with
      | some b => if b.weight ≤ d.weight then some d else some b
      | none => some d)
    none

def passes (filter : LogFilter) (target : String) (level : LogLevel) : Bool :=
  match filter.deciding? target with
  | some d => level.verbosity ≤ d.verbosity
  | none => false

end LogFilter

end FeatureLabels
