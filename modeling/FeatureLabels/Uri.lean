namespace FeatureLabels.Uri

def oneOf (chars : String) (c : Char) : Bool := chars.toList.contains c

def isSchemeChar (c : Char) : Bool := c.isAlphanum || oneOf "+-." c

def isAuthorityChar (c : Char) : Bool := c.isAlphanum || oneOf "!$&'()*+,-.;=_~" c

def isPathChar (c : Char) : Bool :=
  let n := c.toNat
  n == 0x21 || (0x24 ≤ n && n ≤ 0x3b) || n == 0x3d || (0x40 ≤ n && n ≤ 0x5f) ||
    (0x61 ≤ n && n ≤ 0x7e) || 0x7f ≤ n || n == 0x22

def isQueryChar (c : Char) : Bool :=
  let n := c.toNat
  n == 0x21 || (0x24 ≤ n && n ≤ 0x3b) || n == 0x3d || (0x3f ≤ n && n ≤ 0x7e) || 0x7f ≤ n

structure Authority where
  colons : Nat := 0
  opened : Bool := false
  closed : Bool := false
  percent : Bool := false
  /-- Whether the last character was an at sign. -/
  atSign : Bool := false

namespace Authority

/-- Takes a character of an authority into account. Colons and percent signs before an at sign
or inside brackets are of no concern. -/
def step (a : Authority) (c : Char) : Option Authority :=
  let a := { a with atSign := false }
  if c = ':' then some { a with colons := a.colons + 1 }
  else if c = '[' then if a.percent || a.opened then none else some { a with opened := true }
  else if c = ']' then
    if !a.opened || a.closed then none
    else some { a with closed := true, colons := 0, percent := false }
  else if c = '@' then some { a with atSign := true, colons := 0, percent := false }
  else if c = '%' then some { a with percent := true }
  else if isAuthorityChar c then some a
  else none

def isComplete (a : Authority) : Bool :=
  a.opened == a.closed && a.colons ≤ 1 && !a.atSign && !a.percent

end Authority

def isAuthority (cs : List Char) : Bool :=
  ((cs.foldlM Authority.step ({} : Authority)).map Authority.isComplete).getD false

def isPath (cs : List Char) : Bool :=
  let beforeFragment := cs.takeWhile (· != '#')
  let path := beforeFragment.takeWhile (· != '?')
  path.all isPathChar && (beforeFragment.drop (path.length + 1)).all isQueryChar

def afterScheme? (cs : List Char) : Option (List Char) :=
  let scheme := cs.takeWhile isSchemeChar
  match cs.drop scheme.length with
  | ':' :: '/' :: '/' :: rest => if scheme.isEmpty then none else some rest
  | _ => none

/-- Whether a text is the address of a server: a path, an authority alone, or all of a scheme,
an authority and a path. -/
def isUri (text : String) : Bool :=
  match text.toList with
  | [] => false
  | ['*'] => true
  | '/' :: path => isPath path
  | cs =>
    match afterScheme? cs with
    | some rest =>
      let authority := rest.takeWhile fun c => c != '/' && c != '?' && c != '#'
      !authority.isEmpty && isAuthority authority && isPath (rest.drop authority.length)
    | none => isAuthority cs

end FeatureLabels.Uri
