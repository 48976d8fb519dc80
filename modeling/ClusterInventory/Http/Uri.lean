/-! The texts that name what a request is for: a path, which a query and a fragment may follow, and
in front of it perhaps a scheme and an authority. -/

namespace ClusterInventory.Http

def isQueryChar (c : Char) : Bool :=
  let n := c.toNat
  n == 0x21 || 0x24 ≤ n && n ≤ 0x3B || n == 0x3D || 0x3F ≤ n && n != 0x7F

def isPathChar (c : Char) : Bool :=
  let n := c.toNat
  n == 0x21 || n == 0x22 || 0x24 ≤ n && n ≤ 0x3B || n == 0x3D ||
    0x40 ≤ n && n != 0x60 && n != 0x7F

/-- Path and query of a target, unless a character stands in it that cannot. A fragment counts for
nothing. -/
def splitTarget? (target : List Char) : Option (List Char × List Char) :=
  let path := target.takeWhile fun c => c != '?' && c != '#'
  if path.all isPathChar then
    match target.drop path.length with
    | '?' :: rest =>
      let query := rest.takeWhile (· != '#')
      if query.all isQueryChar then some (path, query) else none
    | _ => some (path, [])
  else none

/-- Why a text cannot be a target. -/
inductive TargetFault where
  | tooLong
  | badCharacter
  deriving DecidableEq, Repr

def TargetFault.message : TargetFault → String
  | .tooLong => "uri too long"
  | .badCharacter => "invalid uri character"

/-- The most bytes that a target or another text of this kind has. -/
def maxUriSize : Nat := 65534

def isSchemeChar (c : Char) : Bool := c.isAlphanum || c == '+' || c == '-' || c == '.'

inductive SchemeSplit where
  | absent
  | tooLong
  /-- What follows the scheme and its mark. -/
  | present (rest : List Char)

def maxSchemeLength : Nat := 64

/-- Looks for a scheme and the mark `://` after it. -/
def splitScheme (uri : List Char) : SchemeSplit :=
  let scheme := uri.takeWhile isSchemeChar
  match uri.drop scheme.length with
  | ':' :: '/' :: '/' :: rest =>
    if uri.length ≤ 3 then .absent
    else if scheme.length > maxSchemeLength then .tooLong
    else .present rest
  | _ => .absent

/-- The character may stand in an authority as it is. -/
def isAuthorityChar (c : Char) : Bool :=
  c.isAlphanum || "!$&\x27()*+,-.:;=@[]_~".toList.contains c

structure AuthorityScan where
  colons : Nat := 0
  opened : Bool := false
  closed : Bool := false
  escaped : Bool := false

/-- Takes one more character of an authority into account. -/
def AuthorityScan.step (s : AuthorityScan) (c : Char) : Option AuthorityScan :=
  if c = ':' then
    if s.colons ≥ 8 then none else some { s with colons := s.colons + 1 }
  else if c = '[' then
    if s.escaped || s.opened then none else some { s with opened := true }
  else if c = ']' then
    if !s.opened || s.closed then none
    else some { s with closed := true, colons := 0, escaped := false }
  else if c = '@' then some { s with colons := 0, escaped := false }
  else if c = '%' then some { s with escaped := true }
  else if isAuthorityChar c then some s
  else none

/-- The text is an authority: perhaps a user, a host, perhaps a port. It may be empty. -/
def isAuthority (cs : List Char) : Bool :=
  match cs.foldlM AuthorityScan.step {} with
  | some s => s.opened == s.closed && s.colons ≤ 1 && !s.escaped && cs.getLast? != some '@'
  | none => false

/-- The path that a whole text names, if it is of a known form. One that is only an authority has
an empty path; one with a scheme has at least the root. -/
def pathOf? (uri : String) : Option String :=
  let cs := uri.toList
  if cs.isEmpty || uri.utf8ByteSize > maxUriSize then none
  else if cs = ['*'] then some "*"
  else if cs.head? = some '/' then (splitTarget? cs).map fun t => String.ofList t.1
  else
    match splitScheme cs with
    | .tooLong => none
    | .absent => if isAuthority cs then some "" else none
    | .present rest =>
      let authority := rest.takeWhile fun c => c != '/' && c != '?' && c != '#'
      if authority.isEmpty || !isAuthority authority then none
      else (splitTarget? (rest.drop authority.length)).map fun t =>
        if t.1.isEmpty then "/" else String.ofList t.1

/-- The character may stand in the name of a method. -/
def isTokenChar (c : Char) : Bool :=
  c.isAlphanum || "!#$%&\x27*+-.^_\x60|~".toList.contains c

def isMethod (m : String) : Bool := !m.isEmpty && m.toList.all isTokenChar

end ClusterInventory.Http
