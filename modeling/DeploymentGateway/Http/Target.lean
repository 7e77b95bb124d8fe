import DeploymentGateway.Text.Split
/-!
Targets of requests: where a request goes, as a path and a query. A target is a path with its query, or
the same behind a scheme and an authority, or an authority alone, or a star for the gateway as a whole.
-/

set_option autoImplicit false

namespace DeploymentGateway.Http

/-- A path and a query as they were sent. An authority alone has no path. -/
structure Target where
  path : String
  query : String
  deriving DecidableEq

namespace Target

/-- The characters of a path. -/
def isPathCharacter (c : Char) : Bool :=
  ' ' < c && !"#<>?`".toList.contains c

/-- The characters of a query. -/
def isQueryCharacter (c : Char) : Bool :=
  ' ' < c && !"\"#<>".toList.contains c

/-- A path and the query behind the question mark. What follows a number sign belongs to neither, and
no path at all is the root. -/
def ofPathAndQuery? (s : List Char) : Option Target :=
  let sent := s.takeWhile isPathCharacter
  let path := if sent.isEmpty then "/" else String.ofList sent
  match s.dropWhile isPathCharacter with
  | [] | '#' :: _ => some ⟨path, ""⟩
  | '?' :: rest =>
    match rest.dropWhile isQueryCharacter with
    | [] | '#' :: _ => some ⟨path, String.ofList (rest.takeWhile isQueryCharacter)⟩
    | _ => none
  | _ => none

/-- The characters of a scheme. -/
def isSchemeCharacter (c : Char) : Bool :=
  c.isAlphanum || "+-.~".toList.contains c

/-- What follows a scheme and its marks, where a text begins with one. A scheme has at most 64
characters. -/
def afterScheme? (s : List Char) : Option (List Char) :=
  match s.dropWhile isSchemeCharacter with
  | ':' :: '/' :: '/' :: rest =>
    if (s.takeWhile isSchemeCharacter).length ≤ 64 then some rest else none
  | _ => none

/-- The characters of an authority. -/
def isAuthorityCharacter (c : Char) : Bool :=
  c.isAlphanum || "!$%&'()*+,-.:;=@[]_~".toList.contains c

/-- The characters that end an authority. -/
def endsAuthority (c : Char) : Bool :=
  c == '/' || c == '?' || c == '#'

/-- The stretches of an authority: what at signs and closing brackets stand between. The last one is
the port, with the host unless that stands in brackets. -/
def stretches (authority : List Char) : List (List Char) :=
  Text.pieces (fun c => c == '@' || c == ']') authority

/-- A stretch has at most eight colons, and no percent sign before an opening bracket. -/
def isStretch (s : List Char) : Bool :=
  s.count ':' ≤ 8 && !(s.contains '[' && (s.takeWhile (· != '[')).contains '%')

/-- The last stretch has at most one colon, in front of the port, and no percent sign. -/
def isLastStretch (s : List Char) : Bool :=
  s.count ':' ≤ 1 && !s.contains '%'

/-- An authority: a host, with a user in front of an at sign and a port behind a colon. There is at most
one pair of brackets, and something follows the last at sign. -/
def isAuthority (s : List Char) : Bool :=
  let brackets := s.filter fun c => c == '[' || c == ']'
  s.all isAuthorityCharacter && (brackets == [] || brackets == ['[', ']']) &&
    (stretches s).all isStretch && (stretches s).getLast?.all isLastStretch &&
    s.getLast? != some '@'

/-- A target that does not begin with a slash. Behind a scheme there is an authority; without one the
authority is all there is. -/
def ofAbsolute? (s : List Char) : Option Target :=
  match afterScheme? s with
  | some rest =>
    let authority := rest.takeWhile fun c => !endsAuthority c
    if !authority.isEmpty && isAuthority authority then
      ofPathAndQuery? (rest.dropWhile fun c => !endsAuthority c)
    else none
  | none => if isAuthority s then some ⟨"", ""⟩ else none

/-- The most bytes of a target. -/
def maxBytes : Nat := 65534

/-- The target that a text stands for. -/
def ofText? (s : String) : Option Target :=
  if s.isEmpty || maxBytes < s.utf8ByteSize then none
  else if s = "*" then some ⟨"*", ""⟩
  else match s.toList with
    | '/' :: rest => ofPathAndQuery? ('/' :: rest)
    | absolute => ofAbsolute? absolute

end Target

end DeploymentGateway.Http
