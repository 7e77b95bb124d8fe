/-!
Tokens: the words of which methods and media types are made.
-/

set_option autoImplicit false

namespace DeploymentGateway.Http

/-- The characters of tokens: letters and digits of ASCII, and fifteen marks. -/
def isTokenCharacter (c : Char) : Bool :=
  c.isAlphanum || "!#$%&'*+-.^_`|~".toList.contains c

/-- A text is a token. -/
def isToken (s : String) : Bool :=
  !s.isEmpty && s.toList.all isTokenCharacter

end DeploymentGateway.Http
