/-!
White space: which characters count as blank, trimming, and cutting a text into words.
-/

set_option autoImplicit false

namespace DeploymentGateway.Text

/-- The characters with the white space property. -/
def isBlank (c : Char) : Bool :=
  let code := c.toNat
  (0x09 ≤ code && code ≤ 0x0D) || code == 0x20 || code == 0x85 || code == 0xA0 || code == 0x1680 ||
    (0x2000 ≤ code && code ≤ 0x200A) || code == 0x2028 || code == 0x2029 || code == 0x202F ||
    code == 0x205F || code == 0x3000

/-- Drop the characters at the end of a list that satisfy a test. -/
def dropEndWhile (test : Char → Bool) (s : List Char) : List Char :=
  (s.reverse.dropWhile test).reverse

/-- A text without the blanks at its two ends. -/
def trim (s : String) : String :=
  String.ofList (dropEndWhile isBlank (s.toList.dropWhile isBlank))

/-- A text without the blanks at its end. -/
def trimEnd (s : String) : String :=
  String.ofList (dropEndWhile isBlank s.toList)

/-- A text of blanks only; the empty text is one. -/
def isBlankText (s : String) : Bool :=
  s.toList.all isBlank

/-- The longest runs of characters that are not blank, in order. -/
def words (s : List Char) : List (List Char) :=
  match _h : s.dropWhile isBlank with
  | [] => []
  | c :: rest =>
    (c :: rest.takeWhile fun d => !isBlank d) :: words (rest.dropWhile fun d => !isBlank d)
termination_by s.length
decreasing_by
  have shorter : (s.dropWhile isBlank).length ≤ s.length :=
    (List.dropWhile_sublist _).length_le
  have rest_shorter : (rest.dropWhile fun d => !isBlank d).length ≤ rest.length :=
    (List.dropWhile_sublist _).length_le
  rw [_h] at shorter
  simp only [List.length_cons] at shorter
  omega

/-- The native text without surrounding blanks, or a fallback where there is nothing else in it. -/
def messageOr (native fallback : String) : String :=
  if isBlankText native then fallback else trim native

end DeploymentGateway.Text
