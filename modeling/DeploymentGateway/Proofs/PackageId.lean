import DeploymentGateway.PackageId
import DeploymentGateway.Proofs.Text.Octets
/-!
Ids of packages tell their sources apart. What is hashed has the type, the address and the path one after the
other, with a NUL behind the first two; neither of those has one, so they can be read back. What is kept of
the digest can be read back from its hexadecimal digits, and the type from what the id begins with.
-/

set_option autoImplicit false

namespace DeploymentGateway.PackageId

/-! What is hashed. -/

section

variable {type type' : PackageType} {url path url' path' : String}

private theorem takeWhile_of_zero {before : List UInt8} (plain : 0 ∉ before) (after : List UInt8) :
    (before ++ 0 :: after).takeWhile (· != 0) = before := by
  have all : ∀ octet ∈ before, (octet != 0) = true := by
    intro octet mem
    rw [bne_iff_ne]
    rintro rfl
    exact plain mem
  rw [List.takeWhile_append_of_pos all, List.takeWhile_cons_of_neg (by decide), List.append_nil]

/-- Octets are read back from what they are put before with a zero between, if they have none. -/
private theorem eq_of_append_zero {before before' after after' : List UInt8}
    (plain : 0 ∉ before) (plain' : 0 ∉ before')
    (same : before ++ 0 :: after = before' ++ 0 :: after') : before = before' ∧ after = after' := by
  have first : before = before' := by
    rw [← takeWhile_of_zero plain after, same, takeWhile_of_zero plain']
  subst first
  have rest := List.append_cancel_left same
  rw [List.cons.injEq] at rest
  exact ⟨rfl, rest.2⟩

theorem zero_not_mem_word (type : PackageType) : 0 ∉ Text.Percent.octets type.word := by
  rw [Text.Percent.zero_mem_octets_iff]
  cases type <;> decide

/-- The type, the address and the path can be read back from what is hashed. -/
theorem source_injective (plain : '\x00' ∉ url.toList) (plain' : '\x00' ∉ url'.toList)
    (same : source type url path = source type' url' path') :
    type = type' ∧ url = url' ∧ path = path' := by
  rw [← Text.Percent.zero_mem_octets_iff] at plain plain'
  simp only [source, List.append_assoc, List.cons_append] at same
  obtain ⟨words, rest⟩ := eq_of_append_zero (zero_not_mem_word type) (zero_not_mem_word type') same
  obtain ⟨urls, paths⟩ := eq_of_append_zero plain plain' rest
  have types : type.word = type'.word := Text.Percent.octets_injective words
  refine ⟨?_, Text.Percent.octets_injective urls, Text.Percent.octets_injective paths⟩
  revert types
  cases type <;> cases type' <;> decide

/-- A NUL in an address is taken for its end. -/
example : source .helmChart "a\x00b" "c" = source .helmChart "a" "b\x00c" := by decide +kernel

end

/-! What is kept of a digest. -/

/-- Octets as hexadecimal digits. -/
def hexadecimal (octets : List UInt8) : String :=
  String.ofList <| octets.flatMap fun octet =>
    [Text.hexDigit false (octet.toNat / 16), Text.hexDigit false (octet.toNat % 16)]

private theorem eq_of_hexDigit {value value' : Nat} (small : value < 16) (small' : value' < 16)
    (same : Text.hexDigit false value = Text.hexDigit false value') : value = value' := by
  have read : ∀ value < 16, Text.hexValue? (Text.hexDigit false value) = some value := by decide
  have values := congrArg Text.hexValue? same
  rwa [read value small, read value' small', Option.some.injEq] at values

private theorem octet_eq_of_hexDigits {octet octet' : UInt8}
    (high : Text.hexDigit false (octet.toNat / 16) = Text.hexDigit false (octet'.toNat / 16))
    (low : Text.hexDigit false (octet.toNat % 16) = Text.hexDigit false (octet'.toNat % 16)) :
    octet = octet' := by
  have bound := octet.toNat_lt
  have bound' := octet'.toNat_lt
  have quotient : octet.toNat / 16 = octet'.toNat / 16 := eq_of_hexDigit (by omega) (by omega) high
  have remainder : octet.toNat % 16 = octet'.toNat % 16 := eq_of_hexDigit (by omega) (by omega) low
  apply UInt8.toNat_inj.mp
  omega

theorem hexadecimal_injective {octets octets' : List UInt8}
    (same : hexadecimal octets = hexadecimal octets') : octets = octets' := by
  have digits := String.ofList_injective same
  clear same
  induction octets generalizing octets' with
  | nil =>
    cases octets' with
    | nil => rfl
    | cons octet' rest' => simp at digits
  | cons octet rest ih =>
    cases octets' with
    | nil => simp at digits
    | cons octet' rest' =>
      simp only [List.flatMap_cons, List.cons_append, List.nil_append, List.cons.injEq] at digits
      obtain ⟨high, low, digits⟩ := digits
      rw [octet_eq_of_hexDigits high low, ih digits]

/-! The ids. -/

section

variable {digest : List UInt8 → List UInt8} {type type' : PackageType} {url path url' path' : String}

/-- The id of a package by any digest. -/
def deriveWith (digest : List UInt8 → List UInt8) (type : PackageType) (url path : String) : String :=
  type.idMark ++ "-" ++ hexadecimal ((digest (source type url path)).take 16)

theorem derive_eq : derive = deriveWith Hash.Sha256.digest :=
  rfl

/-- The first letter of an id tells the type of the package. -/
theorem type_of_deriveWith
    (same : deriveWith digest type url path = deriveWith digest type' url' path') : type = type' := by
  have first (type : PackageType) (url path : String) :
      (deriveWith digest type url path).toList.head? = type.idMark.toList.head? := by
    cases type <;> simp [deriveWith, PackageType.idMark]
  have letters : type.idMark.toList.head? = type'.idMark.toList.head? := by
    rw [← first type url path, same, first type' url' path']
  revert letters
  cases type <;> cases type' <;> decide

/-- If two messages have the same in what is kept of their digests, they are the same. -/
def ToldApart (digest : List UInt8 → List UInt8) (message message' : List UInt8) : Prop :=
  (digest message).take 16 = (digest message').take 16 → message = message'

theorem source_of_deriveWith
    (apart : ToldApart digest (source type url path) (source type' url' path'))
    (same : deriveWith digest type url path = deriveWith digest type' url' path') :
    source type url path = source type' url' path' := by
  obtain rfl := type_of_deriveWith same
  have kept := (String.append_right_inj _).mp same
  exact apart (hexadecimal_injective kept)

end

/-- Packages with the same id have the same source, if what is kept of the digest tells what is hashed of them
apart. Packages of different types have different ids by any digest. -/
theorem derive_separates :
    (∀ type url path type' url' path', '\x00' ∉ url.toList → '\x00' ∉ url'.toList →
      ToldApart Hash.Sha256.digest (source type url path) (source type' url' path') →
      derive type url path = derive type' url' path' → type = type' ∧ url = url' ∧ path = path') ∧
    ∀ digest type url path type' url' path', type ≠ type' →
      deriveWith digest type url path ≠ deriveWith digest type' url' path' := by
  constructor
  · intro type url path type' url' path' plain plain' apart same
    rw [derive_eq] at same
    exact source_injective plain plain' (source_of_deriveWith apart same)
  · intro digest type url path type' url' path' other same
    exact other (type_of_deriveWith same)

/-- A directory is in the address of one package and in the path of another; a chart and a repository share
an address and a path. -/
theorem derive_separates_directory :
    derive .gitRepository "https://git.example.com/apps" "web/prod" ≠
      derive .gitRepository "https://git.example.com/apps/web" "prod" ∧
    deriveWith (fun _ => []) .helmChart "https://git.example.com/apps" "web" ≠
      deriveWith (fun _ => []) .gitRepository "https://git.example.com/apps" "web" := by
  obtain ⟨separates, types⟩ := derive_separates
  constructor
  · intro same
    have apart : ToldApart Hash.Sha256.digest
        (source .gitRepository "https://git.example.com/apps" "web/prod")
        (source .gitRepository "https://git.example.com/apps/web" "prod") :=
      fun kept => absurd kept (by decide +kernel)
    have urls := (separates _ _ _ _ _ _ (by decide) (by decide) apart same).2.1
    exact absurd urls (by decide)
  · exact types _ _ _ _ _ _ _ (by decide)

end DeploymentGateway.PackageId
