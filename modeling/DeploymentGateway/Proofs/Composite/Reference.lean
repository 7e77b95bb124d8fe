import DeploymentGateway.Composite.Object
import DeploymentGateway.Proofs.Text.Split
/-!
References to packages in registries, and the tags that are read from them. A colon stands before a tag, but
also before a port and inside a digest. A port is told from a tag, as a slash follows it; a digest is not, so
that the tag of a reference is read just if there is no digest.
-/

set_option autoImplicit false

namespace DeploymentGateway.Composite

/-! Tags of any texts. -/

/-- The tag of a reference is what follows the first colon of its last segment. -/
theorem packageTag_of_afterLast {reference name tag : String}
    (last : Text.afterLast '/' reference = name ++ ":" ++ tag) (plain : ':' ∉ name.toList) :
    packageTag reference = if tag = "" then none else some tag := by
  have cut : Text.cutFirst? ':' (Text.afterLast '/' reference) = some (name, tag) := by
    rw [last]
    refine Text.cutFirst?_append ?_ tag
    rintro _ mem rfl
    exact plain mem
  simp [packageTag, cut]

/-- A reference has no tag if its last segment has no colon, or has one at its end only. -/
theorem packageTag_eq_none_iff {reference : String} : packageTag reference = none ↔
    ∃ name, ':' ∉ name.toList ∧
      (Text.afterLast '/' reference = name ∨ Text.afterLast '/' reference = name ++ ":") := by
  constructor
  · intro untagged
    rcases cut : Text.cutFirst? ':' (Text.afterLast '/' reference) with _ | ⟨name, tag⟩
    · exact ⟨_, Text.cutFirst?_eq_none_iff.mp cut, .inl rfl⟩
    · have whole := Text.eq_append_of_cutFirst? cut
      have plain : ':' ∉ name.toList := fun mem => Text.forall_ne_of_cutFirst? cut ':' mem rfl
      have empty : tag = "" := by simpa [packageTag, cut] using untagged
      exact ⟨name, plain, .inr (by rw [whole, empty, String.append_empty]; rfl)⟩
  · rintro ⟨name, plain, last | last⟩
    · rw [packageTag, last, Text.cutFirst?_eq_none_iff.mpr plain]
    · have ended : Text.afterLast '/' reference = name ++ ":" ++ "" := by rw [last, String.append_empty]
      rw [packageTag_of_afterLast ended plain, if_pos rfl]

/-! References that are well formed. -/

/-- A part of a reference is a text without any of the marks that stand between parts. -/
def IsPart (part : String) : Prop :=
  part ≠ "" ∧ ∀ mark ∈ ['/', ':', '@'], mark ∉ part.toList

instance (part : String) : Decidable (IsPart part) :=
  decidable_of_iff (part ≠ "" ∧ (['/', ':', '@'].all fun mark => !part.toList.contains mark) = true)
    (by simp [IsPart])

/-- A registry with the port that it listens on. -/
structure Registry where
  host : String
  port : String
  host_valid : IsPart host
  port_valid : port ≠ "" ∧ ∀ c ∈ port.toList, c.isDigit = true

def Registry.text (registry : Registry) : String :=
  registry.host ++ ":" ++ registry.port

/-- A digest of what a package holds, in hexadecimal digits. -/
structure Digest where
  algorithm : String
  hex : String
  algorithm_valid : IsPart algorithm
  hex_valid : hex ≠ "" ∧ ∀ c ∈ hex.toList, Text.isHexDigit c = true

def Digest.text (digest : Digest) : String :=
  digest.algorithm ++ ":" ++ digest.hex

/-- A reference to a package: a path in a registry, a tag there and a digest. A registry without a port is
written as the first segment of the path. -/
structure Reference where
  registry : Option Registry
  segments : List String
  tag : Option String
  digest : Option Digest
  segments_ne_nil : segments ≠ []
  segments_valid : ∀ segment ∈ segments, IsPart segment
  tag_valid : ∀ name ∈ tag, IsPart name

namespace Reference

/-- The path of a package with its registry. -/
def repository (reference : Reference) : String :=
  Text.joinWith "/" ((reference.registry.map Registry.text).toList ++ reference.segments)

/-- What follows the path: a tag and a digest, each behind its mark. -/
def version (reference : Reference) : String :=
  (reference.tag.map (":" ++ ·)).getD "" ++ (reference.digest.map ("@" ++ ·.text)).getD ""

/-- A reference as it is written. -/
def text (reference : Reference) : String :=
  reference.repository ++ reference.version

theorem slash_not_mem_version (reference : Reference) : '/' ∉ reference.version.toList := by
  have tag : '/' ∉ ((reference.tag.map (":" ++ ·)).getD "").toList := by
    rcases given : reference.tag with _ | name
    · simp
    · have plain := (reference.tag_valid name given).2 '/' (by simp)
      simpa using plain
  have digest : '/' ∉ ((reference.digest.map ("@" ++ ·.text)).getD "").toList := by
    rcases reference.digest with _ | digest
    · simp
    · have algorithm := digest.algorithm_valid.2 '/' (by simp)
      have hex : '/' ∉ digest.hex.toList := fun mem => nomatch digest.hex_valid.2 '/' mem
      simpa [Digest.text] using ⟨algorithm, hex⟩
  rw [version, String.toList_append, List.mem_append]
  exact fun mem => mem.elim tag digest

/-- After its last slash a reference has the last segment of its path, and what follows the path. -/
theorem exists_afterLast (reference : Reference) : ∃ segment, IsPart segment ∧
    Text.afterLast '/' reference.text = segment ++ reference.version := by
  obtain ⟨others, segment, whole⟩ :=
    reference.segments.eq_nil_or_concat.resolve_left reference.segments_ne_nil
  rw [List.concat_eq_append] at whole
  have valid : IsPart segment := reference.segments_valid segment (by simp [whole])
  have path : Text.afterLast '/' reference.repository = segment := by
    rw [repository, whole, ← List.append_assoc]
    exact Text.afterLast_joinWith (valid.2 '/' (by simp)) _
  exact ⟨segment, valid, by
    rw [text, Text.afterLast_append_of_not_mem reference.slash_not_mem_version, path]⟩

/-- What is read from a reference as its tag: with a digest, it goes on to the end of that. -/
theorem packageTag_text (reference : Reference) : packageTag reference.text =
    match reference.digest, reference.tag with
    | none, tag => tag
    | some digest, none => some digest.hex
    | some digest, some tag => some (tag ++ "@" ++ digest.text) := by
  obtain ⟨segment, valid, last⟩ := reference.exists_afterLast
  have plain : ':' ∉ segment.toList := valid.2 ':' (by simp)
  rcases digested : reference.digest with _ | digest <;> rcases tagged : reference.tag with _ | tag
  · simp only [version, digested, tagged] at last
    exact packageTag_eq_none_iff.mpr ⟨segment, plain, .inl (by simpa using last)⟩
  · have given : tag ≠ "" := (reference.tag_valid tag tagged).1
    have tail : reference.version = ":" ++ tag := by simp [version, digested, tagged]
    rw [tail, ← String.append_assoc] at last
    rw [packageTag_of_afterLast last plain, if_neg given]
  · have tail : reference.version = "@" ++ digest.algorithm ++ ":" ++ digest.hex := by
      simp [version, digested, tagged, Digest.text, String.append_assoc]
    rw [tail, ← String.append_assoc, ← String.append_assoc] at last
    have still : ':' ∉ (segment ++ ("@" ++ digest.algorithm)).toList := by
      simpa using ⟨plain, digest.algorithm_valid.2 ':' (by simp)⟩
    rw [packageTag_of_afterLast last still, if_neg digest.hex_valid.1]
  · have tail : reference.version = ":" ++ (tag ++ "@" ++ digest.text) := by
      simp [version, digested, tagged, String.append_assoc]
    rw [tail, ← String.append_assoc] at last
    rw [packageTag_of_afterLast last plain, if_neg (by simp)]

/-- The tag of a reference is read, or that it has none, just if it has no digest. -/
theorem packageTag_text_eq_tag_iff (reference : Reference) :
    packageTag reference.text = reference.tag ↔ reference.digest = none := by
  rw [packageTag_text]
  rcases reference.digest with _ | digest
  · simp
  · rcases reference.tag with _ | tag
    · simp
    · have longer : tag ++ "@" ++ digest.text ≠ tag := by
        rw [String.append_assoc]
        exact Text.append_ne_self (by simp) tag
      simp [longer]

/-- A digest of a package. -/
def platformDigest : Digest where
  algorithm := "sha256"
  hex := "9f86d081884c7d659a2feaa0c55ad015a3bf4f1b2b0b822cd15d6c15b0f00a08"
  algorithm_valid := by decide
  hex_valid := ⟨by decide, List.all_eq_true.mp (by decide)⟩

/-- A package that is known by its digest. -/
def pinnedPlatform : Reference where
  registry := some ⟨"registry.example.com", "5000", by decide, by decide, List.all_eq_true.mp rfl⟩
  segments := ["acme", "platform"]
  tag := none
  digest := some platformDigest
  segments_ne_nil := by decide
  segments_valid := by decide
  tag_valid := by simp

/-- The same package, with a tag as well. -/
def pinnedRelease : Reference :=
  { pinnedPlatform with tag := some "v1.2.0", tag_valid := by decide }

/-- A digest is read as a tag where there is none, and as a part of the tag where there is one. -/
theorem digest_read_as_tag :
    (pinnedPlatform.tag = none ∧ packageTag pinnedPlatform.text = some platformDigest.hex) ∧
      pinnedRelease.tag = some "v1.2.0" ∧
        packageTag pinnedRelease.text = some ("v1.2.0@" ++ platformDigest.text) :=
  ⟨⟨rfl, packageTag_text _⟩, rfl, packageTag_text _⟩

end Reference

end DeploymentGateway.Composite
