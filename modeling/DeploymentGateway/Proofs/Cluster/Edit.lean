import DeploymentGateway.Proofs.Cluster.Object
import DeploymentGateway.Proofs.Program
/-!
Changes of objects that keep their identity. Such a change neither reads nor writes the version of an
object, and leaves it its name. So it can be made to an object as it was read or to the same object
under another version, and the results differ in nothing but the version.
-/

set_option autoImplicit false

namespace DeploymentGateway.Cluster

open Json (Path)

/-- What is read from an object with a version is the same under every other version. -/
def Unversioned {β : Type} (read : Json → β) : Prop :=
  ∀ base x y : Json, read (base.set x versionPath) = read (base.set y versionPath)

/-- A change keeps the identity of objects: it commutes with giving an object another version, and
leaves it its name. -/
structure Edits (change : Json → Outcome Json) : Prop where
  blind : ∀ base x y : Json, change (base.set y versionPath) =
    (change (base.set x versionPath)).map fun changed => changed.set y versionPath
  named : ∀ object changed, change object = .ok changed → nameOf object ≠ "" →
    nameOf changed = nameOf object

namespace Unversioned

variable {path : Path} (away : Path.Diverges versionPath path)

include away

theorem lookup : Unversioned fun object => object.lookup path :=
  fun base x y => Json.lookup_set_congr away base x y

theorem stringAt : Unversioned fun object => object.stringAt path := fun base x y => by
  simp only [Json.stringAt, Json.string?At, Json.lookup_set_congr away base x y]

theorem arrayAt : Unversioned fun object => object.arrayAt path := fun base x y => by
  simp only [Json.arrayAt, Json.lookup_set_congr away base x y]

theorem intAt : Unversioned fun object => object.intAt path := fun base x y => by
  simp only [Json.intAt, Json.lookup_set_congr away base x y]

end Unversioned

namespace Edits

variable {β : Type}

theorem fail (failure : Failure) : Edits fun _ => .error failure where
  blind _ _ _ := rfl
  named := nofun

theorem unchanged : Edits fun object => .ok object where
  blind _ _ _ := congrArg Except.ok (Json.set_set _ _ _ _).symm
  named object changed run _ := by
    cases run
    rfl

theorem set (path : Path) (unversioned : Path.Diverges path versionPath)
    (unnamed : Path.Diverges path namePath) (new : Json) :
    Edits fun object => .ok (object.set new path) where
  blind base x y := by
    have written : ((base.set x versionPath).set new path).set y versionPath =
        (base.set y versionPath).set new path := by
      rw [Json.set_comm unversioned, Json.set_set]
    exact congrArg Except.ok written.symm
  named object changed run named := by
    cases run
    exact nameOf_set rfl named unnamed new

theorem bind {f g : Json → Outcome Json} (hf : Edits f) (hg : Edits g) :
    Edits fun object => f object >>= g where
  blind base x y := by
    -- Given the version that it has, the object shows that the first change keeps a version.
    have again := hf.blind base x x
    rw [hf.blind base x y]
    rcases run : f (base.set x versionPath) with failure | changed
    · rfl
    · rw [run] at again
      have kept : changed = changed.set x versionPath := Except.ok.inj again
      change g (changed.set y versionPath) = (g changed).map fun object => object.set y versionPath
      rw [hg.blind changed x y, ← kept]
  named object changed run named := by
    obtain ⟨between, first, second⟩ := Outcome.bind_eq_ok.mp run
    have kept := hf.named object between first named
    rw [← kept]
    exact hg.named between changed second (kept ▸ named)

theorem setAll (path : Path) (unversioned : ∀ name, Path.Diverges (path ++ [name]) versionPath)
    (unnamed : ∀ name, Path.Diverges (path ++ [name]) namePath) (fields : List (String × Json)) :
    Edits fun object => .ok (object.setAll path fields) := by
  induction fields with
  | nil => exact unchanged
  | cons field rest ih =>
    have first := set (path ++ [field.1]) (unversioned field.1) (unnamed field.1) field.2
    exact first.bind ih

/-- A change that depends on what is read away from the version. -/
theorem reading {read : Json → β} (unversioned : Unversioned read)
    {change : β → Json → Outcome Json} (edits : ∀ b, Edits (change b)) :
    Edits fun object => change (read object) object where
  blind base x y := by
    have same := unversioned base y x
    simp only [same]
    exact (edits _).blind base x y
  named object changed run named := (edits _).named object changed run named

/-- A change that depends on what does not come from the object. -/
theorem given (outcome : Outcome β) {change : β → Json → Outcome Json}
    (edits : ∀ b, Edits (change b)) : Edits fun object => outcome >>= fun b => change b object := by
  cases outcome with
  | ok b => exact edits b
  | error failure => exact fail failure

end Edits

end DeploymentGateway.Cluster
