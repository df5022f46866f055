import ScriptHost.Numeric.Vector3
import ScriptHost.Proofs.Decimal.Finite

/-!
The arithmetic of vectors.

Whatever vectors and numbers an operation is given, infinite ones included, it gives a vector or a
number that is finite, or else it fails with a fault of domain. Of a length there is no check: the
square of it is checked, and it is not negative, so the root of it is finite.
-/

set_option autoImplicit false

namespace ScriptHost

open Decimal

variable {α β : Type}

def Yields (meets : α → Prop) : Except Fault α → Prop
  | .ok result => meets result
  | .error fault => ∃ text, fault = .domain text

namespace Yields

variable {meets : α → Prop} {final : β → Prop} {first : Except Fault α}

theorem bind {rest : α → Except Fault β} (yields : Yields meets first)
    (later : ∀ result, meets result → Yields final (rest result)) :
    Yields final (first >>= rest) := by
  cases first with
  | ok result => exact later result yields
  | error fault => exact yields

theorem of_ok (yields : Yields meets first) {result : α} (ended : first = .ok result) :
    meets result := by
  rw [ended] at yields
  exact yields

theorem of_error (yields : Yields meets first) {fault : Fault} (ended : first = .error fault) :
    ∃ text, fault = .domain text := by
  rw [ended] at yields
  exact yields

end Yields

namespace Vector3

structure Finite (vector : Vector3) : Prop where
  x : vector.x.isFinite = true
  y : vector.y.isFinite = true
  z : vector.z.isFinite = true

theorem Finite.negate {vector : Vector3} (isFinite : vector.Finite) : vector.negate.Finite :=
  ⟨isFinite_neg isFinite.x, isFinite_neg isFinite.y, isFinite_neg isFinite.z⟩

theorem yields_finite (number : Float) (operation : String) :
    Yields (fun value => value = number ∧ value.isFinite = true) (finite number operation) := by
  unfold finite
  split
  · exact ⟨rfl, ‹_›⟩
  · exact ⟨_, rfl⟩

theorem yields_checked (x y z : Float) (operation : String) :
    Yields Finite (checked x y z operation) :=
  (yields_finite x operation).bind fun _ atX => (yields_finite y operation).bind fun _ atY =>
    (yields_finite z operation).bind fun _ atZ => ⟨atX.2, atY.2, atZ.2⟩

variable (left right : Vector3) (number : Float)

theorem yields_add : Yields Finite (left.add right) := yields_checked _ _ _ _

theorem yields_subtract : Yields Finite (left.subtract right) := yields_checked _ _ _ _

theorem yields_scale : Yields Finite (left.scale number) := yields_checked _ _ _ _

theorem yields_divide : Yields Finite (left.divide number) := by
  unfold divide
  split
  · exact ⟨_, rfl⟩
  · exact yields_checked _ _ _ _

theorem yields_cross : Yields Finite (left.cross right) := yields_checked _ _ _ _

theorem yields_lerp : Yields Finite (left.lerp right number) := yields_checked _ _ _ _

theorem yields_dot : Yields (fun value => value.isFinite = true) (left.dot right) := by
  unfold dot
  have yields := yields_finite (left.x * right.x + left.y * right.y + left.z * right.z) "dot"
  generalize finite _ _ = result at yields ⊢
  cases result with
  | ok value => exact yields.2
  | error fault => exact yields

theorem yields_lengthSquared : Yields (fun value => value.isFinite = true) left.lengthSquared :=
  left.yields_dot left

/-- The sum of the squares has a root, unless it is too large. -/
theorem yields_length : Yields (fun value => value.isFinite = true) left.length := by
  apply (yields_finite (left.x * left.x + left.y * left.y + left.z * left.z) "dot").bind
  rintro squared ⟨rfl, isFinite⟩
  exact isFinite_sqrt isFinite (upward_squares left.x left.y left.z)

theorem yields_distance : Yields (fun value => value.isFinite = true) (left.distance right) :=
  (right.yields_subtract left).bind fun difference _ => difference.yields_length

theorem yields_normalize : Yields Finite left.normalize := by
  apply left.yields_length.bind
  intro length _
  split
  · exact ⟨_, rfl⟩
  · exact yields_checked _ _ _ _

/-- A step on the way may overflow too, and it is checked as well. -/
theorem yields_rotated : Yields Finite (left.rotated right number) := by
  unfold rotated
  cases right.normalize with
  | error fault => exact ⟨_, rfl⟩
  | ok unit =>
      apply (unit.yields_dot left).bind
      intro product _
      apply (unit.yields_scale _).bind
      intro along _
      apply (left.yields_scale _).bind
      intro turned _
      apply (unit.yields_cross left).bind
      intro normal _
      apply (normal.yields_scale _).bind
      intro aside _
      apply (turned.yields_add aside).bind
      intro turned _
      exact turned.yields_add along

end Vector3
end ScriptHost
