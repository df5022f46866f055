import ScriptHost.Extension.Math
import ScriptHost.Proofs.Native.Conduct
import ScriptHost.Proofs.Numeric.Vectors

/-!
The native bodies of the extension for mathematics.

They insert vectors that have been checked, or negated, and store components that have been checked.
Two functions draw random numbers, and no other body does.
-/

set_option autoImplicit false

namespace ScriptHost.Extension.Math

open Routine

variable {conduct : Conduct}

/-- Finite vectors are sound. So is what negation or another finite component makes of a sound
vector. -/
structure Allows (conduct : Conduct) : Prop where
  made : ∀ vector : Vector3, vector.Finite → conduct.sound ⟨vectorType, vector⟩
  negated : ∀ vector : Vector3, conduct.sound ⟨vectorType, vector⟩ →
    conduct.sound ⟨vectorType, vector.negate⟩
  writes : ∀ entry ∈ fields, ∀ write, entry.2.write? = some write →
    ∀ (vector : Vector3) (value : HostValue), conduct.sound ⟨vectorType, vector⟩ →
      conduct.sound ⟨vectorType, (write vector value).1⟩

variable (allows : Allows conduct)

include allows

theorem obeys_newVector {result : Except Fault Vector3} (yields : Yields Vector3.Finite result) :
    (ofResult result >>= newVector).Obeys conduct fun _ => True :=
  obeys_result fun vector made => obeys_new (allows.made vector (yields.of_ok made))

omit allows in
theorem obeys_vectorOf {value : HostValue} {rest : Vector3 → Routine HostValue}
    (later : ∀ vector : Vector3, conduct.sound ⟨vectorType, vector⟩ →
      (rest vector).Obeys conduct fun _ => True) :
    (vectorOf value >>= rest).Obeys conduct fun _ => True :=
  (obeys_contentOf vectorType value).bind later

theorem obeys_constructor {constructor : Constructor vectorType}
    (member : constructor ∈ constructors) (arguments : List HostValue) :
    (constructor.build arguments).Obeys conduct fun vector =>
      conduct.sound ⟨vectorType, vector⟩ := by
  rcases List.mem_pair.mp member with rfl | rfl
  · exact allows.made .zero ⟨by decide +kernel, by decide +kernel, by decide +kernel⟩
  · refine obeys_result fun x _ => obeys_result fun y _ => obeys_result fun z _ => ?_
    exact obeys_ofResult fun vector made =>
      allows.made vector ((Vector3.yields_checked x y z _).of_ok made)

theorem obeys_method {named : String × Method vectorType} (member : named ∈ methods)
    (vector : Vector3) (arguments : List HostValue) :
    (named.2.call vector arguments).Obeys conduct fun _ => True := by
  simp only [methods, List.mem_cons, List.not_mem_nil, or_false] at member
  rcases member with rfl | rfl | rfl | rfl | rfl | rfl | rfl | rfl
  · exact obeys_result fun _ _ => trivial
  · exact obeys_result fun _ _ => trivial
  · exact obeys_newVector allows vector.yields_normalize
  · exact obeys_vectorOf fun _ _ => obeys_result fun _ _ => trivial
  · exact obeys_vectorOf fun other _ => obeys_newVector allows (vector.yields_cross other)
  · exact obeys_vectorOf fun _ _ => obeys_result fun _ _ => trivial
  · exact obeys_vectorOf fun axis _ => obeys_result fun angle _ =>
      obeys_newVector allows (vector.yields_rotated axis angle)
  · exact obeys_vectorOf fun finish _ => obeys_result fun parameter _ =>
      obeys_newVector allows (vector.yields_lerp finish parameter)

theorem obeys_operator {entry : OperatorEntry} (member : entry ∈ operators)
    (left right : HostValue) : (entry.apply left right).Obeys conduct fun _ => True := by
  simp only [operators, List.mem_cons, List.not_mem_nil, or_false] at member
  rcases member with rfl | rfl | rfl | rfl | rfl | rfl | rfl | rfl
  · exact obeys_vectorOf fun left _ => obeys_vectorOf fun right _ =>
      obeys_newVector allows (left.yields_add right)
  · exact obeys_vectorOf fun left _ => obeys_vectorOf fun right _ =>
      obeys_newVector allows (left.yields_subtract right)
  · exact obeys_vectorOf fun vector _ => obeys_result fun factor _ =>
      obeys_newVector allows (vector.yields_scale factor)
  · exact obeys_vectorOf fun vector _ => obeys_result fun factor _ =>
      obeys_newVector allows (vector.yields_scale factor)
  · exact obeys_vectorOf fun vector _ => obeys_result fun divisor _ =>
      obeys_newVector allows (vector.yields_divide divisor)
  · exact obeys_vectorOf fun _ _ => obeys_vectorOf fun _ _ => trivial
  · exact obeys_vectorOf fun _ _ => obeys_vectorOf fun _ _ => trivial
  · exact obeys_vectorOf fun vector sound => obeys_new (allows.negated vector sound)

theorem vector_obeys : vector.Obeys conduct where
  constructors _ member := obeys_constructor allows member
  writes := allows.writes
  methods _ member vector arguments _ := obeys_method allows member vector arguments
  operators _ member := obeys_operator allows member

theorem lerp_obeys (arguments : List HostValue) :
    (lerp arguments).Obeys conduct fun _ => True := by
  have mismatch : ∀ expected found,
      (lerp.throwMismatch expected found).Obeys conduct fun _ => True := by
    intro expected found
    have described : (describe found).Obeys conduct fun _ => True := by
      cases found with
      | object handle => exact obeys_typeNameOf _
      | _ => trivial
    exact described.bind fun _ _ => trivial
  refine obeys_result fun parameter _ => ?_
  dsimp only
  split
  · trivial
  · refine (obeys_isInstance _ _).bind fun starts _ => (obeys_isInstance _ _).bind fun ends _ => ?_
    split
    · exact obeys_vectorOf fun first _ => obeys_vectorOf fun last _ =>
        obeys_newVector allows (first.yields_lerp last parameter)
    · split
      · exact mismatch _ _
      · split
        · exact mismatch _ _
        · exact mismatch _ _

theorem function_obeys {function : FunctionDescriptor} (member : function ∈ functions)
    (draws : function = functions[4] ∨ function = functions[5] → ∀ sampler, conduct.draws sampler) :
    function.Obeys conduct := by
  simp only [functions, List.mem_cons, List.not_mem_nil, or_false] at member
  rcases member with rfl | rfl | rfl | rfl | rfl | rfl
  · exact fun _ => obeys_result fun _ _ => trivial
  · exact fun _ => obeys_result fun _ _ => trivial
  · exact lerp_obeys allows
  · exact fun _ => obeys_result fun _ _ => obeys_result fun _ _ => obeys_result fun _ _ =>
      obeys_result fun _ _ => trivial
  · exact fun _ => obeys_result fun _ _ => obeys_result fun _ _ =>
      (obeys_random (draws (.inl rfl) _)).bind fun _ _ => trivial
  · exact fun _ => obeys_result fun _ _ => obeys_result fun _ _ =>
      (obeys_random (draws (.inr rfl) _)).bind fun _ _ => trivial

end ScriptHost.Extension.Math
