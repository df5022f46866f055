import ScriptHost.Proofs.Script.Origins
import ScriptHost.Proofs.Script.Signatures

set_option autoImplicit false

/-!
Messages about members that instances do not have.

What kind of member is missing, and under which name, is read off the texts of two failures: of a
call that found no function, by its signature, and of a property that is not there. The texts are
those that scripts fail with, and the readers are exact on them: they find the name whenever the
receiver is an instance, and nothing when it is a value of another type.
-/

namespace ScriptHost.Script

/-- The message about a property that values of the type do not have. -/
def unknownProperty (name type : String) : String :=
  "Unknown property '" ++ name ++ "' - a getter is not registered for type '" ++ type ++ "'"

theorem quoted_suffix_iff {word other : List Char} (plain : '\'' ∉ word) (clear : '\'' ∉ other)
    (front : List Char) :
    '\'' :: word ++ ['\''] <:+ front ++ ('\'' :: other ++ ['\'']) ↔ word = other := by
  constructor
  · rintro ⟨before, same⟩
    have mirrored := congrArg List.reverse same
    simp only [List.reverse_append, List.reverse_cons, List.append_assoc, List.reverse_nil,
      List.nil_append, List.cons_append, List.cons.injEq, true_and] at mirrored
    have plain' : '\'' ∉ word.reverse := fun member => plain (List.mem_reverse.mp member)
    have clear' : '\'' ∉ other.reverse := fun member => clear (List.mem_reverse.mp member)
    have words := congrArg (List.takeWhile fun letter => letter != '\'') mirrored
    rw [takeWhile_until plain', takeWhile_until clear'] at words
    exact List.reverse_inj.mp words
  · rintro rfl
    exact ⟨front, rfl⟩

/-- The name is the first word in quotes, and the type the last one. -/
theorem toList_unknownProperty (name type : String) :
    ∃ before between, '\'' ∉ before ∧ (unknownProperty name type).toList =
      before ++ '\'' :: (name.toList ++ '\'' :: (between ++ ('\'' :: type.toList ++ ['\'']))) := by
  obtain ⟨before, clear, opening⟩ : ∃ before, '\'' ∉ before ∧
      "Unknown property '".toList = before ++ ['\''] :=
    ⟨"Unknown property ".toList, by decide, by simp⟩
  obtain ⟨between, middle⟩ : ∃ between,
      "' - a getter is not registered for type '".toList = '\'' :: (between ++ ['\'']) :=
    ⟨" - a getter is not registered for type ".toList, by simp⟩
  have closing : "'".toList = ['\''] := by decide
  refine ⟨before, between, clear, ?_⟩
  unfold unknownProperty
  simp only [String.toList_append, opening, middle, closing, List.append_assoc,
    List.cons_append, List.nil_append]

theorem propertyOfObject?_unknownProperty {name type : String} (named : '\'' ∉ name.toList)
    (typed : '\'' ∉ type.toList) :
    propertyOfObject? (unknownProperty name type) =
      if type = Value.objectTypeName then some name else none := by
  obtain ⟨before, between, clear, letters⟩ := toList_unknownProperty name type
  have ending : ('\'' :: Value.objectTypeName.toList ++ ['\'']).isSuffixOf
      (unknownProperty name type).toList = true ↔ type = Value.objectTypeName := by
    have quoted := quoted_suffix_iff (by decide : '\'' ∉ Value.objectTypeName.toList) typed
      (before ++ '\'' :: (name.toList ++ '\'' :: between))
    rw [List.isSuffixOf_iff_suffix, letters, ← String.toList_inj, eq_comm, ← quoted]
    simp only [List.append_assoc, List.cons_append]
  have found : (unknownProperty name type).toList.dropWhile (fun letter => letter != '\'') =
      '\'' :: (name.toList ++ '\'' :: (between ++ ('\'' :: type.toList ++ ['\'']))) := by
    rw [letters, List.dropWhile_append_of_pos (all_apart clear),
      List.dropWhile_cons_of_neg (by decide)]
  unfold propertyOfObject?
  by_cases object : type = Value.objectTypeName
  · rw [if_pos object]
    simp only [ending.mpr object, found, if_true]
    rw [if_pos (by simp), takeWhile_until named, String.ofList_toList]
  · rw [if_neg object]
    exact if_neg (mt ending.mp object)

/-- A text that may stand for a type. -/
def IsTypeText (type : String) : Prop :=
  type = "()" ∨
    type ≠ "" ∧ ',' ∉ type.toList ∧ '(' ∉ type.toList ∧ ')' ∉ type.toList ∧
      Text.Unpadded type.toList

/-- The receiver, which is the first argument, is an instance. -/
def OfObject (types : List String) : Prop :=
  types.head? = some Value.objectTypeName ∨
    types.head? = some ("&mut " ++ Value.objectTypeName)

theorem ofObject_cons {type : String} {types : List String} :
    OfObject (type :: types) ↔ IsObjectType type.toList := by
  unfold OfObject IsObjectType
  rw [List.head?_cons, Option.some_inj, Option.some_inj, toList_eq_append_iff,
    String.toList_inj]

/-- At the end of a signature the unit type loses its parenthesis, and it is no instance's type
anyway. -/
theorem memberOfObject?_unit {name : String} (ends : EndsBeforeTypes name) (types : List String) :
    memberOfObject? (signatureText name ("()" :: types)) = none := by
  obtain ⟨behind, letters, ending⟩ := toList_signatureText name "()" types
  rw [memberOfObject?_eq ends letters]
  rcases ending with rfl | ⟨rest, rfl⟩
  · exact if_neg (by decide)
  · rw [firstType_comma (by decide) (by decide)]
    exact if_neg (by decide)

theorem memberOfObject?_untyped {name : String} (ends : EndsBeforeTypes name) :
    memberOfObject? (signatureText name []) = none := by
  have letters : (signatureText name []).toList = name.toList ++ ' ' :: '(' :: [')'] := by
    simp [signatureText]
  rw [memberOfObject?_eq ends letters]
  exact if_neg (by decide)

theorem memberOfObject?_of_ofObject {name : String} {types : List String}
    (ends : EndsBeforeTypes name) (typed : ∀ type ∈ types, IsTypeText type) :
    (OfObject types → memberOfObject? (signatureText name types) = some name) ∧
      (¬ OfObject types → memberOfObject? (signatureText name types) = none) := by
  cases types with
  | nil =>
      refine ⟨fun object => ?_, fun _ => memberOfObject?_untyped ends⟩
      rcases object with none | none <;> cases none
  | cons type types =>
      rw [ofObject_cons]
      rcases typed type List.mem_cons_self with rfl | ⟨_, comma, _, closing, unpadded⟩
      · exact ⟨fun object => absurd object (by decide), fun _ => memberOfObject?_unit ends types⟩
      · rw [memberOfObject?_signatureText ends comma closing unpadded]
        exact ⟨fun object => if_pos object, fun other => if_neg other⟩

/-- The fault about a member that an instance does not have, by the name that was looked for. -/
inductive Misses : String → Fault → Prop where
  | getter (field : String) :
      Misses ("get$" ++ field) (.unknownField Value.objectTypeName field)
  | setter (field : String) :
      Misses ("set$" ++ field) (.unknownField Value.objectTypeName field)
  | method (name : String) (plain : ∀ field, name ≠ "get$" ++ field ∧ name ≠ "set$" ++ field) :
      Misses name (.unknownMethod Value.objectTypeName name)

theorem misses_memberFault (name : String) : Misses name (memberFault name) := by
  by_cases accessor : ∃ field, name = "get$" ++ field ∨ name = "set$" ++ field
  · obtain ⟨field, rfl | rfl⟩ := accessor
    · rw [memberFault_getter]
      exact .getter field
    · rw [memberFault_setter]
      exact .setter field
  · have plain : ∀ field, name ≠ "get$" ++ field ∧ name ≠ "set$" ++ field := fun field =>
      ⟨fun same => accessor ⟨field, .inl same⟩, fun same => accessor ⟨field, .inr same⟩⟩
    rw [memberFault_method plain]
    exact .method name plain

def Failure.direct (problem : Problem) (position? : Option Position) : Failure :=
  ⟨problem, position?, []⟩

theorem toFault_functionNotFound (text : String) (position? : Option Position)
    (thrown? : Option Value) :
    (Failure.direct (.functionNotFound text) position?).toFault thrown? =
      ((memberOfObject? text).map memberFault).getD
        ((Failure.direct (.functionNotFound text) position?).runtimeFault "") := by
  have unthrown : Problem.functionNotFound text ≠ .thrown := nofun
  exact Run.toFault_unthrown unthrown thrown?

theorem toFault_propertyAccess (text : String) (position? : Option Position)
    (thrown? : Option Value) :
    (Failure.direct (.propertyAccess text) position?).toFault thrown? =
      ((propertyOfObject? text).map (.unknownField Value.objectTypeName)).getD
        ((Failure.direct (.propertyAccess text) position?).runtimeFault "") := by
  have unthrown : Problem.propertyAccess text ≠ .thrown := nofun
  exact Run.toFault_unthrown unthrown thrown?

/-- A member is read off the text of a failure exactly if it is one of an instance, and then the
host is told what kind of member is missing. The texts are those that scripts fail with. -/
theorem missing_members_are_read_exactly :
    (∀ name types, EndsBeforeTypes name → (∀ type ∈ types, IsTypeText type) →
      ∀ position? thrown?,
        let failure := Failure.direct (.functionNotFound (signatureText name types)) position?
        (OfObject types → memberOfObject? (signatureText name types) = some name ∧
          Misses name (failure.toFault thrown?)) ∧
        (¬ OfObject types → memberOfObject? (signatureText name types) = none ∧
          failure.toFault thrown? = failure.runtimeFault "")) ∧
    (∀ name type, '\'' ∉ name.toList → '\'' ∉ type.toList →
      ∀ position? thrown?,
        let failure := Failure.direct (.propertyAccess (unknownProperty name type)) position?
        (type = Value.objectTypeName →
          propertyOfObject? (unknownProperty name type) = some name ∧
          failure.toFault thrown? = .unknownField Value.objectTypeName name) ∧
        (type ≠ Value.objectTypeName →
          propertyOfObject? (unknownProperty name type) = none ∧
          failure.toFault thrown? = failure.runtimeFault "")) ∧
    ∀ (α : Type) name position,
      (∀ values, (Run.noFunction name values position : Run α) =
        Run.fail (.functionNotFound (signatureText name (values.map Value.signatureName)))
          position) ∧
      ∀ value, (Run.noProperty name value position : Run α) =
        Run.fail (.propertyAccess (unknownProperty name value.typeName)) position := by
  refine ⟨fun name types ends typed position? thrown? => ?_,
    fun name type named typed position? thrown? => ?_,
    fun _ _ _ => ⟨fun _ => rfl, fun _ => rfl⟩⟩
  · obtain ⟨found, missed⟩ := memberOfObject?_of_ofObject ends typed
    dsimp only
    rw [toFault_functionNotFound]
    refine ⟨fun object => ⟨found object, ?_⟩, fun other => ⟨missed other, ?_⟩⟩
    · rw [found object]
      exact misses_memberFault name
    · rw [missed other]
      rfl
  · have read := propertyOfObject?_unknownProperty named typed
    dsimp only
    rw [toFault_propertyAccess, read]
    refine ⟨fun object => ?_, fun other => ?_⟩
    · rw [if_pos object]
      exact ⟨rfl, rfl⟩
    · rw [if_neg other]
      exact ⟨rfl, rfl⟩

/-- The unit type loses its parenthesis at the end of a signature, and is no receiver. -/
theorem glow_is_read :
    (EndsBeforeTypes "get$glow" ∧
      ∀ type ∈ ["&mut NativeObject", "()"], IsTypeText type) ∧
    (memberOfObject? (signatureText "get$glow" ["&mut NativeObject", "()"]) = some "get$glow" ∧
      Misses "get$glow" ((Failure.direct (.functionNotFound
        (signatureText "get$glow" ["&mut NativeObject", "()"])) none).toFault none)) ∧
    memberOfObject? (signatureText "get$glow" ["()", "&mut NativeObject"]) = none ∧
    propertyOfObject? (unknownProperty "glow" "NativeObject") = some "glow" ∧
    propertyOfObject? (unknownProperty "glow" "map") = none := by
  have ends : EndsBeforeTypes "get$glow" :=
    ⟨fun inside => absurd (inside.subset List.mem_cons_self) (by decide), by decide⟩
  have typed : ∀ type ∈ ["&mut NativeObject", "()"], IsTypeText type := by
    intro type member
    simp only [List.mem_cons, List.not_mem_nil, or_false] at member
    rcases member with rfl | rfl
    · exact .inr ⟨by decide, by decide, by decide, by decide, by decide⟩
    · exact .inl rfl
  have swapped : ∀ type ∈ ["()", "&mut NativeObject"], IsTypeText type := fun type member =>
    typed type ((List.Perm.swap _ _ _).mem_iff.mp member)
  have receiver : OfObject ["&mut NativeObject", "()"] := ofObject_cons.mpr (by decide)
  have argument : ¬ OfObject ["()", "&mut NativeObject"] := mt ofObject_cons.mp (by decide)
  obtain ⟨signatures, properties, _⟩ := missing_members_are_read_exactly
  exact ⟨⟨ends, typed⟩, (signatures _ _ ends typed none none).1 receiver,
    ((signatures _ _ ends swapped none none).2 argument).1,
    ((properties "glow" _ (by decide) (by decide) none none).1 rfl).1,
    ((properties "glow" "map" (by decide) (by decide) none none).2 (by decide)).1⟩

end ScriptHost.Script
