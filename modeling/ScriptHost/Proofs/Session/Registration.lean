import ScriptHost.Proofs.Session.Lifecycle

/-!
What has been registered stays registered.

A registration takes a name that is free, so it does not change what other names stand for. No
later operation changes it either: a function is found under its name as long as the session
lasts, and no type ever bears the name of a function of the same standing.
-/

set_option autoImplicit false

namespace ScriptHost

namespace FunctionRegistry

variable {registry later : FunctionRegistry} {space other name : String}
  {descriptor : FunctionDescriptor}

theorem find?_register (registered : registry.register space descriptor = .ok later)
    (other name : String) :
    later.find? other name = (registry.find? other name).or
      (if space = other ∧ descriptor.name = name then some descriptor else none) := by
  unfold register at registered
  split at registered
  · cases registered
  · cases registered
    unfold find?
    rw [Array.find?_push]
    cases registry.functions.find? fun entry => entry.1 == other && entry.2.name == name with
    | some entry => rfl
    | none =>
        by_cases same : space = other ∧ descriptor.name = name
        · simp [same]
        · rw [if_neg same, if_neg]
          · rfl
          · simpa using same

theorem find?_registered (registered : registry.register space descriptor = .ok later) :
    later.find? space descriptor.name = some descriptor := by
  have free : registry.find? space descriptor.name = none := by
    unfold register at registered
    split at registered
    · cases registered
    · rename_i absent
      unfold contains at absent
      rwa [Bool.not_eq_true, Option.isSome_eq_false_iff, Option.isNone_iff_eq_none] at absent
  rw [find?_register registered, free, if_pos ⟨rfl, rfl⟩]
  rfl

theorem find?_kept (registered : registry.register space descriptor = .ok later)
    {function : FunctionDescriptor} (found : registry.find? other name = some function) :
    later.find? other name = some function := by
  rw [find?_register registered, found]
  rfl

theorem contains_register (registered : registry.register space descriptor = .ok later) :
    later.contains other name = true ↔
      registry.contains other name = true ∨ space = other ∧ descriptor.name = name := by
  unfold contains
  rw [find?_register registered]
  cases registry.find? other name with
  | some function => simp
  | none =>
      by_cases same : space = other ∧ descriptor.name = name
      · simp [same]
      · simp [same]

end FunctionRegistry

theorem TypeRegistry.containsName_register {registry later : TypeRegistry}
    {descriptor : TypeDescriptor} (registered : registry.register descriptor = .ok later)
    {name : String} :
    later.containsName name = true ↔
      registry.containsName name = true ∨ descriptor.name = name := by
  unfold register at registered
  split at registered
  · cases registered
  · cases registered
    unfold containsName idOfName?
    simp only [Array.findIdx?_isSome, Array.any_push]
    simp

namespace Session

variable {session : Session} {operation : Operation}

theorem steady_found (space name : String) (function : FunctionDescriptor) :
    Steady fun session => session.functions.find? space name = some function where
  machine kept := kept
  closures kept := kept
  library kept := kept
  functions kept _ registered := FunctionRegistry.find?_kept registered kept
  types kept _ _ := kept

def Apart (types : TypeRegistry) (functions : FunctionRegistry) : Prop :=
  ∀ name, types.containsName name = true →
    functions.contains FunctionRegistry.globalSpace name = false

theorem steady_apart : Steady fun session => Apart session.types session.functions where
  machine kept := kept
  closures kept := kept
  library kept := kept
  functions kept free registered := by
    intro name named
    rw [Bool.eq_false_iff, Ne, FunctionRegistry.contains_register registered]
    rintro (known | ⟨global, rfl⟩)
    · rw [kept name named] at known
      cases known
    · rw [free global] at named
      cases named
  types kept free registered := by
    intro name named
    rcases (TypeRegistry.containsName_register registered).mp named with known | rfl
    · exact kept name known
    · exact free

theorem Reachable.apart (reachable : session.Reachable) :
    Apart session.types session.functions := by
  induction reachable with
  | created configuration => exact fun _ _ => rfl
  | performed operation _ ih => exact steady_apart.kept ih operation

theorem Reachable.find?_of_type (reachable : session.Reachable) {name : String} {typeId : TypeId}
    (known : session.types.idOfName? name = some typeId) :
    session.functions.find? FunctionRegistry.globalSpace name = none := by
  have named : session.types.containsName name = true := by
    unfold TypeRegistry.containsName
    rw [known]
    rfl
  have free := reachable.apart name named
  unfold FunctionRegistry.contains at free
  rwa [Option.isSome_eq_false_iff, Option.isNone_iff_eq_none] at free

theorem registerFunction_ok {function : FunctionDescriptor} {later : Session}
    (ended : registerFunction function session = .ok () later) :
    ∃ functions, session.functions.register FunctionRegistry.globalSpace function = .ok functions ∧
      later.functions = functions := by
  unfold registerFunction whenReady at ended
  split at ended
  · change (if session.types.containsName function.name then _ else _ : Action Unit) session = _
      at ended
    split at ended
    · cases ended
    · change (ofResult (session.functions.register FunctionRegistry.globalSpace function) >>= _)
        session = _ at ended
      cases registered : session.functions.register FunctionRegistry.globalSpace function with
      | error fault =>
          rw [registered] at ended
          cases ended
      | ok functions =>
          rw [registered] at ended
          cases ended
          exact ⟨functions, rfl, rfl⟩
  · cases ended
  · cases ended

/-- A function that has been registered is found under its name, whatever is done afterwards. -/
theorem found_after {function : FunctionDescriptor} {reply : Reply}
    (registered : (session.perform (.register (.function function))).1 = .ok reply)
    (operations : List Operation) :
    ((session.perform (.register (.function function))).2.after operations).functions.find?
      FunctionRegistry.globalSpace function.name = some function := by
  have performed : (Operation.register (.function function)).perform session =
      done (registerFunction function) session := rfl
  apply @Steady.kept_after (fun _ functions => functions.find? FunctionRegistry.globalSpace
    function.name = some function) (steady_found _ _ _) operations
  unfold perform at registered ⊢
  rw [performed, done, bind_apply] at registered ⊢
  cases ended : registerFunction function session with
  | error fault later =>
      rw [ended] at registered
      cases registered
  | ok _ later =>
      obtain ⟨functions, found, same⟩ := registerFunction_ok ended
      change later.functions.find? _ _ = _
      rw [same]
      exact FunctionRegistry.find?_registered found

end Session
end ScriptHost
