import ScriptHost.Native.Function

/-!
Registries: the types and functions of a session.

Types are numbered in the order of their registration. A name and a host type are each taken by
the first type registered under them, and within a namespace a name by the first function. Scripts
find functions in modules, which are bound to what is registered.
-/

namespace ScriptHost

structure TypeRegistry where
  types : Array TypeDescriptor

namespace TypeRegistry

def empty : TypeRegistry := ⟨#[]⟩

instance : Inhabited TypeRegistry := ⟨empty⟩

def size (registry : TypeRegistry) : Nat := registry.types.size

def idOfName? (registry : TypeRegistry) (name : String) : Option TypeId :=
  registry.types.findIdx? fun descriptor => descriptor.name == name

def idOf? (registry : TypeRegistry) (type : HostType) : Option TypeId :=
  registry.types.findIdx? fun descriptor => descriptor.type == type

def containsName (registry : TypeRegistry) (name : String) : Bool :=
  (registry.idOfName? name).isSome

def get (registry : TypeRegistry) (typeId : TypeId) : Except Fault TypeDescriptor :=
  match registry.types[typeId]? with
  | some descriptor => .ok descriptor
  | none => .error (.invalidState ("unregistered type TypeId(" ++ typeId.repr ++ ")"))

def nameOf (registry : TypeRegistry) (typeId : TypeId) : String :=
  match registry.types[typeId]? with
  | some descriptor => descriptor.name
  | none => "type#" ++ typeId.repr

def register (registry : TypeRegistry) (descriptor : TypeDescriptor) :
    Except Fault TypeRegistry :=
  if registry.containsName descriptor.name || (registry.idOf? descriptor.type).isSome then
    .error (.duplicateType descriptor.name)
  else
    .ok ⟨registry.types.push descriptor⟩

def declaresMethod (registry : TypeRegistry) (name : String) : Bool :=
  registry.types.any fun descriptor => descriptor.declaresMethod name

def declaresField (registry : TypeRegistry) (name : String) : Bool :=
  registry.types.any fun descriptor => descriptor.declaresField name

end TypeRegistry

abbrev Modules := List (String × List FunctionDescriptor)

namespace Modules

def find? (modules : Modules) (space name : String) : Option FunctionDescriptor := do
  let functions ← modules.lookup space
  functions.find? fun descriptor => descriptor.name == name

/-- Puts in a module, in the place of the one that has had its name. -/
def replace (modules : Modules) (space : String) (functions : List FunctionDescriptor) : Modules :=
  (space, functions) :: List.filter (fun entry => entry.1 != space) modules

theorem lookup_replace_self (modules : Modules) (space : String)
    (functions : List FunctionDescriptor) :
    (modules.replace space functions).lookup space = some functions := by
  rw [replace, List.lookup_cons_self]

theorem lookup_replace_other (modules : Modules) {space other : String} (different : other ≠ space)
    (functions : List FunctionDescriptor) :
    (modules.replace space functions).lookup other = modules.lookup other := by
  rw [replace, List.lookup_cons, beq_false_of_ne different]
  induction modules with
  | nil => rfl
  | cons entry rest ih =>
      rw [List.filter_cons]
      by_cases same : entry.1 = space
      · have skipped : (other == entry.1) = false := beq_false_of_ne (same ▸ different)
        rw [List.lookup_cons, skipped]
        simpa [same] using ih
      · have kept : (entry.1 != space) = true := bne_iff_ne.mpr same
        rw [if_pos kept, List.lookup_cons, List.lookup_cons]
        cases other == entry.1 with
        | true => rfl
        | false => exact ih

end Modules

abbrev PlacedFunctions := Array (String × FunctionDescriptor)

namespace PlacedFunctions

def inSpace (functions : PlacedFunctions) (space : String) : List FunctionDescriptor :=
  (functions.toList.filter fun entry => entry.1 == space).map Prod.snd

def module? (functions : PlacedFunctions) (space : String) : Option (List FunctionDescriptor) :=
  match functions.inSpace space with
  | [] => none
  | members => some members

theorem inSpace_push (functions : PlacedFunctions) (space other : String)
    (descriptor : FunctionDescriptor) :
    inSpace (functions.push (space, descriptor)) other =
      functions.inSpace other ++ if space = other then [descriptor] else [] := by
  unfold inSpace
  rw [Array.toList_push, List.filter_append, List.map_append]
  by_cases same : space = other
  · simp [same]
  · simp [same]

theorem lookup_replace {functions : PlacedFunctions} {modules : Modules}
    (bound : ∀ other, modules.lookup other = functions.module? other) (space : String)
    (descriptor : FunctionDescriptor) (other : String) :
    let later : PlacedFunctions := functions.push (space, descriptor)
    (modules.replace space (later.inSpace space)).lookup other = later.module? other := by
  intro later
  have members := functions.inSpace_push space other descriptor
  by_cases same : other = space
  · subst same
    rw [if_pos rfl] at members
    rw [Modules.lookup_replace_self, module?, members]
    split
    · rename_i empty
      exact absurd empty (List.append_ne_nil_of_right_ne_nil _ (List.cons_ne_nil _ _))
    · rfl
  · rw [if_neg (Ne.symm same), List.append_nil] at members
    rw [Modules.lookup_replace_other _ same, bound, module?, module?, members]

end PlacedFunctions

/-- Functions in the order of their registration, and the modules that scripts find them in. A
module is put together anew whenever its namespace gets another function. -/
structure FunctionRegistry where
  functions : PlacedFunctions
  modules : Modules
  bound : ∀ space, modules.lookup space = functions.module? space

namespace FunctionRegistry

/-- The namespace of functions that are called without a module name. -/
def globalSpace : String := "global"

def empty : FunctionRegistry := ⟨#[], [], fun _ => rfl⟩

instance : Inhabited FunctionRegistry := ⟨empty⟩

def size (registry : FunctionRegistry) : Nat := registry.functions.size

def find? (registry : FunctionRegistry) (space name : String) : Option FunctionDescriptor :=
  (registry.functions.find? fun entry => entry.1 == space && entry.2.name == name).map Prod.snd

def contains (registry : FunctionRegistry) (space name : String) : Bool :=
  (registry.find? space name).isSome

def hasSpace (registry : FunctionRegistry) (space : String) : Bool :=
  (registry.modules.lookup space).isSome

def spaces (registry : FunctionRegistry) : List String :=
  (registry.modules.map Prod.fst).filter fun space => space != globalSpace

def register (registry : FunctionRegistry) (space : String) (descriptor : FunctionDescriptor) :
    Except Fault FunctionRegistry :=
  if registry.contains space descriptor.name then
    .error (.duplicateFunction space descriptor.name)
  else
    let functions : PlacedFunctions := registry.functions.push (space, descriptor)
    .ok ⟨functions, registry.modules.replace space (functions.inSpace space),
      PlacedFunctions.lookup_replace registry.bound space descriptor⟩

theorem find?_inSpace (registry : FunctionRegistry) (space name : String) :
    (registry.functions.inSpace space).find? (fun descriptor => descriptor.name == name) =
      registry.find? space name := by
  unfold PlacedFunctions.inSpace find?
  rw [List.find?_map, List.find?_filter, ← Array.find?_toList]
  simp only [Bool.decide_and, Bool.decide_eq_true, Function.comp_apply]

theorem find?_modules (registry : FunctionRegistry) (space name : String) :
    registry.modules.find? space name = registry.find? space name := by
  rw [← find?_inSpace]
  unfold Modules.find?
  rw [registry.bound, PlacedFunctions.module?]
  cases registry.functions.inSpace space <;> rfl

theorem hasSpace_of_find? {registry : FunctionRegistry} {space name : String}
    {function : FunctionDescriptor} (found : registry.find? space name = some function) :
    registry.hasSpace space = true := by
  rw [← find?_modules] at found
  obtain ⟨members, known, _⟩ := Option.bind_eq_some_iff.mp found
  exact Option.isSome_of_eq_some known

end FunctionRegistry
end ScriptHost
