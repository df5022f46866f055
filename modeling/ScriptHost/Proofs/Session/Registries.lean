import Mathlib.Data.List.Nodup
import Mathlib.Data.List.Pairwise
import ScriptHost.Proofs.Session.Registration

/-!
What the registrations of a session leave behind.

A registration takes a name and, for a type, the host type too. If one of them has been taken
before, or if a module cannot have its name, it fails and changes nothing. So the registries have
the registrations that have succeeded, in their order, and whatever is looked up in them is the one
registration that has taken it.
-/

set_option autoImplicit false

namespace ScriptHost

open Script

/-- What is taken once at most: a name in a namespace, or a host type. -/
inductive Title where
  | name (space name : String)
  | host (type : HostType)
deriving DecidableEq

namespace Registration

/-- A type is constructed by its name, as if it were a global function. -/
def titles : Registration → List Title
  | type descriptor => [.name FunctionRegistry.globalSpace descriptor.name, .host descriptor.type]
  | function descriptor => [.name FunctionRegistry.globalSpace descriptor.name]
  | moduleFunction space descriptor => [.name space descriptor.name]

def type? : Registration → Option TypeDescriptor
  | type descriptor => some descriptor
  | _ => none

def function? : Registration → Option (String × FunctionDescriptor)
  | type _ => none
  | function descriptor => some (FunctionRegistry.globalSpace, descriptor)
  | moduleFunction space descriptor => some (space, descriptor)

def WellPlaced : Registration → Prop
  | moduleFunction space _ => Name.isIdentifier space = true
  | _ => True

instance : DecidablePred WellPlaced := fun registration =>
  match registration with
  | .moduleFunction space _ => inferInstanceAs (Decidable (Name.isIdentifier space = true))
  | .type _ => isTrue trivial
  | .function _ => isTrue trivial

def duplicate : Registration → Fault
  | type descriptor => .duplicateType descriptor.name
  | function descriptor => .duplicateFunction FunctionRegistry.globalSpace descriptor.name
  | moduleFunction space descriptor => .duplicateFunction space descriptor.name

/-- The titles that are names belong to functions and to types that are called like functions. -/
theorem name_mem_titles_iff {registration : Registration} {space name : String} :
    .name space name ∈ registration.titles ↔
      (∃ function, registration.function? = some (space, function) ∧ function.name = name) ∨
        space = FunctionRegistry.globalSpace ∧
          ∃ descriptor, registration.type? = some descriptor ∧ descriptor.name = name := by
  cases registration with
  | type descriptor => simp [titles, type?, function?, eq_comm]
  | function descriptor => simp [titles, type?, function?, eq_comm]
  | moduleFunction space descriptor => simp [titles, type?, function?, eq_comm]

theorem host_mem_titles_iff {registration : Registration} {type : HostType} :
    .host type ∈ registration.titles ↔
      ∃ descriptor, registration.type? = some descriptor ∧ descriptor.type = type := by
  cases registration with
  | type descriptor => simp [titles, type?, eq_comm]
  | function descriptor => simp [titles, type?]
  | moduleFunction space descriptor => simp [titles, type?]

theorem nodup_titles (registration : Registration) : registration.titles.Nodup := by
  cases registration with
  | type descriptor => exact List.nodup_cons.mpr ⟨by simp, List.nodup_singleton _⟩
  | function descriptor => exact List.nodup_singleton _
  | moduleFunction space descriptor => exact List.nodup_singleton _

end Registration

namespace FunctionRegistry

variable {registry : FunctionRegistry} {space : String} {descriptor : FunctionDescriptor}

theorem register_taken (taken : registry.contains space descriptor.name = true) :
    registry.register space descriptor = .error (.duplicateFunction space descriptor.name) := by
  rw [register, if_pos taken]

theorem register_free (free : registry.contains space descriptor.name = false) :
    ∃ later, registry.register space descriptor = .ok later ∧
      later.functions = registry.functions.push (space, descriptor) := by
  rw [register, if_neg (Bool.eq_false_iff.mp free)]
  exact ⟨_, rfl, rfl⟩

theorem contains_iff {name : String} : registry.contains space name = true ↔
    ∃ function, (space, function) ∈ registry.functions.toList ∧ function.name = name := by
  rw [contains, find?, Option.isSome_map, Array.find?_isSome]
  constructor
  · rintro ⟨⟨other, function⟩, member, same⟩
    obtain ⟨rfl, named⟩ : other = space ∧ function.name = name := by simpa using same
    exact ⟨function, Array.mem_toList_iff.mpr member, named⟩
  · rintro ⟨function, member, named⟩
    exact ⟨(space, function), Array.mem_toList_iff.mp member, by simp [named]⟩

end FunctionRegistry

namespace TypeRegistry

variable {registry : TypeRegistry} {descriptor : TypeDescriptor}

theorem containsName_iff {name : String} : registry.containsName name = true ↔
    ∃ descriptor ∈ registry.types.toList, descriptor.name = name := by
  rw [containsName, idOfName?, Array.findIdx?_isSome, Array.any_eq_true']
  simp

theorem isSome_idOf?_iff {type : HostType} : (registry.idOf? type).isSome = true ↔
    ∃ descriptor ∈ registry.types.toList, descriptor.type = type := by
  rw [idOf?, Array.findIdx?_isSome, Array.any_eq_true']
  simp

theorem register_taken
    (taken : registry.containsName descriptor.name = true ∨
      (registry.idOf? descriptor.type).isSome = true) :
    registry.register descriptor = .error (.duplicateType descriptor.name) := by
  rw [register, if_pos (Bool.or_eq_true_iff.mpr taken)]

theorem register_free (named : registry.containsName descriptor.name = false)
    (host : (registry.idOf? descriptor.type).isSome = false) :
    registry.register descriptor = .ok ⟨registry.types.push descriptor⟩ := by
  rw [register, named, host]
  rfl

end TypeRegistry

namespace Session

variable {session later : Session} {registration : Registration} {log : List Registration}

/-! ### One registration -/

/-- A title that somebody has already. -/
def Taken (session : Session) : Title → Prop
  | .name space name => session.functions.contains space name = true ∨
      space = FunctionRegistry.globalSpace ∧ session.types.containsName name = true
  | .host type => (session.types.idOf? type).isSome = true

/-- A session with one more type or function, which differs in nothing else. -/
structure Gains (session : Session) (registration : Registration) (later : Session) : Prop where
  types : later.types.types.toList = session.types.types.toList ++ registration.type?.toList
  functions : later.functions.functions.toList =
    session.functions.functions.toList ++ registration.function?.toList
  rest : later = { session with types := later.types, functions := later.functions }

theorem registerType_eq (ready : session.phase = .ready) (descriptor : TypeDescriptor) :
    registerType descriptor session =
      if session.functions.contains FunctionRegistry.globalSpace descriptor.name = true then
        .error (.duplicateType descriptor.name) session
      else
        match session.types.register descriptor with
        | .ok types => .ok session.types.size { session with types := types }
        | .error fault => .error fault session := by
  rw [registerType, whenReady_eq ready]
  change (if session.functions.contains FunctionRegistry.globalSpace descriptor.name then _
    else _ : Action TypeId) session = _
  split
  · rfl
  · change (ofResult (session.types.register descriptor) >>= _ : Action TypeId) session = _
    cases session.types.register descriptor with
    | ok types => rfl
    | error fault => rfl

theorem addFunction_eq (space : String) (descriptor : FunctionDescriptor) :
    addFunction space descriptor session =
      match session.functions.register space descriptor with
      | .ok functions => .ok () { session with functions := functions }
      | .error fault => .error fault session := by
  change (ofResult (session.functions.register space descriptor) >>= _ : Action Unit) session = _
  cases session.functions.register space descriptor with
  | ok functions => rfl
  | error fault => rfl

theorem registerFunction_eq (ready : session.phase = .ready) (descriptor : FunctionDescriptor) :
    registerFunction descriptor session =
      if session.types.containsName descriptor.name = true then
        .error (.duplicateFunction FunctionRegistry.globalSpace descriptor.name) session
      else
        addFunction FunctionRegistry.globalSpace descriptor session := by
  rw [registerFunction, whenReady_eq ready]
  change (if session.types.containsName descriptor.name then _ else _ : Action Unit) session = _
  split
  · rfl
  · rfl

theorem registerModuleFunction_eq (ready : session.phase = .ready) {space : String}
    (elsewhere : space ≠ FunctionRegistry.globalSpace) (descriptor : FunctionDescriptor) :
    registerModuleFunction space descriptor session =
      if Name.isIdentifier space = true then addFunction space descriptor session
      else .error (.invalidState ("'" ++ space ++ "' is not a valid module name")) session := by
  rw [registerModuleFunction, if_neg elsewhere, whenReady_eq ready]
  cases Name.isIdentifier space with
  | true => rfl
  | false => rfl

theorem addFunction_taken {space : String} {descriptor : FunctionDescriptor}
    (taken : session.functions.contains space descriptor.name = true) :
    addFunction space descriptor session =
      .error (.duplicateFunction space descriptor.name) session := by
  rw [addFunction_eq, FunctionRegistry.register_taken taken]

theorem addFunction_free {space : String} {descriptor : FunctionDescriptor}
    (free : session.functions.contains space descriptor.name = false)
    (function : registration.function? = some (space, descriptor))
    (untyped : registration.type? = none) :
    ∃ later, addFunction space descriptor session = .ok () later ∧
      session.Gains registration later := by
  obtain ⟨functions, registered, pushed⟩ := FunctionRegistry.register_free free
  refine ⟨{ session with functions := functions }, by rw [addFunction_eq, registered], ?_, ?_, rfl⟩
  · rw [untyped]
    exact (List.append_nil _).symm
  · rw [function]
    exact (congrArg Array.toList pushed).trans Array.toList_push

theorem registerFunction_taken (ready : session.phase = .ready) {descriptor : FunctionDescriptor}
    (taken : session.Taken (.name FunctionRegistry.globalSpace descriptor.name)) :
    registerFunction descriptor session =
      .error (.duplicateFunction FunctionRegistry.globalSpace descriptor.name) session := by
  rw [registerFunction_eq ready]
  split
  · rfl
  · rename_i unnamed
    exact addFunction_taken (taken.resolve_right fun ⟨_, named⟩ => unnamed named)

theorem registerFunction_free (ready : session.phase = .ready) {descriptor : FunctionDescriptor}
    (free : ¬ session.Taken (.name FunctionRegistry.globalSpace descriptor.name))
    (function : registration.function? = some (FunctionRegistry.globalSpace, descriptor))
    (untyped : registration.type? = none) :
    ∃ later, registerFunction descriptor session = .ok () later ∧
      session.Gains registration later := by
  obtain ⟨unknown, unnamed⟩ := not_or.mp free
  rw [registerFunction_eq ready, if_neg fun named => unnamed ⟨rfl, named⟩]
  exact addFunction_free (Bool.eq_false_of_not_eq_true unknown) function untyped

theorem register_misplaced (ready : session.phase = .ready) {space : String}
    (misplaced : Name.isIdentifier space = false) (descriptor : FunctionDescriptor) :
    register (.moduleFunction space descriptor) session =
      .error (.invalidState ("'" ++ space ++ "' is not a valid module name")) session := by
  have elsewhere : space ≠ FunctionRegistry.globalSpace := by
    rintro rfl
    cases misplaced
  change registerModuleFunction space descriptor session = _
  rw [registerModuleFunction_eq ready elsewhere, if_neg (Bool.eq_false_iff.mp misplaced)]

theorem register_taken (ready : session.phase = .ready) (placed : registration.WellPlaced)
    {title : Title} (member : title ∈ registration.titles) (taken : session.Taken title) :
    register registration session = .error registration.duplicate session := by
  cases registration with
  | type descriptor =>
      have failed : registerType descriptor session =
          .error (.duplicateType descriptor.name) session := by
        rw [registerType_eq ready]
        split
        · rfl
        · rename_i unknown
          have duplicate : session.types.containsName descriptor.name = true ∨
              (session.types.idOf? descriptor.type).isSome = true := by
            rcases List.mem_pair.mp member with rfl | rfl
            · exact .inl (taken.resolve_left unknown).2
            · exact .inr taken
          rw [TypeRegistry.register_taken duplicate]
      change (registerType descriptor >>= _ : Action Unit) session = _
      rw [bind_apply, failed]
      rfl
  | function descriptor =>
      obtain rfl := List.mem_singleton.mp member
      exact registerFunction_taken ready taken
  | moduleFunction space descriptor =>
      obtain rfl := List.mem_singleton.mp member
      change registerModuleFunction space descriptor session = _
      by_cases global : space = FunctionRegistry.globalSpace
      · subst global
        rw [registerModuleFunction, if_pos rfl]
        exact registerFunction_taken ready taken
      · have identifier : Name.isIdentifier space = true := placed
        rw [registerModuleFunction_eq ready global, if_pos identifier]
        exact addFunction_taken (taken.resolve_right fun ⟨same, _⟩ => global same)

theorem registerType_free (ready : session.phase = .ready) {descriptor : TypeDescriptor}
    (free : ∀ title ∈ (Registration.type descriptor).titles, ¬ session.Taken title) :
    registerType descriptor session = .ok session.types.size
      { session with types := ⟨session.types.types.push descriptor⟩ } := by
  obtain ⟨unknown, unnamed⟩ := not_or.mp (free _ List.mem_cons_self)
  have new := free _ (List.mem_cons_of_mem _ (List.mem_singleton_self _))
  have registered := TypeRegistry.register_free
    (Bool.eq_false_of_not_eq_true fun named => unnamed ⟨rfl, named⟩)
    (Bool.eq_false_of_not_eq_true new)
  rw [registerType_eq ready, if_neg unknown, registered]

theorem register_free (ready : session.phase = .ready) (placed : registration.WellPlaced)
    (free : ∀ title ∈ registration.titles, ¬ session.Taken title) :
    ∃ later, register registration session = .ok () later ∧
      session.Gains registration later := by
  cases registration with
  | type descriptor =>
      refine ⟨{ session with types := ⟨session.types.types.push descriptor⟩ }, ?_, ?_, ?_, rfl⟩
      · change (registerType descriptor >>= _ : Action Unit) session = _
        rw [bind_apply, registerType_free ready free]
        rfl
      · exact Array.toList_push
      · exact (List.append_nil _).symm
  | function descriptor =>
      exact registerFunction_free ready (free _ (List.mem_singleton_self _)) rfl rfl
  | moduleFunction space descriptor =>
      have untaken := free _ (List.mem_singleton_self _)
      change ∃ later, registerModuleFunction space descriptor session = _ ∧ _
      by_cases global : space = FunctionRegistry.globalSpace
      · subst global
        rw [registerModuleFunction, if_pos rfl]
        exact registerFunction_free ready untaken rfl rfl
      · have identifier : Name.isIdentifier space = true := placed
        rw [registerModuleFunction_eq ready global, if_pos identifier]
        exact addFunction_free (Bool.eq_false_of_not_eq_true fun known => untaken (.inl known))
          rfl rfl

/-! ### The registrations that have succeeded -/

/-- Those that succeed one after the other, up to the first that fails. -/
def accepted (session : Session) : List Registration → List Registration
  | [] => []
  | registration :: rest =>
      match register registration session with
      | .ok _ later => registration :: later.accepted rest
      | .error _ _ => []

def Operation.registrations : Operation → List Registration
  | register registration => [registration]
  | install extension => extension
  | _ => []

def registered (session : Session) : List Operation → List Registration
  | [] => []
  | operation :: rest =>
      session.accepted operation.registrations ++ (session.perform operation).2.registered rest

theorem registered_append (session : Session) (first second : List Operation) :
    session.registered (first ++ second) =
      session.registered first ++ (session.after first).registered second := by
  induction first generalizing session with
  | nil => rfl
  | cons operation rest ih =>
      rw [List.cons_append, registered, registered, ih, List.append_assoc]
      rfl

theorem mem_of_accepted {registrations : List Registration}
    (member : registration ∈ session.accepted registrations) : registration ∈ registrations := by
  induction registrations generalizing session with
  | nil => cases member
  | cons first rest ih =>
      unfold accepted at member
      split at member
      · rcases List.mem_cons.mp member with rfl | later
        · exact List.mem_cons_self
        · exact List.mem_cons_of_mem _ (ih later)
      · cases member

theorem mem_registrations {operations : List Operation}
    (member : registration ∈ session.registered operations) :
    ∃ operation ∈ operations, registration ∈ operation.registrations := by
  induction operations generalizing session with
  | nil => cases member
  | cons operation rest ih =>
      rcases List.mem_append.mp member with now | later
      · exact ⟨operation, List.mem_cons_self, mem_of_accepted now⟩
      · obtain ⟨other, known, brings⟩ := ih later
        exact ⟨other, List.mem_cons_of_mem _ known, brings⟩

theorem registered_subset {operations : List Operation} {extension : Extension}
    (only : ∀ operation ∈ operations, operation.registrations ⊆ extension) :
    session.registered operations ⊆ extension := by
  intro registration member
  obtain ⟨operation, known, brings⟩ := mem_registrations member
  exact only operation known brings

theorem mem_registered {earlier : List Operation} {reply : Reply}
    (succeeded : ((session.after earlier).perform (.register registration)).1 = .ok reply)
    (rest : List Operation) :
    registration ∈ session.registered (earlier ++ .register registration :: rest) := by
  have accepts : (session.after earlier).accepted [registration] = [registration] := by
    unfold accepted
    cases ended : register registration (session.after earlier) with
    | ok _ later => rfl
    | error fault later =>
        rw [perform_done_error rfl ended] at succeeded
        cases succeeded
  rw [registered_append, registered, Operation.registrations, accepts]
  exact List.mem_append_right _ List.mem_cons_self

/-- The registries hold what a log has, where nothing has been taken twice. -/
structure Recorded (log : List Registration) (session : Session) : Prop where
  types : session.types.types.toList = log.filterMap Registration.type?
  functions : session.functions.functions.toList = log.filterMap Registration.function?
  once : (log.flatMap Registration.titles).Nodup

namespace Recorded

theorem taken_iff (recorded : Recorded log session) {title : Title} :
    session.Taken title ↔ title ∈ log.flatMap Registration.titles := by
  rw [List.mem_flatMap]
  cases title with
  | name space name =>
      simp only [Taken, FunctionRegistry.contains_iff, TypeRegistry.containsName_iff,
        recorded.types, recorded.functions, List.mem_filterMap,
        Registration.name_mem_titles_iff]
      grind
  | host type =>
      simp only [Taken, TypeRegistry.isSome_idOf?_iff, recorded.types, List.mem_filterMap,
        Registration.host_mem_titles_iff]
      grind

theorem gains (recorded : Recorded log session)
    (free : ∀ title ∈ registration.titles, ¬ session.Taken title)
    (gained : session.Gains registration later) : Recorded (log ++ [registration]) later := by
  refine ⟨?_, ?_, ?_⟩
  · rw [gained.types, recorded.types, List.filterMap_append]
    cases registration <;> rfl
  · rw [gained.functions, recorded.functions, List.filterMap_append]
    cases registration <;> rfl
  · rw [List.flatMap_append, List.flatMap_singleton]
    apply List.Nodup.append recorded.once registration.nodup_titles
    intro title known member
    exact free title member (recorded.taken_iff.mpr known)

/-- A registration fails and changes nothing, or it is the next one of the log. -/
theorem register (recorded : Recorded log session) (registration : Registration) :
    (∃ fault, Session.register registration session = .error fault session) ∨
      ∃ later, Session.register registration session = .ok () later ∧
        Recorded (log ++ [registration]) later := by
  by_cases ready : session.phase = .ready
  · by_cases placed : registration.WellPlaced
    · by_cases free : ∀ title ∈ registration.titles, ¬ session.Taken title
      · obtain ⟨later, ended, gained⟩ := register_free ready placed free
        exact .inr ⟨later, ended, recorded.gains free gained⟩
      · push Not at free
        obtain ⟨title, member, taken⟩ := free
        exact .inl ⟨_, register_taken ready placed member taken⟩
    · cases registration with
      | type descriptor => exact absurd trivial placed
      | function descriptor => exact absurd trivial placed
      | moduleFunction space descriptor =>
          exact .inl ⟨_, register_misplaced ready (Bool.eq_false_of_not_eq_true placed) _⟩
  · exact .inl ⟨_, refuses_register registration session ready⟩

theorem forM (recorded : Recorded log session) (registrations : List Registration) :
    Leads (Recorded (log ++ session.accepted registrations))
      (registrations.forM Session.register) (fun _ _ => True) session := by
  induction registrations generalizing session log with
  | nil =>
      rw [accepted, List.append_nil]
      exact ⟨recorded, trivial⟩
  | cons registration rest ih =>
      change Leads _ (Session.register registration >>= fun _ => rest.forM Session.register) _ _
      unfold Leads
      rw [bind_apply, accepted]
      rcases recorded.register registration with ⟨fault, failed⟩ | ⟨later, ended, recordedLater⟩
      · rw [failed]
        dsimp only
        rw [List.append_nil]
        exact recorded
      · rw [ended]
        have leads := ih recordedLater
        rw [List.append_assoc] at leads
        exact leads

theorem congr (recorded : Recorded log session)
    (same : later.types = session.types ∧ later.functions = session.functions) :
    Recorded log later := by
  obtain ⟨types, functions⟩ := same
  exact ⟨types ▸ recorded.types, functions ▸ recorded.functions, recorded.once⟩

theorem forM_free {registrations : List Registration} (recorded : Recorded log session)
    (ready : session.phase = .ready)
    (placed : ∀ registration ∈ registrations, registration.WellPlaced)
    (once : ((log ++ registrations).flatMap Registration.titles).Nodup) :
    ∃ types functions, registrations.forM Session.register session =
      .ok ⟨⟩ { session with types := types, functions := functions } := by
  induction registrations generalizing session log with
  | nil => exact ⟨session.types, session.functions, rfl⟩
  | cons registration rest ih =>
      have free : ∀ title ∈ registration.titles, ¬ session.Taken title := by
        intro title member taken
        rw [List.flatMap_append, List.flatMap_cons] at once
        exact List.disjoint_of_nodup_append once (recorded.taken_iff.mp taken)
          (List.mem_append_left _ member)
      obtain ⟨later, ended, gained⟩ :=
        register_free ready (placed registration List.mem_cons_self) free
      have readyLater : later.phase = .ready := by
        rw [gained.rest]
        exact ready
      rw [List.append_cons] at once
      obtain ⟨types, functions, rest_ended⟩ := ih (recorded.gains free gained) readyLater
        (fun other member => placed other (List.mem_cons_of_mem _ member)) once
      refine ⟨types, functions, ?_⟩
      change (Session.register registration >>= fun _ => rest.forM Session.register) session = _
      rw [bind_apply, ended]
      dsimp only
      rw [rest_ended, gained.rest]

end Recorded

theorem accepted_unready (unready : session.phase ≠ .ready) (registrations : List Registration) :
    session.accepted registrations = [] := by
  cases registrations with
  | nil => rfl
  | cons registration rest => rw [accepted, refuses_register registration session unready]

theorem registries_perform (session : Session) {operation : Operation}
    (isStable : operation.IsStable) :
    (session.perform operation).2.types = session.types ∧
      (session.perform operation).2.functions = session.functions := by
  have stable : Stable fun later =>
      later.types = session.types ∧ later.functions = session.functions :=
    ⟨⟨fun kept => kept, fun kept => kept⟩, fun kept => kept⟩
  exact (perform_of_leads (stable.perform_keeps isStable session ⟨rfl, rfl⟩)).1

namespace Recorded

theorem install (recorded : Recorded log session) (extension : Extension) :
    Leads (Recorded (log ++ session.accepted extension)) (Session.install extension)
      (fun _ _ => True) session := by
  by_cases ready : session.phase = .ready
  · unfold Leads Session.install
    rw [whenReady_eq ready]
    exact recorded.forM extension
  · unfold Leads Session.install
    rw [refuses_whenReady _ session ready, accepted_unready ready, List.append_nil]
    exact recorded

theorem perform (recorded : Recorded log session) (operation : Operation) :
    Recorded (log ++ session.accepted operation.registrations) (session.perform operation).2 := by
  have finished {action : Action Unit} {inv : Session → Prop}
      (leads : Leads inv action (fun _ _ => True) session) :
      Leads inv (done action) (fun _ _ => True) session :=
    leads.bind fun _ _ kept _ => Leads.of_ok kept trivial
  have unchanged {later : Session}
      (same : later.types = session.types ∧ later.functions = session.functions) :
      Recorded (log ++ []) later := by
    rw [List.append_nil]
    exact recorded.congr same
  cases operation with
  | start => exact unchanged (registries_start session)
  | teardown => exact unchanged (registries_teardown session)
  | register registration =>
      have leads := recorded.forM [registration]
      have single : [registration].forM Session.register = Session.register registration :=
        bind_pure_unit
      rw [single] at leads
      exact (perform_of_leads (finished leads)).1
  | install extension =>
      exact (perform_of_leads (finished (recorded.install extension))).1
  | _ => exact unchanged (registries_perform session trivial)

theorem after (recorded : Recorded log session) (operations : List Operation) :
    Recorded (log ++ session.registered operations) (session.after operations) := by
  induction operations generalizing session log with
  | nil =>
      rw [registered, List.append_nil]
      exact recorded
  | cons operation rest ih =>
      rw [registered, ← List.append_assoc]
      exact ih (recorded.perform operation)

end Recorded

theorem recorded_create (configuration : Configuration) : Recorded [] (create configuration) :=
  ⟨rfl, rfl, List.nodup_nil⟩

/-! ### What is found -/

section

variable {α β : Type} {items : Array α} {key : α → β}

theorem titles_sublist {select : Registration → Option α} {title : α → Title}
    (takes : ∀ registration item, select registration = some item →
      title item ∈ registration.titles) (log : List Registration) :
    ((log.filterMap select).map title).Sublist (log.flatMap Registration.titles) := by
  induction log with
  | nil => exact List.Sublist.slnil
  | cons registration rest ih =>
      rw [List.flatMap_cons, List.filterMap_cons]
      cases selected : select registration with
      | none => exact ih.trans (List.sublist_append_right _ _)
      | some item =>
          have taken := List.singleton_sublist.mpr (takes registration item selected)
          exact taken.append ih

variable [BEq β] [LawfulBEq β] {wanted : β}

theorem findIdx?_key_iff (once : (items.toList.map key).Nodup) {index : Nat} :
    items.findIdx? (fun item => key item == wanted) = some index ↔
      ∃ item, items[index]? = some item ∧ key item = wanted := by
  rw [Array.findIdx?_eq_some_iff_getElem]
  constructor
  · rintro ⟨bound, same, _⟩
    exact ⟨items[index], Array.getElem?_eq_getElem bound, beq_iff_eq.mp same⟩
  · rintro ⟨item, found, rfl⟩
    obtain ⟨bound, rfl⟩ := Array.getElem?_eq_some_iff.mp found
    refine ⟨bound, beq_self_eq_true _, fun earlier before same => ?_⟩
    have places := @List.Nodup.getElem_inj_iff _ _ once earlier (by simp; omega) index
      (by simpa using bound)
    have equal : earlier = index := places.mp (by simpa using same)
    exact absurd equal (Nat.ne_of_lt before)

theorem find?_key_iff (once : (items.toList.map key).Nodup) {item : α} :
    items.find? (fun item => key item == wanted) = some item ↔
      item ∈ items.toList ∧ key item = wanted := by
  have sound {other : α} (found : items.find? (fun item => key item == wanted) = some other) :
      other ∈ items.toList ∧ key other = wanted := by
    have accepted := Array.find?_some found
    exact ⟨Array.mem_toList_iff.mpr (Array.mem_of_find?_eq_some found), beq_iff_eq.mp accepted⟩
  constructor
  · exact sound
  · rintro ⟨member, same⟩
    have present : (items.find? fun item => key item == wanted).isSome = true :=
      Array.find?_isSome.mpr ⟨item, Array.mem_toList_iff.mp member, beq_iff_eq.mpr same⟩
    obtain ⟨other, found⟩ := Option.isSome_iff_exists.mp present
    obtain ⟨known, alike⟩ := sound found
    rw [found, List.inj_on_of_nodup_map once known member (alike.trans same.symm)]

end

namespace Recorded

theorem nodup_names (recorded : Recorded log session) :
    (session.types.types.toList.map TypeDescriptor.name).Nodup := by
  rw [recorded.types]
  apply List.Nodup.of_map (Title.name FunctionRegistry.globalSpace)
  rw [List.map_map]
  refine (titles_sublist ?_ log).nodup recorded.once
  intro registration descriptor found
  exact Registration.name_mem_titles_iff.mpr (.inr ⟨rfl, descriptor, found, rfl⟩)

theorem nodup_hosts (recorded : Recorded log session) :
    (session.types.types.toList.map TypeDescriptor.type).Nodup := by
  rw [recorded.types]
  apply List.Nodup.of_map Title.host
  rw [List.map_map]
  refine (titles_sublist ?_ log).nodup recorded.once
  intro registration descriptor found
  exact Registration.host_mem_titles_iff.mpr ⟨descriptor, found, rfl⟩

theorem nodup_places (recorded : Recorded log session) :
    (session.functions.functions.toList.map fun entry => (entry.1, entry.2.name)).Nodup := by
  rw [recorded.functions]
  apply List.Nodup.of_map fun place => Title.name place.1 place.2
  rw [List.map_map]
  refine (titles_sublist ?_ log).nodup recorded.once
  rintro registration ⟨space, function⟩ found
  exact Registration.name_mem_titles_iff.mpr (.inl ⟨function, found, rfl⟩)

theorem idOfName?_iff (recorded : Recorded log session) {name : String} {typeId : TypeId} :
    session.types.idOfName? name = some typeId ↔
      ∃ descriptor, (log.filterMap Registration.type?)[typeId]? = some descriptor ∧
        descriptor.name = name := by
  rw [← recorded.types]
  simp only [Array.getElem?_toList]
  exact findIdx?_key_iff recorded.nodup_names

theorem idOf?_iff (recorded : Recorded log session) {type : HostType} {typeId : TypeId} :
    session.types.idOf? type = some typeId ↔
      ∃ descriptor, (log.filterMap Registration.type?)[typeId]? = some descriptor ∧
        descriptor.type = type := by
  rw [← recorded.types]
  simp only [Array.getElem?_toList]
  exact findIdx?_key_iff recorded.nodup_hosts

theorem find?_iff (recorded : Recorded log session) {space name : String}
    {function : FunctionDescriptor} :
    session.functions.find? space name = some function ↔
      (space, function) ∈ log.filterMap Registration.function? ∧ function.name = name := by
  have found := @find?_key_iff _ _ session.functions.functions
    (fun entry => (entry.1, entry.2.name)) _ _ (space, name) recorded.nodup_places
  rw [← recorded.functions, FunctionRegistry.find?, Option.map_eq_some_iff]
  constructor
  · rintro ⟨⟨other, _⟩, known, rfl⟩
    obtain ⟨member, same⟩ := found.mp known
    obtain ⟨rfl, named⟩ := Prod.mk.inj same
    exact ⟨member, named⟩
  · rintro ⟨member, rfl⟩
    exact ⟨(space, function), found.mpr ⟨member, rfl⟩, rfl⟩

theorem apart (recorded : Recorded log session) : Apart session.types session.functions := by
  obtain ⟨_, disjoint⟩ := List.nodup_flatMap.mp recorded.once
  intro name named
  rw [Bool.eq_false_iff]
  intro known
  obtain ⟨descriptor, member, sameName⟩ := TypeRegistry.containsName_iff.mp named
  obtain ⟨function, present, rfl⟩ := FunctionRegistry.contains_iff.mp known
  rw [recorded.types] at member
  rw [recorded.functions] at present
  obtain ⟨first, firstKnown, isType⟩ := List.mem_filterMap.mp member
  obtain ⟨second, secondKnown, isFunction⟩ := List.mem_filterMap.mp present
  have different : first ≠ second := by
    rintro rfl
    cases first with
    | type descriptor => cases isFunction
    | function descriptor => cases isType
    | moduleFunction space descriptor => cases isType
  have symmetric : Std.Symm (Function.onFun List.Disjoint Registration.titles) :=
    ⟨fun _ _ apart => apart.symm⟩
  exact disjoint.forall firstKnown secondKnown different
    (Registration.name_mem_titles_iff.mpr (.inr ⟨rfl, descriptor, isType, sameName⟩))
    (Registration.name_mem_titles_iff.mpr (.inl ⟨function, isFunction, rfl⟩))

theorem counted (recorded : Recorded log session) :
    session.statistics.types = (log.filterMap Registration.type?).length ∧
      session.statistics.functions = (log.filterMap Registration.function?).length := by
  rw [← recorded.types, ← recorded.functions]
  exact ⟨Array.length_toList.symm, Array.length_toList.symm⟩

end Recorded

/-- What is looked up in the registries, and what a log has. Types are numbered in its order. -/
structure Coherent (log : List Registration) (session : Session) : Prop where
  described : ∀ typeId descriptor, session.types.get typeId = .ok descriptor ↔
    (log.filterMap Registration.type?)[typeId]? = some descriptor
  named : ∀ name typeId, session.types.idOfName? name = some typeId ↔
    ∃ descriptor, (log.filterMap Registration.type?)[typeId]? = some descriptor ∧
      descriptor.name = name
  hosted : ∀ type typeId, session.types.idOf? type = some typeId ↔
    ∃ descriptor, (log.filterMap Registration.type?)[typeId]? = some descriptor ∧
      descriptor.type = type
  found : ∀ space name function, session.functions.find? space name = some function ↔
    (space, function) ∈ log.filterMap Registration.function? ∧ function.name = name
  apart : Apart session.types session.functions
  typeCount : session.statistics.types = (log.filterMap Registration.type?).length
  functionCount : session.statistics.functions = (log.filterMap Registration.function?).length

theorem Recorded.coherent (recorded : Recorded log session) : session.Coherent log where
  described := by
    intro typeId descriptor
    rw [← recorded.types, Array.getElem?_toList, TypeRegistry.get]
    cases session.types.types[typeId]? <;> simp
  named _ _ := recorded.idOfName?_iff
  hosted _ _ := recorded.idOf?_iff
  found _ _ _ := recorded.find?_iff
  apart := recorded.apart
  typeCount := recorded.counted.1
  functionCount := recorded.counted.2

/-- A registration fails if it has no proper place, or if one of its titles is taken, and then it
changes nothing. Otherwise it is the next one of the log, and a type gets the next number. -/
structure Answers (log : List Registration) (session : Session) (registration : Registration) :
    Prop where
  misplaced : ∀ space function, registration = .moduleFunction space function →
    Name.isIdentifier space = false → session.perform (.register registration) =
      (.error (.invalidState ("'" ++ space ++ "' is not a valid module name")), session)
  taken : registration.WellPlaced →
    (∃ title ∈ registration.titles, title ∈ log.flatMap Registration.titles) →
      session.perform (.register registration) = (.error registration.duplicate, session)
  free : registration.WellPlaced →
    (∀ title ∈ registration.titles, title ∉ log.flatMap Registration.titles) →
      ∃ later, session.perform (.register registration) = (.ok .done, later) ∧
        session.Gains registration later ∧ later.Coherent (log ++ [registration])
  numbered : ∀ descriptor typeId later, registration = .type descriptor →
    registerType descriptor session = .ok typeId later →
      typeId = (log.filterMap Registration.type?).length ∧
        later.types.get typeId = .ok descriptor

theorem Recorded.answers (recorded : Recorded log session) (ready : session.phase = .ready)
    (registration : Registration) : session.Answers log registration := by
  refine ⟨?_, fun placed ⟨title, member, known⟩ => ?_, fun placed untaken => ?_, ?_⟩
  · rintro space function rfl misplaced
    exact perform_done_error rfl (register_misplaced ready misplaced function)
  · exact perform_done_error rfl
      (register_taken ready placed member (recorded.taken_iff.mpr known))
  · have free : ∀ title ∈ registration.titles, ¬ session.Taken title :=
      fun title member taken => untaken title member (recorded.taken_iff.mp taken)
    obtain ⟨later, ended, gained⟩ := register_free ready placed free
    exact ⟨later, perform_done_ok rfl ended, gained, (recorded.gains free gained).coherent⟩
  · rintro descriptor typeId later rfl ended
    have free : ∀ title ∈ (Registration.type descriptor).titles, ¬ session.Taken title := by
      intro title member taken
      have failed := @register_taken session (.type descriptor) ready trivial _ member taken
      change (registerType descriptor >>= _ : Action Unit) session = _ at failed
      rw [bind_apply, ended] at failed
      cases failed
    have counted := recorded.counted.1
    rw [registerType_free ready free] at ended
    cases ended
    refine ⟨counted, ?_⟩
    unfold TypeRegistry.get TypeRegistry.size
    rw [Array.getElem?_push_size]

/-- Whatever has been done with a session, failed registrations included, its registries have just
the registrations that have succeeded; and as long as it is ready, each further registration is
judged by these. -/
theorem registries_are_coherent (configuration : Configuration) (operations : List Operation) :
    let session := (create configuration).after operations
    let log := (create configuration).registered operations
    session.Coherent log ∧
      (session.phase = .ready → ∀ registration, session.Answers log registration) := by
  intro session log
  have recorded : Recorded log session := (recorded_create configuration).after operations
  exact ⟨recorded.coherent, recorded.answers⟩

def namesake : FunctionDescriptor :=
  ⟨"Token", .fixed [], fun _ => .done (.text "token")⟩

/-- A type keeps its name, which a function in a module can have as well. -/
theorem token_keeps_its_name :
    hosting.phase = .ready ∧
      hosting.perform (.register (.function namesake)) =
        (.error (.duplicateFunction FunctionRegistry.globalSpace "Token"), hosting) ∧
      ∃ later,
        hosting.perform (.register (.moduleFunction "tools" namesake)) = (.ok .done, later) ∧
          later.functions.find? "tools" "Token" = some namesake := by
  have ready : hosting.phase = .ready := by decide +kernel
  obtain ⟨_, answers⟩ := registries_are_coherent .standard [.start,
    .register (.type ⟨"Token", token, [⟨[], fun _ => .done ()⟩], [], [], [], none⟩)]
  have taken := (answers ready (.function namesake)).taken trivial
    ⟨_, List.mem_singleton_self _, by decide +kernel⟩
  have placed : Name.isIdentifier "tools" = true := by decide +kernel
  obtain ⟨later, ended, _, coherent⟩ :=
    (answers ready (.moduleFunction "tools" namesake)).free placed (by decide +kernel)
  have found := (coherent.found "tools" "Token" namesake).mpr
    ⟨by simp [Registration.function?], rfl⟩
  exact ⟨ready, taken, later, ended, found⟩

end Session
end ScriptHost
