import ScriptHost.Proofs.Extension.Math
import ScriptHost.Proofs.Native.Renumbering
import ScriptHost.Proofs.Native.Temporaries

/-!
Vectors in the heap.

The vectors in the heap stay finite, since nothing else is inserted and nothing else is stored. A
body that is given vectors and numbers ends well, or it fails with a fault of domain before it has
allocated anything, so then the store is what the collection has left of it.
-/

set_option autoImplicit false

namespace ScriptHost

open Extension.Math Script

theorem Heap.replace_held {α : Type} {heap : Heap α} {handle : Handle} {content : α}
    (found : heap.content? handle = some content) : heap.replace handle content = heap := by
  obtain ⟨resident, resides, rfl⟩ := content?_eq_some_iff.mp found
  have slots : (heap.replace handle resident.content).slots = heap.slots := by
    unfold replace
    rw [alter_slots resides]
    apply Array.ext_getElem?
    intro index
    rw [Array.getElem?_modify]
    split
    · rename_i same
      rw [← same, resident?_eq_some_iff.mp resides]
      rfl
    · rfl
  have free : (heap.replace handle resident.content).free = heap.free := alter_free _ _ _
  have live : (heap.replace handle resident.content).live = heap.live := alter_live _ _ _
  have released : (heap.replace handle resident.content).released = heap.released :=
    alter_released _ _ _
  generalize heap.replace handle resident.content = after at slots free live released
  obtain ⟨_, _, _, _⟩ := after
  obtain ⟨_, _, _, _⟩ := heap
  subst slots free live released
  rfl

/-- The vector that is live under a handle. -/
def Heap.vector? (heap : Heap Occupant) (handle : Handle) : Option Vector3 :=
  (heap.content? handle).bind fun occupant => occupant.body.as? vectorType

def Instance.HoldsFinite (body : Instance) : Prop :=
  ∀ vector : Vector3, body.as? vectorType = some vector → vector.Finite

structure Heap.FiniteVectors (heap : Heap Occupant) : Prop where
  regular : heap.Regular
  finite : ∀ handle vector, heap.vector? handle = some vector → vector.Finite

/-- To insert finite vectors only, whatever is drawn. -/
def Conduct.finite : Conduct := ⟨Instance.HoldsFinite, fun _ => True⟩

theorem Instance.as?_self (vector : Vector3) :
    (⟨vectorType, vector⟩ : Instance).as? vectorType = some vector :=
  dif_pos rfl

theorem Instance.holdsFinite_iff {vector : Vector3} :
    HoldsFinite ⟨vectorType, vector⟩ ↔ vector.Finite := by
  constructor
  · exact fun holds => holds vector (as?_self vector)
  · intro isFinite other same
    rw [as?_self] at same
    cases same
    exact isFinite

namespace Heap.FiniteVectors

variable {heap : Heap Occupant} (vectors : heap.FiniteVectors)

include vectors

theorem sound {handle : Handle} {occupant : Occupant}
    (found : heap.content? handle = some occupant) : occupant.body.HoldsFinite := by
  intro vector held
  apply vectors.finite handle
  unfold vector?
  rw [found]
  exact held

omit vectors in
theorem of_sound (regular : heap.Regular)
    (sound : ∀ {handle occupant}, heap.content? handle = some occupant →
      occupant.body.HoldsFinite) : heap.FiniteVectors := by
  refine ⟨regular, fun handle vector found => ?_⟩
  obtain ⟨occupant, there, held⟩ := Option.bind_eq_some_iff.mp found
  exact sound there vector held

omit vectors in
theorem empty : FiniteVectors .empty := by
  refine .of_sound Heap.regular_empty fun {handle occupant} found => ?_
  have none : (Heap.empty : Heap Occupant).content? handle = none := rfl
  rw [none] at found
  cases found

theorem clear : heap.clear.FiniteVectors := by
  refine .of_sound (Heap.lasting_regular.enduring.clear vectors.regular) fun found => ?_
  rw [Heap.content?, Heap.resident?_clear vectors.regular] at found
  cases found

end Heap.FiniteVectors

theorem Conduct.upholds_finite : Conduct.finite.Upholds fun store => store.heap.FiniteVectors where
  sound vectors found := vectors.sound found
  rests same vectors := by
    refine .of_sound (vectors.regular.of_bare same) fun found => ?_
    rw [Heap.content?_of_bare same] at found
    exact vectors.sound found
  inserts {store occupant} sound vectors := by
    refine .of_sound (vectors.regular.insert _ _) fun {handle other} found => ?_
    rw [Heap.content?, Heap.resident?_insert vectors.regular] at found
    split at found
    · cases found
      exact sound
    · exact vectors.sound found
  stores {store} handle {occupant} sound vectors := by
    refine .of_sound (vectors.regular.alter handle _) fun {other held} found => ?_
    unfold Heap.replace at found
    rw [Heap.content?, Heap.resident?_alter] at found
    split at found
    · obtain ⟨resident, found, same⟩ := Option.map_eq_some_iff.mp found
      obtain ⟨before, _, rfl⟩ := Option.map_eq_some_iff.mp found
      exact same ▸ sound
    · exact vectors.sound found
  removes {store} handle vectors := by
    refine .of_sound (vectors.regular.remove handle) fun {other held} found => ?_
    rw [Heap.content?, Heap.resident?_remove] at found
    split at found
    · cases found
    · exact vectors.sound found
  draws _ _ vectors := vectors

theorem yields_component (number : Float) :
    Yields (fun accepted => accepted.isFinite = true) (component (.number number)) := by
  unfold component
  dsimp only [HostValue.asNumber, bind, Except.bind]
  split
  · assumption
  · exact ⟨_, rfl⟩

theorem finite_of_component {value : HostValue} {number : Float}
    (accepted : component value = .ok number) : number.isFinite = true := by
  cases value with
  | number given => exact (yields_component given).of_ok accepted
  | _ => cases accepted

/-- To put a number into a vector leaves it finite if the number is. -/
def Puts (put : Vector3 → Float → Vector3) : Prop :=
  ∀ {vector : Vector3} {number : Float}, vector.Finite → number.isFinite = true →
    (put vector number).Finite

theorem puts_of_field {entry : String × Field vectorType} (member : entry ∈ fields) :
    ∃ read put, entry.2 = componentField read put ∧ Puts put := by
  simp only [fields, List.mem_cons, List.not_mem_nil, or_false] at member
  rcases member with rfl | rfl | rfl
  · exact ⟨_, _, rfl, fun vector number => ⟨number, vector.y, vector.z⟩⟩
  · exact ⟨_, _, rfl, fun vector number => ⟨vector.x, number, vector.z⟩⟩
  · exact ⟨_, _, rfl, fun vector number => ⟨vector.x, vector.y, number⟩⟩

theorem allows_finite : Allows Conduct.finite where
  made vector isFinite := Instance.holdsFinite_iff.mpr isFinite
  negated vector holds := Instance.holdsFinite_iff.mpr (Instance.holdsFinite_iff.mp holds).negate
  writes entry member write writes vector value holds := by
    obtain ⟨read, put, same, puts⟩ := puts_of_field member
    rw [same] at writes
    cases writes
    have isFinite := Instance.holdsFinite_iff.mp holds
    apply Instance.holdsFinite_iff.mpr
    dsimp only
    split
    · exact puts isFinite (finite_of_component ‹_›)
    · exact isFinite

/-! ### Bodies that are given vectors and numbers -/

structure Heap.HasVectors (types : TypeRegistry) (heap : Heap Occupant) : Prop where
  read : ∀ {handle vector}, heap.vector? handle = some vector →
    Call.read types vectorType handle heap = .ok vector
  recognised : ∀ {handle vector}, heap.vector? handle = some vector →
    Call.recognise types vectorType heap (.object handle) = true
  registered : ∀ {handle vector}, heap.vector? handle = some vector →
    ∃ typeId, types.idOf? vectorType = some typeId

theorem Heap.Typed.hasVectors {types : TypeRegistry} {heap : Heap Occupant}
    (typed : heap.Typed types) (distinct : types.Distinct) : heap.HasVectors types := by
  have known : ∀ {handle vector}, heap.vector? handle = some vector →
      ∃ resident, heap.resident? handle = some resident ∧
        types.idOf? vectorType = some resident.content.typeId ∧
        resident.content.body.as? vectorType = some vector := by
    intro handle vector found
    obtain ⟨occupant, there, held⟩ := Option.bind_eq_some_iff.mp found
    obtain ⟨resident, resides, rfl⟩ := content?_eq_some_iff.mp there
    obtain ⟨descriptor, known, sameType⟩ := typed.fits resides
    have isVector : descriptor.type = vectorType :=
      sameType.trans (congrArg Instance.type (Instance.eq_of_as? held))
    have hosted := distinct.idOf?_eq known
    rw [isVector] at hosted
    exact ⟨resident, resides, hosted, held⟩
  constructor
  · intro handle vector found
    obtain ⟨resident, resides, hosted, held⟩ := known found
    unfold Call.read
    rw [Heap.get_eq_ok_iff.mpr resides]
    change (if types.idOf? vectorType = some resident.content.typeId then _ else _) = _
    rw [if_pos hosted, held]
  · intro handle vector found
    obtain ⟨resident, resides, hosted, _⟩ := known found
    exact (Call.recognise_iff resides).mpr hosted
  · intro handle vector found
    obtain ⟨resident, _, hosted, _⟩ := known found
    exact ⟨resident.content.typeId, hosted⟩

namespace Extension.Math

/-- An argument of a kind: a number, or a vector in the heap. -/
inductive Suits (heap : Heap Occupant) : Kind → HostValue → Prop where
  | number (number : Float) : Suits heap .number (.number number)
  | vector {handle : Handle} {vector : Vector3} (live : heap.vector? handle = some vector) :
      Suits heap .object (.object handle)

/-- A body that is to do with vectors, on vectors in the heap and any numbers: a constructor, a
method or a setter of vectors, an operator on them, or the interpolation between two. -/
inductive OnVectors (heap : Heap Occupant) : Call.Entry → Prop where
  | construct {typeId : TypeId} {constructor : Constructor vectorType}
      {arguments : List HostValue} (member : constructor ∈ constructors)
      (suit : List.Forall₂ (Suits heap) constructor.parameters arguments) :
      OnVectors heap (.construct typeId vector constructor arguments)
  | method {receiver : Handle} {content : Vector3} {named : String × Method vectorType}
      {arguments : List HostValue} (live : heap.vector? receiver = some content)
      (member : named ∈ methods)
      (suit : List.Forall₂ (Suits heap) named.2.parameters arguments) :
      OnVectors heap (.method receiver vector named.2 content arguments)
  | write {owner : Handle} {typeId : TypeId} {content : Vector3} {number : Float}
      {named : String × Field vectorType}
      {change : Vector3 → HostValue → Vector3 × Except Fault Unit} (member : named ∈ fields)
      (writes : named.2.write? = some change)
      (live : heap.content? owner = some ⟨typeId, ⟨vectorType, content⟩⟩) :
      OnVectors heap (.write owner typeId vector change content (.number number))
  | unary {entry : OperatorEntry} {operand : HostValue} (member : entry ∈ operators)
      (alone : entry.right? = none) (suits : Suits heap entry.left operand) :
      OnVectors heap (.operator entry operand none)
  | binary {entry : OperatorEntry} {kind : Kind} {left right : HostValue}
      (member : entry ∈ operators) (declared : entry.right? = some kind)
      (first : Suits heap entry.left left) (second : Suits heap kind right) :
      OnVectors heap (.operator entry left (some right))
  | lerp {start finish : HostValue} {parameter : Float} (first : Suits heap .object start)
      (second : Suits heap .object finish) :
      OnVectors heap (.function functions[2] [start, finish, .number parameter])

/-- How such a body ends: with a finite result, with a finite vector allocated or stored, or with a
fault of domain and nothing done. -/
inductive Ends (state : CallState) : EStateM.Result Fault CallState HostValue → Prop where
  | number {number : Float} (isFinite : number.isFinite = true) :
      Ends state (.ok (.number number) state)
  | truth (answer : Bool) : Ends state (.ok (.boolean answer) state)
  | made {typeId : TypeId} {vector : Vector3} (isFinite : vector.Finite) :
      Ends state (.ok
        (.object (state.store.heap.insert ⟨typeId, ⟨vectorType, vector⟩⟩ false).1)
        ⟨⟨(state.store.heap.insert ⟨typeId, ⟨vectorType, vector⟩⟩ false).2,
          state.store.generator⟩,
          state.fresh.push (state.store.heap.insert ⟨typeId, ⟨vectorType, vector⟩⟩ false).1⟩)
  | written {owner : Handle} {typeId : TypeId} {vector : Vector3} (isFinite : vector.Finite) :
      Ends state (.ok .null ⟨⟨state.store.heap.replace owner ⟨typeId, ⟨vectorType, vector⟩⟩,
        state.store.generator⟩, state.fresh⟩)
  | refused (text : String) : Ends state (.error (.domain text) state)

section Bodies

variable {types : TypeRegistry} {state : CallState} {α : Type}

def Settles (types : TypeRegistry) (state : CallState) (routine : Routine HostValue) : Prop :=
  Ends state (Call.perform types routine state)

theorem settles_yields {meets : α → Prop} {result : Except Fault α}
    {rest : α → Routine HostValue} (yields : Yields meets result)
    (later : ∀ value, meets value → Settles types state (rest value)) :
    Settles types state (Routine.ofResult result >>= rest) := by
  cases result with
  | ok value => exact later value yields
  | error fault =>
      obtain ⟨text, rfl⟩ := yields
      exact .refused text

theorem settles_vectorOf {handle : Handle} {found : Vector3}
    {rest : Vector3 → Routine HostValue}
    (read : Call.read types vectorType handle state.store.heap = .ok found)
    (later : Settles types state (rest found)) :
    Settles types state (vectorOf (.object handle) >>= rest) := by
  have answered : Call.perform types (vectorOf (.object handle) >>= rest) state =
      Call.perform types ((Routine.ofResult
        (Call.read types vectorType handle state.store.heap)).bind rest) state := rfl
  unfold Settles
  rw [answered, read]
  exact later

theorem settles_isInstance {value : HostValue} {rest : Bool → Routine HostValue}
    (recognised : Call.recognise types vectorType state.store.heap value = true)
    (later : Settles types state (rest true)) :
    Settles types state (Routine.isInstance vectorType value >>= rest) := by
  have answered : Call.perform types (Routine.isInstance vectorType value >>= rest) state =
      Call.perform types (rest (Call.recognise types vectorType state.store.heap value)) state :=
    rfl
  unfold Settles
  rw [answered, recognised]
  exact later

theorem settles_newVector {made : Vector3} (isFinite : made.Finite)
    (registered : ∃ typeId, types.idOf? vectorType = some typeId) :
    Settles types state (newVector made) := by
  obtain ⟨typeId, known⟩ := registered
  have allocated : Call.allocate types vectorType made = .ok ⟨typeId, ⟨vectorType, made⟩⟩ := by
    unfold Call.allocate
    rw [known]
  unfold Settles newVector Routine.new Call.perform
  rw [allocated]
  exact .made isFinite

theorem settles_made {result : Except Fault Vector3} (yields : Yields Vector3.Finite result)
    (registered : ∃ typeId, types.idOf? vectorType = some typeId) :
    Settles types state (Routine.ofResult result >>= newVector) :=
  settles_yields yields fun _ isFinite => settles_newVector isFinite registered

variable (has : state.store.heap.HasVectors types)

include has

theorem settles_operand {value : HostValue} {rest : Vector3 → Routine HostValue}
    (suits : Suits state.store.heap .object value)
    (later : ∀ handle found, state.store.heap.vector? handle = some found →
      Settles types state (rest found)) :
    Settles types state (vectorOf value >>= rest) := by
  cases suits with
  | vector live => exact settles_vectorOf (has.read live) (later _ _ live)

theorem settles_method {named : String × Method vectorType} (member : named ∈ methods)
    {receiver : Handle} {content : Vector3}
    (live : state.store.heap.vector? receiver = some content) {arguments : List HostValue}
    (suit : List.Forall₂ (Suits state.store.heap) named.2.parameters arguments) :
    Settles types state (named.2.call content arguments) := by
  have registered := has.registered live
  simp only [methods, List.mem_cons, List.not_mem_nil, or_false] at member
  rcases member with rfl | rfl | rfl | rfl | rfl | rfl | rfl | rfl
  · exact settles_yields content.yields_length fun _ isFinite => .number isFinite
  · exact settles_yields content.yields_lengthSquared fun _ isFinite => .number isFinite
  · exact settles_made content.yields_normalize registered
  · obtain _ | ⟨first, _ | _⟩ := suit
    exact settles_operand has first fun _ other _ =>
      settles_yields (content.yields_dot other) fun _ isFinite => .number isFinite
  · obtain _ | ⟨first, _ | _⟩ := suit
    exact settles_operand has first fun _ other _ =>
      settles_made (content.yields_cross other) registered
  · obtain _ | ⟨first, _ | _⟩ := suit
    exact settles_operand has first fun _ other _ =>
      settles_yields (content.yields_distance other) fun _ isFinite => .number isFinite
  · obtain _ | ⟨first, _ | ⟨⟨angle⟩, _ | _⟩⟩ := suit
    exact settles_operand has first fun _ axis _ =>
      settles_made (content.yields_rotated axis angle) registered
  · obtain _ | ⟨first, _ | ⟨⟨parameter⟩, _ | _⟩⟩ := suit
    exact settles_operand has first fun _ finish _ =>
      settles_made (content.yields_lerp finish parameter) registered

theorem settles_unary (vectors : state.store.heap.FiniteVectors) {entry : OperatorEntry}
    (member : entry ∈ operators) (alone : entry.right? = none) {operand : HostValue}
    (suits : Suits state.store.heap entry.left operand) (right : HostValue) :
    Settles types state (entry.apply operand right) := by
  simp only [operators, List.mem_cons, List.not_mem_nil, or_false] at member
  rcases member with rfl | rfl | rfl | rfl | rfl | rfl | rfl | rfl
  case inr.inr.inr.inr.inr.inr.inr =>
    exact settles_operand has suits fun handle found live =>
      settles_newVector (vectors.finite handle found live).negate (has.registered live)
  all_goals cases alone

theorem settles_binary {entry : OperatorEntry} (member : entry ∈ operators) {kind : Kind}
    (declared : entry.right? = some kind) {left right : HostValue}
    (first : Suits state.store.heap entry.left left) (second : Suits state.store.heap kind right) :
    Settles types state (entry.apply left right) := by
  have both {compute : Vector3 → Vector3 → Except Fault Vector3}
      (yields : ∀ left right, Yields Vector3.Finite (compute left right))
      (first : Suits state.store.heap .object left)
      (second : Suits state.store.heap .object right) :
      Settles types state ((between .add compute).apply left right) :=
    settles_operand has first fun _ left live => settles_operand has second fun _ right _ =>
      settles_made (yields left right) (has.registered live)
  have scaled {compute : Vector3 → Float → Except Fault Vector3}
      (yields : ∀ left number, Yields Vector3.Finite (compute left number))
      (first : Suits state.store.heap .object left)
      (second : Suits state.store.heap .number right) :
      Settles types state ((byNumber .multiply compute).apply left right) := by
    obtain ⟨number⟩ := second
    exact settles_operand has first fun _ vector live =>
      settles_made (yields vector number) (has.registered live)
  have compared {compute : Vector3 → Vector3 → Bool}
      (first : Suits state.store.heap .object left)
      (second : Suits state.store.heap .object right) :
      Settles types state ((comparison .equal compute).apply left right) :=
    settles_operand has first fun _ left _ => settles_operand has second fun _ right _ =>
      .truth (compute left right)
  simp only [operators, List.mem_cons, List.not_mem_nil, or_false] at member
  rcases member with rfl | rfl | rfl | rfl | rfl | rfl | rfl | rfl
  · cases declared
    exact both Vector3.yields_add first second
  · cases declared
    exact both Vector3.yields_subtract first second
  · cases declared
    exact scaled Vector3.yields_scale first second
  · cases declared
    obtain ⟨factor⟩ := first
    exact settles_operand has second fun _ vector live =>
      settles_made (vector.yields_scale factor) (has.registered live)
  · cases declared
    exact scaled Vector3.yields_divide first second
  · cases declared
    exact compared first second
  · cases declared
    exact compared first second
  · cases declared

theorem settles_lerp {start finish : HostValue} {parameter : Float}
    (first : Suits state.store.heap .object start)
    (second : Suits state.store.heap .object finish) :
    Settles types state (lerp [start, finish, .number parameter]) := by
  cases first with
  | @vector _ begun live =>
      cases second with
      | @vector _ last alive =>
          apply settles_isInstance (has.recognised live)
          apply settles_isInstance (has.recognised alive)
          apply settles_vectorOf (has.read live)
          apply settles_vectorOf (has.read alive)
          exact settles_made (begun.yields_lerp last parameter) (has.registered live)

omit has in
theorem built_constructor {constructor : Constructor vectorType}
    (member : constructor ∈ constructors) {heap : Heap Occupant} {arguments : List HostValue}
    (suit : List.Forall₂ (Suits heap) constructor.parameters arguments) :
    ∃ result : Except Fault Vector3, Yields Vector3.Finite result ∧
      constructor.build arguments = Routine.ofResult result := by
  rcases List.mem_pair.mp member with rfl | rfl
  · exact ⟨.ok .zero, ⟨by decide +kernel, by decide +kernel, by decide +kernel⟩, rfl⟩
  · obtain _ | ⟨⟨x⟩, _ | ⟨⟨y⟩, _ | ⟨⟨z⟩, _ | _⟩⟩⟩ := suit
    exact ⟨_, Vector3.yields_checked x y z "Vector3", rfl⟩

omit has in
theorem ends_construct {typeId : TypeId} {constructor : Constructor vectorType}
    (member : constructor ∈ constructors) {arguments : List HostValue}
    (suit : List.Forall₂ (Suits state.store.heap) constructor.parameters arguments) :
    Ends state (Call.Entry.run types (.construct typeId vector constructor arguments) state) := by
  obtain ⟨result, yields, built⟩ := built_constructor member suit
  have ran : Call.Entry.run types (.construct typeId vector constructor arguments) state =
      (Call.perform types (constructor.build arguments) >>= fun content =>
        Call.insert ⟨typeId, ⟨vectorType, content⟩⟩ >>= fun handle =>
          pure (HostValue.object handle)) state := rfl
  rw [ran, built]
  cases result with
  | ok made => exact .made yields
  | error fault =>
      obtain ⟨text, rfl⟩ := yields
      exact .refused text

omit has in
theorem ends_write (vectors : state.store.heap.FiniteVectors)
    {named : String × Field vectorType} (member : named ∈ fields)
    {change : Vector3 → HostValue → Vector3 × Except Fault Unit}
    (writes : named.2.write? = some change) {owner : Handle} {typeId : TypeId} {content : Vector3}
    (live : state.store.heap.content? owner = some ⟨typeId, ⟨vectorType, content⟩⟩)
    (number : Float) :
    Ends state (Call.Entry.run types
      (.write owner typeId vector change content (.number number)) state) := by
  have ran : Call.Entry.run types (.write owner typeId vector change content (.number number))
      state = (Call.ofResult (change content (.number number)).2 >>= fun _ => pure HostValue.null)
        ⟨⟨state.store.heap.replace owner
          ⟨typeId, ⟨vectorType, (change content (.number number)).1⟩⟩,
          state.store.generator⟩, state.fresh⟩ := rfl
  obtain ⟨read, put, same, puts⟩ := puts_of_field member
  rw [same] at writes
  cases writes
  have yields := yields_component number
  rw [ran]
  dsimp only
  cases accepted : component (.number number) with
  | ok given =>
      have before := Instance.holdsFinite_iff.mp (vectors.sound live)
      exact .written (puts before (yields.of_ok accepted))
  | error fault =>
      obtain ⟨text, rfl⟩ := yields.of_error accepted
      rw [Heap.replace_held live]
      exact .refused text

theorem OnVectors.ends (vectors : state.store.heap.FiniteVectors) {entry : Call.Entry}
    (on : OnVectors state.store.heap entry) : Ends state (entry.run types state) := by
  cases on with
  | construct member suit => exact ends_construct member suit
  | method live member suit => exact settles_method has member live suit
  | write member writes live => exact ends_write vectors member writes live _
  | unary member alone suits => exact settles_unary has vectors member alone suits _
  | binary member declared first second => exact settles_binary has member declared first second
  | lerp first second => exact settles_lerp has first second

end Bodies

theorem OnVectors.obeys {heap : Heap Occupant} (vectors : heap.FiniteVectors) {entry : Call.Entry}
    (on : OnVectors heap entry) : entry.Obeys Conduct.finite := by
  cases on with
  | construct member _ => exact obeys_constructor allows_finite member _
  | method _ member _ => exact obeys_method allows_finite member _ _
  | write member writes live =>
      exact allows_finite.writes _ member _ writes _ _ (vectors.sound live)
  | unary member _ _ => exact obeys_operator allows_finite member _ _
  | binary member _ _ _ => exact obeys_operator allows_finite member _ _
  | lerp _ _ => exact lerp_obeys allows_finite _

end Extension.Math

/-- A finite number, a finite vector in the heap, or what is neither a number nor an instance. -/
def HostValue.FiniteIn (heap : Heap Occupant) : HostValue → Prop
  | .number given => given.isFinite = true
  | .object handle => ∃ vector, heap.vector? handle = some vector ∧ vector.Finite
  | _ => True

def Script.Value.FiniteIn (heap : Heap Occupant) : Value → Prop
  | .datum (.float given) => given.isFinite = true
  | .object reference => ∃ vector, heap.vector? reference.handle = some vector ∧ vector.Finite
  | _ => True

/-- What comes of a call on vectors and numbers: a finite result and finite vectors everywhere, or a
fault of domain, and then there is nothing new or different in the store. -/
inductive Store.Comes {α : Type} (finiteIn : Heap Occupant → α → Prop) (before : Store) :
    Except Fault α × Store → Prop where
  | finite {value : α} {after : Store} (vectors : after.heap.FiniteVectors)
      (result : finiteIn after.heap value) : Comes finiteIn before (.ok value, after)
  | refused (text : String) : Comes finiteIn before (.error (.domain text), before.collect)

namespace Call

variable {α : Type} {types : TypeRegistry}

/-- A way to hand over a finite result. An instance gets a claim by it. -/
structure HandsFinite (finish : HostValue → Call α) (finiteIn : Heap Occupant → α → Prop) :
    Prop where
  keeps : ∀ value, Keeps (Keeping fun store => store.heap.FiniteVectors) (finish value)
  plain : ∀ {value : HostValue} (state : CallState), value.handle? = none →
    (∀ heap, value.FiniteIn heap) →
      ∃ result, finish value state = .ok result state ∧ ∀ heap, finiteIn heap result
  object : ∀ {handle : Handle} {heap : Heap Occupant} {resident : Resident Occupant}
    (generator : Random.Generator) (fresh : Array Handle),
    heap.resident? handle = some resident →
      ∃ result change, finish (.object handle) ⟨⟨heap, generator⟩, fresh⟩ =
          .ok result ⟨⟨heap.alter handle change, generator⟩, fresh⟩ ∧
        (change resident).content = resident.content ∧
        ((change resident).pinned = true ∨ (change resident).anchors ≠ 0) ∧
        ∀ heap vector, heap.vector? handle = some vector → vector.Finite → finiteIn heap result

theorem handsFinite_toScript : HandsFinite toScript Value.FiniteIn where
  keeps := toScript_obeys Conduct.upholds_finite
  plain {value} state none finite := by
    cases value with
    | object handle => cases none
    | number number => exact ⟨_, rfl, finite⟩
    | boolean _ | text _ | null => exact ⟨_, rfl, fun _ => trivial⟩
  object {handle heap resident} generator fresh found := by
    refine ⟨.object ⟨handle, resident.content.typeId⟩, Resident.anchored, ?_, rfl,
      .inr (Nat.succ_ne_zero _), fun heap vector there isFinite => ⟨vector, there, isFinite⟩⟩
    unfold toScript HostValue.toScript
    dsimp only
    rw [found]
    dsimp only
    rw [Heap.anchor_eq_ok found]

theorem handsFinite_pinResult : HandsFinite pinResult HostValue.FiniteIn where
  keeps := pinResult_obeys Conduct.upholds_finite
  plain {value} state none finite := by
    cases value with
    | object handle => cases none
    | _ => exact ⟨_, rfl, finite⟩
  object {handle heap resident} generator fresh found := by
    refine ⟨.object handle, Resident.held, ?_, rfl, .inl rfl,
      fun heap vector there isFinite => ⟨vector, there, isFinite⟩⟩
    have pinned : pinResult (.object handle) ⟨⟨heap, generator⟩, fresh⟩ =
      (pin handle >>= fun _ => pure (.object handle)) ⟨⟨heap, generator⟩, fresh⟩ := rfl
    rw [pinned, bind_apply]
    unfold pin withHeap
    dsimp only
    rw [Heap.pin_eq_ok found]
    rfl

end Call

namespace Store

open Call

variable {α : Type} {store : Store} {finish : HostValue → Call α}

theorem run_ok {call : Call HostValue} {value : HostValue} {result : α} {state after : CallState}
    (ended : call ⟨store.collect, #[]⟩ = .ok value state)
    (handed : finish value state = .ok result after) :
    run (call >>= finish) store = (.ok result, conclude after) := by
  unfold run
  rw [bind_apply, ended]
  dsimp only
  rw [handed]

theorem run_comes {finiteIn : Heap Occupant → α → Prop} (hands : HandsFinite finish finiteIn)
    {types : TypeRegistry} {entry : Entry} (vectors : store.heap.FiniteVectors)
    (has : store.collect.heap.HasVectors types) (on : OnVectors store.collect.heap entry) :
    store.Comes finiteIn (run ((ofResult (.ok entry) >>= Entry.run types) >>= finish) store) := by
  have collected : store.collect.heap.FiniteVectors := Conduct.upholds_finite.collects vectors
  have after : (run ((ofResult (.ok entry) >>= Entry.run types) >>= finish)
      store).2.heap.FiniteVectors := by
    refine run_entry Conduct.upholds_finite hands.keeps ?_ vectors
    rintro _ ⟨⟩
    exact on.obeys collected
  have ends : Ends ⟨store.collect, #[]⟩
      ((ofResult (.ok entry) >>= Entry.run types) ⟨store.collect, #[]⟩) :=
    @OnVectors.ends types ⟨store.collect, #[]⟩ has collected entry on
  generalize (ofResult (.ok entry) >>= Entry.run types) = call at after ends ⊢
  have plain {value : HostValue} {state : CallState}
      (ended : call ⟨store.collect, #[]⟩ = .ok value state) (none : value.handle? = none)
      (finite : ∀ heap, value.FiniteIn heap) :
      store.Comes finiteIn (run (call >>= finish) store) := by
    obtain ⟨result, handed, finite⟩ := hands.plain state none finite
    rw [run_ok ended handed] at after ⊢
    exact .finite after (finite _)
  generalize ended : call ⟨store.collect, #[]⟩ = outcome at ends
  cases ends with
  | number isFinite => exact plain ended rfl fun _ => isFinite
  | truth answer => exact plain ended rfl fun _ => trivial
  | written isFinite => exact plain ended rfl fun _ => trivial
  | @made typeId vector isFinite =>
      have inserted := Heap.resident?_insert collected.regular ⟨typeId, ⟨vectorType, vector⟩⟩ false
        (store.collect.heap.insert ⟨typeId, ⟨vectorType, vector⟩⟩ false).1
      rw [if_pos rfl] at inserted
      obtain ⟨result, change, handed, same, claimed, finite⟩ := hands.object _ _ inserted
      rw [run_ok ended handed] at after ⊢
      refine .finite after (finite _ vector ?_ isFinite)
      refine Option.bind_eq_some_iff.mpr
        ⟨⟨typeId, ⟨vectorType, vector⟩⟩, ?_, Instance.as?_self vector⟩
      exact Heap.content?_eq_some_iff.mpr
        ⟨_, resident?_conclude_claimed inserted claimed, same⟩
  | refused text =>
      rw [run_error finish ended, conclude_collect]
      exact .refused text

end Store

end ScriptHost
