import ScriptHost.Script.Name
import ScriptHost.Script.Failure

/-!
Signatures of calls that mean nothing.

Such a call fails with a text, its name and the types of its arguments, and what the host is told
is read off that text. The text falls apart where the name ends, unless the name itself has a blank
before a parenthesis in it, and the name and the first type are found again whatever the other
arguments are. An identifier has neither a blank nor a mark in it, so it is no exception.
-/

set_option autoImplicit false

namespace ScriptHost.Script

namespace Name

variable {name : String} {letter : Char}

def isWordLetter (letter : Char) : Bool := letter.isAlphanum || letter == '_'

theorem toNat_of_isWordLetter (word : isWordLetter letter = true) :
    48 ≤ letter.toNat ∧ letter.toNat ≤ 122 := by
  unfold isWordLetter Char.isAlphanum Char.isAlpha Char.isUpper Char.isLower Char.isDigit at word
  simp only [Bool.or_eq_true, Bool.and_eq_true, decide_eq_true_eq, beq_iff_eq, ge_iff_le,
    UInt32.le_iff_toNat_le] at word
  change ((65 ≤ letter.toNat ∧ letter.toNat ≤ 90 ∨ 97 ≤ letter.toNat ∧ letter.toNat ≤ 122) ∨
    48 ≤ letter.toNat ∧ letter.toNat ≤ 57) ∨ letter = '_' at word
  rcases word with ((upper | lower) | digit) | rfl
  · omega
  · omega
  · omega
  · decide

theorem isWordLetter_of_isIdentifier (identifier : isIdentifier name = true)
    (member : letter ∈ name.toList) : isWordLetter letter = true := by
  unfold isIdentifier at identifier
  cases letters : name.toList with
  | nil =>
      rw [letters] at member
      cases member
  | cons first rest =>
      rw [letters] at identifier member
      obtain ⟨start, others⟩ := Bool.and_eq_true_iff.mp identifier
      rcases List.mem_cons.mp member with rfl | later
      · unfold isWordLetter Char.isAlphanum
        rcases Bool.or_eq_true_iff.mp start with alpha | underscore
        · simp [alpha]
        · simp [underscore]
      · exact List.all_eq_true.mp others letter later

theorem not_mem_of_isIdentifier (identifier : isIdentifier name = true)
    (mark : letter.toNat < 48) : letter ∉ name.toList := fun member =>
  absurd (toNat_of_isWordLetter (isWordLetter_of_isIdentifier identifier member)).1
    (Nat.not_le_of_lt mark)

theorem not_isBlank_of_isWordLetter (word : isWordLetter letter = true) :
    Text.isBlank letter = false := by
  obtain ⟨least, most⟩ := toNat_of_isWordLetter word
  unfold Text.isBlank
  simp
  omega

end Name

/-- There is no blank at either end. -/
structure Text.Unpadded (text : List Char) : Prop where
  first : ∀ letter ∈ text.head?, Text.isBlank letter = false
  last : ∀ letter ∈ text.getLast?, Text.isBlank letter = false

theorem Text.solid_iff (letter? : Option Char) :
    letter?.any Text.isBlank = false ↔ ∀ letter ∈ letter?, Text.isBlank letter = false := by
  cases letter? <;> simp

instance (text : List Char) : Decidable (Text.Unpadded text) :=
  decidable_of_iff
    (text.head?.any Text.isBlank = false ∧ text.getLast?.any Text.isBlank = false)
    ⟨fun solid => ⟨(Text.solid_iff _).mp solid.1, (Text.solid_iff _).mp solid.2⟩,
      fun unpadded => ⟨(Text.solid_iff _).mpr unpadded.first, (Text.solid_iff _).mpr unpadded.last⟩⟩

theorem Text.Unpadded.of_clear {text : List Char}
    (clear : ∀ letter ∈ text, Text.isBlank letter = false) : Text.Unpadded text :=
  ⟨fun letter first => clear letter (List.mem_of_head? first),
    fun letter last => clear letter (List.mem_of_getLast? last)⟩

theorem Text.Unpadded.trim_eq {text : List Char} (unpadded : Text.Unpadded text) :
    Text.trim text = text := by
  have kept : ∀ letters : List Char, (∀ letter ∈ letters.head?, Text.isBlank letter = false) →
      letters.dropWhile Text.isBlank = letters := by
    intro letters clear
    cases letters with
    | nil => rfl
    | cons first rest =>
        have solid := clear first rfl
        exact List.dropWhile_cons_of_neg (by simp [solid])
  unfold Text.trim
  rw [kept text unpadded.first, kept, List.reverse_reverse]
  rw [List.head?_reverse]
  exact unpadded.last

/-- A text falls apart at the first place where the pair stands, which is not inside the word, and
not across its end either, since the letters of the pair differ. -/
theorem splitAtPair_append {first second : Char} (distinct : first ≠ second) {word : List Char}
    (apart : ¬ [first, second] <:+: word) (rest : List Char) :
    splitAtPair first second (word ++ first :: second :: rest) = some (word, rest) := by
  induction word with
  | nil => simp [splitAtPair]
  | cons letter word ih =>
      have split := ih fun inside => apart (inside.trans (List.suffix_cons letter word).isInfix)
      have elsewhere : ∀ {next tail}, word ++ first :: second :: rest = next :: tail →
          ¬ (letter = first ∧ next = second) := by
        rintro next tail behind ⟨rfl, rfl⟩
        cases word with
        | nil => exact distinct (List.cons.inj behind).1
        | cons other word =>
            obtain rfl : other = next := (List.cons.inj behind).1
            exact apart ⟨[], word, rfl⟩
      -- There is at least one letter behind, so the first one is looked at.
      cases behind : word ++ first :: second :: rest with
      | nil => cases word <;> cases behind
      | cons next tail =>
          rw [List.cons_append, behind]
          rw [behind] at split
          unfold splitAtPair
          dsimp only
          rw [if_neg (elsewhere behind), split]
          rfl

theorem dropPrefix?_eq_some_iff {head text rest : List Char} :
    dropPrefix? head text = some rest ↔ text = head ++ rest := by
  induction head generalizing text with
  | nil => simp [dropPrefix?]
  | cons letter head ih =>
      cases text with
      | nil => simp [dropPrefix?]
      | cons next text =>
          unfold dropPrefix?
          by_cases same : letter = next
          · simp [same, ih]
          · simp [same, Ne.symm same]

theorem dropWhile_append_cons {α : Type} {test : α → Bool} {item : α} (kept : test item = false)
    (before after : List α) :
    (before ++ item :: after).dropWhile test = before.dropWhile test ++ item :: after := by
  induction before with
  | nil => exact List.dropWhile_cons_of_neg (by simp [kept])
  | cons first rest ih =>
      rw [List.cons_append, List.dropWhile_cons, List.dropWhile_cons]
      split
      · exact ih
      · rfl

theorem all_apart {mark : Char} {word : List Char} (absent : mark ∉ word) :
    ∀ letter ∈ word, (letter != mark) = true :=
  fun _ member => bne_iff_ne.mpr fun same => absent (same ▸ member)

theorem takeWhile_until {mark : Char} {word : List Char} (absent : mark ∉ word)
    (rest : List Char) :
    (word ++ mark :: rest).takeWhile (fun letter => letter != mark) = word := by
  rw [List.takeWhile_append_of_pos (all_apart absent), List.takeWhile_cons_of_neg (by simp),
    List.append_nil]

/-- The first type between the parentheses. -/
def firstType (types : List Char) : List Char :=
  Text.trim ((types.reverse.dropWhile fun letter => letter == ')').reverse.takeWhile
    fun letter => letter != ',')

theorem firstType_comma {type : List Char} (comma : ',' ∉ type)
    (unpadded : Text.Unpadded type) (rest : List Char) :
    firstType (type ++ ',' :: rest) = type := by
  unfold firstType
  rw [List.reverse_append, List.reverse_cons, List.append_assoc, List.singleton_append,
    dropWhile_append_cons (by decide), List.reverse_append, List.reverse_cons,
    List.append_assoc, List.reverse_reverse, List.singleton_append, takeWhile_until comma,
    unpadded.trim_eq]

theorem firstType_last {type : List Char} (comma : ',' ∉ type) (closing : ')' ∉ type)
    (unpadded : Text.Unpadded type) : firstType (type ++ [')']) = type := by
  have kept : type.reverse.dropWhile (fun letter => letter == ')') = type.reverse := by
    cases letters : type.reverse with
    | nil => rfl
    | cons letter rest =>
        have member : letter ∈ type := List.mem_reverse.mp (letters ▸ List.mem_cons_self)
        have different : (letter == ')') = false :=
          beq_eq_false_iff_ne.mpr fun same => closing (same ▸ member)
        exact List.dropWhile_cons_of_neg (by simp [different])
  have whole : type.takeWhile (fun letter => letter != ',') = type := by
    have ended := congrArg (List.takeWhile fun letter => letter != ',') (List.append_nil type)
    rw [List.takeWhile_append_of_pos (all_apart comma)] at ended
    simpa using ended.symm
  unfold firstType
  rw [List.reverse_append, List.reverse_singleton, List.singleton_append,
    List.dropWhile_cons_of_pos (by decide), kept, List.reverse_reverse, whole, unpadded.trim_eq]

def signatureText (name : String) (types : List String) : String :=
  name ++ " (" ++ ", ".intercalate types ++ ")"

def signature (name : String) (values : List Value) : String :=
  name ++ " (" ++ ", ".intercalate (values.map Value.signatureName) ++ ")"

/-- A name that ends where the types of a signature begin. -/
structure EndsBeforeTypes (name : String) : Prop where
  apart : ¬ [' ', '('] <:+: name.toList
  unpadded : Text.Unpadded name.toList

theorem EndsBeforeTypes.of_isIdentifier {name : String}
    (identifier : Name.isIdentifier name = true) : EndsBeforeTypes name := by
  refine ⟨fun inside => ?_, .of_clear fun letter member => ?_⟩
  · exact Name.not_mem_of_isIdentifier identifier (by decide : ' '.toNat < 48)
      (inside.subset (by decide))
  · exact Name.not_isBlank_of_isWordLetter (Name.isWordLetter_of_isIdentifier identifier member)

def IsObjectType (type : List Char) : Prop :=
  type = Value.objectTypeName.toList ∨ type = "&mut ".toList ++ Value.objectTypeName.toList

instance (type : List Char) : Decidable (IsObjectType type) :=
  inferInstanceAs (Decidable (_ ∨ _))

theorem isObjectType_iff {type : List Char} :
    IsObjectType type ↔
      (dropPrefix? "&mut ".toList type).getD type = Value.objectTypeName.toList := by
  unfold IsObjectType
  cases dropped : dropPrefix? "&mut ".toList type with
  | none =>
      refine or_iff_left fun same => ?_
      rw [dropPrefix?_eq_some_iff.mpr same] at dropped
      cases dropped
  | some rest =>
      have split := dropPrefix?_eq_some_iff.mp dropped
      subst split
      constructor
      · rintro (same | same)
        · have first := congrArg List.head? same
          cases first
        · exact List.append_cancel_left same
      · exact fun same => .inr (congrArg _ same)

theorem memberOfObject?_eq {text name : String} {types : List Char}
    (ends : EndsBeforeTypes name)
    (letters : text.toList = name.toList ++ ' ' :: '(' :: types) :
    memberOfObject? text = if IsObjectType (firstType types) then some name else none := by
  unfold memberOfObject?
  rw [letters, splitAtPair_append (by decide) ends.apart]
  change (if (dropPrefix? _ (firstType types)).getD (firstType types) = _ then
    some (String.ofList (Text.trim name.toList)) else none) = _
  rw [ends.unpadded.trim_eq, String.ofList_toList]
  by_cases object : IsObjectType (firstType types)
  · rw [if_pos object]
    exact if_pos (isObjectType_iff.mp object)
  · rw [if_neg object]
    exact if_neg (mt isObjectType_iff.mpr object)

variable {name : String}

theorem toList_signatureText (name type : String) (types : List String) :
    ∃ behind, (signatureText name (type :: types)).toList =
        name.toList ++ ' ' :: '(' :: (type.toList ++ behind) ∧
      (behind = [')'] ∨ ∃ rest, behind = ',' :: rest) := by
  have opening : " (".toList = [' ', '('] := by decide
  have closing : ")".toList = [')'] := by decide
  have comma : ", ".toList = [',', ' '] := by decide
  cases types with
  | nil =>
      refine ⟨[')'], ?_, .inl rfl⟩
      simp only [signatureText, String.intercalate_singleton, String.toList_append,
        List.append_assoc, opening, closing, List.cons_append, List.nil_append]
  | cons second rest =>
      refine ⟨',' :: ' ' :: ((", ".intercalate (second :: rest)).toList ++ [')']), ?_,
        .inr ⟨_, rfl⟩⟩
      simp only [signatureText, String.intercalate_cons_cons, String.toList_append,
        List.append_assoc, opening, closing, comma, List.cons_append, List.nil_append]

theorem memberOfObject?_signatureText (ends : EndsBeforeTypes name) {type : String}
    (comma : ',' ∉ type.toList) (closing : ')' ∉ type.toList)
    (unpadded : Text.Unpadded type.toList) (types : List String) :
    memberOfObject? (signatureText name (type :: types)) =
      if IsObjectType type.toList then some name else none := by
  obtain ⟨behind, letters, ending⟩ := toList_signatureText name type types
  rw [memberOfObject?_eq ends letters]
  rcases ending with rfl | ⟨rest, rfl⟩
  · rw [firstType_last comma closing unpadded]
  · rw [firstType_comma comma unpadded]

theorem memberOfObject?_signature (identifier : Name.isIdentifier name = true)
    (reference : Reference) (values : List Value) :
    memberOfObject? (signature name (.object reference :: values)) = some name := by
  change memberOfObject? (signatureText name
    (Value.objectTypeName :: values.map Value.signatureName)) = _
  rw [memberOfObject?_signatureText (.of_isIdentifier identifier) (by decide) (by decide)
    (by decide), if_pos (.inl rfl)]

theorem toList_eq_append_iff {name head field : String} :
    name.toList = head.toList ++ field.toList ↔ name = head ++ field := by
  rw [← String.toList_append, String.toList_inj]

theorem memberFault_getter (field : String) :
    memberFault ("get$" ++ field) = .unknownField Value.objectTypeName field := by
  have dropped := dropPrefix?_eq_some_iff.mpr (@String.toList_append "get$" field)
  unfold memberFault
  rw [dropped]
  simp

theorem memberFault_setter (field : String) :
    memberFault ("set$" ++ field) = .unknownField Value.objectTypeName field := by
  have dropped := dropPrefix?_eq_some_iff.mpr (@String.toList_append "set$" field)
  unfold memberFault
  cases read : dropPrefix? "get$".toList ("set$" ++ field).toList with
  | some rest =>
      have first := congrArg List.head? (dropPrefix?_eq_some_iff.mp read)
      rw [String.toList_append] at first
      cases first
  | none =>
      rw [dropped]
      simp

theorem memberFault_method
    (plain : ∀ field, name ≠ "get$" ++ field ∧ name ≠ "set$" ++ field) :
    memberFault name = .unknownMethod Value.objectTypeName name := by
  have without : ∀ {head : String}, (∀ field, name ≠ head ++ field) →
      dropPrefix? head.toList name.toList = none := by
    intro head other
    refine Option.eq_none_iff_forall_ne_some.mpr fun rest dropped => ?_
    have split := dropPrefix?_eq_some_iff.mp dropped
    rw [← String.toList_ofList (l := rest)] at split
    exact other _ (toList_eq_append_iff.mp split)
  unfold memberFault
  rw [without fun field => (plain field).1, without fun field => (plain field).2]

theorem memberFault_of_isIdentifier (identifier : Name.isIdentifier name = true) :
    memberFault name = .unknownMethod Value.objectTypeName name := by
  have absent : '$' ∉ name.toList := Name.not_mem_of_isIdentifier identifier (by decide)
  have other : ∀ head : String, '$' ∈ head.toList → ∀ field, name ≠ head ++ field := by
    rintro head marked field rfl
    rw [String.toList_append] at absent
    exact absent (List.mem_append_left _ marked)
  exact memberFault_method fun field =>
    ⟨other "get$" (by decide) field, other "set$" (by decide) field⟩

/-- A call by an identifier that has an instance as its first argument, and means nothing, is one
of an unknown method. -/
theorem memberFault?_signature (identifier : Name.isIdentifier name = true)
    (reference : Reference) (values : List Value) (position : Position) :
    (Failure.located (.functionNotFound (signature name (.object reference :: values)))
      position).memberFault? = some (.unknownMethod Value.objectTypeName name) := by
  have found := memberOfObject?_signature identifier reference values
  change (memberOfObject? _).map memberFault = _
  rw [found, ← memberFault_of_isIdentifier identifier]
  rfl

end ScriptHost.Script
