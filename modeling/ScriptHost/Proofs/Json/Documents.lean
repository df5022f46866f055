import ScriptHost.Proofs.Decimal.Finite
import ScriptHost.Proofs.Json.Texts

/-!
Documents of host values.

A document carries no tag, so what a value is read back as hangs on its letters alone. Each kind of
value has letters of its own, and of these the value is taken back. Only a number that is not finite
is lost: it is written as the absence of a value.
-/

set_option autoImplicit false

namespace ScriptHost

namespace Json

variable {fuel depth : Nat} {done : List (String × Json)} {rest : List Char} {letter : Char}

theorem skipBlanks_cons (filled : isBlank letter = false) :
    skipBlanks (letter :: rest) = letter :: rest :=
  List.dropWhile_cons_of_neg (Bool.not_eq_true _ ▸ filled)

theorem readValue?_text (value : String) :
    readValue? (fuel + 1) depth ('"' :: (quotedTail value ++ rest)) = some (.text value, rest) := by
  change (readText? _ [] (quotedTail value ++ rest)).map _ = _
  rw [readText?_quotedTail]
  rfl

def StartsNumber (letter : Char) : Prop :=
  letter = '-' ∨ letter.isDigit = true

theorem StartsNumber.apart (starts : StartsNumber letter) {other : Char}
    (signless : other ≠ '-') (letters : other.isDigit = false) : letter ≠ other := by
  rintro rfl
  rcases starts with sign | digit
  · exact signless sign
  · exact Bool.false_ne_true (letters.symm.trans digit)

theorem StartsNumber.filled (starts : StartsNumber letter) : isBlank letter = false := by
  unfold isBlank
  simp only [Bool.or_eq_false_iff, beq_eq_false_iff_ne]
  exact ⟨⟨⟨starts.apart (by decide) (by decide), starts.apart (by decide) (by decide)⟩,
    starts.apart (by decide) (by decide)⟩, starts.apart (by decide) (by decide)⟩

theorem readValue?_number (starts : StartsNumber letter) :
    readValue? (fuel + 1) depth (letter :: rest) =
      (readNumber? (letter :: rest)).map fun (value, rest) => (.number value, rest) := by
  rw [readValue?, skipBlanks_cons starts.filled]
  split
  case h_7 => rfl
  all_goals
    next heading =>
      exact absurd (List.cons.inj heading).1 (starts.apart (by decide) (by decide))

theorem readValue?_natural (number : Nat) (ends : EndsNumeral rest) :
    readValue? (fuel + 1) depth (number.repr.toList ++ rest) =
      some (.number ⟨false, ⟨number.repr.toList, [], 0⟩, true⟩, rest) := by
  have known := readNumber?_natural number ends
  obtain ⟨first, others, same, digit⟩ := (canonical_repr number).head
  rw [same, List.cons_append] at known ⊢
  rw [readValue?_number (.inr digit), known]
  rfl

/-- A part of a handle as it stands in a document. -/
def naturalNumber (number : Nat) : Json :=
  .number ⟨false, ⟨number.repr.toList, [], 0⟩, true⟩

theorem endsNumeral_of (separator : letter = ',' ∨ letter = ']' ∨ letter = '\x7d') :
    EndsNumeral (letter :: rest) := by
  intro other head
  cases head
  rcases separator with rfl | rfl | rfl <;> exact by decide

theorem readMembers?_value (key : String) (number : Nat) (ends : EndsNumeral rest) :
    readMembers? (fuel + 2) depth done
        ('"' :: (quotedTail key ++ ':' :: (number.repr.toList ++ rest))) =
      match skipBlanks rest with
      | ',' :: rest => readMembers? (fuel + 1) depth ((key, naturalNumber number) :: done) rest
      | '\x7d' :: rest => some (.object ((key, naturalNumber number) :: done).reverse, rest)
      | _ => none := by
  have members : readMembers? (fuel + 2) depth done
      ('"' :: (quotedTail key ++ ':' :: (number.repr.toList ++ rest))) =
    (readText? ((quotedTail key ++ ':' :: (number.repr.toList ++ rest)).length + 1) []
      (quotedTail key ++ ':' :: (number.repr.toList ++ rest))) >>= _ := rfl
  rw [members, readText?_quotedTail]
  change (readValue? (fuel + 1) depth (number.repr.toList ++ rest) >>= _) = _
  rw [readValue?_natural number ends]
  rfl

theorem readMembers?_comma (key : String) (number : Nat) :
    readMembers? (fuel + 2) depth done
        ('"' :: (quotedTail key ++ ':' :: (number.repr.toList ++ ',' :: rest))) =
      readMembers? (fuel + 1) depth ((key, naturalNumber number) :: done) rest :=
  readMembers?_value key number (endsNumeral_of (.inl rfl))

theorem readMembers?_brace (key : String) (number : Nat) :
    readMembers? (fuel + 2) depth done
        ('"' :: (quotedTail key ++ ':' :: (number.repr.toList ++ '\x7d' :: rest))) =
      some (.object ((key, naturalNumber number) :: done).reverse, rest) :=
  readMembers?_value key number (endsNumeral_of (.inr (.inr rfl)))

theorem readItems?_value {done : List Json} (number : Nat) (ends : EndsNumeral rest) :
    readItems? (fuel + 2) depth done (number.repr.toList ++ rest) =
      match skipBlanks rest with
      | ',' :: rest => readItems? (fuel + 1) depth (naturalNumber number :: done) rest
      | ']' :: rest => some (.list (naturalNumber number :: done).reverse, rest)
      | _ => none := by
  change (readValue? (fuel + 1) depth (number.repr.toList ++ rest) >>= _) = _
  rw [readValue?_natural number ends]
  rfl

theorem readItems?_comma {done : List Json} (number : Nat) :
    readItems? (fuel + 2) depth done (number.repr.toList ++ ',' :: rest) =
      readItems? (fuel + 1) depth (naturalNumber number :: done) rest :=
  readItems?_value number (endsNumeral_of (.inl rfl))

theorem readItems?_bracket {done : List Json} (number : Nat) :
    readItems? (fuel + 2) depth done (number.repr.toList ++ ']' :: rest) =
      some (.list (naturalNumber number :: done).reverse, rest) :=
  readItems?_value number (endsNumeral_of (.inr (.inl rfl)))

theorem readValue?_object :
    readValue? (fuel + 1) (depth + 1) ('\x7b' :: '"' :: rest) =
      readMembers? fuel depth [] ('"' :: rest) := rfl

theorem readValue?_list (digit : letter.isDigit = true) :
    readValue? (fuel + 1) (depth + 1) ('[' :: letter :: rest) =
      readItems? fuel depth [] (letter :: rest) := by
  have starts : StartsNumber letter := .inr digit
  rw [readValue?, skipBlanks_cons (by decide)]
  split
  case h_5 opening =>
    cases opening
    dsimp only
    rw [skipBlanks_cons starts.filled]
    split
    next closing =>
      exact absurd (List.cons.inj closing).1 (starts.apart (by decide) (by decide))
    next => rfl
  case h_7 unopened _ => exact absurd rfl (unopened _)
  all_goals
    next heading => exact absurd (List.cons.inj heading).1 (by decide)

def handleDocument (handle : Handle) : Json :=
  .object [("index", naturalNumber handle.index), ("generation", naturalNumber handle.generation)]

theorem toList_handle (handle : Handle) :
    handle.toJson.toList = '\x7b' :: '"' :: (quotedTail "index" ++ ':' ::
      (handle.index.repr.toList ++ ',' :: '"' :: (quotedTail "generation" ++ ':' ::
        (handle.generation.repr.toList ++ ['\x7d'])))) := by
  unfold Handle.toJson
  simp only [String.toList_append, List.append_assoc]
  rfl

theorem readValue?_handle (handle : Handle) :
    readValue? (fuel + 4) (depth + 1) handle.toJson.toList = some (handleDocument handle, []) := by
  rw [toList_handle, readValue?_object, readMembers?_comma, readMembers?_brace]
  rfl

/-- The other form of a handle, a list of its two parts. -/
def listed (handle : Handle) : String :=
  "[" ++ handle.index.repr ++ "," ++ handle.generation.repr ++ "]"

def listedDocument (handle : Handle) : Json :=
  .list [naturalNumber handle.index, naturalNumber handle.generation]

theorem toList_listed (handle : Handle) :
    (listed handle).toList = '[' :: (handle.index.repr.toList ++ ',' ::
      (handle.generation.repr.toList ++ [']'])) := by
  unfold listed
  simp only [String.toList_append, List.append_assoc]
  rfl

theorem readValue?_listed (handle : Handle) :
    readValue? (fuel + 4) (depth + 1) (listed handle).toList =
      some (listedDocument handle, []) := by
  obtain ⟨digit, others, same, isDigit⟩ := (canonical_repr handle.index).head
  rw [toList_listed, same, List.cons_append, readValue?_list isDigit, ← List.cons_append, ← same,
    readItems?_comma, readItems?_bracket]
  rfl

theorem read?_of_value {input : String} {document : Json} (letters : input.toList = letter :: rest)
    (known : ∀ fuel, readValue? (fuel + 4) maximalDepth input.toList = some (document, [])) :
    read? input = some document := by
  have length : 2 * input.toList.length + 2 = 2 * rest.length + 4 := by
    rw [letters, List.length_cons]
    omega
  unfold read?
  dsimp only
  rw [length, known]
  rfl

theorem read?_quote (value : String) : read? (quote value) = some (.text value) := by
  refine read?_of_value (toList_quote value) fun fuel => ?_
  have read := @readValue?_text (fuel + 3) maximalDepth [] value
  rw [List.append_nil] at read
  rw [toList_quote, read]

theorem read?_handle (handle : Handle) : read? handle.toJson = some (handleDocument handle) :=
  read?_of_value (toList_handle handle) fun _ => readValue?_handle handle

theorem read?_listed (handle : Handle) : read? (listed handle) = some (listedDocument handle) :=
  read?_of_value (toList_listed handle) fun _ => readValue?_listed handle

/-- The number that a text stands for, if it is a number and nothing else. -/
def Numbers (text : String) (number : JsonNumber) : Prop :=
  readNumber? text.toList = some (number, [])

theorem Numbers.starts {text : String} {number : JsonNumber} (numbers : Numbers text number) :
    ∃ letter rest, text.toList = letter :: rest ∧ StartsNumber letter := by
  unfold Numbers at numbers
  cases letters : text.toList with
  | nil =>
      rw [letters] at numbers
      exact absurd numbers nofun
  | cons letter rest =>
      refine ⟨letter, rest, rfl, ?_⟩
      by_contra other
      obtain ⟨signless, digitless⟩ := not_or.mp other
      have unsigned : readSign (letter :: rest) = (false, letter :: rest) := by
        unfold readSign
        split
        next tail same => exact absurd (List.cons.inj same).1 signless
        next => rfl
      rw [letters, readNumber?, unsigned] at numbers
      dsimp only at numbers
      rw [List.takeWhile_cons_of_neg digitless] at numbers
      exact absurd numbers nofun

theorem read?_number {text : String} {number : JsonNumber} (numbers : Numbers text number) :
    read? text = some (.number number) := by
  obtain ⟨letter, rest, letters, starts⟩ := numbers.starts
  refine read?_of_value letters fun fuel => ?_
  unfold Numbers at numbers
  rw [letters] at numbers ⊢
  rw [readValue?_number starts, numbers]
  rfl

end Json

theorem Decimal.nearest_natural {number : Nat} (small : number < Handle.bound) :
    (Decimal.nearest number 0).isFinite = true := by
  have within : number < 10 ^ 10 := Nat.lt_trans small (by decide)
  have short : number.repr.length ≤ 10 := by
    rw [← String.length_toList, Nat.toList_repr]
    exact (Nat.length_toDigits_le_iff (by decide) (by decide)).mpr within
  unfold nearest
  dsimp only
  split
  case isTrue => rfl
  case isFalse =>
    rw [if_neg (by omega), if_neg (by omega), if_pos (by decide)]
    exact isFinite_iff.mpr ⟨number, value?_eq_some_iff.mpr
      (denotes_ofNat (Nat.le_trans (Nat.le_of_lt small) (by decide)))⟩

/-- The parts of a handle are words of 32 bits. -/
def Handle.Bounded (handle : Handle) : Prop :=
  handle.index < Handle.bound ∧ handle.generation < Handle.bound

namespace Json

theorem nearest_naturalNumber (number : Nat) :
    JsonNumber.nearest ⟨false, ⟨number.repr.toList, [], 0⟩, true⟩ = Decimal.nearest number 0 := by
  change Decimal.nearest (Decimal.natOfDigits (number.repr.toList ++ [])) (0 - 0) = _
  rw [List.append_nil, natOfDigits_repr]
  rfl

theorem handlePart?_natural {number : Nat} (small : number < Handle.bound) :
    JsonNumber.handlePart? ⟨false, ⟨number.repr.toList, [], 0⟩, true⟩ = some number := by
  unfold JsonNumber.handlePart?
  dsimp only
  rw [natOfDigits_repr, decide_eq_true small]
  rfl

theorem inRange_natural {number : Nat} (small : number < Handle.bound) :
    inRange (naturalNumber number) = true := by
  unfold naturalNumber inRange
  rw [nearest_naturalNumber]
  exact Decimal.nearest_natural small

theorem inRange_handle {handle : Handle} (bounded : handle.Bounded) :
    inRange (handleDocument handle) = true := by
  simp only [handleDocument, inRange, membersInRange, inRange_natural bounded.1,
    inRange_natural bounded.2, Bool.and_self]

theorem inRange_listed {handle : Handle} (bounded : handle.Bounded) :
    inRange (listedDocument handle) = true := by
  simp only [listedDocument, inRange, itemsInRange, inRange_natural bounded.1,
    inRange_natural bounded.2, Bool.and_self]

theorem ofJson?_listed {handle : Handle} (bounded : handle.Bounded) :
    Handle.ofJson? (listedDocument handle) = some handle := by
  change (JsonNumber.handlePart? _ >>= fun index =>
    JsonNumber.handlePart? _ >>= fun generation => some (Handle.mk index generation)) = _
  rw [handlePart?_natural bounded.1, handlePart?_natural bounded.2]
  rfl

theorem ofJson?_handle {handle : Handle} (bounded : handle.Bounded) :
    Handle.ofJson? (handleDocument handle) = some handle := by
  have index : Handle.membersNamed "index" [("index", naturalNumber handle.index),
      ("generation", naturalNumber handle.generation)] = [naturalNumber handle.index] := by
    simp [Handle.membersNamed]
  have generation : Handle.membersNamed "generation" [("index", naturalNumber handle.index),
      ("generation", naturalNumber handle.generation)] = [naturalNumber handle.generation] := by
    simp [Handle.membersNamed]
  unfold handleDocument Handle.ofJson?
  dsimp only
  rw [index, generation]
  exact ofJson?_listed bounded

def ReadsBack (number : Float) : Prop :=
  ∃ written, Numbers (ofFloat number) written ∧ written.nearest = number

end Json

namespace HostValue

open Json

theorem read?_of_read? {document : String} {json : Json} (read : Json.read? document = some json)
    (within : json.inRange = true) : read? document = ofJson? json := by
  unfold read?
  rw [read]
  change (if json.inRange then ofJson? json else none) = _
  rw [within, if_pos rfl]

theorem read?_number {number : Float} (finite : number.isFinite = true) (back : ReadsBack number) :
    read? (HostValue.number number).toJson = some (.number number) := by
  obtain ⟨written, numbers, rfl⟩ := back
  change read? (ofFloat written.nearest) = _
  rw [read?_of_read? (Json.read?_number numbers) finite]
  change (JsonNumber.finite? written).map HostValue.number = _
  unfold JsonNumber.finite?
  rw [if_pos finite]
  rfl

theorem toJson_infinite {number : Float} (infinite : number.isFinite = false) :
    (HostValue.number number).toJson = "null" := by
  have valueless : Decimal.value? number = none := by
    rw [Option.eq_none_iff_forall_ne_some]
    intro x known
    exact Bool.false_ne_true (infinite.symm.trans (Decimal.isFinite_iff.mpr ⟨x, known⟩))
  change ofFloat number = "null"
  unfold Decimal.value? at valueless
  unfold ofFloat
  cases size : Decimal.magnitude number with
  | infinite | notANumber => rfl
  | zero | finite _ =>
      rw [size] at valueless
      exact absurd valueless nofun

theorem read?_object {handle : Handle} (bounded : handle.Bounded) :
    read? (HostValue.object handle).toJson = some (.object handle) := by
  change read? handle.toJson = _
  rw [read?_of_read? (read?_handle handle) (inRange_handle bounded)]
  change (Handle.ofJson? (handleDocument handle)).map HostValue.object = _
  rw [ofJson?_handle bounded]
  rfl

theorem read?_listed {handle : Handle} (bounded : handle.Bounded) :
    read? (listed handle) = some (.object handle) := by
  rw [read?_of_read? (Json.read?_listed handle) (inRange_listed bounded)]
  change (Handle.ofJson? (listedDocument handle)).map HostValue.object = _
  rw [ofJson?_listed bounded]
  rfl

theorem read?_text (value : String) : read? (HostValue.text value).toJson = some (.text value) :=
  read?_of_read? (read?_quote value) rfl

theorem toJson_ne_listed {handle other : Handle} : (HostValue.object handle).toJson ≠ listed other := by
  intro same
  have letters := congrArg String.toList same
  change handle.toJson.toList = _ at letters
  rw [toList_handle, toList_listed] at letters
  exact absurd (List.cons.inj letters).1 (by decide)

/-- Every value is read back from its document, provided that a finite number is read back from its
text: booleans, texts of any letters, handles and the absence of a value. A number that is not
finite is read as the absence of a value. The other form of a handle, which is read as well, is the
document of no value. -/
theorem documents_keep_values :
    (∀ value : HostValue,
      (∀ number, value = .number number → number.isFinite = true ∧ ReadsBack number) →
      (∀ handle, value = .object handle → handle.Bounded) →
      read? value.toJson = some value ∧ ∀ handle : Handle, handle.Bounded →
        value.toJson ≠ listed handle ∧ read? (listed handle) = some (.object handle)) ∧
    ∀ number : Float, number.isFinite = false →
      (HostValue.number number).toJson = HostValue.null.toJson ∧
        read? (HostValue.number number).toJson = some .null := by
  refine ⟨fun value finite fitting => ?_, fun number infinite => ?_⟩
  · have back : read? value.toJson = some value := by
      cases value with
      | number number => exact read?_number (finite number rfl).1 (finite number rfl).2
      | boolean value => cases value <;> rfl
      | text value => exact read?_text value
      | object handle => exact read?_object (fitting handle rfl)
      | null => rfl
    refine ⟨back, fun handle bounded => ⟨fun same => ?_, read?_listed bounded⟩⟩
    rw [same, read?_listed bounded] at back
    cases back
    exact toJson_ne_listed same
  · rw [toJson_infinite infinite]
    exact ⟨rfl, rfl⟩

theorem negative_zero_readsBack : ReadsBack (-0.0) := by
  have text : ofFloat (-0.0) = "-0.0" := by decide +kernel
  refine ⟨⟨true, ⟨['0'], ['0'], 0⟩, false⟩, ?_, rfl⟩
  unfold Numbers
  rw [text]
  rfl

/-- Negative zero keeps its sign, and the parts of a handle may be the largest words. -/
theorem negative_zero_and_last_handle_are_kept :
    read? (HostValue.number (-0.0)).toJson = some (.number (-0.0)) ∧
    read? (HostValue.text "\"\\\x01\u00e9").toJson = some (.text "\"\\\x01\u00e9") ∧
    read? (HostValue.object ⟨4294967295, 4294967295⟩).toJson =
      some (.object ⟨4294967295, 4294967295⟩) := by
  refine ⟨?_, ?_, ?_⟩
  · refine (documents_keep_values.1 (.number (-0.0)) ?_ nofun).1
    rintro _ ⟨⟩
    exact ⟨rfl, negative_zero_readsBack⟩
  · exact (documents_keep_values.1 (.text _) nofun nofun).1
  · refine (documents_keep_values.1 (.object _) nofun ?_).1
    rintro _ ⟨⟩
    exact ⟨by decide, by decide⟩

end HostValue
end ScriptHost
