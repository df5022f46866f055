import Mathlib.Data.List.TakeWhile
import ScriptHost.Proofs.Effects
import ScriptHost.Script.Program

/-!
Reading a name that stands alone.

A text that is written like an identifier is read as one word, or as one mistake if it has no letter
before its first digit. The expression that consists of it looks a variable up, unless the word is
reserved or an expression may not be as deep as a name is; then the mistake is at its beginning.
-/

set_option autoImplicit false

namespace ScriptHost.Script

namespace Name

/-- What the host may call a variable and a script may say. -/
def isSayable (name : String) : Bool :=
  isName name.toList && isFree name

theorem isNameStart_of_isIdentifier {name : String} (identifier : isIdentifier name = true) :
    ∃ first rest, name.toList = first :: rest ∧ isNameStart first = true ∧
      ∀ letter ∈ first :: rest, isNamePart letter = true := by
  unfold isIdentifier at identifier
  cases letters : name.toList with
  | nil =>
      rw [letters] at identifier
      cases identifier
  | cons first rest =>
      rw [letters] at identifier
      obtain ⟨starts, others⟩ := Bool.and_eq_true_iff.mp identifier
      refine ⟨first, rest, rfl, starts, fun letter member => ?_⟩
      rcases List.mem_cons.mp member with rfl | inside
      · unfold isNamePart Char.isAlphanum
        rcases Bool.or_eq_true_iff.mp starts with alphabetic | underscore
        · rw [alphabetic]
          rfl
        · rw [underscore, Bool.or_true]
      · exact List.all_eq_true.mp others letter inside

end Name

theorem plain_of_isNameStart {letter : Char} (starts : isNameStart letter = true) :
    isGap letter = false ∧ letter.isDigit = false ∧ letter ∉ ['/', '\x7d', '"', '\'', '`', '-'] := by
  have apart (other : Char) (outside : isNameStart other = false) : letter ≠ other := by
    rintro rfl
    rw [starts] at outside
    cases outside
  refine ⟨?_, ?_, ?_⟩
  · simp only [isGap, Bool.or_eq_false_iff, beq_eq_false_iff_ne]
    exact ⟨⟨⟨⟨apart _ rfl, apart _ rfl⟩, apart _ rfl⟩, apart _ rfl⟩, apart _ rfl⟩
  · rcases Bool.or_eq_true_iff.mp starts with alphabetic | underscore
    · unfold Char.isAlpha Char.isUpper Char.isLower at alphabetic
      unfold Char.isDigit
      simp only [Bool.or_eq_true, Bool.and_eq_true, Bool.and_eq_false_iff, decide_eq_true_eq,
        decide_eq_false_iff_not, ge_iff_le, UInt32.le_iff_toNat_le] at alphabetic ⊢
      change (65 ≤ letter.toNat ∧ letter.toNat ≤ 90) ∨ (97 ≤ letter.toNat ∧ letter.toNat ≤ 122)
        at alphabetic
      change ¬ 48 ≤ letter.toNat ∨ ¬ letter.toNat ≤ 57
      omega
    · rw [eq_of_beq underscore]
      rfl
  · simp only [List.mem_cons, List.not_mem_nil, or_false, not_or]
    exact ⟨apart _ rfl, apart _ rfl, apart _ rfl, apart _ rfl, apart _ rfl, apart _ rfl⟩

def endOf (text : String) : Position := text.toList.foldl Position.after ⟨1, 1⟩

/-- What an identifier is read as. -/
def wordToken (name : String) : Token :=
  if isName name.toList then .word name else .invalid "malformed name"

theorem readToken_identifier {name : String} (identifier : Name.isIdentifier name = true)
    (braces : List Nat) (last : Token) :
    readToken ⟨Cursor.start name, braces, last⟩ =
      (⟨wordToken name, ⟨1, 1⟩⟩, ⟨⟨[], endOf name⟩, braces, wordToken name⟩) := by
  obtain ⟨first, rest, letters, starts, parts⟩ := Name.isNameStart_of_isIdentifier identifier
  obtain ⟨_, digit, others⟩ := plain_of_isNameStart starts
  have whole : (first :: rest).takeWhile isNamePart = first :: rest :=
    List.takeWhile_eq_self_iff.mpr parts
  have nothing : (first :: rest).dropWhile isNamePart = [] :=
    List.dropWhile_eq_nil_iff.mpr parts
  simp only [List.mem_cons, List.not_mem_nil, or_false, not_or] at others
  obtain ⟨_, _, quote, mark, tick, minus⟩ := others
  have text : String.ofList (first :: rest) = name := by
    rw [← letters, String.ofList_toList]
  unfold readToken wordToken endOf Cursor.start
  rw [letters]
  dsimp only
  split
  · rename_i empty
    cases empty
  · rename_i same
    cases same
    exact (quote rfl).elim
  · rename_i same
    cases same
    exact (mark rfl).elim
  · rename_i same
    cases same
    exact (tick rfl).elim
  · rename_i same
    cases same
    exact (minus rfl).elim
  · rename_i same
    cases same
    unfold Cursor.takeWhile
    dsimp only
    rw [digit, starts, whole, nothing, text]
    cases isName (first :: rest) <;> rfl

/-- At the beginning of a name there is neither a comment nor a blank nor the end of an expression
inside a text. -/
theorem readTokens_of_isNameStart {cursor : Cursor} {first : Char} {rest : List Char}
    (here : cursor.rest = first :: rest) (starts : isNameStart first = true) (fuel : Nat)
    (last : Token) :
    readTokens (fuel + 1) ⟨cursor, [], last⟩ =
      (readToken ⟨cursor, [], last⟩).1 ::
        match (readToken ⟨cursor, [], last⟩).1.token with
        | .invalid _ => []
        | _ => readTokens fuel (readToken ⟨cursor, [], last⟩).2 := by
  obtain ⟨gap, _, others⟩ := plain_of_isNameStart starts
  simp only [List.mem_cons, List.not_mem_nil, or_false, not_or] at others
  obtain ⟨slash, brace, _⟩ := others
  rw [readTokens]
  dsimp only
  split
  · rename_i same
    cases here.symm.trans same
    exact (slash rfl).elim
  · rename_i same
    cases here.symm.trans same
    exact (slash rfl).elim
  · rename_i same
    cases here.symm.trans same
    rw [gap, if_neg Bool.false_ne_true]
    split
    · exact (brace rfl).elim
    · rfl
  · rename_i same
    cases here.symm.trans same

theorem tokens_identifier {name : String} (identifier : Name.isIdentifier name = true)
    (allowed : Nat → Bool) :
    tokens allowed name =
      if isName name.toList then [⟨.word name, ⟨1, 1⟩⟩, ⟨.finish, endOf name⟩]
      else [⟨.invalid "malformed name", ⟨1, 1⟩⟩] := by
  obtain ⟨first, rest, letters, starts, _⟩ := Name.isNameStart_of_isIdentifier identifier
  have size : name.length = rest.length + 1 := by
    rw [← String.length_toList, letters, List.length_cons]
  unfold tokens
  rw [size, readTokens_of_isNameStart letters starts, readToken_identifier identifier [] .finish]
  unfold wordToken
  cases isName name.toList <;> rfl

namespace Parser

variable {α β : Type} {surroundings : Surroundings} {reading : Reading}

theorem bind_apply (parser : Parser α) (rest : α → Parser β) (surroundings : Surroundings)
    (reading : Reading) :
    (parser >>= rest) surroundings reading =
      match parser surroundings reading with
      | .ok result after => rest result surroundings after
      | .error fault after => .error fault after := by
  have opened : (parser >>= rest) surroundings reading =
      (parser surroundings >>= fun result => rest result surroundings) reading := rfl
  rw [opened, ScriptHost.bind_apply]
  cases parser surroundings reading <;> rfl

theorem deeper_eq (setting : Setting) {first : Located} {rest : List Located}
    (here : reading.input = first :: rest) :
    deeper setting surroundings reading =
      if Limits.allows setting.depthLimit (setting.level + 1) then
        .ok { setting with level := setting.level + 1 } reading
      else .error ⟨"expression is too deep", first.position⟩ reading := by
  obtain ⟨input, locals, blockSize, outside, functions⟩ := reading
  obtain rfl : input = first :: rest := here
  unfold deeper
  cases Limits.allows setting.depthLimit (setting.level + 1) <;> rfl

theorem word_free {name : String} (free : Name.isFree name = true) (self : Grammar)
    (setting : Setting) (position stop : Position) (here : reading.input = [⟨.finish, stop⟩]) :
    word self setting name position surroundings reading =
      (mention setting name position >>= fun _ => pure (.lookup name position)) surroundings
        reading := by
  obtain ⟨input, locals, blockSize, outside, functions⟩ := reading
  obtain rfl : input = [⟨.finish, stop⟩] := here
  obtain ⟨⟨keyword, builtin⟩, reserved⟩ :
      (Name.keywords.contains name = false ∧ Name.builtinNames.contains name = false) ∧
        Name.reservedWords.contains name = false := by
    simpa [Name.isFree] using free
  have apart (other : String) (outside : Name.isFree other = false) : (name == other) = false := by
    rw [beq_eq_false_iff_ne]
    rintro rfl
    rw [free] at outside
    cases outside
  unfold word
  rw [apart "true" (by decide), apart "false" (by decide), apart "if" (by decide),
    apart "this" (by decide), builtin, free]
  rfl

theorem mention_global {setting : Setting} {name : String} {position : Position}
    (unknown : reading.locals = []) (new : reading.outside = [])
    (known : surroundings.globals.contains name = true) :
    mention setting name position surroundings reading =
      .ok () { reading with outside := [(name, position)] } := by
  obtain ⟨input, locals, blockSize, outside, functions⟩ := reading
  obtain rfl : locals = [] := unknown
  obtain rfl : outside = [] := new
  have noted : mention setting name position surroundings
      ⟨input, [], blockSize, [], functions⟩ =
        (if surroundings.strict && !setting.inClosure && !surroundings.globals.contains name &&
            !functions.hasName name then
          failAt position ("undefined variable: " ++ name)
        else pure ()) surroundings ⟨input, [], blockSize, [(name, position)], functions⟩ := rfl
  rw [noted, known, Bool.not_true, Bool.and_false, Bool.false_and]
  rfl

def lone (first : Token) (rest : List Located) : Reading :=
  ⟨⟨first, ⟨1, 1⟩⟩ :: rest, [], 0, [], .empty⟩

def ended (name : String) (stop : Position) : Reading :=
  ⟨[⟨.finish, stop⟩], [], 0, [(name, ⟨1, 1⟩)], .empty⟩

variable {name : String} {stop : Position} {setting : Setting}

theorem chain_free (free : Name.isFree name = true)
    (known : surroundings.globals.contains name = true) (self : Grammar)
    (only : setting.expressionOnly = true) :
    chain self setting surroundings (lone (.word name) [⟨.finish, stop⟩]) =
      .ok (.lookup name ⟨1, 1⟩) (ended name stop) := by
  have rooted : primary self setting surroundings (lone (.word name) [⟨.finish, stop⟩]) =
      .ok (.lookup name ⟨1, 1⟩) (ended name stop) := by
    have first : primary self setting surroundings (lone (.word name) [⟨.finish, stop⟩]) =
        (if loopWords.contains name && !setting.expressionOnly then self .loop setting
          else do operand self setting (← next)) surroundings
          (lone (.word name) [⟨.finish, stop⟩]) := rfl
    rw [first, only, Bool.not_true, Bool.and_false, if_neg Bool.false_ne_true]
    have read := @word_free surroundings ⟨[⟨.finish, stop⟩], [], 0, [], .empty⟩ name free self
      setting ⟨1, 1⟩ stop rfl
    rw [bind_apply, mention_global rfl rfl known] at read
    exact read
  unfold chain
  rw [bind_apply, rooted]
  rfl

variable {first : Token} {rest : List Located}

/-- An expression that begins with no symbol is a chain with what follows it, two levels further
down. -/
theorem expression_eq (plain : ∀ sign, first ≠ .symbol sign) (self : Grammar) :
    expression self setting surroundings (lone first rest) =
      if Limits.allows setting.depthLimit (setting.level + 2) then
        (chain self { setting with level := setting.level + 2 } >>= fun left => do
          operators self (← itemBound) { setting with level := setting.level + 1 } 0 left)
          surroundings (lone first rest)
      else .error ⟨"expression is too deep", ⟨1, 1⟩⟩ (lone first rest) := by
  have once := @deeper_eq surroundings (lone first rest) setting _ _ rfl
  have twice := @deeper_eq surroundings (lone first rest) { setting with level := setting.level + 1 }
    _ _ rfl
  unfold expression unary
  rw [bind_apply, once]
  cases deep : Limits.allows setting.depthLimit (setting.level + 2) with
  | false =>
      cases Limits.allows setting.depthLimit (setting.level + 1) with
      | false => rfl
      | true =>
          rw [deep] at twice
          rw [if_pos rfl]
          dsimp only
          rw [bind_apply, bind_apply, twice]
          rfl
  | true =>
      have lessDeep : Limits.allows setting.depthLimit (setting.level + 1) = true := by
        simp only [Limits.allows, Bool.or_eq_true, beq_iff_eq, decide_eq_true_eq] at deep ⊢
        omega
      rw [deep] at twice
      rw [if_pos lessDeep]
      dsimp only
      rw [bind_apply, bind_apply, twice, if_pos rfl, if_pos rfl]
      dsimp only
      rw [bind_apply, bind_apply]
      cases first with
      | symbol sign => exact (plain sign rfl).elim
      | _ => rfl

end Parser

namespace Program

variable {surroundings : Surroundings} {name text : String} {first : Token} {rest : List Located}

theorem readExpression_of_ok {body : Term} {stop : Position} {locals : List LocalName} {size : Nat}
    {outside : List (String × Position)} {functions : Definitions}
    (begins : tokens (Limits.allows surroundings.limits.textSize) text = ⟨first, ⟨1, 1⟩⟩ :: rest)
    (parsed : ∀ fuel, Parser.expression (Parser.term fuel) (Parser.topSetting surroundings true)
      surroundings (Parser.lone first rest) =
        .ok body ⟨[⟨.finish, stop⟩], locals, size, outside, functions⟩) :
    readExpression surroundings text = .ok (simplified surroundings functions [body]) := by
  have bound : Parser.itemBound surroundings ⟨⟨first, ⟨1, 1⟩⟩ :: rest, [], 0, [], .empty⟩ =
      .ok (rest.length + 2) (Parser.lone first rest) := rfl
  have read : Parser.term (4 * (rest.length + 2)) .expression (Parser.topSetting surroundings true)
      surroundings (Parser.lone first rest) = _ := parsed (4 * rest.length + 7)
  unfold readExpression Parser.run
  dsimp only
  rw [begins, Parser.bind_apply, bound]
  dsimp only
  rw [Parser.bind_apply, read]
  rfl

theorem readExpression_of_error {fault : SyntaxFault} {after : Reading}
    (begins : tokens (Limits.allows surroundings.limits.textSize) text = ⟨first, ⟨1, 1⟩⟩ :: rest)
    (parsed : ∀ fuel, Parser.expression (Parser.term fuel) (Parser.topSetting surroundings true)
      surroundings (Parser.lone first rest) = .error fault after) :
    readExpression surroundings text = .error fault := by
  have bound : Parser.itemBound surroundings ⟨⟨first, ⟨1, 1⟩⟩ :: rest, [], 0, [], .empty⟩ =
      .ok (rest.length + 2) (Parser.lone first rest) := rfl
  have read : Parser.term (4 * (rest.length + 2)) .expression (Parser.topSetting surroundings true)
      surroundings (Parser.lone first rest) = _ := parsed (4 * rest.length + 7)
  unfold readExpression Parser.run
  dsimp only
  rw [begins, Parser.bind_apply, bound]
  dsimp only
  rw [Parser.bind_apply, read]
  rfl

/-- Whether the expression that a name is can be read. -/
def Readable (surroundings : Surroundings) (name : String) : Prop :=
  Name.isSayable name = true ∧ Limits.allows surroundings.limits.expressionDepth 2 = true

/-- The name of a variable that is no constant is an expression which looks it up. -/
theorem readExpression_readable (identifier : Name.isIdentifier name = true)
    (readable : Readable surroundings name) (known : surroundings.globals.contains name = true)
    (variable_ : surroundings.constant? name = none) :
    readExpression surroundings name =
      .ok ⟨[], [.lookup name ⟨1, 1⟩], List.nodup_nil⟩ := by
  obtain ⟨sayable, deep⟩ := readable
  obtain ⟨named, free⟩ := Bool.and_eq_true_iff.mp sayable
  have begins := tokens_identifier identifier (Limits.allows surroundings.limits.textSize)
  rw [if_pos named] at begins
  have resolved : surroundings.knowledge.resolve name ⟨1, 1⟩ = .lookup name ⟨1, 1⟩ := by
    have unknown : surroundings.knowledge.constant? name = none := variable_
    unfold Knowledge.resolve
    rw [unknown]
  have plain : ∀ sign, Token.word name ≠ .symbol sign := nofun
  have read := readExpression_of_ok begins fun fuel => by
    rw [Parser.expression_eq plain]
    refine (if_pos deep).trans ?_
    rw [Parser.bind_apply, Parser.chain_free free known _ rfl]
    rfl
  rw [read]
  have body : surroundings.knowledge.simplifyBody [.lookup name ⟨1, 1⟩] = [.lookup name ⟨1, 1⟩] := by
    have settled : surroundings.knowledge.simplifyBody [.lookup name ⟨1, 1⟩] =
        Term.settle true false [surroundings.knowledge.resolve name ⟨1, 1⟩] := rfl
    rw [settled, resolved]
    rfl
  unfold simplified
  simp only [body]
  rfl

theorem readExpression_unreadable (identifier : Name.isIdentifier name = true)
    (accepted : Name.isFreeForHost name = true) (unreadable : ¬ Readable surroundings name) :
    ∃ reason, readExpression surroundings name = .error ⟨reason, ⟨1, 1⟩⟩ := by
  have begins := tokens_identifier identifier (Limits.allows surroundings.limits.textSize)
  cases deep : Limits.allows surroundings.limits.expressionDepth 2 with
  | false =>
      have shallow {first : Token} {rest : List Located} (plain : ∀ sign, first ≠ .symbol sign)
          (fuel : Nat) :
          Parser.expression (Parser.term fuel) (Parser.topSetting surroundings true) surroundings
            (Parser.lone first rest) =
              .error ⟨"expression is too deep", ⟨1, 1⟩⟩ (Parser.lone first rest) := by
        rw [Parser.expression_eq plain]
        exact if_neg (ne_true_of_eq_false deep)
      split at begins
      · exact ⟨_, readExpression_of_error begins (shallow nofun)⟩
      · exact ⟨_, readExpression_of_error begins (shallow nofun)⟩
  | true =>
      split at begins
      case isTrue named =>
        have reserved : name = "is" := by
          rcases Bool.or_eq_true_iff.mp accepted with free | same
          · exact (unreadable ⟨Bool.and_eq_true_iff.mpr ⟨named, free⟩, deep⟩).elim
          · exact eq_of_beq same
        subst reserved
        have plain : ∀ sign, Token.word "is" ≠ .symbol sign := nofun
        refine ⟨"reserved word", @readExpression_of_error _ _ _ _ _
          ⟨[⟨.finish, endOf "is"⟩], [], 0, [], .empty⟩ begins fun fuel => ?_⟩
        rw [Parser.expression_eq plain]
        exact (if_pos deep).trans rfl
      case isFalse =>
        have plain : ∀ sign, Token.invalid "malformed name" ≠ .symbol sign := nofun
        refine ⟨"malformed name", @readExpression_of_error _ _ _ _ _
          (Parser.lone (.invalid "malformed name") []) begins fun fuel => ?_⟩
        rw [Parser.expression_eq plain]
        exact (if_pos deep).trans rfl

end Program
end ScriptHost.Script
