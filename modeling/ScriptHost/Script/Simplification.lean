import ScriptHost.Script.Arithmetic
import ScriptHost.Script.Limits
import ScriptHost.Script.Name

/-!
Simplification: what is settled about a script before it runs.

Names of constants are replaced by their values, operators between constants by their results, and
statements that change nothing are left out. A simplified script gives the same values where the
script gives any, but it may do without a step that would have failed, and it keeps the constants
that were there when it was read. Closures stay as they are written.
-/

namespace ScriptHost.Script

/-- A constant and, where the session keeps it, its index there. -/
structure Constant where
  value : Value
  index? : Option Nat

/-- `names` are those introduced around a term, innermost first; other names may be constants of
the session. -/
structure Knowledge where
  textSize : Nat
  names : List (String × Option Constant)
  global? : String → Option Constant

namespace Knowledge

def constant? (known : Knowledge) (name : String) : Option Constant :=
  match known.names.lookup name with
  | some constant? => constant?
  | none => known.global? name

def hide (known : Knowledge) (name : String) : Knowledge :=
  { known with names := (name, none) :: known.names }

def resolve (known : Knowledge) (name : String) (position : Position) : Term :=
  match known.constant? name with
  | none => .lookup name position
  | some constant =>
      if free : constant.value.holdings = [] then .literal ⟨constant.value, free⟩ position
      else
        match constant.index? with
        | some index => .constant name index position
        | none => .lookup name position

end Knowledge

namespace Term

def truth? : Term → Option Bool
  | literal ⟨.datum (.boolean truth), _⟩ _ => some truth
  | _ => none

def introducing (known : Knowledge) : Term → Knowledge
  | declaration name isConstant _ value _ =>
      let constant? := if isConstant then value.value?.map fun value => ⟨value, none⟩ else none
      { known with names := (name, constant?) :: known.names }
  | _ => known

def declares : Term → Bool
  | declaration .. => true
  | _ => false

mutual

/-- Whether nothing is lost if a statement is left out whose value does not matter. A name alone is
such a statement, but not as a part of another one. -/
def isIdle : Term → Bool
  | .literal .. | .lookup .. | .constant .. => true
  | .block statements _ => areIdle statements
  | .conditional condition consequence alternative _ =>
      condition.value?.isSome && isIdle consequence && isIdle alternative
  | .forLoop _ _ iterated body _ => iterated.value?.isSome && isIdle body
  | .attempt body _ handler _ => isIdle body && isIdle handler
  | _ => false

def areIdle : List Term → Bool
  | [] => true
  | term :: rest => isIdle term && areIdle rest

end

/-- Whether a declaration is of no use if nothing after it uses the name. -/
def isIdleDeclaration : Term → Bool
  | .declaration _ _ _ value _ => isIdle value
  | _ => false

/-- Leaves out what does nothing. The last statement stays if its value matters. At the end of an
inner block declarations are of no use, but those of a script or a function stay. -/
def settle (valued inner : Bool) : List Term → List Term
  | [] => []
  | [last] =>
      if inner && last.isIdleDeclaration then
        if valued then [.unit last.position] else []
      else if last.isIdle && !valued then []
      else [last]
  | statement :: rest =>
      let rest := settle valued inner rest
      let useless := statement.isIdle ||
        (inner && statement.isIdleDeclaration && rest.all fun term => term.value?.isSome)
      if useless then rest else statement :: rest

def makeList (items : List Term) (position : Position) : Term :=
  match items.mapM literal? with
  | some values => .literal (.list values) position
  | none => .list items position

def makeTable (entries : List (String × Term)) (position : Position) : Term :=
  match entries.mapM fun entry => entry.2.literal?.map fun value => (entry.1, value) with
  | some values => .literal (.table values) position
  | none => .table entries position

def makeInterpolation (pieces : List Term) (position : Position) : Term :=
  match pieces.mapM value? with
  | some values => .datum (.text (String.join (values.map Value.plain))) position
  | none => .interpolation pieces position

def makeBinary (known : Knowledge) (operation : Operation) (left right : Term)
    (position : Position) : Term :=
  let result? := match left.value?, right.value? with
    | some left, some right =>
        match Arithmetic.outcome operation left right with
        | some (.ok result) =>
            if Limits.allows known.textSize (Value.datum result).extent.bytes then some result
            else none
        | _ => none
    | _, _ => none
  match result? with
  | some result => .datum result position
  | none => .binary operation left right position

def makeConjunction (left right : Term) (position : Position) : Term :=
  match left.truth?, right.truth? with
  | some true, _ => right
  | some false, _ => .datum (.boolean false) left.position
  | none, some true => left
  | _, _ => .conjunction left right position

def makeDisjunction (left right : Term) (position : Position) : Term :=
  match left.truth?, right.truth? with
  | some false, _ => right
  | some true, _ => .datum (.boolean true) left.position
  | none, some false => left
  | _, _ => .disjunction left right position

def makeCall (name : String) (arguments : List Term) (position : Position) : Term :=
  match name, arguments with
  | "type_of", [.literal held _] => .datum (.text held.value.typeName) position
  | "is_shared", [.literal ..] => .datum (.boolean false) position
  | "Fn", [.literal ⟨.datum (.text target), _⟩ _] =>
      if Name.isCallable target then .literal (.function target) position
      else .call name arguments position
  | _, _ => .call name arguments position

def entryName? : Link → Option String
  | .property name _ => some name
  | .index (.literal ⟨.datum (.text name), _⟩ _) _ => some name
  | _ => none

def tableAt? (known : Knowledge) : Term → Option (List (String × Value))
  | .literal ⟨.table entries, _⟩ _ => some entries
  | .lookup name _ =>
      match known.constant? name with
      | some ⟨.table entries, _⟩ => some entries
      | _ => none
  | _ => none

/-- A chain that is no more than an entry which a known table does not have gives nothing. -/
def makeChain (known : Knowledge) (root : Term) (links : List Link) (position : Position) :
    Term :=
  match root, links with
  | .literal held _, [.method "type_of" [] _] => .datum (.text held.value.typeName) position
  | .literal .., [.method "is_shared" [] _] => .datum (.boolean false) position
  | root, [link] =>
      match tableAt? known root, entryName? link with
      | some entries, some name =>
          if (entries.lookup name).isSome then .chain root [link] position else .unit position
      | _, _ => .chain root [link] position
  | _, _ => .chain root links position

/-- A block that is not more than one statement is that statement. -/
def makeBlock (statements : List Term) (position : Position) : Term :=
  match statements with
  | [statement] => if statement.declares then .block [statement] position else statement
  | _ => .block statements position

def isNothing : Term → Bool
  | .literal ⟨.datum .unit, _⟩ _ | .block [] _ => true
  | _ => false

def makeConditional (valued : Bool) (condition consequence alternative : Term)
    (position : Position) : Term :=
  match condition.truth? with
  | some true => consequence
  | some false => alternative
  | none =>
      if consequence.isNothing && alternative.isNothing then
        makeBlock (settle valued true (if valued then [condition, .unit position] else [condition]))
          position
      else
        .conditional condition consequence alternative position

def hasAssignment : Operation → Bool
  | .add | .subtract | .multiply | .divide | .remainder | .bitAnd | .bitOr | .bitXor
  | .shiftLeft | .shiftRight => true
  | _ => false

/-- To assign to a variable what an operation makes of it is to change it by that operation. -/
def makeAssignment (operation? : Option Operation) (target value : Term) (position : Position) :
    Term :=
  match operation?, target, value with
  | none, .lookup name _, .binary operation (.lookup other _) right operator =>
      if name == other && hasAssignment operation then
        .assignment (some operation) target right operator
      else
        .assignment none target value position
  | _, _, _ => .assignment operation? target value position

/-- What a chain begins with is found where it is, not taken as a value. -/
def orPlace (original simplified : Term) : Term :=
  match original with
  | .lookup .. | .receiver _ => original
  | _ => simplified

end Term

namespace Knowledge

mutual

/-- Simplifies a term; `valued` where the value of a statement matters. -/
def simplify (known : Knowledge) (valued : Bool) : Term → Term
  | .literal value position => .literal value position
  | .lookup name position => known.resolve name position
  | .constant name index position => .constant name index position
  | .receiver position => .receiver position
  | .list items position => Term.makeList (simplifyAll known items) position
  | .table entries position => Term.makeTable (simplifyEntries known entries) position
  | .interpolation pieces position =>
      Term.makeInterpolation (simplifyAll known pieces) position
  | .call name arguments position => Term.makeCall name (simplifyAll known arguments) position
  | .moduleCall space name arguments start position =>
      .moduleCall space name (simplifyAll known arguments) start position
  | .moduleLookup space name start => .moduleLookup space name start
  | .negation operand position => .negation (simplify known true operand) position
  | .complement operand position => .complement (simplify known true operand) position
  | .binary operation left right position =>
      Term.makeBinary known operation (simplify known true left) (simplify known true right)
        position
  | .conjunction left right position =>
      Term.makeConjunction (simplify known true left) (simplify known true right) position
  | .disjunction left right position =>
      Term.makeDisjunction (simplify known true left) (simplify known true right) position
  | .chain root links position =>
      Term.makeChain known (root.orPlace (simplify known true root)) (simplifyLinks known links)
        position
  | .conditional condition consequence alternative position =>
      Term.makeConditional valued (simplify known true condition)
        (simplify known valued consequence) (simplify known valued alternative) position
  | .closure name bound position => .closure name (simplifyAll known bound) position
  | .block statements position =>
      Term.makeBlock (Term.settle valued true (simplifyStatements known valued statements))
        position
  | .declaration name constant again value position =>
      .declaration name constant again (simplify known true value) position
  | .assignment operation? target value position =>
      Term.makeAssignment operation? (simplifyTarget known target) (simplify known true value)
        position
  | .whileLoop condition body position =>
      let condition := simplify known true condition
      if condition.truth? = some false then .unit position
      else .whileLoop condition (simplify known false body) position
  | .forLoop name namePosition iterated body position =>
      .forLoop name namePosition (simplify known true iterated)
        (simplify (known.hide name) false body) position
  | .breaking value position => .breaking (simplify known true value) position
  | .continuing position => .continuing position
  | .returning value position => .returning (simplify known true value) position
  | .throwing value position => .throwing (simplify known true value) position
  | .attempt body caught? handler position =>
      let body := simplify known false body
      if body.isIdle then .unit position
      else
        let inside := match caught? with
          | some caught => known.hide caught.1
          | none => known
        .attempt body caught? (simplify inside false handler) position

def simplifyAll (known : Knowledge) : List Term → List Term
  | [] => []
  | term :: rest => simplify known true term :: simplifyAll known rest

def simplifyEntries (known : Knowledge) : List (String × Term) → List (String × Term)
  | [] => []
  | (name, value) :: rest => (name, simplify known true value) :: simplifyEntries known rest

/-- Statements in order, what they declare being known to those after them. Blocks that declare
nothing come apart. -/
def simplifyStatements (known : Knowledge) (valued : Bool) : List Term → List Term
  | [] => []
  | .block inner position :: rest =>
      let opened := if inner.any Term.declares then
          [simplify known valued (.block inner position)]
        else
          simplifyStatements known valued inner
      opened ++ simplifyStatements known valued rest
  | statement :: rest =>
      let statement := simplify known valued statement
      statement :: simplifyStatements (statement.introducing known) valued rest

def simplifyLinks (known : Knowledge) : List Link → List Link
  | [] => []
  | .property name position :: rest => .property name position :: simplifyLinks known rest
  | .index key position :: rest =>
      .index (simplify known true key) position :: simplifyLinks known rest
  | .method name arguments position :: rest =>
      .method name (simplifyAll known arguments) position :: simplifyLinks known rest

def simplifyTarget (known : Knowledge) : Term → Term
  | .chain root links position => .chain root (simplifyLinks known links) position
  | target => target

end

def simplifyBody (known : Knowledge) (statements : List Term) : List Term :=
  Term.settle true false (simplifyStatements known true statements)

def simplifyFunction (known : Knowledge) (function : Function) : Function :=
  let known := function.parameters.foldl hide known
  let body := match function.body with
    | .block statements position => .block (known.simplifyBody statements) position
    | body => body
  if function.isClosure then function else { function with body := body }

theorem key_simplifyFunction (known : Knowledge) (function : Function) :
    (known.simplifyFunction function).key = function.key := by
  unfold simplifyFunction
  dsimp only
  split
  · rfl
  · rfl

end Knowledge
end ScriptHost.Script
