/-!
The names that scripts may use.
-/

namespace ScriptHost.Script.Name

def keywords : List String :=
  ["true", "false", "let", "const", "if", "else", "switch", "do", "while", "until", "loop", "for",
   "in", "continue", "break", "return", "throw", "try", "catch", "import", "export", "as", "fn",
   "private", "global"]

/-- Names of built-in functions, which nothing else can bear. -/
def builtinNames : List String :=
  ["print", "debug", "type_of", "eval", "Fn", "call", "curry", "is_def_var", "is_def_fn",
   "is_shared"]

def builtinMethods : List String :=
  ["type_of", "call", "curry", "is_shared"]

def reservedWords : List String :=
  ["this", "is", "var", "static", "shared", "goto", "exit", "match", "case", "public", "protected",
   "new", "use", "with", "module", "package", "super", "thread", "spawn", "go", "await", "async",
   "sync", "yield", "default", "void", "null", "nil"]

def isFree (name : String) : Bool :=
  !keywords.contains name && !builtinNames.contains name && !reservedWords.contains name

/-- Whether a host may give the name to a variable. One of the words kept for later is not among
those that it has to leave alone. -/
def isFreeForHost (name : String) : Bool :=
  isFree name || name == "is"

/-- A letter or an underscore, followed by letters, digits and underscores, all of them ASCII. -/
def isIdentifier (name : String) : Bool :=
  match name.toList with
  | [] => false
  | first :: rest =>
      (first.isAlpha || first == '_') &&
        rest.all fun letter => letter.isAlphanum || letter == '_'

def isCallable (name : String) : Bool :=
  isIdentifier name && !keywords.contains name && !reservedWords.contains name

end ScriptHost.Script.Name
