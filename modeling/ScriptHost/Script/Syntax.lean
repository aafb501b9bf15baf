import ScriptHost.Number.Double
import ScriptHost.Text.Basic

/-! The scripts that the interpreter runs: expressions, statements and the lines they make up. -/
namespace ScriptHost

/-- An exception to raise: the name of its class and the text it is made with. -/
structure Raise where
  type : String
  text : String
  deriving DecidableEq, Inhabited, Repr

/-- Where an object carries the mark that keeps it from being converted. -/
inductive SkipMark where
  | onClass | classFalse | classNone | onInstance | dynamic
  deriving DecidableEq, Repr

/-- How the class of an object takes part in iteration. -/
inductive IterationStyle where
  | items | refused | itself | broken | byIndex | onInstance
  deriving DecidableEq, Repr

/-- The parts of a class that are no expressions. -/
structure ClassShape where
  name : String := "Thing"
  tag : String := "obj"
  base : Option String := none
  skip : Option SkipMark := none
  attributeRaise : Option Raise := none
  indexRaise : Option Raise := none
  iteration : Option IterationStyle := none
  iterationRaise : Option Raise := none
  itemsRaise : Option Raise := none
  textRaise : Option Raise := none
  equalsAll : Bool := false
  deriving Inhabited

/-- The operators between two operands. -/
inductive BinaryOperator where
  | add | multiply | divide | subscript | identical
  deriving DecidableEq, Repr

/-- The functions of one argument that expressions name directly. -/
inductive UnaryFunction where
  | length | represent | toText | sum | sorted | iterate | truth | toList | typeName
  deriving DecidableEq, Repr

/-- The name of the built-in function behind an expression of one argument. -/
def UnaryFunction.name : UnaryFunction → String
  | .length => "len"
  | .represent => "repr"
  | .toText => "str"
  | .sum => "sum"
  | .sorted => "sorted"
  | .iterate => "iter"
  | .truth => "bool"
  | .toList => "list"
  | .typeName => "type"

inductive Expr where
  | none
  | ellipsis
  | bool (b : Bool)
  | int (n : Int)
  | float (x : Double)
  | complex (re im : Double)
  | text (t : Text)
  | bytes (data : List UInt8)
  | byteArray (data : List UInt8)
  | memoryView (source : Expr)
  | list (items : List Expr)
  | tuple (items : List Expr)
  | set (items : List Expr)
  | frozenSet (items : List Expr)
  | dict (entries : List (Expr × Expr))
  | range (start stop step : Expr)
  | repeated (count : Nat) (s : String)
  | nested (depth : Nat) (inner : Expr)
  | countdown (count : Nat)
  | name (dotted : String)
  | builtin (dotted : String)
  | namespaceNames
  | outputType
  | binary (op : BinaryOperator) (left right : Expr)
  | attribute (target : Expr) (name : String)
  | call (function : Expr) (arguments : List Expr)
  | apply (function : UnaryFunction) (argument : Expr)
  | increment
  | opaqueObject (tag : String)
  | generator (items : List Expr) (ending : Option Raise)
  | dropHandles (dictionary : String)
  | object (shape : ClassShape) (initial index items : Option Expr)
      (iteration : Option (List Expr)) (mapping : Option (List (Expr × Expr)))
  deriving Inhabited

inductive Statement where
  | assign (name : String) (value : Expr)
  | evaluate (value : Expr)
  | append (name : String) (value : Expr)
  | setItem (name : String) (key value : Expr)
  | delete (name : String)
  | print (value : Expr) (ending : Option Expr)
  | write (name : String) (value : Expr)
  | flush
  | dropOutput
  | raise (type : String) (arguments : List Expr)
  | raiseObject (value : Expr)
  | defineRaise (name type : String) (value : Expr)
  | importModule (name : String)
  | insertPath (value : Expr)
  | clearPath
  | pass
  | comment (text : String)
  deriving Inhabited

/-- A script, as statements one per line or as source text that is still to be read. -/
inductive Script where
  | lines (statements : List Statement)
  | source (text : String)
  deriving Inhabited

end ScriptHost
