import ScriptHost.Guest.State

/-! Classes: the names of the interpreter's own ones, the class of each object, and what a class
can do. -/
namespace ScriptHost

namespace Builtin

/-- The exception classes, each with the class it extends. -/
def exceptionClasses : List (String × String) := [
  ("BaseException", "object"), ("Exception", "BaseException"), ("SystemExit", "BaseException"),
  ("KeyboardInterrupt", "BaseException"), ("GeneratorExit", "BaseException"),
  ("BaseExceptionGroup", "BaseException"), ("ExceptionGroup", "Exception"),
  ("StopIteration", "Exception"), ("StopAsyncIteration", "Exception"),
  ("ArithmeticError", "Exception"), ("FloatingPointError", "ArithmeticError"),
  ("OverflowError", "ArithmeticError"), ("ZeroDivisionError", "ArithmeticError"),
  ("AssertionError", "Exception"), ("AttributeError", "Exception"), ("BufferError", "Exception"),
  ("EOFError", "Exception"), ("ImportError", "Exception"), ("ModuleNotFoundError", "ImportError"),
  ("LookupError", "Exception"), ("IndexError", "LookupError"), ("KeyError", "LookupError"),
  ("MemoryError", "Exception"), ("NameError", "Exception"), ("UnboundLocalError", "NameError"),
  ("OSError", "Exception"), ("BlockingIOError", "OSError"), ("ChildProcessError", "OSError"),
  ("ConnectionError", "OSError"), ("BrokenPipeError", "ConnectionError"),
  ("ConnectionAbortedError", "ConnectionError"), ("ConnectionRefusedError", "ConnectionError"),
  ("ConnectionResetError", "ConnectionError"), ("FileExistsError", "OSError"),
  ("FileNotFoundError", "OSError"), ("InterruptedError", "OSError"), ("IsADirectoryError", "OSError"),
  ("NotADirectoryError", "OSError"), ("PermissionError", "OSError"), ("ProcessLookupError", "OSError"),
  ("TimeoutError", "OSError"), ("ReferenceError", "Exception"), ("RuntimeError", "Exception"),
  ("NotImplementedError", "RuntimeError"), ("RecursionError", "RuntimeError"),
  ("SyntaxError", "Exception"), ("IndentationError", "SyntaxError"), ("TabError", "IndentationError"),
  ("SystemError", "Exception"), ("TypeError", "Exception"), ("ValueError", "Exception"),
  ("UnicodeError", "ValueError"), ("UnicodeDecodeError", "UnicodeError"),
  ("UnicodeEncodeError", "UnicodeError"), ("UnicodeTranslateError", "UnicodeError"),
  ("Warning", "Exception"), ("BytesWarning", "Warning"), ("DeprecationWarning", "Warning"),
  ("EncodingWarning", "Warning"), ("FutureWarning", "Warning"), ("ImportWarning", "Warning"),
  ("PendingDeprecationWarning", "Warning"), ("ResourceWarning", "Warning"), ("RuntimeWarning", "Warning"),
  ("SyntaxWarning", "Warning"), ("UnicodeWarning", "Warning"), ("UserWarning", "Warning")]

/-- The classes of data and iterators. -/
def dataClasses : List String := [
  "bool", "bytearray", "bytes", "classmethod", "complex", "dict", "enumerate", "filter", "float",
  "frozenset", "int", "list", "map", "memoryview", "object", "property", "range", "reversed", "set",
  "slice", "staticmethod", "str", "super", "tuple", "type", "zip"]

/-- The classes that no built-in name stands for. -/
def hiddenClasses : List String := [
  "NoneType", "ellipsis", "NotImplementedType", "function", "builtin_function_or_method",
  "method_descriptor", "classmethod_descriptor", "wrapper_descriptor", "method-wrapper",
  "getset_descriptor", "member_descriptor", "module", "generator", "mappingproxy", "GenericAlias",
  "iterator", "callable_iterator", "list_iterator", "list_reverseiterator", "tuple_iterator",
  "str_ascii_iterator", "str_iterator", "bytes_iterator", "bytearray_iterator", "memory_iterator",
  "dict_keyiterator", "dict_valueiterator", "dict_itemiterator", "dict_reversekeyiterator",
  "dict_reversevalueiterator", "dict_reverseitemiterator", "set_iterator", "range_iterator",
  "longrange_iterator", "dict_keys", "dict_values", "dict_items", "ModuleSpec", "BuiltinImporter",
  "FrozenImporter", "SourceFileLoader", "NamespaceLoader", "_NamespacePath", "StringIO", "HostObject",
  "ScriptOutput", "Opaque", "Quitter", "_Printer", "_Helper", "traceback", "method", "code", "ABCMeta",
  "Mapping", "Collection", "Sized", "Iterable", "Container", "KeysView", "ValuesView", "ItemsView"]

def functions : List String := [
  "__build_class__", "__import__", "abs", "aiter", "all", "anext", "any", "ascii", "bin", "breakpoint",
  "callable", "chr", "compile", "delattr", "dir", "divmod", "eval", "exec", "format", "getattr", "globals",
  "hasattr", "hash", "hex", "id", "input", "isinstance", "issubclass", "iter", "len", "locals", "max", "min",
  "next", "oct", "open", "ord", "pow", "print", "repr", "round", "setattr", "sorted", "sum", "vars"]

/-- The class that a name stands for, where two names stand for one. -/
def canonical (name : String) : String :=
  if name = "IOError" ∨ name = "EnvironmentError" then "OSError" else name

def isException (name : String) : Bool := exceptionClasses.any (·.1 == name)

def isClass (name : String) : Bool :=
  isException name || dataClasses.contains name || hiddenClasses.contains name

/-- The class that a class extends. -/
def parent? (name : String) : Option String :=
  match name with
  | "object" => none
  | "bool" => some "int"
  | "ABCMeta" => some "type"
  | "Mapping" => some "Collection"
  | _ => (exceptionClasses.lookup name).or (some "object")

/-- The classes that a class extends, the nearest first. -/
def bases (name : String) : List String :=
  match name with
  | "ExceptionGroup" => ["BaseExceptionGroup", "Exception"]
  | "Collection" => ["Sized", "Iterable", "Container"]
  | _ => (parent? name).toList

private def ancestryWithin : Nat → String → List String
  | 0, name => [name]
  | n + 1, name => name :: ((parent? name).map (ancestryWithin n)).getD []

/-- A class and all that it extends, in the order in which attributes are looked up. -/
def ancestry (name : String) : List String :=
  match name with
  | "ExceptionGroup" => ["ExceptionGroup", "BaseExceptionGroup", "Exception", "BaseException", "object"]
  | "Mapping" => ["Mapping", "Collection", "Sized", "Iterable", "Container", "object"]
  | "Collection" => ["Collection", "Sized", "Iterable", "Container", "object"]
  | _ => ancestryWithin 8 name

/-- Whether a class is another one or extends it. -/
def descends (name ancestor : String) : Bool := (ancestry name).contains ancestor

/-- The classes that say what an object can do and hold no data. -/
def abstractClasses : List String := ["Mapping", "Collection", "Sized", "Iterable", "Container"]

/-- The class that a class is an object of. -/
def makerOf (name : String) : String := if abstractClasses.contains name then "ABCMeta" else "type"

/-- The module that a class lives in, where it is not that of the built-in names. -/
def moduleOf : String → String
  | "HostObject" | "ScriptOutput" => "pyhost"
  | "StringIO" => "_io"
  | "ModuleSpec" | "BuiltinImporter" | "FrozenImporter" => "_frozen_importlib"
  | "SourceFileLoader" | "NamespaceLoader" | "_NamespacePath" => "_frozen_importlib_external"
  | "Quitter" | "_Printer" | "_Helper" => "_sitebuiltins"
  | "Opaque" => "__main__"
  | "GenericAlias" => "types"
  | "ABCMeta" => "abc"
  | "Mapping" | "Collection" | "Sized" | "Iterable" | "Container" | "KeysView" | "ValuesView" | "ItemsView" =>
    "collections.abc"
  | _ => "builtins"

/-- The name of a class with its module, unless that is the one of the built-in names. -/
def qualifiedName (name : String) : String :=
  if moduleOf name = "builtins" then name else moduleOf name ++ "." ++ name

/-- The name of a class as messages about its objects give it. -/
def label (name : String) : String :=
  if ["HostObject", "ScriptOutput", "StringIO", "GenericAlias"].contains name then qualifiedName name
  else name

/-- The classes that no class can extend. -/
def isFinal (name : String) : Bool :=
  ["bool", "range", "slice", "memoryview"].contains name || (hiddenClasses.contains name &&
    !(["Opaque", "module", "ABCMeta"].contains name) && !abstractClasses.contains name)

/-- The class that decides how the objects of a class are laid out: the nearest that adds data. -/
def solid (name : String) : String :=
  if isException name then
    ((ancestry name).find? fun own => own == "BaseException" || addsData own).getD "object"
  else if name = "Opaque" || abstractClasses.contains name then "object"
  else if name = "bool" then "int"
  else if name = "ABCMeta" then "type"
  else name
where
  addsData (name : String) : Bool :=
    ["StopIteration", "SystemExit", "ImportError", "OSError", "SyntaxError", "UnicodeEncodeError",
      "UnicodeDecodeError", "UnicodeTranslateError", "NameError", "AttributeError", "BaseExceptionGroup"].contains name

/-- The class whose way to make new objects a class has. -/
def newcomerOf (name : String) : String :=
  if isException name then
    ((ancestry name).find? ["OSError", "MemoryError", "BaseExceptionGroup", "BaseException"].contains).getD name
  else if name = "Opaque" || abstractClasses.contains name then "object"
  else if name = "ABCMeta" then "type"
  else name

/-- The class of which a class has the function that makes new objects. -/
def makingOwner (name : String) : String :=
  let heirs := ["AttributeError", "ExceptionGroup", "ImportError", "ModuleNotFoundError", "KeyError", "NameError",
    "UnboundLocalError", "StopIteration", "SyntaxError", "IndentationError", "TabError", "SystemExit"]
  let makers := ["NoneType", "ellipsis", "NotImplementedType", "function", "module", "method", "mappingproxy",
    "GenericAlias", "code", "ABCMeta"]
  let hasOwn (name : String) : Bool :=
    if isException name then !heirs.contains name && (name == "OSError" || !descends name "OSError")
    else makers.contains name || !(hiddenClasses.contains name || abstractClasses.contains name)
  ((ancestry name).find? hasOwn).getD "object"

/-- The classes whose objects have no hash. -/
def refusesHash (name : String) : Bool :=
  ["list", "dict", "set", "bytearray", "slice", "dict_keys", "dict_items", "Mapping", "KeysView", "ItemsView"].contains
    name

end Builtin

namespace Fault

/-- Whether an exception is of a class or of one that extends it. -/
def isA (f : Fault) (ancestor : String) : Bool := Builtin.descends f.family ancestor

end Fault

namespace DictPart

def className : DictPart → String
  | .keys => "dict_keys"
  | .values => "dict_values"
  | .items => "dict_items"

end DictPart

namespace MemberKind

/-- The name of the class of an unbound member. -/
def className : MemberKind → String
  | .method => "method_descriptor"
  | .slot => "wrapper_descriptor"
  | .classMethod => "classmethod_descriptor"
  | .data => "getset_descriptor"
  | .field => "member_descriptor"

end MemberKind

namespace Body

/-- The name of the class of what holds this. -/
def className : Body → String
  | .none => "NoneType"
  | .ellipsis => "ellipsis"
  | .notImplemented => "NotImplementedType"
  | .bool _ => "bool"
  | .int _ => "int"
  | .float _ => "float"
  | .complex _ _ => "complex"
  | .text _ => "str"
  | .bytes _ => "bytes"
  | .byteArray _ => "bytearray"
  | .memoryView _ _ _ _ => "memoryview"
  | .list _ => "list"
  | .tuple _ => "tuple"
  | .set _ => "set"
  | .frozenSet _ => "frozenset"
  | .dict _ => "dict"
  | .view part _ => part.className
  | .proxy _ => "mappingproxy"
  | .mappingView .keys _ => "KeysView"
  | .mappingView .values _ => "ValuesView"
  | .mappingView .items _ => "ItemsView"
  | .range _ _ _ => "range"
  | .slice _ _ _ => "slice"
  | .exception type _ _ => type
  | .iterator type _ => type
  | .builtin name => if Builtin.isClass name then Builtin.makerOf name else "builtin_function_or_method"
  | .classObject _ => "type"
  | .function _ _ => "function"
  | .method _ _ => "method"
  | .property _ _ _ _ => "property"
  | .place _ _ kind => kind.className
  | .staticMethod _ => "staticmethod"
  | .classMethod _ => "classmethod"
  | .ancestral _ _ => "super"
  | .member "Mapping" _ _ => "function"
  | .member _ _ kind => kind.className
  | .bound _ "Mapping" _ _ => "method"
  | .bound _ _ _ .slot => "method-wrapper"
  | .bound _ _ _ _ => "builtin_function_or_method"
  | .module _ => "module"
  | .output _ _ => "ScriptOutput"
  | .stream => "StringIO"
  | .wrapper _ => "HostObject"
  | .tagged _ => "Opaque"
  | .plain type => type

/-- Whether the class of what holds this can be iterated over. -/
def isIterable : Body → Bool
  | .text _ | .bytes _ | .byteArray _ | .memoryView _ _ _ _ | .list _ | .tuple _ | .set _
  | .frozenSet _ | .dict _ | .view _ _ | .proxy _ | .mappingView _ _ | .range _ _ _ | .iterator _ _ | .stream => true
  | .plain type => type == "_NamespacePath" || type == "GenericAlias"
  | _ => false

end Body

namespace Guest

/-! ### Namespaces -/

/-- The entries of a dictionary object. -/
def entries (g : Guest) (id : Identity) : Dict :=
  match g.body id with
  | .dict entries => entries
  | _ => []

/-- What a namespace holds under a name. -/
def lookup (g : Guest) (namespaceDict : Identity) (name : Text) : Option Identity :=
  (g.entries namespaceDict).find? [.text name]

/-- What the system module holds under a name. -/
def systemAttribute (g : Guest) (name : String) : Option Identity := g.lookup g.system (.ofString name)

/-- The table of modules that the system module shows. -/
def shownModules (g : Guest) : Identity := (g.systemAttribute "modules").getD g.modules

/-- Standard output, unless the attribute is missing. -/
def stdout (g : Guest) : Option Identity := g.systemAttribute "stdout"

/-- The module search path, unless the attribute is missing. -/
def searchPath (g : Guest) : Option Identity := g.systemAttribute "path"

/-- The attributes that were set on an object itself. -/
def ownAttributes? (g : Guest) (id : Identity) : Option Identity :=
  match g.body id with
  | .module attributes => some attributes
  | _ => (g.object id).attributes

/-- An attribute that was set on an object itself. -/
def ownAttribute? (g : Guest) (id : Identity) (name : Text) : Option Identity :=
  (g.ownAttributes? id).bind fun attributes => g.lookup attributes name

/-! ### The classes of objects -/

/-- Whether an object is a class. -/
def isClassObject (g : Guest) (id : Identity) : Bool :=
  match g.body id with
  | .builtin name => Builtin.isClass name
  | .classObject _ => true
  | _ => false

/-- The name of a class. -/
def nameOfClass (g : Guest) (class? : Identity) : String :=
  match g.body class? with
  | .builtin name => name
  | .classObject made => made.name
  | _ => ""

/-- The name of a class with the names of what it stands in. -/
def titleOfClass (g : Guest) (class? : Identity) : String :=
  match g.body class? with
  | .classObject made => made.fullName
  | _ => g.nameOfClass class?

/-- The name of an object's class. -/
def className (g : Guest) (id : Identity) : String :=
  match g.home? id with
  | some home => g.nameOfClass home
  | none => (g.body id).className

/-- The name of an object's class with the names of what it stands in. -/
def classTitle (g : Guest) (id : Identity) : String :=
  match g.home? id with
  | some home => g.titleOfClass home
  | none => (g.body id).className

/-- The class by which a function goes that is bound to an object: the object itself where that is one. -/
def boundTitle (g : Guest) (id : Identity) : String :=
  if g.isClassObject id then g.titleOfClass id else g.classTitle id

/-- The name of an object's class as messages of the interpreter give it. -/
def classLabel (g : Guest) (id : Identity) : String :=
  match g.home? id with
  | none => Builtin.label (g.body id).className
  | some home => g.nameOfClass home

/-- The class of the interpreter's own whose data the objects of a class hold. -/
def layoutOf (g : Guest) (class? : Identity) : String :=
  match g.body class? with
  | .builtin name => name
  | .classObject made => made.layout
  | _ => "object"

/-- The class of the interpreter's own whose data an object holds. -/
def family (g : Guest) (id : Identity) : String :=
  match g.home? id with
  | some home => g.layoutOf home
  | none => (g.body id).className

/-- Whether a class is one of the interpreter's own or extends it. -/
def extendsOwn (g : Guest) (class? : Identity) (name : String) : Bool :=
  match g.body class? with
  | .builtin own => Builtin.descends own name
  | .classObject made => made.ancestors.any fun ancestor =>
      match g.body ancestor with
      | .builtin own => own == name
      | _ => false
  | _ => false

/-- Whether an object belongs to one of the interpreter's own classes. -/
def isInstance (g : Guest) (id : Identity) (name : String) : Bool :=
  match g.home? id with
  | some home => g.extendsOwn home name
  | none => Builtin.descends (g.body id).className name

def isNone (g : Guest) (id : Identity) : Bool :=
  match g.body id with
  | .none => true
  | _ => false

/-- The host value that an object wraps, if it wraps one. -/
def wrapped? (g : Guest) (id : Identity) : Option Value :=
  match g.body id with
  | .wrapper v => some v
  | _ => none

/-- The text that an object holds, if it holds one. -/
def text? (g : Guest) (id : Identity) : Option Text :=
  match g.body id with
  | .text t => some t
  | _ => none

def isText (g : Guest) (id : Identity) : Bool := (g.text? id).isSome

/-- The number of an integer that is no truth value. -/
def plainInt? (g : Guest) (id : Identity) : Option Int :=
  match g.body id with
  | .int n => some n
  | _ => none

/-- Whether the objects of a class count as mappings. -/
def isMappingClass (g : Guest) (class? : Identity) : Bool :=
  ["dict", "mappingproxy", "Mapping"].any (g.extendsOwn class?)

/-- Whether the class of an object makes it a mapping. -/
def isMapping (g : Guest) (id : Identity) : Bool :=
  match g.home? id, g.body id with
  | some home, _ => g.isMappingClass home
  | none, .dict _ | none, .proxy _ => true
  | none, _ => false

/-- Whether an object is an iterator of the interpreter's own, which keeps its own place. -/
def isIterator (g : Guest) (id : Identity) : Bool :=
  match g.body id with
  | .iterator _ _ => true
  | _ => false

/-- Whether a class is another one or extends it. -/
def isSubclass (g : Guest) (class? ancestor : Identity) : Bool :=
  class? == ancestor || match g.body class?, g.body ancestor with
    | .builtin name, .builtin wanted => Builtin.descends name wanted
    | .classObject made, _ => made.ancestors.contains ancestor
    | _, _ => false

/-- The nearest of the interpreter's own exception classes, if an object is an exception. -/
def exceptionFamily? (g : Guest) (id : Identity) : Option String :=
  match g.body id with
  | .exception type _ _ => some type
  | _ => none

end Guest
end ScriptHost
