import Std.Data.HashMap
import ScriptHost.Guest.Key
import ScriptHost.Guest.Output
import ScriptHost.Script.Syntax
import ScriptHost.Value.Basic

/-! Objects of the interpreter: what each of them holds, and the classes that scripts make. -/
namespace ScriptHost

/-- What a view of a dictionary shows. -/
inductive DictPart where
  | keys | values | items
  deriving DecidableEq, Repr

/-- Where an iteration stands. -/
inductive Cursor where
  /-- The items of a sequence by their places, as they are when their turn comes. -/
  | places (source : Identity) (next : Nat)
  /-- The items of a sequence from the last to the first. -/
  | backwards (source : Identity) (left : Nat)
  /-- Known items, then perhaps an exception. -/
  | items (rest : List Identity) (ending : Option Raise)
  /-- Known bytes, as integers. -/
  | octets (rest : List UInt8)
  /-- The single code points of a text. -/
  | points (rest : List Nat)
  /-- Integers at a constant distance. -/
  | progression (next step : Int) (left : Nat)
  /-- The entries of a dictionary that must keep its size. -/
  | entries (dict : Identity) (part : DictPart) (next size : Nat)
  /-- The same from the last entry to the first. -/
  | entriesBack (dict : Identity) (part : DictPart) (left size : Nat)
  /-- The members of a set that must keep its size. -/
  | members (set : Identity) (next size : Nat)
  /-- What an object gives for one place after the other, until it refuses. -/
  | subscripts (source : Identity) (next : Nat)
  /-- What a mapping has for each key that an iterator gives. -/
  | looked (keys mapping : Identity) (part : DictPart)
  /-- The items of another iterator with their numbers. -/
  | numbered (source : Identity) (next : Int)
  /-- Tuples of one item of each iterator. -/
  | together (sources : List Identity)
  /-- What a function gives for one item of each iterator. -/
  | mapped (function : Identity) (sources : List Identity)
  /-- The items of another iterator that a function, or their own truth, lets pass. -/
  | filtered (function : Option Identity) (source : Identity)
  /-- What a function gives, until it gives an object equal to this one. -/
  | calls (function sentinel : Identity)
  /-- An iterator object, which keeps its own place. -/
  | shared (iterator : Identity)

/-- What a function gives back. -/
inductive Reply where
  | returns (object : Identity)
  | raises (exception : Raise)

/-- What a function does that belongs to a class whose features a script describes. -/
inductive Feature where
  | reply (answer : Reply)
  /-- Starts an iteration over known items, which an exception may end. -/
  | yields (items : List Identity) (ending : Option Raise)
  /-- Starts an iteration over the object and nothing else. -/
  | yieldsItself
  /-- What some entries say of a key. -/
  | entry (entries : List (Identity × Identity))
  /-- Starts an iteration over the keys of some entries. -/
  | keys (entries : List (Identity × Identity))
  /-- The number of some entries. -/
  | count (entries : List (Identity × Identity))
  /-- What a list holds at a place. -/
  | item (items : Identity)
  /-- Answers to the name of one attribute, which is there without being set. -/
  | mark

/-- A class that a script made. -/
structure ScriptClass where
  name : String
  /-- The name with the names of what the class stands in. -/
  fullName : String
  /-- The classes that it extends directly. -/
  bases : List Identity
  /-- All classes that it extends, in the order in which attributes are looked up. -/
  ancestors : List Identity
  /-- The one of them that decides how its objects are laid out. -/
  base : Identity
  /-- The class of the interpreter's own whose data its objects hold. -/
  layout : String
  /-- Whether its objects have places for attributes that no other class gave them. -/
  addsPlaces : Bool := false
  /-- Whether attributes can be set on its objects. -/
  isOpen : Bool := true

/-- The namespace that code runs in, what stands behind it, and the file and line of the code. -/
structure Place where
  globals : Identity
  /-- Where names are looked up that the namespace does not have. -/
  builtins : Identity
  file : String := "<string>"
  line : Nat := 1
  /-- The number of the script, within which equal literals are one object. -/
  script : Nat := 0
  deriving Inhabited

/-- A function that a script defines. -/
inductive Function where
  | raising (name type : String) (value : Expr)
  | increment
  /-- A function of a class, with the number of arguments behind the object. -/
  | feature (name : String) (arguments : Nat) (does : Feature)
  /-- A function that goes by other names than it was defined with. -/
  | renamed (name fullName : String) (f : Function)

/-- How an attribute of a class comes about. -/
inductive MemberKind where
  /-- A function that takes the object first. -/
  | method
  /-- A function behind an operator. -/
  | slot
  /-- A function of the class itself. -/
  | classMethod
  /-- Data that is worked out. -/
  | data
  /-- Data that is stored. -/
  | field
  deriving DecidableEq, Hashable, Repr

inductive Body where
  | none
  | ellipsis
  | notImplemented
  | bool (b : Bool)
  | int (n : Int)
  | float (x : Double)
  | complex (re im : Double)
  | text (t : Text)
  | bytes (data : List UInt8)
  | byteArray (data : List UInt8)
  /-- Bytes of another object: the first place, the distance of the places and their number. -/
  | memoryView (source : Identity) (first step : Int) (count : Nat)
  | list (items : Array Identity)
  | tuple (items : Array Identity)
  | set (members : MemberTable)
  | frozenSet (members : MemberTable)
  | dict (entries : Dict)
  | view (part : DictPart) (dict : Identity)
  /-- A dictionary that cannot be changed through this object. -/
  | proxy (dict : Identity)
  /-- What a mapping shows that is no dictionary. -/
  | mappingView (part : DictPart) (mapping : Identity)
  | range (start stop step : Int)
  | slice (start stop step : Identity)
  /-- An exception, with the data that its class keeps beside the arguments. -/
  | exception (type : String) (arguments : List Identity) (details : List (String × Identity))
  | iterator (type : String) (cursor : Cursor)
  /-- A class or function of the interpreter's own. -/
  | builtin (name : String)
  | classObject (made : ScriptClass)
  | function (f : Function) (home : Place)
  /-- A function of a class with the object that it takes first. -/
  | method (function self : Identity)
  /-- Data of a class that functions work out, set and delete. -/
  | property (getter setter deleter : Option Identity) (name : Option Text)
  /-- A place that the objects of a class have for an attribute, or for the dictionary of all others. -/
  | place (class? : Identity) (name : Text) (kind : MemberKind)
  /-- A function that a class gives out as it is. -/
  | staticMethod (function : Identity)
  /-- A function of a class that takes the class first. -/
  | classMethod (function : Identity)
  /-- What the classes behind a class say of one of its objects. -/
  | ancestral (class? : Identity) (target : Option Identity)
  /-- An attribute of a class, not bound to an object yet. -/
  | member (owner name : String) (kind : MemberKind)
  /-- An attribute of a class, bound to an object. -/
  | bound (target : Identity) (owner name : String) (kind : MemberKind)
  | module (attributes : Identity)
  /-- The writer that stands in for standard output, and the number of hooks that listen. -/
  | output (made : LineWriter) (listeners : Nat)
  /-- The interpreter's own standard output. -/
  | stream
  /-- A host value handed over as it is. -/
  | wrapper (v : Value)
  /-- An object that is known by its written form. -/
  | tagged (tag : Option String)
  /-- An object that holds no data. -/
  | plain (type : String)

structure Object where
  body : Body
  /-- The class of the object, unless it is the one of the interpreter's own that the data tells. -/
  home : Option Identity := none
  /-- The dictionary of the attributes that were set on the object. -/
  attributes : Option Identity := none
  /-- What is kept in the places that the class of the object made for its attributes. -/
  places : List (Identity × Identity) := []

instance : Inhabited Object := ⟨{ body := .none }⟩

/-- What is a single object wherever it comes up. -/
inductive Constant where
  | none
  | ellipsis
  | notImplemented
  | bool (b : Bool)
  | int (n : Int)
  | text (t : Text)
  | bytes (data : List UInt8)
  | emptyTuple
  | builtin (name : String)
  | member (owner name : String) (kind : MemberKind)
  deriving DecidableEq, Hashable

def Constant.body : Constant → Body
  | .none => .none
  | .ellipsis => .ellipsis
  | .notImplemented => .notImplemented
  | .bool b => .bool b
  | .int n => .int n
  | .text t => .text t
  | .bytes data => .bytes data
  | .emptyTuple => .tuple #[]
  | .builtin name => .builtin name
  | .member owner name kind => .member owner name kind

/-- The constant that holds the same, if there is one. -/
def Body.constant? : Body → Option Constant
  | .none => some .none
  | .ellipsis => some .ellipsis
  | .notImplemented => some .notImplemented
  | .bool b => some (.bool b)
  | .int n => some (.int n)
  | .text t => some (.text t)
  | .bytes data => some (.bytes data)
  | .tuple items => if items.isEmpty then some .emptyTuple else Option.none
  | .builtin name => some (.builtin name)
  | .member owner name kind => some (.member owner name kind)
  | _ => Option.none

end ScriptHost
