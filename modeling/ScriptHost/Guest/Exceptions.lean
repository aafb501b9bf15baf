import ScriptHost.Guest.Arguments

/-! Exceptions: what an exception class makes of its arguments. -/
namespace ScriptHost

/-- The exception class of an error number of the operating system. -/
def systemErrorClass (number : Int) : String :=
  match number with
  | 1 | 13 => "PermissionError"
  | 2 => "FileNotFoundError"
  | 3 => "ProcessLookupError"
  | 4 => "InterruptedError"
  | 10 => "ChildProcessError"
  | 11 | 114 | 115 => "BlockingIOError"
  | 17 => "FileExistsError"
  | 20 => "NotADirectoryError"
  | 21 => "IsADirectoryError"
  | 32 | 108 => "BrokenPipeError"
  | 103 => "ConnectionAbortedError"
  | 104 => "ConnectionResetError"
  | 110 => "TimeoutError"
  | 111 => "ConnectionRefusedError"
  | _ => "OSError"

namespace GuestM

abbrev Details := List (String × Identity)

def hasNumber (g : Guest) (id : Identity) : Bool := (g.number? id).isSome || g.hasIndex id

/-- The class, the arguments and the data of an error of the operating system. -/
def systemError (type : String) (arguments : List Identity) :
    GuestM (String × List Identity × Details) := do
  let g ← get
  match arguments with
  | number :: reason :: more =>
    if 3 < more.length then return (type, arguments, [])
    let type := match type, g.body number with
      | "OSError", .int n => systemErrorClass n
      | "OSError", .bool b => systemErrorClass (if b then 1 else 0)
      | _, _ => type
    let named : Details := [("errno", number), ("strerror", reason)]
    match more.head?.filter fun id => !g.isNone id with
    | .none => return (type, arguments, named)
    | some file =>
      if type = "BlockingIOError" && hasNumber g file then
        return (type, arguments, named ++ [("characters_written", ← int (← indexOf file))])
      let second : Details := (more[2]?.filter fun id => !g.isNone id).toList.map fun id => ("filename2", id)
      return (type, [number, reason], named ++ ("filename", file) :: second)
  | _ => return (type, arguments, [])

def syntaxPlace (id : Identity) : GuestM Details := do
  let parts ← itemsOf id
  let names := ["filename", "lineno", "offset", "text", "end_lineno", "end_offset"]
  let given := " arguments (" ++ toString parts.length ++ " given)"
  if parts.length < 4 then typeError ("function takes at least 4" ++ given)
  if 6 < parts.length then typeError ("function takes at most 6" ++ given)
  if parts.length = 5 then typeError "end_offset must be provided when end_lineno is provided"
  return names.zip parts

def syntaxError (arguments : List Identity) : GuestM Details := do
  match arguments with
  | [] => return []
  | [message, place] => return ("msg", message) :: (← syntaxPlace place)
  | message :: _ => return [("msg", message)]

def textAt (place : Nat) (id : Identity) : GuestM Unit := do
  unless (← get).isText id do
    typeError ("argument " ++ toString place ++ " must be str, not " ++ (← classLabel id))

def codingError (type : String) (arguments : List Identity) : GuestM Details := do
  let needed := (Builtin.neededArguments? type).getD 0
  let stretch (object start stop reason : Identity) (place : Nat) : GuestM Details := do
    let start ← int (← sizeOf start)
    let stop ← int (← sizeOf stop)
    textAt place reason
    return [("object", object), ("start", start), ("end", stop), ("reason", reason)]
  match arguments with
  | [object, start, stop, reason] =>
    if needed ≠ 4 then wrongNumber needed
    textAt 1 object
    stretch object start stop reason 4
  | [encoding, object, start, stop, reason] =>
    if needed ≠ 5 then wrongNumber needed
    textAt 1 encoding
    if type = "UnicodeEncodeError" then textAt 2 object
    let found ← stretch object start stop reason 5
    if type = "UnicodeDecodeError" then
      match ← bodyOf object with
      | .bytes _ => return ("encoding", encoding) :: found
      | _ =>
        let copy ← bytes (← octetsOf object)
        return ("encoding", encoding) :: ("object", copy) :: found.tail
    return ("encoding", encoding) :: found
  | _ => wrongNumber needed
where
  wrongNumber {α : Type} (needed : Nat) : GuestM α :=
    typeError ("function takes exactly " ++ toString needed ++ " arguments (" ++
      toString arguments.length ++ " given)")

def isIndexable (g : Guest) (id : Identity) : Bool :=
  (g.special? id "__getitem__").isSome ||
    match g.body id with
    | .list _ | .tuple _ | .text _ | .bytes _ | .byteArray _ | .range _ _ _ | .memoryView _ _ _ _ => true
    | _ => false

/-- The class and the data of a group of exceptions. -/
def group (type : String) (arguments : List Identity) : GuestM (String × Details) := do
  match arguments with
  | [message, members] =>
    unless (← get).isText message do
      typeError ("BaseExceptionGroup.__new__() argument 1 must be str, not " ++ (← classLabel message))
    unless isIndexable (← get) members do
      typeError "second argument (exceptions) must be a sequence"
    let found ← itemsOf members
    if found.isEmpty then valueError "second argument (exceptions) must be a non-empty sequence"
    let g ← get
    if let some place := found.findIdx? fun id => (g.exceptionFamily? id).isNone then
      valueError ("Item " ++ toString place ++ " of second argument (exceptions) is not an exception")
    let allPlain := found.all fun id => g.isInstance id "Exception"
    if type = "ExceptionGroup" && !allPlain then
      typeError "Cannot nest BaseExceptions in an ExceptionGroup"
    return (if allPlain then "ExceptionGroup" else type,
      [("message", message), ("exceptions", ← tuple found)])
  | _ =>
    typeError ("BaseExceptionGroup.__new__() takes exactly 2 arguments (" ++
      toString arguments.length ++ " given)")

/-- What an exception of one of the interpreter's own classes holds. -/
def exceptionBody (name : String) (arguments : List Identity) : GuestM Body := do
  let type := Builtin.canonical name
  let is (ancestor : String) : Bool := Builtin.descends type ancestor
  if is "OSError" then
    let (type, arguments, details) ← systemError type arguments
    return .exception type arguments details
  else if is "SyntaxError" then return .exception type arguments (← syntaxError arguments)
  else if (Builtin.neededArguments? type).isSome then
    return .exception type arguments (← codingError type arguments)
  else if is "BaseExceptionGroup" then
    let (type, details) ← group type arguments
    return .exception type arguments details
  else if is "StopIteration" then
    return .exception type arguments (arguments.head?.toList.map fun id => ("value", id))
  else if is "SystemExit" then
    match arguments with
    | [] => return .exception type [] []
    | [code] => return .exception type [code] [("code", code)]
    | codes => return .exception type codes [("code", ← tuple codes)]
  else if is "ImportError" then
    return .exception type arguments (if arguments.length = 1 then arguments.map fun id => ("msg", id) else [])
  else return .exception type arguments []

/-- Makes an exception of one of the interpreter's own classes. -/
def makeException (name : String) (arguments : List Identity) : GuestM Identity := do
  allocate (← exceptionBody name arguments)

end GuestM
end ScriptHost
