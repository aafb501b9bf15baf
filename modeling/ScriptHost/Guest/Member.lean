import ScriptHost.Guest.Class

/-! The attributes that the interpreter's own classes have, with how many arguments their functions
take. -/
namespace ScriptHost

/-- How many arguments a function takes, and how a call with another number is refused. -/
inductive Arity where
  | none
  | one
  /-- Between two numbers of arguments that have no names. -/
  | positional (least most : Nat)
  /-- Between two numbers of arguments that have names. -/
  | named (least most : Nat)
  | any
  deriving DecidableEq, Repr

namespace Builtin

/-- The attributes of each class. After a name comes how many arguments its function takes: none if
nothing is said, any number after `/*`, a number or two after `/`, named ones after `~`. -/
private def memberTable : List (String × List (MemberKind × String)) := [
  ("object", [
      (.method, "__reduce_ex__/1 __reduce__ __getstate__ __format__/1 __sizeof__ __dir__"),
      (.slot, "__repr__ __hash__ __str__ __getattribute__ __setattr__ __delattr__ __lt__ __le__ " ++
      "__eq__ __ne__ __gt__ __ge__ __init__"),
      (.classMethod, "__subclasshook__/1 __init_subclass__"),
      (.data, "__class__")]),
  ("type", [
      (.method, "mro __subclasses__ __instancecheck__/1 __subclasscheck__/1 __dir__ __sizeof__/*"),
      (.slot, "__repr__ __call__ __or__ __ror__"),
      (.classMethod, "__prepare__/*"),
      (.data, "__name__ __qualname__ __bases__ __module__ __abstractmethods__ __dict__ __doc__ " ++
      "__text_signature__ __annotations__"),
      (.field, "__basicsize__ __itemsize__ __flags__ __weakrefoffset__ __base__ __dictoffset__ __mro__")]),
  ("int", [
      (.method, "conjugate bit_length bit_count to_bytes~0-2 as_integer_ratio __trunc__ __floor__ " ++
      "__ceil__ __round__/0-1 __getnewargs__ __format__/1 __sizeof__"),
      (.slot, "__repr__ __hash__ __lt__ __le__ __eq__ __ne__ __gt__ __ge__ __add__ __radd__ __sub__ " ++
      "__rsub__ __mul__ __rmul__ __mod__ __rmod__ __divmod__ __rdivmod__ __pow__ __rpow__ " ++
      "__neg__ __pos__ __abs__ __bool__ __invert__ __lshift__ __rlshift__ __rshift__ " ++
      "__rrshift__ __and__ __rand__ __xor__ __rxor__ __or__ __ror__ __int__ __float__ " ++
      "__floordiv__ __rfloordiv__ __truediv__ __rtruediv__ __index__"),
      (.classMethod, "from_bytes~1-2"),
      (.data, "real imag numerator denominator")]),
  ("bool", [
      (.slot, "__repr__ __and__ __rand__ __xor__ __rxor__ __or__ __ror__")]),
  ("float", [
      (.method, "conjugate __trunc__ __floor__ __ceil__ __round__/0-1 as_integer_ratio hex is_integer " ++
      "__getnewargs__ __format__/1"),
      (.slot, "__repr__ __hash__ __lt__ __le__ __eq__ __ne__ __gt__ __ge__ __add__ __radd__ __sub__ " ++
      "__rsub__ __mul__ __rmul__ __mod__ __rmod__ __divmod__ __rdivmod__ __pow__ __rpow__ " ++
      "__neg__ __pos__ __abs__ __bool__ __int__ __float__ __floordiv__ __rfloordiv__ " ++
      "__truediv__ __rtruediv__"),
      (.classMethod, "fromhex/1 __getformat__/1"),
      (.data, "real imag")]),
  ("complex", [
      (.method, "conjugate __complex__ __getnewargs__ __format__/1"),
      (.slot, "__repr__ __hash__ __lt__ __le__ __eq__ __ne__ __gt__ __ge__ __add__ __radd__ __sub__ " ++
      "__rsub__ __mul__ __rmul__ __pow__ __rpow__ __neg__ __pos__ __abs__ __bool__ " ++
      "__truediv__ __rtruediv__"),
      (.field, "real imag")]),
  ("str", [
      (.method, "encode~0-2 replace/2-3 split~0-2 rsplit~0-2 join/1 capitalize casefold title " ++
      "center/1-2 count~1-3 expandtabs~0-1 find~1-3 partition/1 index~1-3 ljust/1-2 lower " ++
      "lstrip/0-1 rfind~1-3 rindex~1-3 rjust/1-2 rstrip/0-1 rpartition/1 splitlines~0-1 " ++
      "strip/0-1 swapcase translate/1 upper startswith~1-3 endswith~1-3 removeprefix/1 " ++
      "removesuffix/1 isascii islower isupper istitle isspace isdecimal isdigit isnumeric " ++
      "isalpha isalnum isidentifier isprintable zfill/1 format/* format_map/1 __format__/1 " ++
      "__sizeof__ __getnewargs__"),
      (.slot, "__repr__ __hash__ __str__ __lt__ __le__ __eq__ __ne__ __gt__ __ge__ __iter__ __mod__ " ++
      "__rmod__ __len__ __getitem__ __add__ __mul__ __rmul__ __contains__"),
      (.classMethod, "maketrans/1-3")]),
  ("bytes", [
      (.method, "__getnewargs__ __bytes__ capitalize center/1-2 count~1-3 decode~0-2 endswith~1-3 " ++
      "expandtabs~0-1 find~1-3 hex~0-2 index~1-3 isalnum isalpha isascii isdigit islower " ++
      "isspace istitle isupper join/1 ljust/1-2 lower lstrip/0-1 partition/1 replace/2-3 " ++
      "removeprefix/1 removesuffix/1 rfind~1-3 rindex~1-3 rjust/1-2 rpartition/1 rsplit~0-2 " ++
      "rstrip/0-1 split~0-2 splitlines~0-1 startswith~1-3 strip/0-1 swapcase title " ++
      "translate~1-2 upper zfill/1"),
      (.slot, "__repr__ __hash__ __str__ __lt__ __le__ __eq__ __ne__ __gt__ __ge__ __iter__ __mod__ " ++
      "__rmod__ __len__ __getitem__ __add__ __mul__ __rmul__ __contains__"),
      (.classMethod, "fromhex/1 maketrans/2-2")]),
  ("bytearray", [
      (.method, "__alloc__ __reduce__ __reduce_ex__/1 __sizeof__ append/1 capitalize center/1-2 clear " ++
      "copy count~1-3 decode~0-2 endswith~1-3 expandtabs~0-1 extend/1 find~1-3 hex~0-2 " ++
      "index~1-3 insert/2-2 isalnum isalpha isascii isdigit islower isspace istitle isupper " ++
      "join/1 ljust/1-2 lower lstrip/0-1 partition/1 pop/0-1 remove/1 replace/2-3 " ++
      "removeprefix/1 removesuffix/1 reverse rfind~1-3 rindex~1-3 rjust/1-2 rpartition/1 " ++
      "rsplit~0-2 rstrip/0-1 split~0-2 splitlines~0-1 startswith~1-3 strip/0-1 swapcase title " ++
      "translate~1-2 upper zfill/1"),
      (.slot, "__repr__ __str__ __lt__ __le__ __eq__ __ne__ __gt__ __ge__ __iter__ __mod__ __rmod__ " ++
      "__len__ __getitem__ __setitem__ __delitem__ __add__ __mul__ __rmul__ __contains__ " ++
      "__iadd__ __imul__"),
      (.classMethod, "fromhex/1 maketrans/2-2")]),
  ("memoryview", [
      (.method, "release tobytes~0-1 hex~0-2 tolist cast~1-2 toreadonly __enter__ __exit__/*"),
      (.slot, "__repr__ __hash__ __lt__ __le__ __eq__ __ne__ __gt__ __ge__ __iter__ __len__ " ++
      "__getitem__ __setitem__ __delitem__"),
      (.data, "obj nbytes readonly itemsize format ndim shape strides suboffsets c_contiguous " ++
      "f_contiguous contiguous")]),
  ("list", [
      (.method, "__getitem__/1 __reversed__ __sizeof__ clear copy append/1 insert/2-2 extend/1 pop/0-1 " ++
      "remove/1 index/1-3 count/1 reverse sort~0-0"),
      (.slot, "__repr__ __lt__ __le__ __eq__ __ne__ __gt__ __ge__ __iter__ __len__ __setitem__ " ++
      "__delitem__ __add__ __mul__ __rmul__ __contains__ __iadd__ __imul__"),
      (.classMethod, "__class_getitem__/1")]),
  ("tuple", [
      (.method, "__getnewargs__ index/1-3 count/1"),
      (.slot, "__repr__ __hash__ __lt__ __le__ __eq__ __ne__ __gt__ __ge__ __iter__ __len__ " ++
      "__getitem__ __add__ __mul__ __rmul__ __contains__"),
      (.classMethod, "__class_getitem__/1")]),
  ("dict", [
      (.method, "__getitem__/1 __contains__/1 __sizeof__ get/1-2 setdefault/1-2 pop/1-2 popitem keys " ++
      "items values update/0-1 clear copy __reversed__"),
      (.slot, "__repr__ __lt__ __le__ __eq__ __ne__ __gt__ __ge__ __iter__ __or__ __ror__ __ior__ " ++
      "__len__ __setitem__ __delitem__"),
      (.classMethod, "fromkeys/1-2 __class_getitem__/1")]),
  ("set", [
      (.method, "__contains__/1 add/1 clear copy discard/1 difference/* difference_update/* " ++
      "intersection/* intersection_update/* isdisjoint/1 issubset/1 issuperset/1 pop " ++
      "__reduce__ remove/1 __sizeof__ symmetric_difference/1 symmetric_difference_update/1 " ++
      "union/* update/*"),
      (.slot, "__repr__ __lt__ __le__ __eq__ __ne__ __gt__ __ge__ __iter__ __sub__ __rsub__ __and__ " ++
      "__rand__ __xor__ __rxor__ __or__ __ror__ __isub__ __iand__ __ixor__ __ior__ __len__"),
      (.classMethod, "__class_getitem__/1")]),
  ("frozenset", [
      (.method, "__contains__/1 copy difference/* intersection/* isdisjoint/1 issubset/1 issuperset/1 " ++
      "__reduce__ __sizeof__ symmetric_difference/1 union/*"),
      (.slot, "__repr__ __hash__ __lt__ __le__ __eq__ __ne__ __gt__ __ge__ __iter__ __sub__ __rsub__ " ++
      "__and__ __rand__ __xor__ __rxor__ __or__ __ror__ __len__"),
      (.classMethod, "__class_getitem__/1")]),
  ("range", [
      (.method, "__reversed__ __reduce__/* count/1 index/1"),
      (.slot, "__repr__ __hash__ __lt__ __le__ __eq__ __ne__ __gt__ __ge__ __iter__ __bool__ __len__ " ++
      "__getitem__ __contains__"),
      (.field, "start stop step")]),
  ("slice", [
      (.method, "indices/1 __reduce__"),
      (.slot, "__repr__ __lt__ __le__ __eq__ __ne__ __gt__ __ge__"),
      (.field, "start stop step")]),
  ("NoneType", [
      (.slot, "__repr__ __bool__")]),
  ("ellipsis", [
      (.method, "__reduce__"),
      (.slot, "__repr__")]),
  ("NotImplementedType", [
      (.method, "__reduce__"),
      (.slot, "__repr__ __bool__")]),
  ("function", [
      (.slot, "__repr__ __call__ __get__"),
      (.data, "__code__ __defaults__ __kwdefaults__ __annotations__ __dict__ __name__ __qualname__"),
      (.field, "__closure__ __doc__ __globals__ __module__ __builtins__")]),
  ("builtin_function_or_method", [
      (.method, "__reduce__"),
      (.slot, "__repr__ __hash__ __call__ __lt__ __le__ __eq__ __ne__ __gt__ __ge__"),
      (.data, "__doc__ __name__ __qualname__ __self__ __text_signature__"),
      (.field, "__module__")]),
  ("method_descriptor", [
      (.method, "__reduce__"),
      (.slot, "__repr__ __call__ __get__"),
      (.data, "__doc__ __qualname__ __text_signature__"),
      (.field, "__objclass__ __name__")]),
  ("wrapper_descriptor", [
      (.method, "__reduce__"),
      (.slot, "__repr__ __call__ __get__"),
      (.data, "__doc__ __qualname__ __text_signature__"),
      (.field, "__objclass__ __name__")]),
  ("method-wrapper", [
      (.method, "__reduce__"),
      (.slot, "__repr__ __hash__ __call__ __lt__ __le__ __eq__ __ne__ __gt__ __ge__"),
      (.data, "__objclass__ __name__ __qualname__ __doc__ __text_signature__"),
      (.field, "__self__")]),
  ("getset_descriptor", [
      (.slot, "__repr__ __get__ __set__ __delete__"),
      (.data, "__doc__ __qualname__"),
      (.field, "__objclass__ __name__")]),
  ("member_descriptor", [
      (.method, "__reduce__"),
      (.slot, "__repr__ __get__ __set__ __delete__"),
      (.data, "__doc__ __qualname__"),
      (.field, "__objclass__ __name__")]),
  ("module", [
      (.method, "__dir__"),
      (.slot, "__repr__"),
      (.data, "__annotations__"),
      (.field, "__dict__")]),
  ("generator", [
      (.method, "send/1 throw/1-3 close __sizeof__"),
      (.slot, "__repr__ __iter__ __next__ __del__"),
      (.data, "__name__ __qualname__ gi_yieldfrom gi_running gi_frame gi_suspended"),
      (.field, "gi_code")]),
  ("BaseException", [
      (.method, "__reduce__ __setstate__/1 with_traceback/1 add_note/1"),
      (.slot, "__repr__ __str__"),
      (.data, "__dict__ args __traceback__ __context__ __cause__"),
      (.field, "__suppress_context__")]),
  ("KeyError", [
      (.slot, "__str__")]),
  ("StopIteration", [
      (.field, "value")]),
  ("SystemExit", [
      (.field, "code")]),
  ("OSError", [
      (.method, "__reduce__"),
      (.slot, "__str__"),
      (.data, "characters_written"),
      (.field, "errno strerror filename filename2")]),
  ("ImportError", [
      (.method, "__reduce__"),
      (.slot, "__str__"),
      (.field, "msg name path")]),
  ("NameError", [
      (.slot, "__str__"),
      (.field, "name")]),
  ("AttributeError", [
      (.slot, "__str__"),
      (.field, "name obj")]),
  ("SyntaxError", [
      (.slot, "__str__"),
      (.field, "msg filename lineno offset text end_lineno end_offset print_file_and_line")]),
  ("UnicodeEncodeError", [
      (.slot, "__str__"),
      (.field, "encoding object start end reason")]),
  ("UnicodeDecodeError", [
      (.slot, "__str__"),
      (.field, "encoding object start end reason")]),
  ("UnicodeTranslateError", [
      (.slot, "__str__"),
      (.field, "encoding object start end reason")]),
  ("BaseExceptionGroup", [
      (.method, "derive split subgroup"),
      (.slot, "__str__"),
      (.classMethod, "__class_getitem__/1"),
      (.field, "message exceptions")]),
  ("enumerate", [
      (.method, "__reduce__"),
      (.slot, "__iter__ __next__"),
      (.classMethod, "__class_getitem__/1")]),
  ("zip", [
      (.method, "__reduce__ __setstate__"),
      (.slot, "__iter__ __next__")]),
  ("map", [
      (.method, "__reduce__"),
      (.slot, "__iter__ __next__")]),
  ("filter", [
      (.method, "__reduce__"),
      (.slot, "__iter__ __next__")]),
  ("reversed", [
      (.method, "__length_hint__ __reduce__ __setstate__"),
      (.slot, "__iter__ __next__")]),
  ("list_iterator", [
      (.method, "__length_hint__ __reduce__ __setstate__/1"),
      (.slot, "__iter__ __next__")]),
  ("list_reverseiterator", [
      (.method, "__length_hint__ __reduce__ __setstate__"),
      (.slot, "__iter__ __next__")]),
  ("tuple_iterator", [
      (.method, "__length_hint__ __reduce__ __setstate__"),
      (.slot, "__iter__ __next__")]),
  ("str_ascii_iterator", [
      (.method, "__length_hint__ __reduce__ __setstate__"),
      (.slot, "__iter__ __next__")]),
  ("str_iterator", [
      (.method, "__length_hint__ __reduce__ __setstate__"),
      (.slot, "__iter__ __next__")]),
  ("bytes_iterator", [
      (.method, "__length_hint__ __reduce__ __setstate__"),
      (.slot, "__iter__ __next__")]),
  ("bytearray_iterator", [
      (.method, "__length_hint__ __reduce__ __setstate__"),
      (.slot, "__iter__ __next__")]),
  ("memory_iterator", [
      (.slot, "__iter__ __next__")]),
  ("dict_keyiterator", [
      (.method, "__length_hint__ __reduce__"),
      (.slot, "__iter__ __next__")]),
  ("dict_valueiterator", [
      (.method, "__length_hint__ __reduce__"),
      (.slot, "__iter__ __next__")]),
  ("dict_itemiterator", [
      (.method, "__length_hint__ __reduce__"),
      (.slot, "__iter__ __next__")]),
  ("dict_reversekeyiterator", [
      (.method, "__length_hint__ __reduce__"),
      (.slot, "__iter__ __next__")]),
  ("set_iterator", [
      (.method, "__length_hint__ __reduce__"),
      (.slot, "__iter__ __next__")]),
  ("range_iterator", [
      (.method, "__length_hint__ __reduce__ __setstate__"),
      (.slot, "__iter__ __next__")]),
  ("longrange_iterator", [
      (.method, "__length_hint__ __reduce__ __setstate__"),
      (.slot, "__iter__ __next__")]),
  ("dict_keys", [
      (.method, "isdisjoint/1 __reversed__"),
      (.slot, "__repr__ __lt__ __le__ __eq__ __ne__ __gt__ __ge__ __iter__ __sub__ __rsub__ __and__ " ++
      "__rand__ __xor__ __rxor__ __or__ __ror__ __len__ __contains__"),
      (.data, "mapping")]),
  ("dict_values", [
      (.method, "__reversed__"),
      (.slot, "__repr__ __iter__ __len__"),
      (.data, "mapping")]),
  ("dict_items", [
      (.method, "isdisjoint/1 __reversed__"),
      (.slot, "__repr__ __lt__ __le__ __eq__ __ne__ __gt__ __ge__ __iter__ __sub__ __rsub__ __and__ " ++
      "__rand__ __xor__ __rxor__ __or__ __ror__ __len__ __contains__"),
      (.data, "mapping")]),
  ("property", [
      (.method, "getter/1 setter/1 deleter/1 __set_name__/2-2"),
      (.slot, "__get__ __set__ __delete__"),
      (.data, "__isabstractmethod__"),
      (.field, "fget fset fdel __doc__")]),
  ("staticmethod", [
      (.slot, "__repr__ __call__ __get__"),
      (.data, "__isabstractmethod__ __dict__"),
      (.field, "__func__ __wrapped__")]),
  ("classmethod", [
      (.slot, "__repr__ __get__"),
      (.data, "__isabstractmethod__ __dict__"),
      (.field, "__func__ __wrapped__")]),
  ("super", [
      (.slot, "__repr__ __get__"),
      (.field, "__thisclass__ __self__ __self_class__")]),
  ("callable_iterator", [
      (.method, "__reduce__"),
      (.slot, "__iter__ __next__")]),
  ("Mapping", [
      (.method, "get/1-2 __contains__/1 keys items values __eq__/1 __getitem__/1")]),
  ("KeysView", [
      (.slot, "__repr__ __iter__ __len__ __contains__")]),
  ("ValuesView", [
      (.slot, "__repr__ __iter__ __len__ __contains__")]),
  ("ItemsView", [
      (.slot, "__repr__ __iter__ __len__ __contains__")]),
  ("mappingproxy", [
      (.method, "get/1-2 keys values items copy __reversed__"),
      (.slot, "__repr__ __eq__ __ne__ __lt__ __le__ __gt__ __ge__ __iter__ __len__ __getitem__ __contains__ " ++
      "__or__ __ror__"),
      (.classMethod, "__class_getitem__/1")]),
  ("method", [
      (.method, "__reduce__"),
      (.slot, "__repr__ __hash__ __call__ __get__ __eq__ __ne__ __lt__ __le__ __gt__ __ge__"),
      (.field, "__func__ __self__")]),
  ("ScriptOutput", [
      (.method, "write/1 flush")]),
  ("StringIO", [
      (.method, "write/1 flush getvalue isatty readable writable seekable"),
      (.data, "closed line_buffering newlines encoding errors")])]

/-- Whether a class starts its objects in a way of its own. -/
private def startsObjects (name : String) : Bool :=
  if isException name then name ≠ "ExceptionGroup"
  else ["bytearray", "classmethod", "dict", "list", "property", "set", "staticmethod", "super", "type", "module"].contains
    name

/-- The functions behind the look-up of attributes that a class has of its own. -/
private def accessors (name : String) : List String :=
  if ["type", "module", "BaseException"].contains name then ["__getattribute__", "__setattr__", "__delattr__"]
  else if isException name || abstractClasses.contains name || ["object", "bool", "classmethod", "staticmethod",
      "NoneType", "NotImplementedType", "function", "StringIO", "ABCMeta", "Opaque"].contains name then []
  else ["__getattribute__"]

private def number (s : String) : Nat := s.toNat?.getD 0

/-- The parts of a string between a mark. -/
private def partsAt (mark : Char) (s : String) : List String := (s.toList.splitOn mark).map String.ofList

private def arityOf (written : String) : Arity :=
  match partsAt '/' written, partsAt '~' written with
  | [_, "*"], _ => .any
  | [_, "1"], _ => .one
  | [_, counts], _ =>
    let ends := (partsAt '-' counts).map number
    .positional (ends.getD 0 0) (ends.getD 1 0)
  | _, [_, counts] =>
    let ends := (partsAt '-' counts).map number
    .named (ends.getD 0 0) (ends.getD 1 0)
  | _, _ => .none

private def nameOf (written : String) : String :=
  (partsAt '~' ((partsAt '/' written).headD "")).headD ""

/-- The attributes that a class has of its own. -/
def members (name : String) : List (String × MemberKind × Arity) :=
  let like := if name.endsWith "iterator" && (memberTable.lookup name).isNone then "list_iterator" else name
  let listed := ((memberTable.lookup like).getD []).flatMap fun (kind, words) =>
    (partsAt ' ' words).map fun word => (nameOf word, kind, arityOf word)
  let slots := (if startsObjects name then ["__init__"] else []) ++ accessors name
  slots.map (fun slot => (slot, .slot, .any)) ++ listed

/-- The class among an ancestry that has an attribute, and what the attribute is. -/
def findMember (name wanted : String) : Option (String × MemberKind × Arity) :=
  (ancestry name).findSome? fun owner =>
    ((members owner).lookup wanted).map fun found => (owner, found)

end Builtin
end ScriptHost
