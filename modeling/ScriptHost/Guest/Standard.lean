import ScriptHost.Guest.Mathematics

/-! The modules that are part of the interpreter: their names, what is inside the packages among them,
and the objects that stand for them. -/
namespace ScriptHost

namespace Standard

/-- The modules that stand in no package, the packages among them. -/
private def names : List String :=
  ("__future__ _abc _ast _asyncio _bisect _blake2 _bz2 _codecs _codecs_cn _codecs_hk " ++
    "_codecs_iso2022 _codecs_jp _codecs_kr _codecs_tw _collections _collections_abc " ++
    "_compat_pickle _compression _contextvars _crypt _csv _ctypes _curses _curses_panel " ++
    "_datetime _dbm _decimal _elementtree _frozen_importlib _frozen_importlib_external " ++
    "_functools _hashlib _heapq _imp _io _json _locale _lsprof _lzma _markupbase _md5 " ++
    "_multibytecodec _multiprocessing _opcode _operator _pickle _posixshmem _posixsubprocess " ++
    "_py_abc _pydecimal _pyio _queue _random _sha1 _sha256 _sha3 _sha512 _signal " ++
    "_sitebuiltins _socket _sqlite3 _sre _ssl _stat _statistics _string _strptime _struct " ++
    "_symtable _thread _threading_local _tokenize _tracemalloc _typing _uuid _warnings " ++
    "_weakref _weakrefset _zoneinfo abc aifc argparse array ast asynchat asyncio asyncore " ++
    "atexit audioop base64 bdb binascii bisect builtins bz2 cProfile calendar cgi cgitb chunk " ++
    "cmath cmd code codecs codeop collections colorsys compileall concurrent configparser " ++
    "contextlib contextvars copy copyreg crypt csv ctypes curses dataclasses datetime dbm " ++
    "decimal difflib dis distutils doctest email encodings ensurepip enum errno faulthandler " ++
    "fcntl filecmp fileinput fnmatch fractions ftplib functools gc genericpath getopt getpass " ++
    "gettext glob graphlib grp gzip hashlib heapq hmac html http imaplib imghdr imp importlib " ++
    "inspect io ipaddress itertools json keyword linecache locale logging lzma mailbox " ++
    "mailcap marshal math mimetypes mmap modulefinder multiprocessing netrc nntplib ntpath " ++
    "nturl2path numbers opcode operator optparse os ossaudiodev pathlib pdb pickle " ++
    "pickletools pipes pkgutil platform plistlib poplib posix posixpath pprint profile pstats " ++
    "pty pwd py_compile pyclbr pydoc pydoc_data pyexpat queue quopri random re readline " ++
    "reprlib resource rlcompleter runpy sched secrets select selectors shelve shlex shutil " ++
    "signal site smtpd smtplib sndhdr socket socketserver spwd sqlite3 sre_compile " ++
    "sre_constants sre_parse ssl stat statistics string stringprep struct subprocess sunau " ++
    "symtable sys sysconfig syslog tabnanny tarfile telnetlib tempfile termios textwrap " ++
    "threading time timeit token tokenize tomllib trace traceback tracemalloc tty types " ++
    "typing unicodedata unittest urllib uu uuid venv warnings wave weakref webbrowser wsgiref " ++
    "xdrlib xml xmlrpc zipapp zipfile zipimport zlib zoneinfo").splitOn " "

/-- The modules that are compiled into the interpreter. -/
private def compiledIn : List String :=
  ("_abc _ast _bisect _blake2 _codecs _collections _csv _datetime _elementtree _functools " ++
    "_heapq _imp _io _locale _md5 _operator _pickle _posixsubprocess _random _sha1 _sha256 " ++
    "_sha3 _sha512 _signal _socket _sre _stat _statistics _string _struct _symtable _thread " ++
    "_tracemalloc _typing _warnings _weakref array atexit binascii builtins cmath errno " ++
    "faulthandler fcntl gc grp itertools marshal math posix pwd pyexpat select spwd sys " ++
    "syslog time unicodedata xxsubtype zlib").splitOn " "

/-- The modules whose code the interpreter keeps frozen. -/
private def frozen : List String := [
  "_collections_abc", "_sitebuiltins", "abc", "codecs", "genericpath", "importlib", "importlib.machinery",
  "importlib.util", "io", "os", "posixpath", "runpy", "site", "stat", "zipimport"]

/-- The modules that are there before any script asks for one. -/
private def loadedEarly : List String :=
  frozen ++ ["_abc", "_codecs", "_collections", "_functools", "_imp", "_io", "_operator", "_signal", "_stat",
    "_thread", "_warnings", "_weakref", "builtins", "collections", "collections.abc", "encodings", "functools",
    "keyword", "marshal", "operator", "os.path", "posix", "reprlib", "sys", "time", "types", "warnings", "itertools"]

private def packages : List (String × String) := [
  ("asyncio", "base_events base_futures base_subprocess base_tasks constants coroutines events " ++
      "exceptions format_helpers futures locks log mixins proactor_events protocols queues " ++
      "runners selector_events sslproto staggered streams subprocess taskgroups tasks threads " ++
      "timeouts transports trsock unix_events"),
  ("collections", "abc"),
  ("concurrent", "futures"),
  ("ctypes", "_endian macholib util"),
  ("curses", "ascii has_key panel textpad"),
  ("dbm", "dumb gnu ndbm"),
  ("email", "_encoded_words _header_value_parser _parseaddr _policybase base64mime charset " ++
      "contentmanager encoders errors feedparser generator header headerregistry iterators " ++
      "message mime parser policy quoprimime utils"),
  ("encodings", "aliases ascii cp1252 idna latin_1 punycode raw_unicode_escape undefined unicode_escape " ++
      "utf_16 utf_32 utf_7 utf_8 utf_8_sig"),
  ("html", "entities parser"),
  ("http", "client cookiejar cookies server"),
  ("importlib", "_abc _bootstrap _bootstrap_external abc machinery metadata readers resources simple " ++
      "util"),
  ("json", "decoder encoder scanner tool"),
  ("logging", "config handlers"),
  ("multiprocessing", "connection context dummy forkserver heap managers pool popen_fork process queues " ++
      "reduction shared_memory sharedctypes spawn synchronize util"),
  ("pydoc_data", "topics"),
  ("re", "_casefix _compiler _constants _parser"),
  ("sqlite3", "dbapi2 dump"),
  ("tomllib", "_parser _re _types"),
  ("unittest", "_log async_case case loader main mock result runner signals suite util"),
  ("urllib", "error parse request response robotparser"),
  ("wsgiref", "handlers headers simple_server types util validate"),
  ("xml", "dom etree parsers sax"),
  ("xmlrpc", "client server"),
  ("zoneinfo", "_common _tzpath _zoneinfo")]

/-- The modules inside a package. -/
private def inside (package : String) : List String := ((packages.lookup package).getD "").splitOn " "

def isPackage (name : String) : Bool := (packages.lookup name).isSome

/-- Whether a module is part of the interpreter. -/
def contains (name : String) : Bool :=
  match name.splitOn "." with
  | [top] => names.contains top
  | [package, part] => (inside package).contains part || name = "os.path"
  | _ => false

/-- Whether a module is there before any script asks for one. -/
def isEarly (name : String) : Bool := loadedEarly.contains name

/-- The parts of a package that are there before any script asks for one. -/
def earlyParts (package : String) : List String :=
  loadedEarly.filterMap fun name => (name.dropPrefix? (package ++ ".")).map (·.toString)

/-- The name that a module knows itself by. -/
def trueName (name : String) : String := if name = "os.path" then "posixpath" else name

/-- Whether a module is found wherever the search path leads. -/
def isEverywhere (name : String) : Bool :=
  loadedEarly.contains name || compiledIn.contains name || frozen.contains name

/-- Whether a module counts among the ones that scripts imported: it is not there before, and brings
no others with it. -/
def isNewcomer (name : String) : Bool :=
  !contains name || (compiledIn.contains name && !loadedEarly.contains name) || name = "__future__"

/-- The directory of the source files. -/
def directory : String := "/usr/lib/python3.11"

/-- The attributes of the system module that hold the directories of the installation. -/
def installationNames : List String := ["prefix", "base_prefix", "exec_prefix", "base_exec_prefix"]

/-- The source file of a module, if it has one. -/
private def source? (name : String) : Option String :=
  if compiledIn.contains name || (name.startsWith "_" && name ≠ "__future__" && !frozen.contains name) then none
  else some (directory ++ "/" ++ "/".intercalate (name.splitOn ".") ++ (if isPackage name then "/__init__.py" else ".py"))

end Standard

namespace GuestM

/-- The object of a text that can be missing. -/
def optionalString : Option String → GuestM Identity
  | some s => string s
  | .none => none

/-- Makes the object that says how a module came to be. -/
def specification (name : String) (origin : Option String) (loader parts : Identity) (hasFile : Bool) :
    GuestM Identity := do
  let id ← allocate (.plain "ModuleSpec")
  let attributes ← attributesOf id
  let origin ← optionalString origin
  let parent := if (← get).isNone parts then ".".intercalate (name.splitOn ".").dropLast else name
  for (key, value) in [("name", ← string name), ("loader", loader), ("origin", origin),
      ("loader_state", ← none), ("submodule_search_locations", parts), ("_initializing", ← bool false),
      ("has_location", ← bool hasFile), ("parent", ← string parent),
      ("_uninitialized_submodules", ← list [])] do
    setName attributes (.ofString key) value
  return id

def mathematicsContents : GuestM (List (String × Identity)) := do
  let functions ← Mathematics.functions.mapM fun name => do return (name, ← builtin ("math." ++ name))
  let constants ← Mathematics.constants.mapM fun (name, x) => do return (name, ← float x)
  return functions ++ constants

/-- The object that loads a module of the interpreter's own. -/
def standardLoader (name : String) : GuestM Identity :=
  if Standard.compiledIn.contains name then builtin "BuiltinImporter"
  else if Standard.frozen.contains name then builtin "FrozenImporter"
  else allocate (.plain "SourceFileLoader")

/-- The directories of a module of the interpreter's own, if it is a package. -/
def standardParts (name : String) : GuestM Identity :=
  match Standard.source? name with
  | some file =>
    if Standard.isPackage name then do list [← string (file.dropEnd "/__init__.py".length).toString] else none
  | .none => none

/-- Sets the attributes by which a module tells its file and its parts. -/
def presentSource (attributes parts : Identity) : Option String → GuestM Unit
  | some file => do
    setName attributes (.ofString "__file__") (← string file)
    if !(← get).isNone parts then setName attributes (.ofString "__path__") parts
  | .none => return ()

/-- Sets the attributes by which a module of the interpreter's own presents itself. -/
def presentStandard (attributes : Identity) (name : String) : GuestM Unit := do
  let set (key : String) (value : Identity) : GuestM Unit := setName attributes (.ofString key) value
  let package := if Standard.isPackage name then name else ".".intercalate (name.splitOn ".").dropLast
  let source := Standard.source? name
  let isCompiledIn := Standard.compiledIn.contains name
  let isFrozen := Standard.frozen.contains name
  let loader ← standardLoader name
  let parts ← standardParts name
  let origin := if isCompiledIn then some "built-in" else if isFrozen then some "frozen" else source
  set "__name__" (← string name)
  set "__doc__" (← none)
  set "__package__" (← string package)
  set "__loader__" loader
  set "__spec__" (← specification name origin loader parts (source.isSome && !isFrozen))
  presentSource attributes parts source
  if name = "math" then
    for (key, value) in ← mathematicsContents do set key value

/-- A module of the interpreter's own. -/
def standardModule (name : String) : GuestM Identity := do
  let name := Standard.trueName name
  match (← get).standardModules.lookup name with
  | some id => return id
  | .none =>
    let attributes ← allocate (.dict [])
    presentStandard attributes name
    let id ← allocate (.module attributes)
    modify fun g => { g with standardModules := g.standardModules ++ [(name, id)] }
    return id

end GuestM
end ScriptHost
