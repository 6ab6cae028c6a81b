/-! What every module can count on: the names that are bound everywhere, the kinds of exceptions,
and the modules of the standard library. -/

namespace StateWeave.Standard

def exceptions : List (String × List String) :=
  [("Exception",
      ["ArithmeticError", "AssertionError", "AttributeError", "BufferError", "EOFError",
        "ImportError", "LookupError", "MemoryError", "NameError", "OSError", "ReferenceError",
        "RuntimeError", "StopAsyncIteration", "StopIteration", "SyntaxError", "SystemError",
        "TypeError", "ValueError", "Warning"]),
    ("BaseException",
      ["BaseExceptionGroup", "Exception", "GeneratorExit", "KeyboardInterrupt", "SystemExit"]),
    ("OSError",
      ["BlockingIOError", "ChildProcessError", "ConnectionError", "FileExistsError",
        "FileNotFoundError", "InterruptedError", "IsADirectoryError", "NotADirectoryError",
        "PermissionError", "ProcessLookupError", "TimeoutError"]),
    ("ConnectionError",
      ["BrokenPipeError", "ConnectionAbortedError", "ConnectionRefusedError",
        "ConnectionResetError"]),
    ("Warning",
      ["BytesWarning", "DeprecationWarning", "EncodingWarning", "FutureWarning", "ImportWarning",
        "PendingDeprecationWarning", "ResourceWarning", "RuntimeWarning", "SyntaxWarning",
        "UnicodeWarning", "UserWarning"]),
    ("BaseExceptionGroup",
      ["ExceptionGroup"]),
    ("ArithmeticError",
      ["FloatingPointError", "OverflowError", "ZeroDivisionError"]),
    ("SyntaxError",
      ["IndentationError"]),
    ("LookupError",
      ["IndexError", "KeyError"]),
    ("ImportError",
      ["ModuleNotFoundError"]),
    ("RuntimeError",
      ["NotImplementedError", "RecursionError"]),
    ("IndentationError",
      ["TabError"]),
    ("NameError",
      ["UnboundLocalError"]),
    ("UnicodeError",
      ["UnicodeDecodeError", "UnicodeEncodeError", "UnicodeTranslateError"]),
    ("ValueError",
      ["UnicodeError"])]

def synonyms : List (String × String) :=
  [("EnvironmentError", "OSError"), ("IOError", "OSError")]

def general? (kind : String) : Option String :=
  (exceptions.find? fun (_, special) => special.contains kind).map (·.1)

/-- A kind with all that are more general, in at most this many steps. -/
def kindsWithin : Nat → String → List String
  | 0, _ => []
  | n + 1, kind => kind :: match general? kind with
    | some general => kindsWithin n general
    | none => []

/-- The kind that a name stands for, with all that are more general; every step up leaves a group.
-/
def kindsOf (name : String) : List String :=
  kindsWithin (exceptions.length + 1) (((synonyms.find? (·.1 == name)).map (·.2)).getD name)

def isException (name : String) : Bool :=
  name == "BaseException" || (general? name).isSome || synonyms.any (·.1 == name)

def plainNames : List String :=
  ["Ellipsis", "NotImplemented", "abs", "aiter", "all", "anext", "any", "ascii", "bin", "bool",
    "breakpoint", "bytearray", "bytes", "callable", "chr", "classmethod", "compile", "complex",
    "delattr", "dict", "dir", "divmod", "enumerate", "eval", "exec", "filter", "float", "format",
    "frozenset", "getattr", "globals", "hasattr", "hash", "hex", "id", "input", "int",
    "isinstance", "issubclass", "iter", "len", "list", "locals", "map", "max", "memoryview",
    "min", "next", "object", "oct", "open", "ord", "pow", "print", "property", "range", "repr",
    "reversed", "round", "set", "setattr", "slice", "sorted", "staticmethod", "str", "sum",
    "super", "tuple", "type", "vars", "zip", "__build_class__", "__debug__", "__import__", "exit",
    "quit", "help"]

/-- What classes have from the class of classes, and exceptions from the standard kinds. -/
def classMembers : List String :=
  ["mro", "add_note", "args", "characters_written", "code", "derive", "encoding", "end",
    "end_lineno", "end_offset", "errno", "exceptions", "filename", "filename2", "lineno",
    "message", "msg", "name", "obj", "object", "offset", "path", "print_file_and_line", "reason",
    "split", "start", "strerror", "subgroup", "text", "value", "with_traceback"]

def members : List (String × List String) :=
  [("int",
      ["as_integer_ratio", "bit_count", "bit_length", "conjugate", "denominator", "from_bytes",
        "imag", "numerator", "real", "to_bytes"]),
    ("float",
      ["as_integer_ratio", "conjugate", "fromhex", "hex", "imag", "is_integer", "real"]),
    ("complex",
      ["conjugate", "imag", "real"]),
    ("str",
      ["capitalize", "casefold", "center", "count", "encode", "endswith", "expandtabs", "find",
        "format", "format_map", "index", "isalnum", "isalpha", "isascii", "isdecimal",
        "isdigit", "isidentifier", "islower", "isnumeric", "isprintable", "isspace", "istitle",
        "isupper", "join", "ljust", "lower", "lstrip", "maketrans", "partition",
        "removeprefix", "removesuffix", "replace", "rfind", "rindex", "rjust", "rpartition",
        "rsplit", "rstrip", "split", "splitlines", "startswith", "strip", "swapcase", "title",
        "translate", "upper", "zfill"]),
    ("bytes",
      ["capitalize", "center", "count", "decode", "endswith", "expandtabs", "find", "fromhex",
        "hex", "index", "isalnum", "isalpha", "isascii", "isdigit", "islower", "isspace",
        "istitle", "isupper", "join", "ljust", "lower", "lstrip", "maketrans", "partition",
        "removeprefix", "removesuffix", "replace", "rfind", "rindex", "rjust", "rpartition",
        "rsplit", "rstrip", "split", "splitlines", "startswith", "strip", "swapcase", "title",
        "translate", "upper", "zfill"]),
    ("tuple",
      ["count", "index"]),
    ("list",
      ["append", "clear", "copy", "count", "extend", "index", "insert", "pop", "remove",
        "reverse", "sort"]),
    ("set",
      ["add", "clear", "copy", "difference", "difference_update", "discard", "intersection",
        "intersection_update", "isdisjoint", "issubset", "issuperset", "pop", "remove",
        "symmetric_difference", "symmetric_difference_update", "union", "update"]),
    ("dict",
      ["clear", "copy", "fromkeys", "get", "items", "keys", "pop", "popitem", "setdefault",
        "update", "values"])]

def hasMember (kind name : String) : Bool :=
  match members.find? (·.1 == if kind = "bool" then "int" else kind) with
  | some (_, names) => names.contains name
  | none => false

def isBound (name : String) : Bool :=
  plainNames.contains name || isException name

def topModules : List String :=
  ["__future__", "abc", "aifc", "argparse", "array", "ast", "asynchat", "asyncio", "asyncore",
    "atexit", "audioop", "base64", "bdb", "binascii", "bisect", "builtins", "bz2", "cProfile",
    "calendar", "cgi", "cgitb", "chunk", "cmath", "cmd", "code", "codecs", "codeop",
    "collections", "colorsys", "compileall", "concurrent", "configparser", "contextlib",
    "contextvars", "copy", "copyreg", "crypt", "csv", "ctypes", "curses", "dataclasses",
    "datetime", "dbm", "decimal", "difflib", "dis", "distutils", "doctest", "email", "encodings",
    "ensurepip", "enum", "errno", "faulthandler", "fcntl", "filecmp", "fileinput", "fnmatch",
    "fractions", "ftplib", "functools", "gc", "genericpath", "getopt", "getpass", "gettext",
    "glob", "graphlib", "grp", "gzip", "hashlib", "heapq", "hmac", "html", "http", "idlelib",
    "imaplib", "imghdr", "imp", "importlib", "inspect", "io", "ipaddress", "itertools", "json",
    "keyword", "lib2to3", "linecache", "locale", "logging", "lzma", "mailbox", "mailcap",
    "marshal", "math", "mimetypes", "mmap", "modulefinder", "multiprocessing", "netrc", "nis",
    "nntplib", "ntpath", "nturl2path", "numbers", "opcode", "operator", "optparse", "os",
    "ossaudiodev", "pathlib", "pdb", "pickle", "pickletools", "pipes", "pkgutil", "platform",
    "plistlib", "poplib", "posix", "posixpath", "pprint", "profile", "pstats", "pty", "pwd",
    "py_compile", "pyclbr", "pydoc", "pydoc_data", "pyexpat", "queue", "quopri", "random", "re",
    "readline", "reprlib", "resource", "rlcompleter", "runpy", "sched", "secrets", "select",
    "selectors", "shelve", "shlex", "shutil", "signal", "site", "smtpd", "smtplib", "sndhdr",
    "socket", "socketserver", "spwd", "sqlite3", "sre_compile", "sre_constants", "sre_parse",
    "ssl", "stat", "statistics", "string", "stringprep", "struct", "subprocess", "sunau",
    "symtable", "sys", "sysconfig", "syslog", "tabnanny", "tarfile", "telnetlib", "tempfile",
    "termios", "textwrap", "threading", "time", "timeit", "tkinter", "token", "tokenize",
    "tomllib", "trace", "traceback", "tracemalloc", "tty", "turtle", "turtledemo", "types",
    "typing", "unicodedata", "unittest", "urllib", "uu", "uuid", "venv", "warnings", "wave",
    "weakref", "webbrowser", "wsgiref", "xdrlib", "xml", "xmlrpc", "zipapp", "zipfile",
    "zipimport", "zlib", "zoneinfo", "_thread", "_weakref", "_collections_abc"]

def submodules : List String :=
  ["asyncio.events", "asyncio.queues", "asyncio.tasks", "collections.abc", "concurrent.futures",
    "concurrent.futures.process", "concurrent.futures.thread", "ctypes.util", "email.message",
    "email.mime", "email.mime.multipart", "email.mime.text", "email.parser", "email.policy",
    "email.utils", "html.entities", "html.parser", "http.client", "http.cookiejar",
    "http.cookies", "http.server", "importlib.abc", "importlib.machinery", "importlib.metadata",
    "importlib.resources", "importlib.util", "json.decoder", "json.encoder", "json.tool",
    "logging.config", "logging.handlers", "multiprocessing.connection", "multiprocessing.dummy",
    "multiprocessing.managers", "multiprocessing.pool", "multiprocessing.shared_memory",
    "os.path", "sqlite3.dbapi2", "unittest.case", "unittest.mock", "unittest.util",
    "urllib.error", "urllib.parse", "urllib.request", "urllib.response", "urllib.robotparser",
    "wsgiref.handlers", "wsgiref.simple_server", "wsgiref.util", "xml.dom", "xml.dom.minidom",
    "xml.dom.pulldom", "xml.etree", "xml.etree.ElementTree", "xml.parsers", "xml.parsers.expat",
    "xml.sax", "xml.sax.handler", "xml.sax.saxutils", "xmlrpc.client", "xmlrpc.server"]

def isModule (name : String) : Bool :=
  topModules.contains name || submodules.contains name

def moduleAttributes : List String :=
  ["__name__", "__doc__", "__package__", "__loader__", "__spec__", "__file__", "__cached__",
    "__builtins__", "__dict__", "__class__"]

end StateWeave.Standard
