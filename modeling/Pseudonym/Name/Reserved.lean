/-!
# Reserved words

Keywords of Python and the names that every Python module sees. A new name that differs from one of
them only in case is never taken.
-/

namespace Pseudonym.Name

/-- The words of a blank-separated list. -/
def listed (s : String) : List String :=
  ((s.map fun c => if c = '\n' then ' ' else c).splitOn " ").filter (· ≠ "")

/-- The words that cannot be identifiers. -/
def keywords : List String :=
  ["False", "None", "True", "and", "as", "assert", "async", "await", "break", "class", "continue",
   "def", "del", "elif", "else", "except", "finally", "for", "from", "global", "if", "import", "in",
   "is", "lambda", "nonlocal", "not", "or", "pass", "raise", "return", "try", "while", "with",
   "yield"]

/-- Words that are never taken as a new name, in lower case. -/
def reservedWords : List String :=
  ["_", "abs", "aiter", "all", "and", "anext", "any", "arithmeticerror", "as", "ascii", "assert",
   "assertionerror", "async", "attributeerror", "await", "baseexception", "baseexceptiongroup",
   "bin", "blockingioerror", "bool", "break", "breakpoint", "brokenpipeerror", "buffererror",
   "bytearray", "bytes", "byteswarning", "callable", "case", "childprocesserror", "chr", "class",
   "classmethod", "cls", "compile", "complex", "connectionabortederror", "connectionerror",
   "connectionrefusederror", "connectionreseterror", "continue", "copyright", "credits", "def",
   "del", "delattr", "deprecationwarning", "dict", "dir", "divmod", "elif", "ellipsis", "else",
   "encodingwarning", "enumerate", "environmenterror", "eoferror", "eval", "except", "exception",
   "exceptiongroup", "exec", "exit", "false", "fileexistserror", "filenotfounderror", "filter",
   "finally", "float", "floatingpointerror", "for", "format", "from", "frozenset", "futurewarning",
   "generatorexit", "getattr", "global", "globals", "hasattr", "hash", "help", "hex", "id", "if",
   "import", "importerror", "importwarning", "in", "indentationerror", "indexerror", "input", "int",
   "interruptederror", "ioerror", "is", "isadirectoryerror", "isinstance", "issubclass", "iter",
   "keyboardinterrupt", "keyerror", "lambda", "len", "license", "list", "locals", "lookuperror",
   "map", "match", "max", "memoryerror", "memoryview", "min", "modulenotfounderror", "nameerror",
   "next", "none", "nonlocal", "not", "notadirectoryerror", "notimplemented", "notimplementederror",
   "object", "oct", "open", "or", "ord", "oserror", "overflowerror", "pass",
   "pendingdeprecationwarning", "permissionerror", "pow", "print", "processlookuperror", "property",
   "quit", "raise", "range", "recursionerror", "referenceerror", "repr", "resourcewarning",
   "return", "reversed", "round", "runtimeerror", "runtimewarning", "self", "set", "setattr",
   "slice", "sorted", "staticmethod", "stopasynciteration", "stopiteration", "str", "sum", "super",
   "syntaxerror", "syntaxwarning", "systemerror", "systemexit", "taberror", "timeouterror", "true",
   "try", "tuple", "type", "typeerror", "unboundlocalerror", "unicodedecodeerror",
   "unicodeencodeerror", "unicodeerror", "unicodetranslateerror", "unicodewarning", "userwarning",
   "valueerror", "vars", "warning", "while", "with", "yield", "zerodivisionerror", "zip"]

/-- The names that are visible everywhere without a declaration. -/
def builtinNames : List String :=
  listed "ArithmeticError AssertionError AttributeError BaseException BaseExceptionGroup BlockingIOError
    BrokenPipeError BufferError BytesWarning ChildProcessError ConnectionAbortedError
    ConnectionError ConnectionRefusedError ConnectionResetError DeprecationWarning EOFError
    Ellipsis EncodingWarning EnvironmentError Exception ExceptionGroup False FileExistsError
    FileNotFoundError FloatingPointError FutureWarning GeneratorExit IOError ImportError
    ImportWarning IndentationError IndexError InterruptedError IsADirectoryError KeyError
    KeyboardInterrupt LookupError MemoryError ModuleNotFoundError NameError None
    NotADirectoryError NotImplemented NotImplementedError OSError OverflowError
    PendingDeprecationWarning PermissionError ProcessLookupError RecursionError ReferenceError
    ResourceWarning RuntimeError RuntimeWarning StopAsyncIteration StopIteration SyntaxError
    SyntaxWarning SystemError SystemExit TabError TimeoutError True TypeError UnboundLocalError
    UnicodeDecodeError UnicodeEncodeError UnicodeError UnicodeTranslateError UnicodeWarning
    UserWarning ValueError Warning ZeroDivisionError __build_class__ __debug__ __doc__ __import__
    __loader__ __name__ __package__ __spec__ abs aiter all anext any ascii bin bool breakpoint
    bytearray bytes callable chr classmethod compile complex copyright credits delattr dict dir
    divmod enumerate eval exec exit filter float format frozenset getattr globals hasattr hash
    help hex id input int isinstance issubclass iter len license list locals map max memoryview
    min next object oct open ord pow print property quit range repr reversed round set setattr
    slice sorted staticmethod str sum super tuple type vars zip"

end Pseudonym.Name
