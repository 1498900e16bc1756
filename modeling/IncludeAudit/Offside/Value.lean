/-
The values of a running script. What can change is an object on the heap, which several values may refer to; all else
is the value itself.

- `Base`: the classes that are always there, `Value`: values.
-/
import IncludeAudit.Offside.Syntax

namespace IncludeAudit.Offside

/-- classes that are always there; their place in this list is their place on the heap -/
inductive Base
  | object
  | type
  | noneType
  | ellipsis
  | notImplementedType
  | bool
  | int
  | float
  | complex
  | str
  | bytes
  | bytearray
  | tuple
  | list
  | dict
  | set
  | frozenset
  | range
  | slice
  | function
  | native
  | method
  | unbound
  | generator
  | coroutine
  | asyncGenerator
  | module
  | property
  | staticmethod
  | classmethod
  | super
  | cell
  | code
  | dictKeys
  | dictValues
  | dictItems
  | listIterator
  | tupleIterator
  | strIterator
  | bytesIterator
  | rangeIterator
  | keyIterator
  | valueIterator
  | itemIterator
  | setIterator
  | listReverseIterator
  | reversed
  | keyReverseIterator
  | map
  | filter
  | zip
  | enumerate
  | callableIterator
  | sequenceIterator
  | textFile
  | byteReader
  | byteWriter
  | byteRandom
  | rawFile
  | textBuffer
  | byteBuffer
  | pattern
  | match_
  | traceback
  | frame
  | mappingProxy
  | digest
  | weakReference
  | memoryview
  | baseException
  | systemExit
  | keyboardInterrupt
  | generatorExit
  | exception
  | stopIteration
  | stopAsyncIteration
  | arithmeticError
  | floatingPointError
  | overflowError
  | zeroDivisionError
  | assertionError
  | attributeError
  | bufferError
  | eofError
  | importError
  | moduleNotFoundError
  | lookupError
  | indexError
  | keyError
  | memoryError
  | nameError
  | unboundLocalError
  | osError
  | blockingIOError
  | childProcessError
  | connectionError
  | brokenPipeError
  | connectionAbortedError
  | connectionRefusedError
  | connectionResetError
  | fileExistsError
  | fileNotFoundError
  | interruptedError
  | isADirectoryError
  | notADirectoryError
  | permissionError
  | processLookupError
  | timeoutError
  | referenceError
  | runtimeError
  | notImplementedError
  | recursionError
  | syntaxError
  | indentationError
  | tabError
  | systemError
  | typeError
  | valueError
  | unicodeError
  | unicodeDecodeError
  | unicodeEncodeError
  | unicodeTranslateError
  | warning
  | deprecationWarning
  | pendingDeprecationWarning
  | runtimeWarning
  | syntaxWarning
  | userWarning
  | futureWarning
  | importWarning
  | unicodeWarning
  | bytesWarning
  | resourceWarning
  | encodingWarning
  | unsupportedOperation
  | patternError
  deriving DecidableEq, Repr, Inhabited

namespace Base

/-- the place of the class on the heap; the first place is free -/
def ref (b : Base) : Nat :=
  b.ctorIdx + 1

/-- classes with their names, the classes that they extend and the modules that they are known to come from -/
def table : List (Base × String × Base) :=
  [(object, "object", object), (type, "type", object), (noneType, "NoneType", object), (ellipsis, "ellipsis", object),
   (notImplementedType, "NotImplementedType", object), (bool, "bool", int), (int, "int", object),
   (float, "float", object), (complex, "complex", object), (str, "str", object), (bytes, "bytes", object),
   (bytearray, "bytearray", object), (tuple, "tuple", object), (list, "list", object), (dict, "dict", object),
   (set, "set", object), (frozenset, "frozenset", object), (range, "range", object), (slice, "slice", object),
   (function, "function", object), (native, "builtin_function_or_method", object), (method, "method", object),
   (unbound, "method_descriptor", object), (generator, "generator", object), (coroutine, "coroutine", object),
   (asyncGenerator, "async_generator", object), (module, "module", object), (property, "property", object),
   (staticmethod, "staticmethod", object), (classmethod, "classmethod", object), (super, "super", object),
   (cell, "cell", object), (code, "code", object), (dictKeys, "dict_keys", object),
   (dictValues, "dict_values", object), (dictItems, "dict_items", object), (listIterator, "list_iterator", object),
   (tupleIterator, "tuple_iterator", object), (strIterator, "str_ascii_iterator", object),
   (bytesIterator, "bytes_iterator", object), (rangeIterator, "range_iterator", object),
   (keyIterator, "dict_keyiterator", object), (valueIterator, "dict_valueiterator", object),
   (itemIterator, "dict_itemiterator", object), (setIterator, "set_iterator", object),
   (listReverseIterator, "list_reverseiterator", object), (reversed, "reversed", object),
   (keyReverseIterator, "dict_reversekeyiterator", object), (map, "map", object), (filter, "filter", object),
   (zip, "zip", object), (enumerate, "enumerate", object), (callableIterator, "callable_iterator", object),
   (sequenceIterator, "iterator", object), (textFile, "TextIOWrapper", object), (byteReader, "BufferedReader", object),
   (byteWriter, "BufferedWriter", object), (byteRandom, "BufferedRandom", object), (rawFile, "FileIO", object),
   (textBuffer, "StringIO", object), (byteBuffer, "BytesIO", object),
   (pattern, "Pattern", object), (match_, "Match", object), (traceback, "traceback", object), (frame, "frame", object),
   (mappingProxy, "mappingproxy", object), (digest, "HASH", object), (weakReference, "ReferenceType", object),
   (memoryview, "memoryview", object), (baseException, "BaseException", object),
   (systemExit, "SystemExit", baseException), (keyboardInterrupt, "KeyboardInterrupt", baseException),
   (generatorExit, "GeneratorExit", baseException), (exception, "Exception", baseException),
   (stopIteration, "StopIteration", exception), (stopAsyncIteration, "StopAsyncIteration", exception),
   (arithmeticError, "ArithmeticError", exception), (floatingPointError, "FloatingPointError", arithmeticError),
   (overflowError, "OverflowError", arithmeticError), (zeroDivisionError, "ZeroDivisionError", arithmeticError),
   (assertionError, "AssertionError", exception), (attributeError, "AttributeError", exception),
   (bufferError, "BufferError", exception), (eofError, "EOFError", exception), (importError, "ImportError", exception),
   (moduleNotFoundError, "ModuleNotFoundError", importError), (lookupError, "LookupError", exception),
   (indexError, "IndexError", lookupError), (keyError, "KeyError", lookupError),
   (memoryError, "MemoryError", exception), (nameError, "NameError", exception),
   (unboundLocalError, "UnboundLocalError", nameError), (osError, "OSError", exception),
   (blockingIOError, "BlockingIOError", osError), (childProcessError, "ChildProcessError", osError),
   (connectionError, "ConnectionError", osError), (brokenPipeError, "BrokenPipeError", connectionError),
   (connectionAbortedError, "ConnectionAbortedError", connectionError),
   (connectionRefusedError, "ConnectionRefusedError", connectionError),
   (connectionResetError, "ConnectionResetError", connectionError), (fileExistsError, "FileExistsError", osError),
   (fileNotFoundError, "FileNotFoundError", osError), (interruptedError, "InterruptedError", osError),
   (isADirectoryError, "IsADirectoryError", osError), (notADirectoryError, "NotADirectoryError", osError),
   (permissionError, "PermissionError", osError), (processLookupError, "ProcessLookupError", osError),
   (timeoutError, "TimeoutError", osError), (referenceError, "ReferenceError", exception),
   (runtimeError, "RuntimeError", exception), (notImplementedError, "NotImplementedError", runtimeError),
   (recursionError, "RecursionError", runtimeError), (syntaxError, "SyntaxError", exception),
   (indentationError, "IndentationError", syntaxError), (tabError, "TabError", indentationError),
   (systemError, "SystemError", exception), (typeError, "TypeError", exception), (valueError, "ValueError", exception),
   (unicodeError, "UnicodeError", valueError), (unicodeDecodeError, "UnicodeDecodeError", unicodeError),
   (unicodeEncodeError, "UnicodeEncodeError", unicodeError),
   (unicodeTranslateError, "UnicodeTranslateError", unicodeError), (warning, "Warning", exception),
   (deprecationWarning, "DeprecationWarning", warning), (pendingDeprecationWarning, "PendingDeprecationWarning", warning),
   (runtimeWarning, "RuntimeWarning", warning), (syntaxWarning, "SyntaxWarning", warning),
   (userWarning, "UserWarning", warning), (futureWarning, "FutureWarning", warning),
   (importWarning, "ImportWarning", warning), (unicodeWarning, "UnicodeWarning", warning),
   (bytesWarning, "BytesWarning", warning), (resourceWarning, "ResourceWarning", warning),
   (encodingWarning, "EncodingWarning", warning), (unsupportedOperation, "UnsupportedOperation", osError),
   (patternError, "error", exception)]

/-- modules in front of the names of some classes -/
def modules : List (Base × String) :=
  [(textFile, "_io"), (byteReader, "_io"), (byteWriter, "_io"), (byteRandom, "_io"), (rawFile, "_io"), (textBuffer, "_io"),
   (byteBuffer, "_io"),
   (pattern, "re"), (match_, "re"), (unsupportedOperation, "io"), (patternError, "re"), (digest, "_hashlib"),
   (weakReference, "weakref")]

/-- the failure that a number of the system stands for -/
def ofErrno (n : Nat) : Base :=
  if n = 2 then fileNotFoundError else if n = 17 then fileExistsError else if n = 20 then notADirectoryError
  else if n = 21 then isADirectoryError else if n = 13 ∨ n = 1 then permissionError else if n = 10 then childProcessError
  else if n = 3 then processLookupError else if n = 32 then brokenPipeError else if n = 4 then interruptedError
  else if n = 11 then blockingIOError else if n = 110 then timeoutError else if n = 111 then connectionRefusedError
  else if n = 104 then connectionResetError else osError

end Base

inductive Value
  /-- no value, as in a variable that has not been assigned -/
  | absent
  | none
  | ellipsis
  | notImplemented
  | truth (b : Bool)
  | int (n : Int)
  | float (x : Float)
  | complex (re im : Float)
  | str (t : Text)
  | bytes (r : Raw)
  | tuple (vs : List Value)
  | range (low high step : Int)
  | slice (low high step : Value)
  /-- an object on the heap -/
  | ref (n : Nat)
  /-- a function that is always there, of a module -/
  | native (owner name : String)
  /-- a method of a class that is always there, together with its value -/
  | bound (self : Value) (owner : Base) (name : String)
  /-- the same without a value -/
  | unbound (owner : Base) (name : String)
  /-- a function of a script together with its first argument -/
  | method (self function : Value)
  deriving Repr, Inhabited

namespace Value

def ofWords (t : String) : List Value :=
  (Raw.words t).map .str

def isThere : Value → Bool
  | .absent => false
  | _ => true

/-- the value is the one that stands for nothing -/
def isNone : Value → Bool
  | .none => true
  | _ => false

/-- a class that is always there -/
def base (b : Base) : Value :=
  .ref b.ref

end Value
end IncludeAudit.Offside
