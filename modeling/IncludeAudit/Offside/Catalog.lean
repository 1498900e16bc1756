/-
The classes and functions that are always there, by name, and the heap on which they stand when a script begins.

- `Catalog.methods`: the names that the classes have, `Catalog.heap`: the heap of the beginning.
-/
import IncludeAudit.Offside.World

namespace IncludeAudit.Offside.Catalog

/-- operations on two numbers and what goes the other way round -/
def arithmetic : String :=
  "__add__ __radd__ __sub__ __rsub__ __mul__ __rmul__ __mod__ __rmod__ __divmod__ __rdivmod__ __pow__ __rpow__ " ++
  "__neg__ __pos__ __abs__ __bool__ __truediv__ __rtruediv__ "

def comparisons : String :=
  "__lt__ __le__ __eq__ __ne__ __gt__ __ge__ __hash__ __repr__ "

def setOperations : String :=
  "__sub__ __rsub__ __and__ __rand__ __xor__ __rxor__ __or__ __ror__ __len__ __contains__ __iter__ "

/-- methods of texts and of bytes -/
def textual : String :=
  "__len__ __getitem__ __add__ __mul__ __rmul__ __mod__ __rmod__ __contains__ __iter__ __str__ capitalize center count " ++
  "endswith expandtabs find index isalnum isalpha isascii isdigit islower isspace istitle isupper join ljust lower " ++
  "lstrip partition replace removeprefix removesuffix rfind rindex rjust rpartition rsplit rstrip split splitlines " ++
  "startswith strip swapcase title translate upper zfill "

def filing : String :=
  "__enter__ __exit__ __iter__ __next__ close fileno flush isatty read readable readline readlines seek seekable tell " ++
  "truncate writable write writelines detach "

/-- the names that the classes have -/
def methods : List (Base × String) :=
  [(.object, "__repr__ __hash__ __str__ __setattr__ __delattr__ __getattribute__ __lt__ __le__ __eq__ __ne__ __gt__ " ++
      "__ge__ __init__ __format__ __dir__ __reduce__ __reduce_ex__ __sizeof__"),
   (.type, "__call__ __repr__ mro __subclasses__ __instancecheck__ __subclasscheck__ __or__ __ror__ __init__"),
   (.int, comparisons ++ arithmetic ++ "__invert__ __lshift__ __rlshift__ __rshift__ __rrshift__ __and__ __rand__ " ++
      "__xor__ __rxor__ __or__ __ror__ __int__ __float__ __floordiv__ __rfloordiv__ __index__ conjugate bit_length " ++
      "bit_count to_bytes as_integer_ratio __trunc__ __floor__ __ceil__ __round__ __format__"),
   (.float, comparisons ++ arithmetic ++ "__int__ __float__ __floordiv__ __rfloordiv__ conjugate __trunc__ __floor__ " ++
      "__ceil__ __round__ as_integer_ratio hex is_integer __format__"),
   (.complex, comparisons ++ arithmetic ++ "conjugate __format__ __complex__"),
   (.str, comparisons ++ textual ++ "encode casefold isdecimal isnumeric isidentifier isprintable format format_map __format__"),
   (.bytes, comparisons ++ textual ++ "decode hex __bytes__"),
   (.bytearray, comparisons ++ textual ++ "decode hex __init__ __setitem__ __delitem__ __iadd__ __imul__ append clear copy " ++
      "extend insert pop remove reverse"),
   (.tuple, comparisons ++ "__iter__ __len__ __getitem__ __add__ __mul__ __rmul__ __contains__ index count"),
   (.list, comparisons ++ "__iter__ __init__ __len__ __getitem__ __setitem__ __delitem__ __add__ __mul__ __rmul__ " ++
      "__contains__ __iadd__ __imul__ __reversed__ clear copy append insert extend pop remove index count reverse sort"),
   (.dict, comparisons ++ "__iter__ __init__ __or__ __ror__ __ior__ __len__ __getitem__ __setitem__ __delitem__ " ++
      "__contains__ get setdefault pop popitem keys items values update clear copy __reversed__"),
   (.set, comparisons ++ setOperations ++ "__init__ __isub__ __iand__ __ixor__ __ior__ add clear copy discard difference " ++
      "difference_update intersection intersection_update isdisjoint issubset issuperset pop remove " ++
      "symmetric_difference symmetric_difference_update union update"),
   (.frozenset, comparisons ++ setOperations ++ "copy difference intersection isdisjoint issubset issuperset " ++
      "symmetric_difference union"),
   (.range, comparisons ++ "__iter__ __bool__ __len__ __getitem__ __contains__ __reversed__ count index"),
   (.slice, comparisons ++ "indices"),
   (.function, "__call__ __get__"),
   (.method, "__call__"),
   (.native, "__call__"),
   (.property, "__get__ __set__ __delete__ getter setter deleter"),
   (.staticmethod, "__get__ __call__"),
   (.classmethod, "__get__"),
   (.generator, "__iter__ __next__ close send throw"),
   (.coroutine, "__await__ close send throw"),
   (.asyncGenerator, "__aiter__ __anext__ asend athrow aclose"),
   (.dictKeys, setOperations ++ "__reversed__ isdisjoint"),
   (.dictValues, "__iter__ __len__ __reversed__"),
   (.dictItems, setOperations ++ "__reversed__ isdisjoint"),
   (.mappingProxy, "__getitem__ __iter__ __len__ __contains__ get keys items values copy"),
   (.textFile, filing ++ "reconfigure"),
   (.byteReader, filing ++ "read1 readinto peek"),
   (.byteWriter, filing),
   (.byteRandom, filing ++ "read1 readinto peek"),
   (.rawFile, filing ++ "readall readinto"),
   (.textBuffer, filing ++ "getvalue"),
   (.byteBuffer, filing ++ "getvalue getbuffer read1 readinto"),
   (.pattern, "findall finditer fullmatch match search split sub subn"),
   (.match_, "__getitem__ end expand group groupdict groups span start"),
   (.digest, "update digest hexdigest copy"),
   (.baseException, "__repr__ __str__ __init__ add_note with_traceback __setstate__ __reduce__")] ++
  [.listIterator, .tupleIterator, .strIterator, .bytesIterator, .rangeIterator, .keyIterator, .valueIterator, .itemIterator,
    .setIterator, .listReverseIterator, .reversed, .keyReverseIterator, .map, .filter, .zip, .enumerate, .callableIterator,
    .sequenceIterator].map fun b => (b, "__iter__ __next__ __length_hint__")

/-- names that belong to the class and not to its values -/
def ofClasses : List (Base × String) :=
  [(.dict, "fromkeys __class_getitem__"), (.int, "from_bytes"), (.bytes, "fromhex"), (.bytearray, "fromhex"),
   (.float, "fromhex"), (.object, "__init_subclass__ __subclasshook__"), (.list, "__class_getitem__"),
   (.tuple, "__class_getitem__"), (.set, "__class_getitem__"), (.frozenset, "__class_getitem__"), (.type, "__prepare__"),
   (.pattern, "__class_getitem__"), (.match_, "__class_getitem__")]

/-- names that are functions on their own -/
def alone : List (Base × String) :=
  [(.str, "maketrans"), (.bytes, "maketrans"), (.bytearray, "maketrans")]

/-- classes that make their values in a way of their own -/
def makers : List Base :=
  [.object, .type, .int, .float, .complex, .str, .bytes, .bytearray, .tuple, .list, .dict, .set, .frozenset, .range,
   .slice, .bool, .property, .staticmethod, .classmethod, .super, .map, .filter, .zip, .enumerate, .reversed,
   .baseException, .textBuffer, .byteBuffer, .textFile, .module, .function, .method, .mappingProxy, .memoryview,
   .byteReader, .byteWriter, .rawFile, .cell, .code]

def functions : List Text :=
  Raw.words ("print len repr sorted sum min max abs any all round divmod pow ord chr hex oct bin isinstance issubclass " ++
    "input iter next callable getattr setattr delattr hasattr id format exit quit open ascii hash vars dir globals locals " ++
    "eval exec compile __import__ __build_class__ aiter anext breakpoint help copyright credits license")

/-- classes that are known by name everywhere -/
def known : List Base :=
  [.object, .type, .bool, .int, .float, .complex, .str, .bytes, .bytearray, .tuple, .list, .dict, .set, .frozenset,
   .range, .slice, .property, .staticmethod, .classmethod, .super, .map, .filter, .zip, .enumerate, .reversed,
   .memoryview] ++
  ((Base.table.map (·.1)).filter fun b => Base.baseException.ref ≤ b.ref && b.ref ≤ Base.encodingWarning.ref)

/-- the number of classes -/
def count : Nat :=
  Base.table.length

/-- the place of the dictionary of a class -/
def dictionaryOf (b : Base) : Nat :=
  count + b.ref

/-- the place of the dictionary of the names that are known everywhere -/
def builtins : Nat :=
  2 * count + 1

/-- the place of the dictionary of modules -/
def modules : Nat :=
  2 * count + 2

/-- the place of the ellipsis of names -/
def firstFree : Nat :=
  2 * count + 3

def nameOf (b : Base) : Text :=
  ((Base.table.find? (·.1 = b)).map fun r => r.2.1.toList).getD []

/-- the class that a class extends -/
def parentOf (b : Base) : Base :=
  ((Base.table.find? (·.1 = b)).map (·.2.2)).getD .object

/-- a class and those that it extends -/
def lineOf : (fuel : Nat) → Base → List Base
  | 0, b => [b]
  | fuel + 1, b => if b = .object then [b] else b :: lineOf fuel (parentOf b)

/-- the class that is always there under a name -/
def base? (name : Text) : Option Base :=
  (Base.table.find? fun r => r.2.1.toList = name).map (·.1)

def classNames : List (Base × Text) :=
  ofClasses.flatMap fun p => (Raw.words p.2.toList).map fun n => (p.1, n)

/-- the names in the dictionary of a class -/
def entries (b : Base) : List (Text × Value) :=
  let own := ((methods.filter (·.1 = b)).flatMap fun p => Raw.words p.2.toList).map fun n =>
    (n, Value.unbound b (String.ofList n))
  let alone := ((alone.filter (·.1 = b)).flatMap fun p => Raw.words p.2.toList).map fun n =>
    (n, Value.native (String.ofList (nameOf b)) (String.ofList n))
  let makes : List (Text × Value) :=
    if b ∈ makers then [("__new__", .native "__new__" (String.ofList (nameOf b)))] else []
  let ofClass := classNames.zipIdx.filterMap fun ((c, n), i) =>
    if c = b then some (n, Value.ref (firstFree + i)) else none
  let module := ((Base.modules.find? (·.1 = b)).map fun m => m.2).getD "builtins"
  let unhashable : List (Text × Value) :=
    if b ∈ ([.list, .dict, .set, .bytearray, .dictKeys, .dictItems] : List Base) then [("__hash__", .none)] else []
  let about : List (Text × Value) := [("__module__", .str module.toList), ("__doc__", .none)]
  makes ++ own ++ alone ++ ofClass ++ unhashable ++ about

def classObject (b : Base) : Object :=
  let layout := ((lineOf 8 b).find? fun c => c ∈ makers || c.ref < Base.baseException.ref).getD .object
  let name := nameOf b
  { cls := Base.type.ref, attributes := dictionaryOf b
    body := .class_ {
      name, qualname := name, bases := if b = .object then [] else [(parentOf b).ref], order := (lineOf 8 b).map Base.ref
      layout, native := true
      below := (Base.table.filter fun r => r.2.2 = b && r.1 ≠ .object).map (·.1.ref) } }

/-- names that are known everywhere -/
def everywhere : List (Text × Value) :=
  let constants : List (Text × Value) :=
    [("None", .none), ("True", .truth true), ("False", .truth false), ("Ellipsis", .ellipsis),
     ("NotImplemented", .notImplemented), ("__debug__", .truth true), ("IOError", .base .osError),
     ("EnvironmentError", .base .osError), ("__name__", .str "builtins")]
  functions.map (fun n => (n, Value.native "builtins" (String.ofList n))) ++
    known.map (fun b => (nameOf b, Value.base b)) ++ constants

def heap : Array Object :=
  let classes := Base.table.map fun r => classObject r.1
  let dictionary (t : Table) : Object := { cls := Base.dict.ref, body := .dict t }
  let dictionaries := Base.table.map fun r => dictionary (Table.ofList (entries r.1))
  let classMethods := classNames.map fun (b, n) =>
    ({ cls := Base.classmethod.ref
       body := .classMethod (.native (String.ofList (nameOf b)) (String.ofList n)) } : Object)
  (({ cls := 0 } : Object) :: classes ++ dictionaries ++ [dictionary (Table.ofList everywhere), dictionary {}] ++
    classMethods).toArray

end IncludeAudit.Offside.Catalog
