/-
Modules for classes: those of values with names, of records, and of what other classes can do.

- `recordsLibraries`: the modules.
-/
import IncludeAudit.Offside.Library.Basic

namespace IncludeAudit.Offside

/-- the module for the classes of values that have no name of their own -/
def kindsLibrary : Library :=
  { name := "types"
    source := r#"
  | import sys
  | def _f(): pass
  | def _g(): yield 1
  | async def _c(): pass
  | async def _a(): yield 1
  | FunctionType = LambdaType = type(_f)
  | CodeType = type(_f.__code__)
  | MappingProxyType = type(type.__dict__)
  | GeneratorType = type(_g())
  | _k = _c()
  | CoroutineType = type(_k)
  | _k.close()
  | AsyncGeneratorType = type(_a())
  | BuiltinFunctionType = BuiltinMethodType = type(len)
  | MethodDescriptorType = WrapperDescriptorType = ClassMethodDescriptorType = type(str.join)
  | ModuleType = type(sys)
  | NoneType = type(None)
  | NotImplementedType = type(NotImplemented)
  | EllipsisType = type(...)
  | def _h():
  |     x = 1
  |     def i(): return x
  |     return i.__closure__[0]
  | CellType = type(_h())
  | class _C:
  |     def m(self): pass
  | MethodType = type(_C().m)
  | MethodWrapperType = MethodType
  | GetSetDescriptorType = MemberDescriptorType = property
  | try:
  |     raise TypeError
  | except TypeError as _e:
  |     TracebackType = type(_e.__traceback__)
  | FrameType = type(sys._getframe())
  | class GenericAlias:
  |     def __init__(self, origin, args):
  |         self.__origin__ = origin
  |         self.__args__ = args if isinstance(args, tuple) else (args,)
  |         found = []
  |         for a in self.__args__:
  |             for p in (a,) if _free(a) else getattr(a, '__parameters__', ()) if not isinstance(a, type) else ():
  |                 if p not in found: found.append(p)
  |         self.__parameters__ = tuple(found)
  |     def __repr__(self):
  |         return _shown(self.__origin__) + '[' + (', '.join(_shown(a) for a in self.__args__) or '()') + ']'
  |     def __call__(self, *args, **kwargs):
  |         made = self.__origin__(*args, **kwargs)
  |         try: made.__orig_class__ = self
  |         except (AttributeError, TypeError): pass
  |         return made
  |     def __eq__(self, other):
  |         if not isinstance(other, GenericAlias): return NotImplemented
  |         return (self.__origin__, self.__args__) == (other.__origin__, other.__args__)
  |     def __hash__(self): return hash((self.__origin__, self.__args__))
  |     def __getitem__(self, items):
  |         if not self.__parameters__: raise TypeError(f'{self!r} is not a generic class')
  |         items = items if isinstance(items, tuple) else (items,)
  |         if len(items) != len(self.__parameters__):
  |             much = 'many' if len(items) > len(self.__parameters__) else 'few'
  |             raise TypeError(f'Too {much} arguments for {self!r}')
  |         return GenericAlias(self.__origin__, tuple(_put(a, dict(zip(self.__parameters__, items))) for a in self.__args__))
  |     def __or__(self, other): return UnionType((self, other))
  |     def __ror__(self, other): return UnionType((other, self))
  |     def __getattr__(self, name):
  |         if name.startswith('__') and name.endswith('__') and name not in ('__name__', '__qualname__', '__module__', '__doc__'):
  |             raise AttributeError(f"type object '{self.__dict__['__origin__'].__name__}' has no attribute '{name}'")
  |         return getattr(self.__dict__['__origin__'], name)
  |     def __mro_entries__(self, bases): return (self.__origin__,)
  |     def __iter__(self): yield self
  |     def __instancecheck__(self, value): raise TypeError('isinstance() argument 2 cannot be a parameterized generic')
  |     def __subclasscheck__(self, value): raise TypeError('issubclass() argument 2 cannot be a parameterized generic')
  | GenericAlias.__kind__ = 'types.GenericAlias'
  | def _free(a): return type(a).__name__ in ('TypeVar', 'ParamSpec') and type(a).__module__ == 'typing'
  | def _put(a, known):
  |     if _free(a): return known.get(a, a)
  |     own = getattr(a, '__parameters__', ()) if not isinstance(a, type) else ()
  |     return a[tuple(known.get(p, p) for p in own)] if own else a
  | def _shown(a):
  |     if a is ...: return '...'
  |     if isinstance(a, list): return '[' + ', '.join(map(_shown, a)) + ']'
  |     if isinstance(a, type):
  |         return a.__qualname__ if a.__module__ == 'builtins' else a.__module__ + '.' + a.__qualname__
  |     return repr(a)
  | class UnionType:
  |     def __new__(cls, args):
  |         flat = []
  |         for a in args:
  |             if a is not None and not isinstance(a, (type, GenericAlias, UnionType)) and not hasattr(a, '__typing__'):
  |                 return NotImplemented
  |             for b in (a.__args__ if isinstance(a, UnionType) else (type(None) if a is None else a,)):
  |                 if b not in flat: flat.append(b)
  |         if len(flat) == 1: return flat[0]
  |         self = object.__new__(cls)
  |         self.__args__ = tuple(flat)
  |         self.__parameters__ = ()
  |         return self
  |     def __repr__(self): return ' | '.join('None' if a is type(None) else _shown(a) for a in self.__args__)
  |     def __or__(self, other): return UnionType((self, other))
  |     def __ror__(self, other): return UnionType((other, self))
  |     def __eq__(self, other): return isinstance(other, UnionType) and set(self.__args__) == set(other.__args__)
  |     def __hash__(self): return hash(frozenset(self.__args__))
  |     def __instancecheck__(self, value):
  |         return any(isinstance(value, a) for a in self.__args__)
  |     def __subclasscheck__(self, value):
  |         return any(issubclass(value, a) for a in self.__args__)
  | UnionType.__kind__ = 'types.UnionType'
  | class SimpleNamespace:
  |     def __init__(self, /, **kwargs): self.__dict__.update(kwargs)
  |     def __repr__(self):
  |         name = 'namespace' if type(self) is SimpleNamespace else type(self).__name__
  |         return name + '(' + ', '.join(f'{k}={v!r}' for k, v in self.__dict__.items()) + ')'
  |     def __eq__(self, other):
  |         if isinstance(other, SimpleNamespace): return self.__dict__ == other.__dict__
  |         return NotImplemented
  | SimpleNamespace.__hash__ = None
  | class DynamicClassAttribute(property): pass
  | def new_class(name, bases=(), kwds=None, exec_body=None):
  |     kwds = dict(kwds or {})
  |     meta = kwds.pop('metaclass', None) or (type(bases[0]) if bases else type)
  |     ns = meta.__prepare__(name, bases, **kwds)
  |     if exec_body is not None: exec_body(ns)
  |     return meta(name, resolve_bases(bases), ns, **kwds)
  | def resolve_bases(bases):
  |     new = []
  |     for b in bases:
  |         if not isinstance(b, type) and hasattr(b, '__mro_entries__'): new.extend(b.__mro_entries__(bases))
  |         else: new.append(b)
  |     return tuple(new)
  | def prepare_class(name, bases=(), kwds=None):
  |     kwds = dict(kwds or {})
  |     meta = kwds.pop('metaclass', None) or (type(bases[0]) if bases else type)
  |     return meta, meta.__prepare__(name, bases, **kwds), kwds
  | def coroutine(func): return func"# }

/-- the module for classes that leave parts to those below them -/
def abstractClassesLibrary : Library :=
  { name := "abc"
    source := r#"
  | def abstractmethod(funcobj):
  |     funcobj.__isabstractmethod__ = True
  |     return funcobj
  | class abstractclassmethod(classmethod):
  |     __isabstractmethod__ = True
  | class abstractstaticmethod(staticmethod):
  |     __isabstractmethod__ = True
  | class abstractproperty(property):
  |     __isabstractmethod__ = True
  | class ABCMeta(type):
  |     def __new__(mcls, name, bases, namespace, /, **kwargs):
  |         cls = super().__new__(mcls, name, bases, namespace, **kwargs)
  |         names = {n for n, v in namespace.items() if _abstract(v)}
  |         for base in bases:
  |             for n in getattr(base, '__abstractmethods__', ()):
  |                 if _abstract(getattr(cls, n, None)): names.add(n)
  |         cls.__abstractmethods__ = frozenset(names)
  |         cls._abc_registry = []
  |         return cls
  |     def register(cls, subclass):
  |         if not isinstance(subclass, type): raise TypeError('Can only register classes')
  |         if issubclass(subclass, cls): return subclass
  |         if issubclass(cls, subclass): raise RuntimeError('Refusing to create an inheritance cycle')
  |         cls._abc_registry.append(subclass)
  |         return subclass
  |     def __instancecheck__(cls, instance):
  |         return cls.__subclasscheck__(type(instance))
  |     def __subclasscheck__(cls, subclass):
  |         if not isinstance(subclass, type): raise TypeError('issubclass() arg 1 must be a class')
  |         ok = cls.__subclasshook__(subclass)
  |         if ok is not NotImplemented: return ok
  |         if cls in subclass.__mro__: return True
  |         for r in cls.__dict__.get('_abc_registry', ()):
  |             if issubclass(subclass, r): return True
  |         for s in type.__subclasses__(cls):
  |             if issubclass(subclass, s): return True
  |         return False
  | def _abstract(v):
  |     if isinstance(v, property):
  |         return any(getattr(f, '__isabstractmethod__', False) for f in (v.fget, v.fset, v.fdel)) or type(v) is not property and getattr(v, '__isabstractmethod__', False)
  |     if isinstance(v, (classmethod, staticmethod)):
  |         return getattr(v.__func__, '__isabstractmethod__', False) or type(v) not in (classmethod, staticmethod) and getattr(v, '__isabstractmethod__', False)
  |     return getattr(v, '__isabstractmethod__', False)
  | class ABC(metaclass=ABCMeta):
  |     __slots__ = ()
  | def get_cache_token(): return 0
  | def update_abstractmethods(cls):
  |     if not hasattr(cls, '__abstractmethods__'): return cls
  |     names = {n for n, v in cls.__dict__.items() if _abstract(v)}
  |     for base in cls.__bases__:
  |         for n in getattr(base, '__abstractmethods__', ()):
  |             if _abstract(getattr(cls, n, None)): names.add(n)
  |     cls.__abstractmethods__ = frozenset(names)
  |     return cls"# }

/-- the module for values with names -/
def enumerationsLibrary : Library :=
  { name := "enum"
    source := r#"
  | import sys
  | __all__ = ['EnumType', 'EnumMeta', 'Enum', 'IntEnum', 'StrEnum', 'Flag', 'IntFlag', 'ReprEnum', 'auto', 'unique', 'property',
  |     'verify', 'member', 'nonmember', 'FlagBoundary', 'STRICT', 'CONFORM', 'EJECT', 'KEEP', 'global_flag_repr',
  |     'global_enum_repr', 'global_str', 'global_enum', 'EnumCheck', 'CONTINUOUS', 'NAMED_FLAGS', 'UNIQUE']
  | _property = property
  | _unset = object()
  | class nonmember:
  |     def __init__(self, value): self.value = value
  | class member:
  |     def __init__(self, value): self.value = value
  | class property(_property):
  |     def __get__(self, instance, owner=None):
  |         if instance is None:
  |             found = owner.__dict__.get('_member_map_', {}).get(self._name)
  |             if found is None: raise AttributeError(f'{owner!r} has no attribute {self._name!r}')
  |             return found
  |         return self.fget(instance)
  |     def __set__(self, instance, value):
  |         if self.fset is None: raise AttributeError(f'<enum {self._owner!r}> cannot set attribute {self._name!r}')
  |         return self.fset(instance, value)
  |     def __set_name__(self, owner, name): self._name, self._owner = name, owner.__name__
  | class auto:
  |     def __init__(self, value=_unset): self.value = value
  |     def __repr__(self): return f'auto({self.value if self.value is not _unset else ""})'
  | def _special(name): return len(name) > 4 and name[:2] == name[-2:] == '__' and name[2] != '_' and name[-3] != '_'
  | def _single(name): return len(name) > 2 and name[0] == name[-1] == '_' and name[1] != '_' and name[-2] != '_'
  | def _descriptor(obj): return hasattr(obj, '__get__') or hasattr(obj, '__set__') or hasattr(obj, '__delete__')
  | class EnumDict(dict):
  |     def __init__(self):
  |         super().__init__()
  |         self._member_names, self._values, self._ignored, self._generate = {}, [], [], None
  |     def __setitem__(self, key, value):
  |         private = self.get('__qualname__', '').rpartition('.')[2]
  |         if key.startswith(f'_{private}__') and not key.endswith('__'): pass
  |         elif _single(key):
  |             if key not in ('_order_', '_generate_next_value_', '_numeric_repr_', '_missing_', '_ignore_', '_iter_member_',
  |                     '_iter_member_by_value_', '_iter_member_by_def_', '_sunder_', '_value_repr_'):
  |                 raise ValueError(f'_sunder_ names, such as {key!r}, are reserved for future Enum use')
  |             if key == '_generate_next_value_': self._generate = value.__func__ if isinstance(value, staticmethod) else value
  |             elif key == '_ignore_':
  |                 value = value.replace(',', ' ').split() if isinstance(value, str) else list(value)
  |                 self._ignored = value
  |         elif _special(key): pass
  |         elif key in self._member_names: raise TypeError(f'{key!r} already defined as {self[key]!r}')
  |         elif key in self._ignored: pass
  |         elif isinstance(value, nonmember): value = value.value
  |         elif not isinstance(value, member) and (_descriptor(value) or isinstance(value, type) and False): pass
  |         else:
  |             if key in self: raise TypeError(f'{key!r} already defined as {self[key]!r}')
  |             if isinstance(value, member): value = value.value
  |             if isinstance(value, auto):
  |                 if value.value is _unset: value.value = self._next(key)
  |                 value = value.value
  |             elif isinstance(value, tuple) and any(isinstance(v, auto) for v in value):
  |                 parts = []
  |                 for v in value:
  |                     if isinstance(v, auto):
  |                         if v.value is _unset: v.value = self._next(key)
  |                         v = v.value
  |                     parts.append(v)
  |                 value = tuple(parts)
  |             self._member_names[key] = None
  |             self._values.append(value)
  |         super().__setitem__(key, value)
  |     def _next(self, key): return self._generate(key, 1, len(self._member_names), self._values[:])
  |     def update(self, members, **more):
  |         for name, value in dict(members).items(): self[name] = value
  |         for name, value in more.items(): self[name] = value
  | _EnumDict = EnumDict
  | class EnumType(type):
  |     @classmethod
  |     def __prepare__(metacls, cls, bases, **kwds):
  |         metacls._check(cls, bases)
  |         d = EnumDict()
  |         for base in bases:
  |             found = getattr(base, '_generate_next_value_', None)
  |             if found is not None:
  |                 d._generate = found
  |                 break
  |         return d
  |     @staticmethod
  |     def _check(name, bases):
  |         for chain in bases:
  |             for base in chain.__mro__:
  |                 if isinstance(base, EnumType) and base._member_names_:
  |                     raise TypeError(f'<enum {name!r}> cannot extend {base!r}')
  |     def __new__(metacls, cls, bases, classdict, *, boundary=None, _simple=False, **kwds):
  |         names = list(classdict._member_names)
  |         values = {n: classdict[n] for n in names}
  |         for n in classdict._ignored: classdict.pop(n, None)
  |         space = {k: v for k, v in classdict.items() if k not in values and k not in ('_ignore_', '_order_')}
  |         if classdict._generate is not None and '_generate_next_value_' in space:
  |             space['_generate_next_value_'] = staticmethod(classdict._generate)
  |         data = None
  |         for chain in bases:
  |             for base in chain.__mro__:
  |                 if base is object: continue
  |                 if isinstance(base, EnumType):
  |                     if base._member_type_ is not object and data is None: data = base._member_type_
  |                 elif '__new__' in base.__dict__ or base.__module__ == 'builtins' or '__dataclass_fields__' in base.__dict__:
  |                     if data is None: data = base if chain is base or True else data
  |         data = data or object
  |         space['_member_names_'], space['_member_map_'], space['_value2member_map_'] = [], {}, {}
  |         space['_unhashable_values_'], space['_member_type_'] = [], data
  |         make = space.get('__new__')
  |         if make is None:
  |             for base in bases:
  |                 for c in base.__mro__:
  |                     if '_new_member_' in c.__dict__ and c.__dict__['_new_member_'] is not None:
  |                         make = c.__dict__['_new_member_']
  |                         break
  |                 if make is not None: break
  |         own_make = make
  |         if '__new__' in space:
  |             space['_new_member_'] = space.pop('__new__')
  |         else: space.setdefault('_new_member_', None)
  |         shown = space.get('_value_repr_') or next((c.__dict__['_value_repr_'] for b in bases for c in b.__mro__
  |             if c.__dict__.get('_value_repr_')), None)
  |         if shown is None and data is not object: shown = data.__repr__
  |         space['_value_repr_'] = shown
  |         is_flag = boundary is not None or any(hasattr(b, '_boundary_') for b in bases)
  |         if is_flag:
  |             space['_flag_mask_'] = space['_all_bits_'] = 0
  |             if boundary is None: boundary = next((b._boundary_ for b in bases if hasattr(b, '_boundary_')), STRICT)
  |             space['_boundary_'] = boundary
  |         if data is not object and 'ReprEnum' in globals() and ReprEnum not in [c for b in bases for c in b.__mro__]: pass
  |         cls = super().__new__(metacls, cls, bases, space, **kwds)
  |         if 'ReprEnum' in globals() and ReprEnum in bases and data is not object:
  |             for n in ('__str__', '__format__'):
  |                 if n not in space: setattr(cls, n, getattr(data, n) if getattr(data, n) is not getattr(object, n) else data.__repr__)
  |         if 'Enum' in globals():
  |             above = next((b for b in reversed(bases) if isinstance(b, EnumType)), Enum)
  |             for n in ('__repr__', '__str__', '__format__'):
  |                 if n not in space and n not in cls.__dict__ and getattr(cls, n) in (getattr(data, n), getattr(object, n)):
  |                     setattr(cls, n, getattr(above, n))
  |             type.__setattr__(cls, '__new__', staticmethod(_find))
  |         if 'Flag' in globals() and issubclass(cls, Flag):
  |             for n in ('__or__', '__and__', '__xor__', '__ror__', '__rand__', '__rxor__', '__invert__'):
  |                 if n not in space: setattr(cls, n, getattr(Flag, n))
  |         if isinstance(own_make, staticmethod): own_make = own_make.__func__
  |         for name in names:
  |             value = values[name]
  |             args = value if isinstance(value, tuple) else (value,)
  |             if data is tuple: args = (args,)
  |             if own_make is not None: item = own_make(cls, *args)
  |             elif data is object: item = object.__new__(cls)
  |             else: item = data.__new__(cls, *args)
  |             if '_value_' not in item.__dict__:
  |                 if data is object or own_make is not None and data is object: item._value_ = value
  |                 else:
  |                     try: item._value_ = data(*args)
  |                     except Exception: item._value_ = value
  |             value = item._value_
  |             item._name_, item.__objclass__, item._sort_order_ = name, cls, len(cls._member_names_)
  |             init = getattr(cls, '__init__')
  |             if any('__init__' in c.__dict__ for c in cls.__mro__ if c.__module__ not in ('builtins', 'enum')): item.__init__(*args)
  |             alias = None
  |             for known in cls._member_map_.values():
  |                 if known._value_ == value:
  |                     alias = known
  |                     break
  |             if alias is not None: item = alias
  |             elif not is_flag or not isinstance(value, int) or value > 0 and value & (value - 1) == 0: cls._member_names_.append(name)
  |             cls._member_map_[name] = item
  |             type.__setattr__(cls, name, item)
  |             try: cls._value2member_map_.setdefault(value, item)
  |             except TypeError: cls._unhashable_values_.append(value)
  |             if is_flag and isinstance(value, int):
  |                 cls._flag_mask_ |= value
  |                 type.__setattr__(cls, '_all_bits_', 2 ** cls._flag_mask_.bit_length() - 1)
  |         return cls
  |     def __init__(cls, *args, **kwds): pass
  |     def __bool__(cls): return True
  |     def __call__(cls, value, names=None, *, module=None, qualname=None, type=None, start=1, boundary=None):
  |         if names is None: return cls.__new__(cls, value)
  |         return cls._create_(value, names, module=module, qualname=qualname, type=type, start=start, boundary=boundary)
  |     def _create_(cls, class_name, names, *, module=None, qualname=None, type=None, start=1, boundary=None):
  |         bases = (cls,) if type is None else (type, cls)
  |         meta = cls.__class__
  |         space = meta.__prepare__(class_name, bases)
  |         if isinstance(names, str): names = names.replace(',', ' ').split()
  |         if isinstance(names, (tuple, list)) and names and isinstance(names[0], str):
  |             given, names, last = names, [], []
  |             for count, name in enumerate(given):
  |                 value = cls._generate_next_value_(name, start, count, last[:])
  |                 last.append(value)
  |                 names.append((name, value))
  |         for item in names.items() if hasattr(names, 'items') else names or ():
  |             space[item[0]] = item[1]
  |         if module is None:
  |             try: module = sys._getframe(2).f_globals['__name__']
  |             except (AttributeError, ValueError, KeyError): pass
  |         if module is not None: space['__module__'] = module
  |         if qualname is not None: space['__qualname__'] = qualname
  |         return meta.__new__(meta, class_name, bases, space, boundary=boundary)
  |     def __getattr__(cls, name):
  |         if _special(name) or name not in cls.__dict__.get('_member_map_', {}): raise AttributeError(name) from None
  |         return cls._member_map_[name]
  |     def __contains__(cls, member):
  |         if not isinstance(member, Enum):
  |             import warnings
  |             warnings.warn('in 3.12 __contains__ will no longer raise TypeError, but will return True or\n'
  |                 'False depending on whether the value is a member or the value of a member', DeprecationWarning, stacklevel=2)
  |             raise TypeError(f"unsupported operand type(s) for 'in': '{type(member).__qualname__}' and '{cls.__class__.__qualname__}'")
  |         return isinstance(member, cls) and member._name_ in cls._member_map_
  |     def __delattr__(cls, attr):
  |         if attr in cls.__dict__.get('_member_map_', {}): raise AttributeError(f'{cls.__name__!r} cannot delete member {attr!r}.')
  |         super().__delattr__(attr)
  |     def __dir__(cls):
  |         return sorted(['__class__', '__contains__', '__doc__', '__getitem__', '__init_subclass__', '__iter__', '__len__',
  |             '__members__', '__module__', '__name__', '__qualname__'] + cls._member_names_)
  |     def __getitem__(cls, name): return cls._member_map_[name]
  |     def __iter__(cls): return (cls._member_map_[name] for name in cls._member_names_)
  |     def __len__(cls): return len(cls._member_names_)
  |     @_property
  |     def __members__(cls):
  |         from types import MappingProxyType
  |         return MappingProxyType(cls._member_map_)
  |     def __repr__(cls): return f'<{"flag" if "Flag" in globals() and issubclass(cls, Flag) else "enum"} {cls.__name__!r}>'
  |     def __reversed__(cls): return (cls._member_map_[name] for name in reversed(cls._member_names_))
  |     def __setattr__(cls, name, value):
  |         if name in cls.__dict__.get('_member_map_', {}): raise AttributeError(f'cannot reassign member {name!r}')
  |         super().__setattr__(name, value)
  | EnumMeta = EnumType
  | class Enum(metaclass=EnumType):
  |     @staticmethod
  |     def _generate_next_value_(name, start, count, last_values):
  |         if not last_values: return start
  |         try: return sorted(last_values, reverse=True)[0] + 1
  |         except TypeError:
  |             for v in reversed(last_values):
  |                 try: return v + 1
  |                 except TypeError: pass
  |             return start
  |     @classmethod
  |     def _missing_(cls, value): return None
  |     def __repr__(self):
  |         shown = self.__class__._value_repr_ or repr
  |         return f'<{self.__class__.__name__}.{self._name_}: {shown(self._value_)}>'
  |     def __str__(self): return f'{self.__class__.__name__}.{self._name_}'
  |     def __dir__(self):
  |         return sorted({'__class__', '__doc__', '__eq__', '__hash__', '__module__', 'name', 'value'} |
  |             {m for c in self.__class__.__mro__ for m in c.__dict__ if m[0] != '_' and m not in self._member_map_})
  |     def __format__(self, format_spec): return str.__format__(str(self), format_spec)
  |     def __hash__(self): return hash(self._name_)
  |     def __reduce_ex__(self, proto): return self.__class__, (self._value_,)
  |     def __deepcopy__(self, memo): return self
  |     def __copy__(self): return self
  |     @property
  |     def name(self): return self._name_
  |     @property
  |     def value(self): return self._value_
  | def _find(cls, value=_unset, *more):
  |     if value is _unset: raise TypeError(f"{cls.__name__}.__new__() missing 1 required positional argument: 'value'")
  |     if more: value = (value,) + more
  |     if type(value) is cls: return value
  |     try:
  |         if value in cls._value2member_map_: return cls._value2member_map_[value]
  |     except TypeError:
  |         for m in cls._member_map_.values():
  |             if m._value_ == value: return m
  |     trouble = result = None
  |     try: result = cls._missing_(value)
  |     except Exception as e: trouble = e
  |     if isinstance(result, cls) or 'Flag' in globals() and issubclass(cls, Flag) and cls._boundary_ is EJECT and isinstance(result, int):
  |         return result
  |     wrong = ValueError('%r is not a valid %s' % (value, cls.__qualname__))
  |     if result is None and trouble is None: raise wrong
  |     if trouble is None:
  |         trouble = TypeError(f'error in {cls.__name__}._missing_: returned {result!r} instead of None or a valid member')
  |     if not isinstance(trouble, ValueError): trouble.__context__ = wrong
  |     raise trouble
  | type.__setattr__(Enum, '__new__', staticmethod(_find))
  | class ReprEnum(Enum): pass
  | class IntEnum(int, ReprEnum): pass
  | class StrEnum(str, ReprEnum):
  |     def __new__(cls, *values):
  |         if len(values) > 3: raise TypeError('too many arguments for str(): %r' % (values,))
  |         if len(values) == 1 and not isinstance(values[0], str): raise TypeError('%r is not a string' % (values[0],))
  |         value = str(*values)
  |         item = str.__new__(cls, value)
  |         item._value_ = value
  |         return item
  |     @staticmethod
  |     def _generate_next_value_(name, start, count, last_values): return name.lower()
  | class FlagBoundary(StrEnum):
  |     STRICT = auto()
  |     CONFORM = auto()
  |     EJECT = auto()
  |     KEEP = auto()
  | STRICT, CONFORM, EJECT, KEEP = FlagBoundary
  | def _bits(value):
  |     n = 1
  |     while n <= value:
  |         if value & n: yield n
  |         n <<= 1
  | class Flag(Enum, boundary=STRICT):
  |     @staticmethod
  |     def _generate_next_value_(name, start, count, last_values):
  |         if not last_values: return start if start is not None else 1
  |         try: high = max(last_values).bit_length() - 1
  |         except Exception: raise TypeError('invalid flag value %r' % last_values[-1]) from None
  |         return 2 ** (high + 1)
  |     @classmethod
  |     def _missing_(cls, value):
  |         if not isinstance(value, int): raise ValueError('%r is not a valid %s' % (value, cls.__qualname__))
  |         mask, bits = cls._flag_mask_, cls._all_bits_
  |         negative = None
  |         if not ~bits <= value <= bits or value & (bits ^ mask):
  |             if cls._boundary_ is STRICT:
  |                 size = max(value.bit_length(), mask.bit_length())
  |                 raise ValueError('%r invalid value %r\n    given %s\n  allowed %s' % (cls, value, _shown(value, size), _shown(mask, size)))
  |             elif cls._boundary_ is CONFORM: value &= mask
  |             elif cls._boundary_ is EJECT: return value
  |             elif cls._boundary_ is KEEP and value < 0: value = max(bits + 1, 2 ** value.bit_length()) + value
  |         if value < 0:
  |             negative = value
  |             value = bits + 1 + value if cls._boundary_ in (EJECT, KEEP) else mask & value
  |         known = cls._value2member_map_.get(value)
  |         if known is not None: return known
  |         item = object.__new__(cls) if cls._member_type_ is object else cls._member_type_.__new__(cls, value)
  |         item._value_ = value
  |         parts = [m._name_ for m in cls if m._value_ & value]
  |         rest = value & ~mask
  |         if parts or rest:
  |             item._name_ = '|'.join(parts) or None
  |             if rest and item._name_ is not None: item._name_ += '|%s' % cls._numeric(rest)
  |         else: item._name_ = None
  |         return cls._value2member_map_.setdefault(value, item)
  |     @staticmethod
  |     def _numeric(value): return repr(value)
  |     def __contains__(self, other):
  |         if not isinstance(other, self.__class__):
  |             raise TypeError("unsupported operand type(s) for 'in': %r and %r" % (type(other).__qualname__,
  |                 self.__class__.__qualname__))
  |         return other._value_ & self._value_ == other._value_
  |     def __iter__(self): return (m for m in self.__class__ if m._value_ & self._value_)
  |     def __len__(self): return bin(self._value_).count('1')
  |     def __repr__(self):
  |         shown = self.__class__._value_repr_ or repr
  |         if self._name_ is None: return '<%s: %s>' % (self.__class__.__name__, shown(self._value_))
  |         return '<%s.%s: %s>' % (self.__class__.__name__, self._name_, shown(self._value_))
  |     def __str__(self):
  |         if self._name_ is None: return '%s(%r)' % (self.__class__.__name__, self._value_)
  |         return '%s.%s' % (self.__class__.__name__, self._name_)
  |     def __bool__(self): return bool(self._value_)
  |     def _other(self, other):
  |         if isinstance(other, self.__class__): return other._value_
  |         if self._member_type_ is not object and isinstance(other, self._member_type_): return other
  |         return None
  |     def __or__(self, other):
  |         v = self._other(other)
  |         return NotImplemented if v is None else self.__class__(self._value_ | v)
  |     def __and__(self, other):
  |         v = self._other(other)
  |         return NotImplemented if v is None else self.__class__(self._value_ & v)
  |     def __xor__(self, other):
  |         v = self._other(other)
  |         return NotImplemented if v is None else self.__class__(self._value_ ^ v)
  |     __ror__, __rand__, __rxor__ = __or__, __and__, __xor__
  |     def __invert__(self):
  |         cls = self.__class__
  |         if cls._boundary_ in (EJECT, KEEP): return cls(~self._value_)
  |         return cls(cls._flag_mask_ & ~self._value_)
  | def _shown(value, size):
  |     digits = bin(value & (2 ** size - 1))[2:].rjust(size, '0')
  |     return '0b' + ('1 ' if value < 0 else '0 ') + digits
  | class IntFlag(int, ReprEnum, Flag, boundary=KEEP): pass
  | def unique(enumeration):
  |     doubles = [(n, m._name_) for n, m in enumeration.__members__.items() if n != m._name_]
  |     if doubles:
  |         raise ValueError('duplicate values found in %r: %s' % (enumeration, ', '.join('%s -> %s' % d for d in doubles)))
  |     return enumeration
  | class EnumCheck(StrEnum):
  |     CONTINUOUS = 'no skipped integer values'
  |     NAMED_FLAGS = 'multi-flag aliases may not contain unnamed flags'
  |     UNIQUE = 'one name per value'
  | CONTINUOUS, NAMED_FLAGS, UNIQUE = EnumCheck
  | class verify:
  |     def __init__(self, *checks): self.checks = checks
  |     def __call__(self, enumeration):
  |         for check in self.checks:
  |             if check is UNIQUE:
  |                 doubles = [(n, m._name_) for n, m in enumeration.__members__.items() if n != m._name_]
  |                 if doubles:
  |                     raise ValueError('aliases found in %r: %s' % (enumeration, ', '.join('%s -> %s' % d for d in doubles)))
  |             elif check is CONTINUOUS:
  |                 values = {e._value_ for e in enumeration}
  |                 missing = [i for i in range(min(values) + 1, max(values)) if i not in values] if len(values) > 1 else []
  |                 if missing:
  |                     raise ValueError(('invalid %s %r: missing values %s' % ('enum', enumeration.__name__,
  |                         ', '.join(str(m) for m in missing)))[:256])
  |         return enumeration
  | def global_enum_repr(self): return '%s.%s' % (self.__class__.__module__.split('.')[-1], self._name_)
  | def global_flag_repr(self):
  |     module = self.__class__.__module__.split('.')[-1]
  |     if self._name_ is None: return '%s.%s(%r)' % (module, self.__class__.__name__, self._value_)
  |     return '|'.join('%s.%s' % (module, n) for n in self._name_.split('|'))
  | def global_str(self): return '%s(%r)' % (self.__class__.__name__, self._value_) if self._name_ is None else self._name_
  | def global_enum(cls, update_str=False):
  |     type.__setattr__(cls, '__repr__', global_flag_repr if issubclass(cls, Flag) else global_enum_repr)
  |     if not issubclass(cls, ReprEnum) or update_str: type.__setattr__(cls, '__str__', global_str)
  |     sys.modules[cls.__module__].__dict__.update(cls.__members__)
  |     return cls"# }

/-- the module for classes of records -/
def recordsLibrary : Library :=
  { name := "dataclasses"
    source := r#"
  | import sys
  | __all__ = ['dataclass', 'field', 'Field', 'FrozenInstanceError', 'InitVar', 'KW_ONLY', 'MISSING', 'fields', 'asdict',
  |     'astuple', 'make_dataclass', 'replace', 'is_dataclass']
  | class FrozenInstanceError(AttributeError): pass
  | class _Missing:
  |     def __repr__(self): return f'<dataclasses._MISSING_TYPE object at {hex(id(self))}>'
  | MISSING = _Missing()
  | class _KwOnly: pass
  | KW_ONLY = _KwOnly()
  | class InitVar:
  |     def __init__(self, type): self.type = type
  |     def __class_getitem__(cls, type): return InitVar(type)
  |     def __repr__(self): return f'dataclasses.InitVar[{getattr(self.type, "__name__", repr(self.type))}]'
  | class Field:
  |     __slots__ = ('name', 'type', 'default', 'default_factory', 'repr', 'hash', 'init', 'compare', 'metadata', 'kw_only', '_kind')
  |     def __init__(self, default, default_factory, init, repr, hash, compare, metadata, kw_only):
  |         self.name = self.type = None
  |         self.default, self.default_factory, self.init, self.repr = default, default_factory, init, repr
  |         self.hash, self.compare, self.kw_only, self._kind = hash, compare, kw_only, None
  |         self.metadata = type(type.__dict__)({} if metadata is None else metadata)
  |     def __repr__(self):
  |         return (f'Field(name={self.name!r},type={self.type!r},default={self.default!r},default_factory={self.default_factory!r},'
  |             f'init={self.init!r},repr={self.repr!r},hash={self.hash!r},compare={self.compare!r},metadata={self.metadata!r},'
  |             f'kw_only={self.kw_only!r},_field_type={self._kind})')
  |     def __set_name__(self, owner, name):
  |         func = getattr(type(self.default), '__set_name__', None)
  |         if func: func(self.default, owner, name)
  | def field(*, default=MISSING, default_factory=MISSING, init=True, repr=True, hash=None, compare=True, metadata=None,
  |         kw_only=MISSING):
  |     if default is not MISSING and default_factory is not MISSING:
  |         raise ValueError('cannot specify both default and default_factory')
  |     return Field(default, default_factory, init, repr, hash, compare, metadata, kw_only)
  | class _Default:
  |     def __repr__(self): return '<factory>'
  | _from_factory = _Default()
  | def _is(annotation, cls, name):
  |     if isinstance(annotation, str): return annotation.split('[')[0].rpartition('.')[2].strip() == name
  |     return isinstance(annotation, cls)
  | def _class_variable(annotation):
  |     if isinstance(annotation, str): return annotation.split('[')[0].rpartition('.')[2].strip() == 'ClassVar'
  |     typing = sys.modules.get('typing')
  |     return typing is not None and (annotation is typing.ClassVar or getattr(annotation, '__origin__', None) is typing.ClassVar)
  | def _collect(cls, name, annotation, all_kw):
  |     default = getattr(cls, name, MISSING)
  |     if isinstance(default, Field): f = default
  |     else:
  |         if type(default).__name__ == 'member_descriptor': default = MISSING
  |         f = field(default=default)
  |     f.name, f.type = name, annotation
  |     f._kind = '_FIELD'
  |     if _class_variable(annotation): f._kind = '_FIELD_CLASSVAR'
  |     elif _is(annotation, InitVar, 'InitVar') or annotation is InitVar: f._kind = '_FIELD_INITVAR'
  |     if f._kind != '_FIELD' and f.default_factory is not MISSING:
  |         raise TypeError(f'field {f.name} cannot have a default factory')
  |     if f.kw_only is MISSING: f.kw_only = all_kw
  |     if f._kind == '_FIELD' and f.default.__class__.__hash__ is None:
  |         raise ValueError(f'mutable default {type(f.default)} for field {f.name} is not allowed: use default_factory')
  |     return f
  | def _function(name, args, body, space, cls):
  |     lines = '\n'.join('  ' + b for b in body)
  |     text = f'def {name}({args}):\n{lines}\n'
  |     made = {}
  |     names = {'MISSING': MISSING, '_from_factory': _from_factory, '__name__': cls.__module__, **space}
  |     exec(text, names, made)
  |     f = made[name]
  |     f.__qualname__ = f'{cls.__qualname__}.{name}'
  |     return f
  | def dataclass(cls=None, /, *, init=True, repr=True, eq=True, order=False, unsafe_hash=False, frozen=False, match_args=True,
  |         kw_only=False, slots=False, weakref_slot=False):
  |     def wrap(cls):
  |         return _process(cls, init, repr, eq, order, unsafe_hash, frozen, match_args, kw_only, slots)
  |     return wrap if cls is None else wrap(cls)
  | def _set_new(cls, name, value):
  |     if name in cls.__dict__: return True
  |     setattr(cls, name, value)
  |     return False
  | def _shown_kind(kind, module):
  |     if getattr(kind, '__module__', None) == 'typing': return repr(kind).replace('typing.', '')
  |     if isinstance(kind, type) and not hasattr(kind, '__origin__'):
  |         return kind.__qualname__ if kind.__module__ in ('builtins', module) else f'{kind.__module__}.{kind.__qualname__}'
  |     return repr(kind)
  | def _signed(f, cls):
  |     text = f'{f.name}: {_shown_kind(f.type, cls)}'
  |     if f.default_factory is not MISSING: return text + ' = <factory>'
  |     return text if f.default is MISSING else f'{text} = {f.default!r}'
  | def _process(cls, init, repr, eq, order, unsafe_hash, frozen, match_args, kw_only, slots):
  |     found = {}
  |     any_frozen = has_bases = False
  |     for b in cls.__mro__[-1:0:-1]:
  |         below = b.__dict__.get('__dataclass_fields__')
  |         if below is not None:
  |             has_bases = True
  |             found.update(below)
  |             if b.__dict__['__dataclass_params__']['frozen']: any_frozen = True
  |     if has_bases:
  |         if any_frozen and not frozen: raise TypeError('cannot inherit non-frozen dataclass from a frozen one')
  |         if not any_frozen and frozen: raise TypeError('cannot inherit frozen dataclass from a non-frozen one')
  |     own, seen_kw = [], kw_only
  |     for name, annotation in cls.__dict__.get('__annotations__', {}).items():
  |         if annotation is KW_ONLY or _is(annotation, _KwOnly, 'KW_ONLY'):
  |             if seen_kw is None: raise TypeError(f'{name!r} is KW_ONLY, but KW_ONLY has already been specified')
  |             seen_kw = True
  |         else: own.append(_collect(cls, name, annotation, seen_kw))
  |     for f in own:
  |         found[f.name] = f
  |         if isinstance(getattr(cls, f.name, None), Field):
  |             if f.default is MISSING: delattr(cls, f.name)
  |             else: setattr(cls, f.name, f.default)
  |     for name, value in cls.__dict__.items():
  |         if isinstance(value, Field) and name not in cls.__dict__.get('__annotations__', {}):
  |             raise TypeError(f'{name!r} is a field but has no type annotation')
  |     own_hash = cls.__dict__.get('__hash__', MISSING)
  |     has_hash = not (own_hash is MISSING or own_hash is None and '__eq__' in cls.__dict__)
  |     if order and not eq: raise ValueError('eq must be true if order is true')
  |     cls.__dataclass_fields__ = found
  |     cls.__dataclass_params__ = {'init': init, 'repr': repr, 'eq': eq, 'order': order, 'unsafe_hash': unsafe_hash, 'frozen': frozen}
  |     in_init = [f for f in found.values() if f._kind in ('_FIELD', '_FIELD_INITVAR')]
  |     real = [f for f in found.values() if f._kind == '_FIELD']
  |     plain = [f for f in in_init if f.init and not f.kw_only]
  |     named = [f for f in in_init if f.init and f.kw_only]
  |     if init:
  |         seen = False
  |         for f in plain:
  |             if f.default is not MISSING or f.default_factory is not MISSING: seen = True
  |             elif seen: raise TypeError(f'non-default argument {f.name!r} follows default argument')
  |         space, body = {}, []
  |         def parameter(f):
  |             if f.default is MISSING and f.default_factory is MISSING: return f.name
  |             space['_default_' + f.name] = f.default
  |             return f.name + '=' + ('_from_factory' if f.default_factory is not MISSING else '_default_' + f.name)
  |         me = '__dataclass_self__' if 'self' in found else 'self'
  |         assign = (lambda n, v: f'__set({me}, {n!r}, {v})') if frozen else (lambda n, v: f'{me}.{n} = {v}')
  |         space['__set'] = object.__setattr__
  |         for f in in_init:
  |             if f._kind == '_FIELD_INITVAR': continue
  |             if f.default_factory is not MISSING:
  |                 space['_factory_' + f.name] = f.default_factory
  |                 value = f'_factory_{f.name}()'
  |                 if f.init: value = f'{value} if {f.name} is _from_factory else {f.name}'
  |                 body.append(assign(f.name, value))
  |             elif f.init: body.append(assign(f.name, f.name))
  |             elif f.default is not MISSING and slots:
  |                 space['_default_' + f.name] = f.default
  |                 body.append(assign(f.name, '_default_' + f.name))
  |         if hasattr(cls, '__post_init__'):
  |             body.append(f'{me}.__post_init__({", ".join(f.name for f in in_init if f._kind == "_FIELD_INITVAR")})')
  |         args = [me] + [parameter(f) for f in plain] + (['*'] if named else []) + [parameter(f) for f in named]
  |         made = _function('__init__', ', '.join(args), body or ['pass'], space, cls)
  |         made.__annotations__ = {f.name: f.type for f in plain + named}
  |         made.__annotations__['return'] = None
  |         _set_new(cls, '__init__', made)
  |     def named_method(name, f):
  |         f.__name__, f.__qualname__ = name, f'{cls.__qualname__}.{name}'
  |         return f
  |     if repr:
  |         shown = [f.name for f in real if f.repr]
  |         running = set()
  |         def __repr__(self):
  |             key = id(self)
  |             if key in running: return '...'
  |             running.add(key)
  |             try: return self.__class__.__qualname__ + '(' + ', '.join([f'{n}={getattr(self, n)!r}' for n in shown]) + ')'
  |             finally: running.discard(key)
  |         _set_new(cls, '__repr__', named_method('__repr__', __repr__))
  |     compared = [f.name for f in real if f.compare]
  |     def row(obj): return tuple([getattr(obj, n) for n in compared])
  |     if eq:
  |         def __eq__(self, other):
  |             if other.__class__ is self.__class__: return row(self) == row(other)
  |             return NotImplemented
  |         _set_new(cls, '__eq__', named_method('__eq__', __eq__))
  |     if order:
  |         def __lt__(self, other): return row(self) < row(other) if other.__class__ is self.__class__ else NotImplemented
  |         def __le__(self, other): return row(self) <= row(other) if other.__class__ is self.__class__ else NotImplemented
  |         def __gt__(self, other): return row(self) > row(other) if other.__class__ is self.__class__ else NotImplemented
  |         def __ge__(self, other): return row(self) >= row(other) if other.__class__ is self.__class__ else NotImplemented
  |         for name, f in (('__lt__', __lt__), ('__le__', __le__), ('__gt__', __gt__), ('__ge__', __ge__)):
  |             if _set_new(cls, name, named_method(name, f)):
  |                 raise TypeError(f'Cannot overwrite attribute {name} in class {cls.__name__}. Consider using functools.total_ordering')
  |     if frozen:
  |         names = {f.name for f in real}
  |         def __setattr__(self, name, value):
  |             if type(self) is cls or name in names: raise FrozenInstanceError(f'cannot assign to field {name!r}')
  |             super(cls, self).__setattr__(name, value)
  |         def __delattr__(self, name):
  |             if type(self) is cls or name in names: raise FrozenInstanceError(f'cannot delete field {name!r}')
  |             super(cls, self).__delattr__(name)
  |         for name, f in (('__setattr__', __setattr__), ('__delattr__', __delattr__)):
  |             if _set_new(cls, name, named_method(name, f)):
  |                 raise TypeError(f'Cannot overwrite attribute {name} in class {cls.__name__}')
  |     if unsafe_hash and has_hash: raise TypeError(f'Cannot overwrite attribute __hash__ in class {cls.__name__}')
  |     if unsafe_hash or eq and frozen and not has_hash:
  |         hashed = [f.name for f in real if (f.compare if f.hash is None else f.hash)]
  |         def __hash__(self): return hash(tuple([getattr(self, n) for n in hashed]))
  |         cls.__hash__ = named_method('__hash__', __hash__)
  |     elif eq and not has_hash: cls.__hash__ = None
  |     if not cls.__doc__:
  |         shown_args = [_signed(f, cls) for f in plain] + (['*'] if named else []) + [_signed(f, cls) for f in named]
  |         cls.__doc__ = cls.__name__ + ('(' + ', '.join(shown_args) + ')' if init else '()')
  |     if match_args and '__match_args__' not in cls.__dict__: cls.__match_args__ = tuple(f.name for f in plain)
  |     if slots:
  |         if '__slots__' in cls.__dict__: raise TypeError(f'{cls.__name__} already specifies __slots__')
  |         space = dict(cls.__dict__)
  |         names = tuple(f.name for f in real)
  |         inherited = {s for b in cls.__mro__[1:-1] for s in b.__dict__.get('__slots__', ())}
  |         space['__slots__'] = tuple(n for n in names if n not in inherited)
  |         for n in names: space.pop(n, None)
  |         space.pop('__dict__', None)
  |         space.pop('__weakref__', None)
  |         qualname = cls.__qualname__
  |         cls = type(cls)(cls.__name__, cls.__bases__, space)
  |         cls.__qualname__ = qualname
  |     return cls
  | def fields(class_or_instance):
  |     try: found = class_or_instance.__dataclass_fields__
  |     except AttributeError: raise TypeError('must be called with a dataclass type or instance') from None
  |     return tuple(f for f in found.values() if f._kind == '_FIELD')
  | def is_dataclass(obj): return hasattr(obj if isinstance(obj, type) else type(obj), '__dataclass_fields__')
  | def _instance(obj): return hasattr(type(obj), '__dataclass_fields__')
  | def asdict(obj, *, dict_factory=dict):
  |     if not _instance(obj): raise TypeError('asdict() should be called on dataclass instances')
  |     return _asdict(obj, dict_factory)
  | def _asdict(obj, factory):
  |     if _instance(obj): return factory([(f.name, _asdict(getattr(obj, f.name), factory)) for f in fields(obj)])
  |     if isinstance(obj, tuple) and hasattr(obj, '_fields'): return type(obj)(*[_asdict(v, factory) for v in obj])
  |     if isinstance(obj, (list, tuple)): return type(obj)(_asdict(v, factory) for v in obj)
  |     if isinstance(obj, dict): return type(obj)((_asdict(k, factory), _asdict(v, factory)) for k, v in obj.items())
  |     import copy
  |     return copy.deepcopy(obj)
  | def astuple(obj, *, tuple_factory=tuple):
  |     if not _instance(obj): raise TypeError('astuple() should be called on dataclass instances')
  |     return _astuple(obj, tuple_factory)
  | def _astuple(obj, factory):
  |     if _instance(obj): return factory([_astuple(getattr(obj, f.name), factory) for f in fields(obj)])
  |     if isinstance(obj, tuple) and hasattr(obj, '_fields'): return type(obj)(*[_astuple(v, factory) for v in obj])
  |     if isinstance(obj, (list, tuple)): return type(obj)(_astuple(v, factory) for v in obj)
  |     if isinstance(obj, dict): return type(obj)((_astuple(k, factory), _astuple(v, factory)) for k, v in obj.items())
  |     import copy
  |     return copy.deepcopy(obj)
  | def make_dataclass(cls_name, fields, *, bases=(), namespace=None, **options):
  |     space, annotations = dict(namespace or {}), {}
  |     for item in fields:
  |         if isinstance(item, str): name, kind = item, 'typing.Any'
  |         elif len(item) == 2: name, kind = item
  |         else: name, kind, space[item[0]] = item
  |         if not name.isidentifier(): raise TypeError(f'Field names must be valid identifiers: {name!r}')
  |         if name in annotations: raise TypeError(f'Field name duplicated: {name!r}')
  |         annotations[name] = kind
  |     space['__annotations__'] = annotations
  |     space.setdefault('__module__', 'types')
  |     return dataclass(type(cls_name, bases, space), **options)
  | def replace(obj, /, **changes):
  |     if not _instance(obj): raise TypeError('replace() should be called on dataclass instances')
  |     for f in obj.__dataclass_fields__.values():
  |         if f._kind == '_FIELD_CLASSVAR': continue
  |         if not f.init:
  |             if f.name in changes:
  |                 raise ValueError(f'field {f.name} is declared with init=False, it cannot be specified with replace()')
  |             continue
  |         if f.name not in changes:
  |             if f._kind == '_FIELD_INITVAR' and f.default is MISSING:
  |                 raise ValueError(f'InitVar {f.name!r} must be specified with replace()')
  |             changes[f.name] = getattr(obj, f.name)
  |     return obj.__class__(**changes)"# }

/-- the module for what values are meant to be -/
def hintsLibrary : Library :=
  { name := "typing"
    source := r#"
  | import sys, types, collections, collections.abc, functools
  | from types import GenericAlias
  | TYPE_CHECKING = False
  | def _shown(a):
  |     if isinstance(a, GenericAlias): return repr(a)
  |     if isinstance(a, type): return a.__qualname__ if a.__module__ == 'builtins' else f'{a.__module__}.{a.__qualname__}'
  |     if a is ...: return '...'
  |     if isinstance(a, types.FunctionType): return a.__name__
  |     if isinstance(a, list): return '[' + ', '.join(map(_shown, a)) + ']'
  |     return repr(a)
  | def _right(arg, msg='Parameters to generic types must be types.'):
  |     if arg is None: return type(None)
  |     if isinstance(arg, str): return ForwardRef(arg)
  |     if isinstance(arg, (list, tuple)) and msg == '': return arg
  |     if arg in (Any, NoReturn, Never, Self, LiteralString, Final, TypeAlias) or arg is ...: return arg
  |     if type(arg) is tuple: raise TypeError(f'{msg} Got {arg!r:.100}.')
  |     return arg
  | def _flat(args):
  |     found = []
  |     for p in args:
  |         inner = p.__args__ if isinstance(p, (_Union, types.UnionType)) else (p,)
  |         for q in inner:
  |             if q not in found: found.append(q)
  |     return tuple(found)
  | def _letters(args):
  |     found = []
  |     for a in args:
  |         own = (a,) if isinstance(a, (TypeVar, ParamSpec)) else _letters(a) if isinstance(a, (list, tuple)) else \
  |             getattr(a, '__parameters__', ()) if not isinstance(a, type) else ()
  |         for p in own:
  |             if p not in found: found.append(p)
  |     return tuple(found)
  | class _Typed:
  |     __typing__ = True
  |     def __or__(self, other): return Union[self, other]
  |     def __ror__(self, other): return Union[other, self]
  |     def __call__(self, *args, **kwds): raise TypeError(f'Cannot instantiate {self!r}')
  | class _SpecialForm(_Typed):
  |     def __init__(self, name, get=None): self._name, self._get = name, get
  |     def __repr__(self): return 'typing.' + self._name
  |     def __hash__(self): return hash(self._name)
  |     def __eq__(self, other): return self is other
  |     def __getitem__(self, parameters):
  |         if self._get is None: raise TypeError(f'{self!r} is not subscriptable')
  |         return self._get(parameters)
  |     def __instancecheck__(self, obj): raise TypeError(f'{self!r} cannot be used with isinstance()')
  |     def __subclasscheck__(self, cls): raise TypeError(f'{self!r} cannot be used with issubclass()')
  |     def __mro_entries__(self, bases): raise TypeError(f'Cannot subclass {self!r}')
  | class _AnyKind(type):
  |     def __instancecheck__(self, obj):
  |         if self is Any: raise TypeError('typing.Any cannot be used with isinstance()')
  |         return type.__instancecheck__(self, obj)
  |     def __repr__(self): return 'typing.Any' if self is Any else type.__repr__(self)
  | class Any(metaclass=_AnyKind):
  |     def __new__(cls, *args, **kwargs):
  |         if cls is Any: raise TypeError('Any cannot be instantiated')
  |         return super().__new__(cls, *args, **kwargs)
  | class ForwardRef(_Typed):
  |     def __init__(self, arg, is_argument=True, module=None, *, is_class=False):
  |         try: compile(arg, '<string>', 'eval')
  |         except SyntaxError: raise SyntaxError(f'Forward reference must be an expression -- got {arg!r}') from None
  |         self.__forward_arg__ = arg
  |     def __repr__(self): return f'ForwardRef({self.__forward_arg__!r})'
  |     def __eq__(self, other): return isinstance(other, ForwardRef) and self.__forward_arg__ == other.__forward_arg__
  |     def __hash__(self): return hash(self.__forward_arg__)
  | def _entries(self, bases):
  |     found = [] if self.__origin__ in bases else [self.__origin__]
  |     i = bases.index(self)
  |     if not any(isinstance(b, (_Alias, _Special)) or isinstance(b, type) and issubclass(b, Generic) for b in bases[i + 1:]):
  |         found.append(Generic)
  |     return tuple(found)
  | class _Alias(_Typed):
  |     def __init__(self, origin, args, name, inst=True):
  |         self.__origin__, self.__args__, self._name, self._inst = origin, args, name, inst
  |         self.__parameters__ = _letters(args)
  |     def _arguments(self): return ', '.join(map(_shown, self.__args__)) or '()'
  |     def __repr__(self):
  |         name = 'typing.' + self._name if self._name else _shown(self.__origin__)
  |         return f'{name}[{self._arguments()}]'
  |     def __eq__(self, other):
  |         return isinstance(other, _Alias) and (self.__origin__, self.__args__) == (other.__origin__, other.__args__)
  |     def __hash__(self): return hash((self.__origin__, self.__args__))
  |     def __call__(self, *args, **kwargs):
  |         if not self._inst: raise TypeError(f'Type {self._name} cannot be instantiated; use {self.__origin__.__name__}() instead')
  |         made = self.__origin__(*args, **kwargs)
  |         try: made.__orig_class__ = self
  |         except (AttributeError, TypeError): pass
  |         return made
  |     def __getattr__(self, name):
  |         if '__origin__' in self.__dict__ and not (name.startswith('__') and name.endswith('__')):
  |             return getattr(self.__origin__, name)
  |         raise AttributeError(name)
  |     def __getitem__(self, items):
  |         if not self.__parameters__: raise TypeError(f'{self!r} is not a generic class')
  |         items = items if isinstance(items, tuple) else (items,)
  |         if len(items) != len(self.__parameters__):
  |             much = 'many' if len(items) > len(self.__parameters__) else 'few'
  |             raise TypeError(f'Too {much} arguments for {self!r}; actual {len(items)}, expected {len(self.__parameters__)}')
  |         known = dict(zip(self.__parameters__, [_right(i) for i in items]))
  |         def put(a):
  |             if isinstance(a, (TypeVar, ParamSpec)): return known.get(a, a)
  |             if isinstance(a, list): return [put(x) for x in a]
  |             own = getattr(a, '__parameters__', ()) if not isinstance(a, type) else ()
  |             return a[tuple(known.get(p, p) for p in own)] if own else a
  |         return self._with(tuple(put(a) for a in self.__args__))
  |     def _with(self, args): return type(self)(self.__origin__, args, self._name, self._inst)
  |     def __mro_entries__(self, bases):
  |         if self.__origin__ in (Generic, Protocol):
  |             i = bases.index(self)
  |             if self.__origin__ is Generic and any(isinstance(b, (_Alias, _Special)) and b is not self for b in bases[i + 1:]): return ()
  |             return (self.__origin__,)
  |         if not self._name: return (self.__origin__,)
  |         return _entries(self, bases)
  |     def __instancecheck__(self, obj): raise TypeError('Subscripted generics cannot be used with class and instance checks')
  |     def __subclasscheck__(self, cls): raise TypeError('Subscripted generics cannot be used with class and instance checks')
  | class _Union(_Alias):
  |     def __init__(self, args): super().__init__(Union, args, 'Union')
  |     def _with(self, args): return Union[args]
  |     def __eq__(self, other):
  |         return set(self.__args__) == set(other.__args__) if isinstance(other, (_Union, types.UnionType)) else NotImplemented
  |     def __hash__(self): return hash(frozenset(self.__args__))
  |     def __repr__(self):
  |         if len(self.__args__) == 2 and type(None) in self.__args__:
  |             return f'typing.Optional[{_shown(self.__args__[self.__args__[0] is type(None)])}]'
  |         return f'typing.Union[{self._arguments()}]'
  |     def __instancecheck__(self, obj): return any(isinstance(obj, a) for a in self.__args__)
  |     def __subclasscheck__(self, cls): return any(issubclass(cls, a) for a in self.__args__)
  | class _Literal(_Alias):
  |     def _arguments(self): return ', '.join(map(repr, self.__args__))
  |     def __eq__(self, other): return isinstance(other, _Literal) and set(map(repr, self.__args__)) == set(map(repr, other.__args__))
  |     def __hash__(self): return hash(frozenset(map(repr, self.__args__)))
  | class _Noted(_Alias):
  |     def __init__(self, origin, metadata):
  |         super().__init__(origin, (origin,), 'Annotated')
  |         self.__metadata__ = metadata
  |     def __repr__(self): return f'typing.Annotated[{_shown(self.__origin__)}, {", ".join(map(repr, self.__metadata__))}]'
  |     def __call__(self, *args, **kwargs): return self.__origin__(*args, **kwargs)
  |     def _with(self, args): return _Noted(args[0], self.__metadata__)
  | class _Call(_Alias):
  |     def __repr__(self):
  |         args = self.__args__
  |         if len(args) == 2 and (args[0] is ... or isinstance(args[0], ParamSpec)):
  |             return f'typing.Callable[{_shown(args[0])}, {_shown(args[1])}]'
  |         return f'typing.Callable[[{", ".join(map(_shown, args[:-1]))}], {_shown(args[-1])}]'
  |     def _with(self, args): return _Call(self.__origin__, args, self._name, self._inst)
  | def _union(parameters):
  |     if parameters == (): raise TypeError('Cannot take a Union of no types.')
  |     parameters = parameters if isinstance(parameters, tuple) else (parameters,)
  |     parameters = _flat([_right(p, 'Union[arg, ...]: each arg must be a type.') for p in parameters])
  |     return parameters[0] if len(parameters) == 1 else _Union(parameters)
  | Union = _SpecialForm('Union', _union)
  | Optional = _SpecialForm('Optional', lambda p: Union[_right(p, 'typing.Optional requires a single type.'), type(None)])
  | def _literal(parameters):
  |     parameters = parameters if isinstance(parameters, tuple) else (parameters,)
  |     flat = []
  |     for p in parameters:
  |         for q in p.__args__ if isinstance(p, _Literal) else (p,):
  |             if not any(type(q) is type(x) and q == x for x in flat): flat.append(q)
  |     return _Literal(Literal, tuple(flat), 'Literal')
  | Literal = _SpecialForm('Literal', _literal)
  | def _one(name): return lambda p: _Alias(globals()[name], (_right(p, f'typing.{name} accepts only single type.'),), name)
  | ClassVar, Final = _SpecialForm('ClassVar', _one('ClassVar')), _SpecialForm('Final', _one('Final'))
  | Required, NotRequired = _SpecialForm('Required', _one('Required')), _SpecialForm('NotRequired', _one('NotRequired'))
  | TypeGuard, Unpack = _SpecialForm('TypeGuard', _one('TypeGuard')), _SpecialForm('Unpack', _one('Unpack'))
  | def _concatenate(p): return _Alias(Concatenate, tuple(map(_right, p if isinstance(p, tuple) else (p,))), 'Concatenate')
  | Concatenate = _SpecialForm('Concatenate', _concatenate)
  | NoReturn, Never, Self = _SpecialForm('NoReturn'), _SpecialForm('Never'), _SpecialForm('Self')
  | LiteralString, TypeAlias = _SpecialForm('LiteralString'), _SpecialForm('TypeAlias')
  | class Annotated:
  |     def __new__(cls, *args, **kwargs): raise TypeError('Type Annotated cannot be instantiated.')
  |     def __class_getitem__(cls, params):
  |         if not isinstance(params, tuple) or len(params) < 2:
  |             raise TypeError('Annotated[...] should be used with at least two arguments (a type and an annotation).')
  |         return _Noted(_right(params[0]), tuple(params[1:]))
  | class TypeVar(_Typed):
  |     def __init__(self, name, *constraints, bound=None, covariant=False, contravariant=False):
  |         if covariant and contravariant: raise ValueError('Bivariant types are not supported.')
  |         if constraints and bound is not None: raise TypeError('Constraints cannot be combined with bound=...')
  |         if len(constraints) == 1: raise TypeError('A single constraint is not allowed')
  |         self.__name__, self.__constraints__, self.__bound__ = name, constraints, bound
  |         self.__covariant__, self.__contravariant__ = covariant, contravariant
  |     def __repr__(self): return ('+' if self.__covariant__ else '-' if self.__contravariant__ else '~') + self.__name__
  |     def __hash__(self): return id(self)
  | class ParamSpec(_Typed):
  |     def __init__(self, name, *, bound=None, covariant=False, contravariant=False):
  |         self.__name__, self.__bound__ = name, bound
  |         self.args, self.kwargs = f'{name}.args', f'{name}.kwargs'
  |     def __repr__(self): return '~' + self.__name__
  | class TypeVarTuple(_Typed):
  |     def __init__(self, name): self.__name__ = name
  |     def __repr__(self): return self.__name__
  |     def __iter__(self): yield Unpack[self]
  | class Generic:
  |     __slots__ = ()
  |     def __class_getitem__(cls, params):
  |         params = params if isinstance(params, tuple) else (params,)
  |         if cls in (Generic, Protocol):
  |             if not params: raise TypeError(f'Parameter list to {cls.__qualname__}[...] cannot be empty')
  |             if not all(isinstance(p, (TypeVar, ParamSpec, _Alias, TypeVarTuple)) for p in params):
  |                 raise TypeError(f'Parameters to {cls.__name__}[...] must all be type variables or parameter specification variables.')
  |             if len(set(params)) != len(params): raise TypeError(f'Parameters to {cls.__name__}[...] must all be unique')
  |             return _Alias(cls, params, cls.__name__)
  |         params = tuple(_right(p) for p in params)
  |         own = cls.__parameters__
  |         if not own: raise TypeError(f'{cls!r} is not a generic class')
  |         if len(params) != len(own):
  |             raise TypeError(f'Too {"many" if len(params) > len(own) else "few"} arguments for {cls!r}; actual {len(params)}, '
  |                 f'expected {len(own)}')
  |         return _Alias(cls, params, None)
  |     def __init_subclass__(cls, *args, **kwargs):
  |         super().__init_subclass__(*args, **kwargs)
  |         found = []
  |         bases = cls.__dict__.get('__orig_bases__', ())
  |         listed = [b for b in bases if isinstance(b, _Alias) and b.__origin__ in (Generic, Protocol)]
  |         for b in listed or bases:
  |             for p in getattr(b, '__parameters__', ()) if not isinstance(b, type) else ():
  |                 if p not in found: found.append(p)
  |         cls.__parameters__ = tuple(found)
  | class _ProtocolKind(type(collections.abc.Sized)):
  |     def __instancecheck__(cls, instance):
  |         if cls.__dict__.get('_is_protocol') and cls is not Protocol:
  |             if not cls.__dict__.get('_is_runtime_protocol'):
  |                 raise TypeError('Instance and class checks can only be used with @runtime_checkable protocols')
  |             if all(hasattr(instance, n) and (not callable(getattr(cls, n, None)) or getattr(instance, n) is not None)
  |                     for n in _members(cls)): return True
  |         return super().__instancecheck__(instance)
  | def _members(cls):
  |     found = set()
  |     for base in cls.__mro__[:-1]:
  |         if base.__name__ in ('Protocol', 'Generic'): continue
  |         for n in list(base.__dict__) + list(base.__dict__.get('__annotations__', {})):
  |             if not n.startswith('_abc_') and n not in ('__abstractmethods__', '__annotations__', '__dict__', '__doc__', '__init__',
  |                 '__module__', '__new__', '__slots__', '__subclasshook__', '__weakref__', '__class_getitem__', '_is_protocol',
  |                 '_is_runtime_protocol', '__parameters__', '__orig_bases__', '__qualname__', '__match_args__', '__protocol_attrs__',
  |                 '__init_subclass__', '_is_runtime_protocol', '__hash__'): found.add(n)
  |     return found
  | class Protocol(Generic, metaclass=_ProtocolKind):
  |     __slots__ = ()
  |     _is_protocol, _is_runtime_protocol = True, False
  |     def __init_subclass__(cls, *args, **kwargs):
  |         super().__init_subclass__(*args, **kwargs)
  |         cls._is_protocol = Protocol in cls.__bases__
  |         if not cls._is_protocol: return
  |         def hook(other):
  |             if not cls.__dict__.get('_is_protocol'): return NotImplemented
  |             if not cls.__dict__.get('_is_runtime_protocol'):
  |                 raise TypeError('Instance and class checks can only be used with @runtime_checkable protocols')
  |             for n in _members(cls):
  |                 if not any(n in b.__dict__ for b in other.__mro__): return NotImplemented
  |             return True
  |         if '__subclasshook__' not in cls.__dict__: cls.__subclasshook__ = hook
  |         if cls.__init__ is object.__init__ or '__init__' not in cls.__dict__:
  |             def no(self, *args, **kwargs):
  |                 if type(self)._is_protocol: raise TypeError('Protocols cannot be instantiated')
  |             if '__init__' not in cls.__dict__: cls.__init__ = no
  | def runtime_checkable(cls):
  |     if not cls.__dict__.get('_is_protocol'):
  |         raise TypeError('@runtime_checkable can be only applied to protocol classes, got %r' % cls)
  |     cls._is_runtime_protocol = True
  |     return cls
  | runtime = runtime_checkable
  | class _Special(_Typed):
  |     def __init__(self, origin, count, name, inst=True): self.__origin__, self._count, self._name, self._inst = origin, count, name, inst
  |     __parameters__ = ()
  |     def __repr__(self): return 'typing.' + self._name
  |     def __getitem__(self, params):
  |         params = params if isinstance(params, tuple) else (params,)
  |         params = tuple(_right(p) for p in params)
  |         if self._count >= 0 and len(params) != self._count:
  |             much = 'many' if len(params) > self._count else 'few'
  |             raise TypeError(f'Too {much} arguments for {self!r}; actual {len(params)}, expected {self._count}')
  |         return _Alias(self.__origin__, params, self._name, self._inst)
  |     def __call__(self, *args, **kwargs):
  |         if not self._inst: raise TypeError(f'Type {self._name} cannot be instantiated; use {self.__origin__.__name__}() instead')
  |         return self.__origin__(*args, **kwargs)
  |     def __getattr__(self, name):
  |         if '__origin__' in self.__dict__ and not (name.startswith('__') and name.endswith('__')):
  |             return getattr(self.__origin__, name)
  |         raise AttributeError(name)
  |     def __mro_entries__(self, bases): return _entries(self, bases)
  |     def __instancecheck__(self, obj): return isinstance(obj, self.__origin__)
  |     def __subclasscheck__(self, cls): return issubclass(cls, self.__origin__)
  | class _TupleKind(_Special):
  |     def __getitem__(self, params):
  |         if params == (): return _Alias(tuple, (), 'Tuple')
  |         params = params if isinstance(params, tuple) else (params,)
  |         return _Alias(tuple, tuple(p if p is ... else _right(p, 'Tuple[t0, t1, ...]: each t must be a type.') for p in params), 'Tuple')
  | class _CallableKind(_Special):
  |     def __getitem__(self, params):
  |         if not isinstance(params, tuple) or len(params) != 2:
  |             raise TypeError('Callable must be used as Callable[[arg, ...], result].')
  |         args, result = params
  |         if isinstance(args, list): args = tuple(_right(a) for a in args)
  |         elif args is ... or isinstance(args, (ParamSpec, _Alias)): args = (args,)
  |         else: raise TypeError(f'Callable[args, result]: args must be a list. Got {args}')
  |         return _Call(collections.abc.Callable, args + (_right(result, 'Callable[args, result]: result must be a type.'),), 'Callable')
  | _abc = collections.abc
  | Hashable, Sized = _Special(_abc.Hashable, 0, 'Hashable'), _Special(_abc.Sized, 0, 'Sized')
  | for _n, _o, _c in (('Awaitable', 'Awaitable', 1), ('Coroutine', 'Coroutine', 3), ('AsyncIterable', 'AsyncIterable', 1),
  |         ('AsyncIterator', 'AsyncIterator', 1), ('Iterable', 'Iterable', 1), ('Iterator', 'Iterator', 1),
  |         ('Reversible', 'Reversible', 1), ('Container', 'Container', 1), ('Collection', 'Collection', 1), ('AbstractSet', 'Set', 1),
  |         ('MutableSet', 'MutableSet', 1), ('Mapping', 'Mapping', 2), ('MutableMapping', 'MutableMapping', 2),
  |         ('Sequence', 'Sequence', 1), ('MutableSequence', 'MutableSequence', 1), ('ByteString', 'ByteString', 0),
  |         ('MappingView', 'MappingView', 1), ('KeysView', 'KeysView', 1), ('ItemsView', 'ItemsView', 2),
  |         ('ValuesView', 'ValuesView', 1), ('Generator', 'Generator', 3), ('AsyncGenerator', 'AsyncGenerator', 2)):
  |     globals()[_n] = _Special(getattr(_abc, _o), _c, _n)
  | Tuple, Callable = _TupleKind(tuple, -1, 'Tuple', False), _CallableKind(_abc.Callable, 2, 'Callable')
  | for _n, _o, _c in (('List', list, 1), ('Set', set, 1), ('FrozenSet', frozenset, 1), ('Dict', dict, 2), ('Type', type, 1)):
  |     globals()[_n] = _Special(_o, _c, _n, False)
  | for _n, _o, _c in (('Deque', collections.deque, 1), ('DefaultDict', collections.defaultdict, 2),
  |         ('OrderedDict', collections.OrderedDict, 2), ('Counter', collections.Counter, 1), ('ChainMap', collections.ChainMap, 2)):
  |     globals()[_n] = _Special(_o, _c, _n)
  | import contextlib as _contextlib, re as _re
  | ContextManager = _Special(_contextlib.AbstractContextManager, 1, 'ContextManager')
  | AsyncContextManager = _Special(getattr(_contextlib, 'AbstractAsyncContextManager', object), 1, 'AsyncContextManager')
  | Pattern, Match = _Special(_re.Pattern, 1, 'Pattern'), _Special(_re.Match, 1, 'Match')
  | Text = str
  | T, KT, VT, T_co = TypeVar('T'), TypeVar('KT'), TypeVar('VT'), TypeVar('T_co', covariant=True)
  | AnyStr = TypeVar('AnyStr', bytes, str)
  | class IO(Generic[AnyStr]): pass
  | class TextIO(IO[str]): pass
  | class BinaryIO(IO[bytes]): pass
  | @runtime_checkable
  | class SupportsInt(Protocol):
  |     def __int__(self): pass
  | @runtime_checkable
  | class SupportsFloat(Protocol):
  |     def __float__(self): pass
  | @runtime_checkable
  | class SupportsComplex(Protocol):
  |     def __complex__(self): pass
  | @runtime_checkable
  | class SupportsBytes(Protocol):
  |     def __bytes__(self): pass
  | @runtime_checkable
  | class SupportsIndex(Protocol):
  |     def __index__(self): pass
  | @runtime_checkable
  | class SupportsAbs(Protocol[T_co]):
  |     def __abs__(self): pass
  | @runtime_checkable
  | class SupportsRound(Protocol[T_co]):
  |     def __round__(self, ndigits=0): pass
  | def cast(typ, val): return val
  | def assert_type(val, typ, /): return val
  | def reveal_type(obj, /):
  |     print(f'Runtime type is {type(obj).__name__!r}', file=sys.stderr)
  |     return obj
  | def assert_never(arg, /): raise AssertionError(f'Expected code to be unreachable, but got: {arg!r}')
  | def no_type_check(arg): return arg
  | no_type_check_decorator = no_type_check
  | def final(f):
  |     try: f.__final__ = True
  |     except (AttributeError, TypeError): pass
  |     return f
  | _overloads = {}
  | def _overload_dummy(*args, **kwds):
  |     raise NotImplementedError('You should not call an overloaded function. A series of @overload-decorated functions outside a stub '
  |         'module should always be followed by an implementation that is not @overload-ed.')
  | def overload(func):
  |     _overloads.setdefault((func.__module__, func.__qualname__), []).append(func)
  |     return _overload_dummy
  | def get_overloads(func): return _overloads.get((func.__module__, func.__qualname__), [])
  | def clear_overloads(): _overloads.clear()
  | def dataclass_transform(**kwargs): return lambda c: c
  | def is_typeddict(tp): return isinstance(tp, _TypedDictKind)
  | class NewType:
  |     __typing__ = True
  |     def __init__(self, name, tp):
  |         self.__qualname__ = name
  |         self.__name__, self.__supertype__ = name.rpartition('.')[2], tp
  |         self.__module__ = sys._getframe(1).f_globals.get('__name__', '__main__')
  |     def __call__(self, x): return x
  |     def __repr__(self): return f'{self.__module__}.{self.__qualname__}'
  |     def __or__(self, other): return Union[self, other]
  |     def __ror__(self, other): return Union[other, self]
  | def get_origin(tp):
  |     if isinstance(tp, _Noted): return Annotated
  |     if isinstance(tp, (_Alias, GenericAlias, _Special)): return tp.__origin__
  |     if tp is Generic: return Generic
  |     return types.UnionType if isinstance(tp, types.UnionType) else None
  | def get_args(tp):
  |     if isinstance(tp, _Noted): return (tp.__origin__,) + tp.__metadata__
  |     if isinstance(tp, (_Alias, GenericAlias)):
  |         res = tp.__args__
  |         if tp.__origin__ is collections.abc.Callable and not (len(res) == 2 and (res[0] is ... or isinstance(res[0], ParamSpec))):
  |             res = (list(res[:-1]), res[-1])
  |         return res
  |     return tp.__args__ if isinstance(tp, types.UnionType) else ()
  | def _found(value, globalns, localns):
  |     if value is None: return type(None)
  |     if isinstance(value, str): value = ForwardRef(value)
  |     if isinstance(value, ForwardRef): return _found(eval(value.__forward_arg__, globalns, localns), globalns, localns)
  |     if isinstance(value, (_Alias, GenericAlias)) and not isinstance(value, _Literal):
  |         args = tuple(_found(a, globalns, localns) if not isinstance(a, list) and a is not ... else a for a in value.__args__)
  |         if args != value.__args__: return value._with(args) if isinstance(value, _Alias) else GenericAlias(value.__origin__, args)
  |     return value
  | def get_type_hints(obj, globalns=None, localns=None, include_extras=False):
  |     def plain(v): return v if include_extras or not isinstance(v, _Noted) else v.__origin__
  |     if isinstance(obj, type):
  |         hints = {}
  |         for base in reversed(obj.__mro__):
  |             names = globalns if globalns is not None else getattr(sys.modules.get(base.__module__), '__dict__', {})
  |             for name, value in base.__dict__.get('__annotations__', {}).items():
  |                 hints[name] = plain(_found(value, names, localns if localns is not None else dict(vars(base))))
  |         return hints
  |     if globalns is None: globalns = getattr(obj, '__globals__', None) or getattr(obj, '__dict__', {})
  |     hints = getattr(obj, '__annotations__', None)
  |     if hints is None:
  |         if isinstance(obj, (types.BuiltinFunctionType, types.ModuleType)): return {}
  |         raise TypeError(f'{obj!r} is not a module, class, method, or function.')
  |     return {name: plain(_found(value, globalns, localns)) for name, value in hints.items()}
  | class _TupleMaker(type):
  |     def __new__(cls, typename, bases, ns):
  |         hints = ns.get('__annotations__', {})
  |         usual = []
  |         for name in hints:
  |             if name in ns: usual.append(name)
  |             elif usual:
  |                 raise TypeError(f'Non-default namedtuple field {name} cannot follow default field{"s" if len(usual) > 1 else ""} '
  |                     + ', '.join(usual))
  |         made = collections.namedtuple(typename, hints, defaults=[ns[n] for n in usual], module=ns['__module__'])
  |         made.__annotations__ = made.__new__.__annotations__ = {n: _right(t) for n, t in hints.items()}
  |         for key in ns:
  |             if key in ('__new__', '__init__', '__slots__', '__getnewargs__', '_fields', '_field_defaults', '_make', '_replace', '_asdict'):
  |                 raise AttributeError('Cannot overwrite NamedTuple attribute ' + key)
  |             if key not in ('__module__', '__name__', '__annotations__', '__qualname__') and key not in made._fields:
  |                 setattr(made, key, ns[key])
  |         if '__qualname__' in ns: made.__qualname__ = ns['__qualname__']
  |         return made
  | def NamedTuple(typename, fields=None, /, **kwargs):
  |     if fields is None: fields = kwargs.items()
  |     fields = [(n, _right(t)) for n, t in fields]
  |     made = collections.namedtuple(typename, [n for n, t in fields], module=sys._getframe(1).f_globals.get('__name__', '__main__'))
  |     made.__annotations__ = dict(fields)
  |     return made
  | _named_tuple = _TupleMaker.__new__
  | class _TupleBase(type):
  |     def __new__(cls, typename, bases, ns): return _named_tuple(_TupleMaker, typename, bases, ns)
  | _base = type.__new__(_TupleBase, 'NamedTuple', (), {})
  | NamedTuple.__mro_entries__ = lambda bases: (_base,)
  | class _TypedDictKind(type):
  |     def __new__(cls, name, bases, ns, total=True):
  |         made = type.__new__(_TypedDictKind, name, (dict,), ns)
  |         hints, required, optional = {}, set(), set()
  |         for b in bases:
  |             hints.update(b.__dict__.get('__annotations__', {}))
  |             required |= b.__dict__.get('__required_keys__', frozenset())
  |             optional |= b.__dict__.get('__optional_keys__', frozenset())
  |         for n, t in ns.get('__annotations__', {}).items():
  |             t = hints[n] = _right(t)
  |             origin = get_origin(t)
  |             (required if origin is Required or total and origin is not NotRequired else optional).add(n)
  |         made.__annotations__ = hints
  |         made.__required_keys__, made.__optional_keys__, made.__total__ = frozenset(required), frozenset(optional), total
  |         return made
  |     def __call__(cls, *args, **kwargs): return dict(*args, **kwargs)
  |     def __subclasscheck__(cls, other): raise TypeError('TypedDict does not support instance and class checks')
  |     __instancecheck__ = __subclasscheck__
  | def TypedDict(typename, fields=None, /, *, total=True, **kwargs):
  |     return _TypedDictKind(typename, (), {'__annotations__': dict(fields or kwargs), '__module__': '__main__'}, total=total)
  | _dict = type.__new__(_TypedDictKind, 'TypedDict', (), {})
  | TypedDict.__mro_entries__ = lambda bases: (_dict,)"# }

/-- modules for classes: those of values with names, of records, and of what other classes can do -/
def recordsLibraries : List Library :=
  [kindsLibrary, abstractClassesLibrary, enumerationsLibrary, recordsLibrary, hintsLibrary]

end IncludeAudit.Offside
