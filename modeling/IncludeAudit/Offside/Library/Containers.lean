/-
Modules for containers of values: rows with two ends, counts, views of several dictionaries, heaps, and copies.

- `containersLibraries`: the modules.
-/
import IncludeAudit.Offside.Library.Basic

namespace IncludeAudit.Offside

/-- the module for kinds of containers -/
def collectionsLibrary : Library :=
  { name := "collections"
    source := r#"
  | import sys
  | _nothing = object()
  | def _aliased(cls, k):
  |     from types import GenericAlias
  |     return GenericAlias(cls, k)
  | class OrderedDict(dict):
  |     def popitem(self, last=True):
  |         if not self: raise KeyError('dictionary is empty')
  |         key = next(reversed(self) if last else iter(self))
  |         return key, self.pop(key)
  |     def move_to_end(self, key, last=True):
  |         value = dict.pop(self, key)
  |         if last: dict.__setitem__(self, key, value)
  |         else:
  |             rest = list(dict.items(self))
  |             dict.clear(self)
  |             dict.__setitem__(self, key, value)
  |             for k, v in rest: dict.__setitem__(self, k, v)
  |     def __repr__(self):
  |         if not self: return '%s()' % (self.__class__.__name__,)
  |         return '%s(%r)' % (self.__class__.__name__, list(self.items()))
  |     def __eq__(self, other):
  |         if isinstance(other, OrderedDict): return dict.__eq__(self, other) and list(self) == list(other)
  |         return dict.__eq__(self, other)
  |     def __ne__(self, other): return not self == other
  |     __hash__ = None
  |     def copy(self): return self.__class__(self)
  |     __copy__ = copy
  |     @classmethod
  |     def fromkeys(cls, iterable, value=None):
  |         self = cls()
  |         for key in iterable: self[key] = value
  |         return self
  |     def __or__(self, other):
  |         if not isinstance(other, dict): return NotImplemented
  |         new = self.__class__(self)
  |         new.update(other)
  |         return new
  |     def __ror__(self, other):
  |         if not isinstance(other, dict): return NotImplemented
  |         new = self.__class__(other)
  |         new.update(self)
  |         return new
  | class defaultdict(dict):
  |     def __init__(self, default_factory=None, /, *args, **kwargs):
  |         if default_factory is not None and not callable(default_factory):
  |             raise TypeError('first argument must be callable or None')
  |         self.default_factory = default_factory
  |         dict.__init__(self, *args, **kwargs)
  |     def __missing__(self, key):
  |         if self.default_factory is None: raise KeyError(key)
  |         self[key] = value = self.default_factory()
  |         return value
  |     def __repr__(self):
  |         return f'{type(self).__name__}({self.default_factory!r}, {dict.__repr__(self)})'
  |     def copy(self): return type(self)(self.default_factory, self)
  |     __copy__ = copy
  |     def __or__(self, other):
  |         if not isinstance(other, dict): return NotImplemented
  |         new = self.copy()
  |         new.update(other)
  |         return new
  |     def __ror__(self, other):
  |         if not isinstance(other, dict): return NotImplemented
  |         new = type(self)(self.default_factory, other)
  |         new.update(self)
  |         return new
  | def _keywords(): return ('False None True and as assert async await break class continue def del elif else except finally '
  |     'for from global if import in is lambda nonlocal not or pass raise return try while with yield').split()
  | class _Column:
  |     __slots__ = ('_index', '__doc__')
  |     def __init__(self, index):
  |         self._index = index
  |         self.__doc__ = f'Alias for field number {index}'
  |     def __get__(self, obj, cls=None): return self if obj is None else tuple.__getitem__(obj, self._index)
  |     def __set__(self, obj, value): raise AttributeError("can't set attribute")
  |     def __delete__(self, obj): raise AttributeError("can't delete attribute")
  |     def __repr__(self): return f'_tuplegetter({self._index}, {self.__doc__!r})'
  | def namedtuple(typename, field_names, *, rename=False, defaults=None, module=None):
  |     if isinstance(field_names, str): field_names = field_names.replace(',', ' ').split()
  |     field_names = list(map(str, field_names))
  |     typename = str(typename)
  |     if rename:
  |         seen = set()
  |         for index, name in enumerate(field_names):
  |             if not name.isidentifier() or name in _keywords() or name.startswith('_') or name in seen:
  |                 field_names[index] = f'_{index}'
  |             seen.add(name)
  |     for name in [typename] + field_names:
  |         if not name.isidentifier(): raise ValueError(f'Type names and field names must be valid identifiers: {name!r}')
  |         if name in _keywords(): raise ValueError(f'Type names and field names cannot be a keyword: {name!r}')
  |     seen = set()
  |     for name in field_names:
  |         if name.startswith('_') and not rename:
  |             raise ValueError(f'Field names cannot start with an underscore: {name!r}')
  |         if name in seen: raise ValueError(f'Encountered duplicate field name: {name!r}')
  |         seen.add(name)
  |     field_defaults = {}
  |     if defaults is not None:
  |         defaults = tuple(defaults)
  |         if len(defaults) > len(field_names): raise TypeError('Got more default values than field names')
  |         field_defaults = dict(reversed(list(zip(reversed(field_names), reversed(defaults)))))
  |     field_names = tuple(field_names)
  |     args = ', '.join(field_names)
  |     if len(field_names) == 1: args += ','
  |     shown = '(' + ', '.join(f'{name}=%r' for name in field_names) + ')'
  |     new_tuple = tuple.__new__
  |     __new__ = eval(f'lambda _cls, {args}: _tuple_new(_cls, ({args}))', {'_tuple_new': new_tuple, '__builtins__': {},
  |         '__name__': f'namedtuple_{typename}'})
  |     __new__.__name__ = '__new__'
  |     __new__.__qualname__ = f'{typename}.__new__'
  |     __new__.__doc__ = f'Create new instance of {typename}({args})'
  |     if defaults is not None: __new__.__defaults__ = defaults
  |     size = len(field_names)
  |     def _make(cls, iterable):
  |         result = new_tuple(cls, iterable)
  |         if len(result) != size: raise TypeError(f'Expected {size} arguments, got {len(result)}')
  |         return result
  |     def _replace(self, /, **kwds):
  |         result = self._make(map(kwds.pop, field_names, self))
  |         if kwds: raise ValueError(f'Got unexpected field names: {list(kwds)!r}')
  |         return result
  |     def __repr__(self): return self.__class__.__name__ + shown % tuple(self)
  |     def _asdict(self): return dict(zip(self._fields, self))
  |     def __getnewargs__(self): return tuple(self)
  |     for method in (_make, _replace, __repr__, _asdict, __getnewargs__):
  |         method.__qualname__ = f'{typename}.{method.__name__}'
  |     space = {'__doc__': f'{typename}({args.rstrip(",")})', '__slots__': (), '_fields': field_names,
  |         '_field_defaults': field_defaults, '__new__': __new__, '_make': classmethod(_make), '_replace': _replace,
  |         '__repr__': __repr__, '_asdict': _asdict, '__getnewargs__': __getnewargs__, '__match_args__': field_names}
  |     for index, name in enumerate(field_names): space[name] = _Column(index)
  |     result = type(typename, (tuple,), space)
  |     if module is None:
  |         try: module = sys._getframe(1).f_globals.get('__name__', '__main__')
  |         except (AttributeError, ValueError): pass
  |     if module is not None: result.__module__ = module
  |     return result
  | class Counter(dict):
  |     def __init__(self, iterable=None, /, **kwds):
  |         dict.__init__(self)
  |         self.update(iterable, **kwds)
  |     def __missing__(self, key): return 0
  |     def total(self): return sum(self.values())
  |     def most_common(self, n=None):
  |         ranked = sorted(self.items(), key=lambda item: item[1], reverse=True)
  |         return ranked if n is None else ranked[:max(n, 0)]
  |     def elements(self):
  |         for key, count in self.items():
  |             for _ in range(count): yield key
  |     @classmethod
  |     def fromkeys(cls, iterable, v=None):
  |         raise NotImplementedError('Counter.fromkeys() is undefined.  Use Counter(iterable) instead.')
  |     def update(self, iterable=None, /, **kwds):
  |         if iterable is not None:
  |             if isinstance(iterable, dict) or hasattr(iterable, 'items') and hasattr(iterable, '__getitem__'):
  |                 if self:
  |                     for key, count in iterable.items(): self[key] = count + self.get(key, 0)
  |                 else: dict.update(self, iterable)
  |             else:
  |                 get = self.get
  |                 for key in iterable: self[key] = get(key, 0) + 1
  |         if kwds: self.update(kwds)
  |     def subtract(self, iterable=None, /, **kwds):
  |         if iterable is not None:
  |             if isinstance(iterable, dict):
  |                 for key, count in iterable.items(): self[key] = self.get(key, 0) - count
  |             else:
  |                 for key in iterable: self[key] = self.get(key, 0) - 1
  |         if kwds: self.subtract(kwds)
  |     def copy(self): return self.__class__(self)
  |     def __reduce__(self): return (self.__class__, (dict(self),))
  |     def __delitem__(self, key):
  |         if key in self: dict.__delitem__(self, key)
  |     def __eq__(self, other):
  |         if not isinstance(other, Counter): return NotImplemented
  |         return all(self[e] == other[e] for c in (self, other) for e in c)
  |     def __ne__(self, other):
  |         if not isinstance(other, Counter): return NotImplemented
  |         return not self == other
  |     __hash__ = None
  |     def __le__(self, other):
  |         if not isinstance(other, Counter): return NotImplemented
  |         return all(self[e] <= other[e] for c in (self, other) for e in c)
  |     def __lt__(self, other):
  |         if not isinstance(other, Counter): return NotImplemented
  |         return self <= other and self != other
  |     def __ge__(self, other):
  |         if not isinstance(other, Counter): return NotImplemented
  |         return all(self[e] >= other[e] for c in (self, other) for e in c)
  |     def __gt__(self, other):
  |         if not isinstance(other, Counter): return NotImplemented
  |         return self >= other and self != other
  |     def __repr__(self):
  |         if not self: return f'{self.__class__.__name__}()'
  |         try: d = dict(self.most_common())
  |         except TypeError: d = dict(self)
  |         return f'{self.__class__.__name__}({d!r})'
  |     def __add__(self, other):
  |         if not isinstance(other, Counter): return NotImplemented
  |         result = Counter()
  |         for e, count in self.items():
  |             if count + other[e] > 0: result[e] = count + other[e]
  |         for e, count in other.items():
  |             if e not in self and count > 0: result[e] = count
  |         return result
  |     def __sub__(self, other):
  |         if not isinstance(other, Counter): return NotImplemented
  |         result = Counter()
  |         for e, count in self.items():
  |             if count - other[e] > 0: result[e] = count - other[e]
  |         for e, count in other.items():
  |             if e not in self and count < 0: result[e] = 0 - count
  |         return result
  |     def __or__(self, other):
  |         if not isinstance(other, Counter): return NotImplemented
  |         result = Counter()
  |         for e, count in self.items():
  |             if max(count, other[e]) > 0: result[e] = max(count, other[e])
  |         for e, count in other.items():
  |             if e not in self and count > 0: result[e] = count
  |         return result
  |     def __and__(self, other):
  |         if not isinstance(other, Counter): return NotImplemented
  |         result = Counter()
  |         for e, count in self.items():
  |             if min(count, other[e]) > 0: result[e] = min(count, other[e])
  |         return result
  |     def __pos__(self): return Counter({e: n for e, n in self.items() if n > 0})
  |     def __neg__(self): return Counter({e: -n for e, n in self.items() if n < 0})
  |     def _keep_positive(self):
  |         for e in [e for e, n in self.items() if not n > 0]: del self[e]
  |         return self
  |     def __iadd__(self, other):
  |         for e, n in other.items(): self[e] += n
  |         return self._keep_positive()
  |     def __isub__(self, other):
  |         for e, n in other.items(): self[e] -= n
  |         return self._keep_positive()
  |     def __ior__(self, other):
  |         for e, n in other.items(): self[e] = max(self[e], n)
  |         return self._keep_positive()
  |     def __iand__(self, other):
  |         for e, n in self.items(): self[e] = min(n, other[e])
  |         return self._keep_positive()
  | class deque:
  |     def __init__(self, iterable=(), maxlen=None):
  |         if maxlen is not None and maxlen < 0: raise ValueError('maxlen must be non-negative')
  |         self._row = []
  |         self._maxlen = maxlen
  |         self.extend(iterable)
  |     maxlen = property(lambda self: self._maxlen)
  |     def append(self, x):
  |         self._row.append(x)
  |         if self._maxlen is not None and len(self._row) > self._maxlen: del self._row[0]
  |     def appendleft(self, x):
  |         self._row.insert(0, x)
  |         if self._maxlen is not None and len(self._row) > self._maxlen: del self._row[-1]
  |     def extend(self, iterable):
  |         self._row.extend(self._row[:] if iterable is self else iterable)
  |         if self._maxlen is not None and len(self._row) > self._maxlen: del self._row[:len(self._row) - self._maxlen]
  |     def extendleft(self, iterable):
  |         for x in list(iterable): self.appendleft(x)
  |     def pop(self):
  |         if not self._row: raise IndexError('pop from an empty deque')
  |         return self._row.pop()
  |     def popleft(self):
  |         if not self._row: raise IndexError('pop from an empty deque')
  |         return self._row.pop(0)
  |     def rotate(self, n=1):
  |         if self._row:
  |             n %= len(self._row)
  |             if n: self._row[:] = self._row[-n:] + self._row[:-n]
  |     def clear(self): self._row.clear()
  |     def copy(self): return type(self)(self, self._maxlen)
  |     __copy__ = copy
  |     def count(self, x): return self._row.count(x)
  |     def index(self, x, *bounds):
  |         try: return self._row.index(x, *bounds)
  |         except ValueError: raise ValueError(f'{x!r} is not in deque') from None
  |     def insert(self, i, x):
  |         if self._maxlen is not None and len(self._row) >= self._maxlen: raise IndexError('deque already at its maximum size')
  |         self._row.insert(i, x)
  |     def remove(self, x):
  |         try: self._row.remove(x)
  |         except ValueError: raise ValueError(f'{x!r} is not in deque') from None
  |     def reverse(self): self._row.reverse()
  |     def __len__(self): return len(self._row)
  |     def __bool__(self): return bool(self._row)
  |     def __iter__(self):
  |         size, row = len(self._row), self._row
  |         for x in row:
  |             yield x
  |             if len(row) != size: raise RuntimeError('deque mutated during iteration')
  |     def __reversed__(self): return reversed(self._row)
  |     def __contains__(self, x): return x in self._row
  |     def _place(self, i):
  |         if not hasattr(i, '__index__'):
  |             raise TypeError(f'sequence index must be integer, not \'{type(i).__name__}\'')
  |         if not -len(self._row) <= i < len(self._row): raise IndexError('deque index out of range')
  |         return i
  |     def __getitem__(self, i): return self._row[self._place(i)]
  |     def __setitem__(self, i, x): self._row[self._place(i)] = x
  |     def __delitem__(self, i): del self._row[self._place(i)]
  |     def __repr__(self):
  |         shown = repr(['[...]' if x is self else x for x in self._row]).replace("'[...]'", '[...]')
  |         if self._maxlen is None: return f'{type(self).__name__}({shown})'
  |         return f'{type(self).__name__}({shown}, maxlen={self._maxlen})'
  |     def __eq__(self, other): return self._row == other._row if isinstance(other, deque) else NotImplemented
  |     def __lt__(self, other): return self._row < other._row if isinstance(other, deque) else NotImplemented
  |     def __le__(self, other): return self._row <= other._row if isinstance(other, deque) else NotImplemented
  |     def __gt__(self, other): return self._row > other._row if isinstance(other, deque) else NotImplemented
  |     def __ge__(self, other): return self._row >= other._row if isinstance(other, deque) else NotImplemented
  |     __hash__ = None
  |     def __add__(self, other):
  |         if not isinstance(other, deque):
  |             raise TypeError(f'can only concatenate deque (not "{type(other).__name__}") to deque')
  |         return type(self)(self._row + other._row, self._maxlen)
  |     def __iadd__(self, other):
  |         self.extend(other)
  |         return self
  |     def __mul__(self, n): return type(self)(self._row * n, self._maxlen)
  |     __rmul__ = __mul__
  |     def __imul__(self, n):
  |         self._row[:] = self._row * n
  |         self.extend(())
  |         return self
  |     __class_getitem__ = classmethod(_aliased)
  | class ChainMap:
  |     def __init__(self, *maps): self.maps = list(maps) or [{}]
  |     def __missing__(self, key): raise KeyError(key)
  |     def __getitem__(self, key):
  |         for mapping in self.maps:
  |             try: return mapping[key]
  |             except KeyError: pass
  |         return self.__missing__(key)
  |     def get(self, key, default=None): return self[key] if key in self else default
  |     def __len__(self): return len(set().union(*self.maps))
  |     def __iter__(self):
  |         d = {}
  |         for mapping in map(dict.fromkeys, reversed(self.maps)): d |= mapping
  |         return iter(d)
  |     def __contains__(self, key): return any(key in m for m in self.maps)
  |     def __bool__(self): return any(self.maps)
  |     def __repr__(self): return f'{self.__class__.__name__}({", ".join(map(repr, self.maps))})'
  |     @classmethod
  |     def fromkeys(cls, iterable, *args): return cls(dict.fromkeys(iterable, *args))
  |     def copy(self): return self.__class__(self.maps[0].copy(), *self.maps[1:])
  |     __copy__ = copy
  |     def new_child(self, m=None, **kwargs):
  |         if m is None: m = kwargs
  |         elif kwargs: m.update(kwargs)
  |         return self.__class__(m, *self.maps)
  |     @property
  |     def parents(self): return self.__class__(*self.maps[1:])
  |     def __setitem__(self, key, value): self.maps[0][key] = value
  |     def __delitem__(self, key):
  |         try: del self.maps[0][key]
  |         except KeyError: raise KeyError(f'Key not found in the first mapping: {key!r}')
  |     def popitem(self):
  |         try: return self.maps[0].popitem()
  |         except KeyError: raise KeyError('No keys found in the first mapping.')
  |     def pop(self, key, *args):
  |         try: return self.maps[0].pop(key, *args)
  |         except KeyError: raise KeyError(f'Key not found in the first mapping: {key!r}')
  |     def clear(self): self.maps[0].clear()
  |     def keys(self): return dict(self.items()).keys()
  |     def values(self): return [self[k] for k in self]
  |     def items(self): return [(k, self[k]) for k in self]
  |     def update(self, *args, **kwds): self.maps[0].update(*args, **kwds)
  |     def setdefault(self, key, default=None):
  |         if key not in self: self[key] = default
  |         return self[key]
  |     def __eq__(self, other): return dict(self.items()) == dict(other.items()) if hasattr(other, 'items') else NotImplemented
  | class UserDict:
  |     def __init__(self, dict=None, /, **kwargs):
  |         self.data = {}
  |         if dict is not None: self.update(dict)
  |         if kwargs: self.update(kwargs)
  |     def __len__(self): return len(self.data)
  |     def __getitem__(self, key):
  |         if key in self.data: return self.data[key]
  |         if hasattr(self.__class__, '__missing__'): return self.__class__.__missing__(self, key)
  |         raise KeyError(key)
  |     def __setitem__(self, key, item): self.data[key] = item
  |     def __delitem__(self, key): del self.data[key]
  |     def __iter__(self): return iter(self.data)
  |     def __contains__(self, key): return key in self.data
  |     def __repr__(self): return repr(self.data)
  |     def __eq__(self, other): return dict(self.items()) == (other.data if isinstance(other, UserDict) else other)
  |     def get(self, key, default=None): return self[key] if key in self else default
  |     def keys(self): return self.data.keys()
  |     def values(self): return self.data.values()
  |     def items(self): return self.data.items()
  |     def pop(self, key, *default):
  |         if key in self: value = self[key]
  |         elif default: return default[0]
  |         else: raise KeyError(key)
  |         del self[key]
  |         return value
  |     def popitem(self):
  |         key = next(iter(self), _nothing)
  |         if key is _nothing: raise KeyError
  |         return key, self.pop(key)
  |     def clear(self):
  |         for key in list(self): del self[key]
  |     def update(self, other=(), /, **kwds):
  |         if hasattr(other, 'keys'):
  |             for key in other.keys(): self[key] = other[key]
  |         else:
  |             for key, value in other: self[key] = value
  |         for key, value in kwds.items(): self[key] = value
  |     def setdefault(self, key, default=None):
  |         if key not in self: self[key] = default
  |         return self[key]
  |     def copy(self): return self.__class__(self.data.copy())
  |     __copy__ = copy
  |     def __or__(self, other):
  |         return self.__class__(self.data | (other.data if isinstance(other, UserDict) else other))
  |     def __ior__(self, other):
  |         self.data |= other.data if isinstance(other, UserDict) else other
  |         return self
  |     @classmethod
  |     def fromkeys(cls, iterable, value=None):
  |         d = cls()
  |         for key in iterable: d[key] = value
  |         return d
  | class UserList:
  |     def __init__(self, initlist=None):
  |         self.data = list(initlist.data if isinstance(initlist, UserList) else initlist) if initlist is not None else []
  |     def __repr__(self): return repr(self.data)
  |     def _other(self, other): return other.data if isinstance(other, UserList) else other
  |     def __lt__(self, other): return self.data < self._other(other)
  |     def __le__(self, other): return self.data <= self._other(other)
  |     def __eq__(self, other): return self.data == self._other(other)
  |     def __gt__(self, other): return self.data > self._other(other)
  |     def __ge__(self, other): return self.data >= self._other(other)
  |     def __contains__(self, item): return item in self.data
  |     def __len__(self): return len(self.data)
  |     def __iter__(self): return iter(self.data)
  |     def __getitem__(self, i): return self.__class__(self.data[i]) if isinstance(i, slice) else self.data[i]
  |     def __setitem__(self, i, item): self.data[i] = item
  |     def __delitem__(self, i): del self.data[i]
  |     def __add__(self, other): return self.__class__(self.data + list(self._other(other)))
  |     def __radd__(self, other): return self.__class__(list(self._other(other)) + self.data)
  |     def __iadd__(self, other):
  |         self.data += self._other(other)
  |         return self
  |     def __mul__(self, n): return self.__class__(self.data * n)
  |     __rmul__ = __mul__
  |     def append(self, item): self.data.append(item)
  |     def insert(self, i, item): self.data.insert(i, item)
  |     def pop(self, i=-1): return self.data.pop(i)
  |     def remove(self, item): self.data.remove(item)
  |     def clear(self): self.data.clear()
  |     def copy(self): return self.__class__(self)
  |     __copy__ = copy
  |     def count(self, item): return self.data.count(item)
  |     def index(self, item, *args): return self.data.index(item, *args)
  |     def reverse(self): self.data.reverse()
  |     def sort(self, /, *args, **kwds): self.data.sort(*args, **kwds)
  |     def extend(self, other): self.data.extend(self._other(other))
  | class UserString:
  |     def __init__(self, seq): self.data = seq.data[:] if isinstance(seq, UserString) else str(seq)
  |     def __str__(self): return str(self.data)
  |     def __repr__(self): return repr(self.data)
  |     def __hash__(self): return hash(self.data)
  |     def _other(self, other): return other.data if isinstance(other, UserString) else other
  |     def __eq__(self, other): return self.data == self._other(other)
  |     def __lt__(self, other): return self.data < self._other(other)
  |     def __le__(self, other): return self.data <= self._other(other)
  |     def __gt__(self, other): return self.data > self._other(other)
  |     def __ge__(self, other): return self.data >= self._other(other)
  |     def __contains__(self, char): return self._other(char) in self.data
  |     def __len__(self): return len(self.data)
  |     def __getitem__(self, index): return self.__class__(self.data[index])
  |     def __iter__(self): return iter(self.data)
  |     def __add__(self, other): return self.__class__(self.data + str(self._other(other)))
  |     def __radd__(self, other): return self.__class__(str(other) + self.data)
  |     def __mul__(self, n): return self.__class__(self.data * n)
  |     __rmul__ = __mul__
  |     def __mod__(self, args): return self.__class__(self.data % args)
  |     def __int__(self): return int(self.data)
  |     def __float__(self): return float(self.data)
  |     def __getattr__(self, name):
  |         if name.startswith('_') or name == 'data': raise AttributeError(name)
  |         method = getattr(self.data, name)
  |         def call(*args, **kwds):
  |             result = method(*[self._other(a) for a in args], **kwds)
  |             return self.__class__(result) if isinstance(result, str) else result
  |         return call
  | __all__ = ['ChainMap', 'Counter', 'OrderedDict', 'UserDict', 'UserList', 'UserString', 'defaultdict', 'deque', 'namedtuple']"# }

/-- the module for what containers can do -/
def containerClassesLibrary : Library :=
  { name := "collections.abc"
    source := r#"
  | from abc import ABCMeta, abstractmethod
  | def _has(C, *methods):
  |     for m in methods:
  |         for B in C.__mro__:
  |             if m in B.__dict__ or B.__module__ == 'builtins' and B is not object and _can(B, m):
  |                 if B.__dict__.get(m, 0) is None: return NotImplemented
  |                 break
  |         else: return NotImplemented
  |     return True
  | def _can(B, m):
  |     if m == '__call__':
  |         return B.__name__ in ('function', 'builtin_function_or_method', 'method', 'method_descriptor', 'type', 'staticmethod')
  |     return B is not type and hasattr(B, m)
  | def _aliased(cls, k):
  |     from types import GenericAlias
  |     return GenericAlias(cls, k)
  | class Hashable(metaclass=ABCMeta):
  |     __slots__ = ()
  |     @abstractmethod
  |     def __hash__(self): return 0
  |     @classmethod
  |     def __subclasshook__(cls, C):
  |         if cls is Hashable:
  |             for B in C.__mro__:
  |                 if B is not object and '__hash__' in B.__dict__: return B.__dict__['__hash__'] is not None or NotImplemented
  |             return getattr(C, '__hash__', None) is not None or NotImplemented
  |         return NotImplemented
  | class Awaitable(metaclass=ABCMeta):
  |     __class_getitem__ = classmethod(_aliased)
  |     __slots__ = ()
  |     @abstractmethod
  |     def __await__(self): yield
  |     @classmethod
  |     def __subclasshook__(cls, C): return _has(C, '__await__') if cls is Awaitable else NotImplemented
  | class Coroutine(Awaitable):
  |     __slots__ = ()
  | class AsyncIterable(metaclass=ABCMeta):
  |     __class_getitem__ = classmethod(_aliased)
  |     __slots__ = ()
  |     @abstractmethod
  |     def __aiter__(self): return AsyncIterator()
  |     @classmethod
  |     def __subclasshook__(cls, C): return _has(C, '__aiter__') if cls is AsyncIterable else NotImplemented
  | class AsyncIterator(AsyncIterable):
  |     __slots__ = ()
  |     @abstractmethod
  |     async def __anext__(self): raise StopAsyncIteration
  |     def __aiter__(self): return self
  |     @classmethod
  |     def __subclasshook__(cls, C): return _has(C, '__anext__', '__aiter__') if cls is AsyncIterator else NotImplemented
  | class AsyncGenerator(AsyncIterator):
  |     __slots__ = ()
  | class Iterable(metaclass=ABCMeta):
  |     __slots__ = ()
  |     @abstractmethod
  |     def __iter__(self):
  |         while False: yield None
  |     @classmethod
  |     def __subclasshook__(cls, C): return _has(C, '__iter__') if cls is Iterable else NotImplemented
  |     __class_getitem__ = classmethod(_aliased)
  | class Iterator(Iterable):
  |     __slots__ = ()
  |     @abstractmethod
  |     def __next__(self): raise StopIteration
  |     def __iter__(self): return self
  |     @classmethod
  |     def __subclasshook__(cls, C): return _has(C, '__iter__', '__next__') if cls is Iterator else NotImplemented
  | class Reversible(Iterable):
  |     __slots__ = ()
  |     @abstractmethod
  |     def __reversed__(self):
  |         while False: yield None
  |     @classmethod
  |     def __subclasshook__(cls, C): return _has(C, '__reversed__', '__iter__') if cls is Reversible else NotImplemented
  | class Generator(Iterator):
  |     __slots__ = ()
  |     def __next__(self): return self.send(None)
  |     @abstractmethod
  |     def send(self, value): raise StopIteration
  |     @abstractmethod
  |     def throw(self, typ, val=None, tb=None): raise typ
  |     def close(self):
  |         try: self.throw(GeneratorExit)
  |         except (GeneratorExit, StopIteration): pass
  |         else: raise RuntimeError('generator ignored GeneratorExit')
  |     @classmethod
  |     def __subclasshook__(cls, C):
  |         return _has(C, '__iter__', '__next__', 'send', 'throw', 'close') if cls is Generator else NotImplemented
  | class Sized(metaclass=ABCMeta):
  |     __slots__ = ()
  |     @abstractmethod
  |     def __len__(self): return 0
  |     @classmethod
  |     def __subclasshook__(cls, C): return _has(C, '__len__') if cls is Sized else NotImplemented
  | class Container(metaclass=ABCMeta):
  |     __slots__ = ()
  |     @abstractmethod
  |     def __contains__(self, x): return False
  |     @classmethod
  |     def __subclasshook__(cls, C): return _has(C, '__contains__') if cls is Container else NotImplemented
  |     __class_getitem__ = classmethod(_aliased)
  | class Collection(Sized, Iterable, Container):
  |     __slots__ = ()
  |     @classmethod
  |     def __subclasshook__(cls, C):
  |         return _has(C, '__len__', '__iter__', '__contains__') if cls is Collection else NotImplemented
  | class Callable(metaclass=ABCMeta):
  |     __slots__ = ()
  |     @abstractmethod
  |     def __call__(self, *args, **kwds): return False
  |     @classmethod
  |     def __subclasshook__(cls, C):
  |         return _has(C, '__call__') if cls is Callable else NotImplemented
  |     __class_getitem__ = classmethod(_aliased)
  | class Set(Collection):
  |     __slots__ = ()
  |     def __le__(self, other):
  |         if not isinstance(other, Set): return NotImplemented
  |         return len(self) <= len(other) and all(e in other for e in self)
  |     def __lt__(self, other):
  |         if not isinstance(other, Set): return NotImplemented
  |         return len(self) < len(other) and self.__le__(other)
  |     def __gt__(self, other):
  |         if not isinstance(other, Set): return NotImplemented
  |         return len(self) > len(other) and self.__ge__(other)
  |     def __ge__(self, other):
  |         if not isinstance(other, Set): return NotImplemented
  |         return len(self) >= len(other) and all(e in self for e in other)
  |     def __eq__(self, other):
  |         if not isinstance(other, Set): return NotImplemented
  |         return len(self) == len(other) and self.__le__(other)
  |     @classmethod
  |     def _from_iterable(cls, it): return cls(it)
  |     def __and__(self, other):
  |         if not isinstance(other, Iterable): return NotImplemented
  |         return self._from_iterable(value for value in other if value in self)
  |     __rand__ = __and__
  |     def isdisjoint(self, other): return not any(value in self for value in other)
  |     def __or__(self, other):
  |         if not isinstance(other, Iterable): return NotImplemented
  |         return self._from_iterable(e for s in (self, other) for e in s)
  |     __ror__ = __or__
  |     def __sub__(self, other):
  |         if not isinstance(other, Set):
  |             if not isinstance(other, Iterable): return NotImplemented
  |             other = self._from_iterable(other)
  |         return self._from_iterable(value for value in self if value not in other)
  |     def __rsub__(self, other):
  |         if not isinstance(other, Set):
  |             if not isinstance(other, Iterable): return NotImplemented
  |             other = self._from_iterable(other)
  |         return self._from_iterable(value for value in other if value not in self)
  |     def __xor__(self, other):
  |         if not isinstance(other, Set):
  |             if not isinstance(other, Iterable): return NotImplemented
  |             other = self._from_iterable(other)
  |         return (self - other) | (other - self)
  |     __rxor__ = __xor__
  |     def _hash(self): return hash(frozenset(self))
  |     __hash__ = None
  | class MutableSet(Set):
  |     __slots__ = ()
  |     @abstractmethod
  |     def add(self, value): raise NotImplementedError
  |     @abstractmethod
  |     def discard(self, value): raise NotImplementedError
  |     def remove(self, value):
  |         if value not in self: raise KeyError(value)
  |         self.discard(value)
  |     def pop(self):
  |         it = iter(self)
  |         try: value = next(it)
  |         except StopIteration: raise KeyError from None
  |         self.discard(value)
  |         return value
  |     def clear(self):
  |         try:
  |             while True: self.pop()
  |         except KeyError: pass
  |     def __ior__(self, it):
  |         for value in it: self.add(value)
  |         return self
  |     def __iand__(self, it):
  |         for value in (self - it): self.discard(value)
  |         return self
  |     def __ixor__(self, it):
  |         if it is self: self.clear()
  |         else:
  |             for value in list(it):
  |                 if value in self: self.discard(value)
  |                 else: self.add(value)
  |         return self
  |     def __isub__(self, it):
  |         if it is self: self.clear()
  |         else:
  |             for value in it: self.discard(value)
  |         return self
  | class MappingView(Sized):
  |     __class_getitem__ = classmethod(_aliased)
  |     def __init__(self, mapping): self._mapping = mapping
  |     def __len__(self): return len(self._mapping)
  |     def __repr__(self): return '{0.__class__.__name__}({0._mapping!r})'.format(self)
  | class KeysView(MappingView, Set):
  |     @classmethod
  |     def _from_iterable(cls, it): return set(it)
  |     def __contains__(self, key): return key in self._mapping
  |     def __iter__(self): yield from self._mapping
  | class ItemsView(MappingView, Set):
  |     @classmethod
  |     def _from_iterable(cls, it): return set(it)
  |     def __contains__(self, item):
  |         key, value = item
  |         try: v = self._mapping[key]
  |         except KeyError: return False
  |         return v is value or v == value
  |     def __iter__(self):
  |         for key in self._mapping: yield (key, self._mapping[key])
  | class ValuesView(MappingView, Collection):
  |     def __contains__(self, value):
  |         for key in self._mapping:
  |             v = self._mapping[key]
  |             if v is value or v == value: return True
  |         return False
  |     def __iter__(self):
  |         for key in self._mapping: yield self._mapping[key]
  | class Mapping(Collection):
  |     __slots__ = ()
  |     @abstractmethod
  |     def __getitem__(self, key): raise KeyError
  |     def get(self, key, default=None):
  |         try: return self[key]
  |         except KeyError: return default
  |     def __contains__(self, key):
  |         try: self[key]
  |         except KeyError: return False
  |         else: return True
  |     def keys(self): return KeysView(self)
  |     def items(self): return ItemsView(self)
  |     def values(self): return ValuesView(self)
  |     def __eq__(self, other):
  |         if not isinstance(other, Mapping): return NotImplemented
  |         return dict(self.items()) == dict(other.items())
  |     __reversed__ = None
  |     __hash__ = None
  | _marker = object()
  | class MutableMapping(Mapping):
  |     __slots__ = ()
  |     @abstractmethod
  |     def __setitem__(self, key, value): raise KeyError
  |     @abstractmethod
  |     def __delitem__(self, key): raise KeyError
  |     def pop(self, key, default=_marker):
  |         try: value = self[key]
  |         except KeyError:
  |             if default is _marker: raise
  |             return default
  |         else:
  |             del self[key]
  |             return value
  |     def popitem(self):
  |         try: key = next(iter(self))
  |         except StopIteration: raise KeyError from None
  |         value = self[key]
  |         del self[key]
  |         return key, value
  |     def clear(self):
  |         try:
  |             while True: self.popitem()
  |         except KeyError: pass
  |     def update(self, other=(), /, **kwds):
  |         if isinstance(other, Mapping):
  |             for key in other: self[key] = other[key]
  |         elif hasattr(other, 'keys'):
  |             for key in other.keys(): self[key] = other[key]
  |         else:
  |             for key, value in other: self[key] = value
  |         for key, value in kwds.items(): self[key] = value
  |     def setdefault(self, key, default=None):
  |         try: return self[key]
  |         except KeyError: self[key] = default
  |         return default
  | class Sequence(Reversible, Collection):
  |     __slots__ = ()
  |     @abstractmethod
  |     def __getitem__(self, index): raise IndexError
  |     def __iter__(self):
  |         i = 0
  |         try:
  |             while True:
  |                 v = self[i]
  |                 yield v
  |                 i += 1
  |         except IndexError: return
  |     def __contains__(self, value):
  |         for v in self:
  |             if v is value or v == value: return True
  |         return False
  |     def __reversed__(self):
  |         for i in reversed(range(len(self))): yield self[i]
  |     def index(self, value, start=0, stop=None):
  |         if start is not None and start < 0: start = max(len(self) + start, 0)
  |         if stop is not None and stop < 0: stop += len(self)
  |         i = start
  |         while stop is None or i < stop:
  |             try: v = self[i]
  |             except IndexError: break
  |             if v is value or v == value: return i
  |             i += 1
  |         raise ValueError
  |     def count(self, value): return sum(1 for v in self if v is value or v == value)
  | class ByteString(Sequence):
  |     __slots__ = ()
  | class MutableSequence(Sequence):
  |     __slots__ = ()
  |     @abstractmethod
  |     def __setitem__(self, index, value): raise IndexError
  |     @abstractmethod
  |     def __delitem__(self, index): raise IndexError
  |     @abstractmethod
  |     def insert(self, index, value): raise IndexError
  |     def append(self, value): self.insert(len(self), value)
  |     def clear(self):
  |         try:
  |             while True: self.pop()
  |         except IndexError: pass
  |     def reverse(self):
  |         n = len(self)
  |         for i in range(n // 2): self[i], self[n - i - 1] = self[n - i - 1], self[i]
  |     def extend(self, values):
  |         if values is self: values = list(values)
  |         for v in values: self.append(v)
  |     def pop(self, index=-1):
  |         v = self[index]
  |         del self[index]
  |         return v
  |     def remove(self, value): del self[self.index(value)]
  |     def __iadd__(self, values):
  |         self.extend(values)
  |         return self
  | for _c in (tuple, str, range): Sequence._abc_registry.append(_c)
  | for _c in (bytes, bytearray): ByteString._abc_registry.append(_c)
  | for _c in (list, bytearray): MutableSequence._abc_registry.append(_c)
  | Set._abc_registry.append(frozenset)
  | MutableSet._abc_registry.append(set)
  | MutableMapping._abc_registry.append(dict)
  | Mapping._abc_registry.append(type(type.__dict__))
  | KeysView._abc_registry.append(type({}.keys()))
  | ItemsView._abc_registry.append(type({}.items()))
  | ValuesView._abc_registry.append(type({}.values()))
  | Generator._abc_registry.append(type(_ for _ in ()))
  | Iterator._abc_registry.append(type(_ for _ in ()))
  | async def _co(): pass
  | _k = _co()
  | Coroutine._abc_registry.append(type(_k))
  | _k.close()
  | __all__ = ['Awaitable', 'Coroutine', 'AsyncIterable', 'AsyncIterator', 'AsyncGenerator', 'Hashable', 'Iterable',
  |     'Iterator', 'Generator', 'Reversible', 'Sized', 'Container', 'Callable', 'Collection', 'Set', 'MutableSet', 'Mapping',
  |     'MutableMapping', 'MappingView', 'KeysView', 'ItemsView', 'ValuesView', 'Sequence', 'MutableSequence', 'ByteString']"# }

/-- the module for rows whose least element comes first -/
def heapsLibrary : Library :=
  { name := "heapq"
    source := r#"
  | __all__ = ['heappush', 'heappop', 'heapify', 'heapreplace', 'merge', 'nlargest', 'nsmallest', 'heappushpop']
  | def _rise(heap, start, pos):
  |     item = heap[pos]
  |     while pos > start:
  |         parent = (pos - 1) >> 1
  |         if item < heap[parent]:
  |             heap[pos] = heap[parent]
  |             pos = parent
  |             continue
  |         break
  |     heap[pos] = item
  | def _sink(heap, pos):
  |     end, start, item = len(heap), pos, heap[pos]
  |     child = 2 * pos + 1
  |     while child < end:
  |         right = child + 1
  |         if right < end and not heap[child] < heap[right]: child = right
  |         heap[pos] = heap[child]
  |         pos = child
  |         child = 2 * pos + 1
  |     heap[pos] = item
  |     _rise(heap, start, pos)
  | def heappush(heap, item):
  |     heap.append(item)
  |     _rise(heap, 0, len(heap) - 1)
  | def heappop(heap):
  |     if not heap: raise IndexError('index out of range')
  |     last = heap.pop()
  |     if heap:
  |         result = heap[0]
  |         heap[0] = last
  |         _sink(heap, 0)
  |         return result
  |     return last
  | def heapreplace(heap, item):
  |     if not heap: raise IndexError('index out of range')
  |     result = heap[0]
  |     heap[0] = item
  |     _sink(heap, 0)
  |     return result
  | def heappushpop(heap, item):
  |     if heap and heap[0] < item:
  |         item, heap[0] = heap[0], item
  |         _sink(heap, 0)
  |     return item
  | def heapify(x):
  |     for i in reversed(range(len(x) // 2)): _sink(x, i)
  | def merge(*iterables, key=None, reverse=False):
  |     rows = [iter(it) for it in iterables]
  |     heads = []
  |     for order, it in enumerate(rows):
  |         for value in it:
  |             heads.append([value if key is None else key(value), order, value])
  |             break
  |     while heads:
  |         best = heads[0]
  |         for h in heads[1:]:
  |             if (best[0] < h[0]) if reverse else (h[0] < best[0]): best = h
  |         yield best[2]
  |         for value in rows[best[1]]:
  |             best[0], best[2] = value if key is None else key(value), value
  |             break
  |         else: heads.remove(best)
  | def nsmallest(n, iterable, key=None): return sorted(iterable, key=key)[:max(n, 0)]
  | def nlargest(n, iterable, key=None): return sorted(iterable, key=key, reverse=True)[:max(n, 0)]"# }

/-- the module for places in sorted rows -/
def bisectionLibrary : Library :=
  { name := "bisect"
    source := r#"
  | def bisect_right(a, x, lo=0, hi=None, *, key=None):
  |     if lo < 0: raise ValueError('lo must be non-negative')
  |     if hi is None: hi = len(a)
  |     while lo < hi:
  |         mid = (lo + hi) // 2
  |         if x < (a[mid] if key is None else key(a[mid])): hi = mid
  |         else: lo = mid + 1
  |     return lo
  | def bisect_left(a, x, lo=0, hi=None, *, key=None):
  |     if lo < 0: raise ValueError('lo must be non-negative')
  |     if hi is None: hi = len(a)
  |     while lo < hi:
  |         mid = (lo + hi) // 2
  |         if (a[mid] if key is None else key(a[mid])) < x: lo = mid + 1
  |         else: hi = mid
  |     return lo
  | def insort_right(a, x, lo=0, hi=None, *, key=None):
  |     a.insert(bisect_right(a, x if key is None else key(x), lo, hi, key=key), x)
  | def insort_left(a, x, lo=0, hi=None, *, key=None):
  |     a.insert(bisect_left(a, x if key is None else key(x), lo, hi, key=key), x)
  | bisect, insort = bisect_right, insort_right"# }

/-- the module for copies of values -/
def copiesLibrary : Library :=
  { name := "copy"
    source := r#"
  | class Error(Exception): pass
  | error = Error
  | _plain = (int, float, bool, complex, str, tuple, bytes, frozenset, type, range, slice, property, type(Ellipsis),
  |     type(NotImplemented), type(None), type(len), type(lambda: 0), type(str.join))
  | def copy(x):
  |     cls = type(x)
  |     if cls in _plain or issubclass(cls, type): return x
  |     if cls in (list, dict, set, bytearray): return x.copy()
  |     m = getattr(cls, '__copy__', None)
  |     if m is not None: return m(x)
  |     return _rebuild(x, cls, None)
  | def deepcopy(x, memo=None, _nil=[]):
  |     if memo is None: memo = {}
  |     y = memo.get(id(x), _nil) if not isinstance(x, (int, str, float, bytes, type(None))) else _nil
  |     if y is not _nil: return y
  |     cls = type(x)
  |     if cls is list:
  |         y = []
  |         memo[id(x)] = y
  |         for a in x: y.append(deepcopy(a, memo))
  |     elif cls is dict:
  |         y = {}
  |         memo[id(x)] = y
  |         for k, v in x.items(): y[deepcopy(k, memo)] = deepcopy(v, memo)
  |     elif cls is tuple:
  |         y = tuple([deepcopy(a, memo) for a in x])
  |         if all(a is b for a, b in zip(x, y)): y = x
  |     elif cls in (set, bytearray): y = cls(deepcopy(a, memo) for a in x)
  |     elif cls is frozenset: y = frozenset(deepcopy(a, memo) for a in x)
  |     elif cls in _plain or issubclass(cls, type): return x
  |     elif cls is type(copy.__get__(x)): y = cls(x.__func__, deepcopy(x.__self__, memo))
  |     else:
  |         m = getattr(x, '__deepcopy__', None)
  |         y = m(memo) if m is not None else _rebuild(x, cls, memo)
  |     if y is not x: memo[id(x)] = y
  |     return y
  | def _rebuild(x, cls, memo):
  |     again = (lambda v: v) if memo is None else (lambda v: deepcopy(v, memo))
  |     if '__reduce__' in _names(cls) or '__reduce_ex__' in _names(cls):
  |         parts = x.__reduce_ex__(4) if '__reduce_ex__' in _names(cls) else x.__reduce__()
  |         if isinstance(parts, str): return x
  |         y = parts[0](*again(parts[1]))
  |         if memo is not None: memo[id(x)] = y
  |         if len(parts) > 2 and parts[2] is not None: _fill(y, again(parts[2]))
  |         return y
  |     name = cls.__module__ + '.' + cls.__name__ if cls.__module__ != 'builtins' else cls.__name__
  |     if name in ('_io.TextIOWrapper', '_io.BufferedReader', '_io.BufferedWriter', 'generator', 'module', 'coroutine', 'dict_keys',
  |         'dict_values', 'dict_items', 're.Match'): raise TypeError(f"cannot pickle '{name}' object")
  |     if name in ('re.Pattern', 're.Match'): return x
  |     if isinstance(x, BaseException):
  |         y = cls.__new__(cls, *again(x.args))
  |         y.args = again(x.args)
  |     elif '__getnewargs__' in _names(cls): y = cls.__new__(cls, *again(x.__getnewargs__()))
  |     elif isinstance(x, (int, float, str, bytes, tuple, frozenset)):
  |         y = cls.__new__(cls, next(b for b in cls.__mro__ if b.__module__ == 'builtins')(x))
  |     else: y = cls.__new__(cls)
  |     if memo is not None: memo[id(x)] = y
  |     state = getattr(x, '__dict__', None)
  |     if '__getstate__' in _names(cls):
  |         state = x.__getstate__()
  |         if state: _fill(y, again(state))
  |     elif state: _fill(y, again(state))
  |     for c in cls.__mro__:
  |         slots = c.__dict__.get('__slots__', ())
  |         for s in (slots,) if isinstance(slots, str) else slots:
  |             if s not in ('__dict__', '__weakref__') and hasattr(x, s): object.__setattr__(y, s, again(getattr(x, s)))
  |     if isinstance(x, list): y.extend(again(a) for a in x)
  |     elif isinstance(x, dict):
  |         for k, v in x.items(): y[again(k)] = again(v)
  |     elif isinstance(x, set): y.update(again(a) for a in x)
  |     return y
  | def _names(cls): return {n for c in cls.__mro__ if c.__module__ != 'builtins' for n in c.__dict__}
  | def _fill(y, state):
  |     if hasattr(y, '__setstate__'): y.__setstate__(state)
  |     elif isinstance(state, dict):
  |         for k, v in state.items(): object.__setattr__(y, k, v)
  | def replace(obj, /, **changes): return obj.__replace__(**changes)
  | __all__ = ['Error', 'copy', 'deepcopy']"# }

def numberRowsLibrary : Library :=
  { name := "array"
    source := r#"
  | import struct
  | typecodes = 'bBuhHiIlLqQfd'
  | class array:
  |     __kind__ = 'array.array'
  |     def __init__(self, typecode, initializer=(), /):
  |         if not isinstance(typecode, str) or len(typecode) != 1:
  |             raise TypeError(f'array() argument 1 must be a unicode character, not {type(typecode).__name__}')
  |         if typecode not in typecodes: raise ValueError('bad typecode (must be b, B, u, h, H, i, I, l, L, q, Q, f or d)')
  |         self.typecode, self._items = typecode, []
  |         self.itemsize = 4 if typecode == 'u' else struct.calcsize(typecode)
  |         if isinstance(initializer, (bytes, bytearray)): self.frombytes(initializer)
  |         elif isinstance(initializer, str):
  |             if typecode != 'u': raise TypeError(f"cannot use a str to initialize an array with typecode '{typecode}'")
  |             self._items = list(initializer)
  |         else: self.extend(initializer)
  |     def _right(self, v):
  |         c = self.typecode
  |         if c == 'u': return v
  |         if c in 'fd':
  |             if not hasattr(v, '__float__') and not hasattr(v, '__index__'): raise TypeError(f'must be real number, not {type(v).__name__}')
  |             return struct.unpack(c, struct.pack(c, v))[0]
  |         if not hasattr(v, '__index__'): raise TypeError(f"'{type(v).__name__}' object cannot be interpreted as an integer")
  |         v = v.__index__()
  |         names = {'b': 'signed char', 'B': 'unsigned byte integer', 'h': 'signed short integer', 'H': 'unsigned short', 'i': 'signed integer',
  |             'I': 'unsigned int', 'l': 'signed long', 'L': 'unsigned long', 'q': 'signed long long', 'Q': 'unsigned long long'}
  |         bits = self.itemsize * 8
  |         low, high = (-(1 << bits - 1), (1 << bits - 1) - 1) if c in 'bhilq' else (0, (1 << bits) - 1)
  |         if v < low: raise OverflowError(f"{names[c]} is less than minimum")
  |         if v > high: raise OverflowError(f"{names[c]} is greater than maximum")
  |         return v
  |     def append(self, v, /): self._items.append(self._right(v))
  |     def extend(self, bb, /):
  |         if isinstance(bb, array) and bb.typecode != self.typecode: raise TypeError('can only extend with array of same kind')
  |         for v in bb: self.append(v)
  |     fromlist = extend
  |     def frombytes(self, buffer, /):
  |         if len(buffer) % self.itemsize: raise ValueError('bytes length not a multiple of item size')
  |         n = len(buffer) // self.itemsize
  |         if self.typecode == 'u': self._items += list(bytes(buffer).decode('utf-32-le'))
  |         else: self._items += struct.unpack(f'{n}{self.typecode}', buffer)
  |     def fromunicode(self, ustr, /): self._items += list(ustr)
  |     def fromfile(self, f, n, /):
  |         data = f.read(n * self.itemsize)
  |         self.frombytes(data)
  |         if len(data) < n * self.itemsize: raise EOFError('read() didn\'t return enough bytes')
  |     def tofile(self, f, /): f.write(self.tobytes())
  |     def tobytes(self):
  |         if self.typecode == 'u': return ''.join(self._items).encode('utf-32-le')
  |         return struct.pack(f'{len(self._items)}{self.typecode}', *self._items)
  |     def tolist(self): return list(self._items)
  |     def tounicode(self): return ''.join(self._items)
  |     def insert(self, i, v, /): self._items.insert(i, self._right(v))
  |     def pop(self, i=-1, /):
  |         if not self._items: raise IndexError('pop from empty array')
  |         return self._items.pop(i)
  |     def remove(self, v, /):
  |         if v not in self._items: raise ValueError('array.remove(x): x not in array')
  |         self._items.remove(v)
  |     def index(self, v, start=0, stop=9223372036854775807, /):
  |         try: return self._items.index(v, start, stop)
  |         except ValueError: raise ValueError('array.index(x): x not in array') from None
  |     def count(self, v, /): return self._items.count(v)
  |     def reverse(self): self._items.reverse()
  |     def byteswap(self): self._items = list(struct.unpack(f'>{len(self)}{self.typecode}', struct.pack(f'<{len(self)}{self.typecode}', *self._items)))
  |     def buffer_info(self): return (id(self), len(self._items))
  |     def __bytes__(self): return self.tobytes()
  |     def __len__(self): return len(self._items)
  |     def __iter__(self): return iter(self._items)
  |     def __contains__(self, v): return v in self._items
  |     def __getitem__(self, i):
  |         if isinstance(i, slice): return array(self.typecode, self._items[i])
  |         try: return self._items[i]
  |         except IndexError: raise IndexError('array index out of range') from None
  |     def __setitem__(self, i, v):
  |         if isinstance(i, slice):
  |             if not isinstance(v, array): raise TypeError(f'can only assign array (not "{type(v).__name__}") to array slice')
  |             self._items[i] = v._items
  |             return
  |         try: self._items[i] = self._right(v)
  |         except IndexError: raise IndexError('array assignment index out of range') from None
  |     def __delitem__(self, i): del self._items[i]
  |     def __add__(self, other):
  |         if not isinstance(other, array): raise TypeError(f'can only append array (not "{type(other).__name__}") to array')
  |         return array(self.typecode, self._items + other._items)
  |     def __iadd__(self, other):
  |         if not isinstance(other, array): raise TypeError(f'can only extend with array (not "{type(other).__name__}")')
  |         self.extend(other)
  |         return self
  |     def __mul__(self, n): return array(self.typecode, self._items * n)
  |     __rmul__ = __mul__
  |     def _order(self, other): return isinstance(other, array)
  |     def __eq__(self, other): return self._items == other._items if isinstance(other, array) else NotImplemented
  |     def __lt__(self, other): return self._items < other._items if isinstance(other, array) else NotImplemented
  |     def __le__(self, other): return self._items <= other._items if isinstance(other, array) else NotImplemented
  |     def __gt__(self, other): return self._items > other._items if isinstance(other, array) else NotImplemented
  |     def __ge__(self, other): return self._items >= other._items if isinstance(other, array) else NotImplemented
  |     __hash__ = None
  |     def __copy__(self): return array(self.typecode, self._items)
  |     def __repr__(self):
  |         if not self._items: return f"array('{self.typecode}')"
  |         return f"array('{self.typecode}', " + (repr(''.join(self._items)) if self.typecode == 'u' else repr(self._items)) + ')'
  | ArrayType = array"# }

/-- the module for orders in which everything comes after what it needs -/
def ordersLibrary : Library :=
  { name := "graphlib"
    source := r#"
  | class CycleError(ValueError): pass
  | class TopologicalSorter:
  |     def __init__(self, graph=None):
  |         self._node, self._ready, self._passed, self._finished = {}, None, 0, 0
  |         for node, before in (graph or {}).items(): self.add(node, *before)
  |     def _info(self, node): return self._node.setdefault(node, [node, 0, []])
  |     def add(self, node, *predecessors):
  |         if self._ready is not None: raise ValueError('Nodes cannot be added after a call to prepare()')
  |         own = self._info(node)
  |         own[1] += len(predecessors)
  |         for p in predecessors: self._info(p)[2].append(node)
  |     def prepare(self):
  |         if self._ready is not None: raise ValueError('cannot prepare() more than once')
  |         self._ready = [n for n, i in self._node.items() if i[1] == 0]
  |         cycle = self._find_cycle()
  |         if cycle: raise CycleError('nodes are in a cycle', cycle)
  |     def get_ready(self):
  |         if self._ready is None: raise ValueError('prepare() must be called first')
  |         result = tuple(self._ready)
  |         for n in result: self._node[n][1] = -1
  |         self._ready.clear()
  |         self._passed += len(result)
  |         return result
  |     def is_active(self):
  |         if self._ready is None: raise ValueError('prepare() must be called first')
  |         return self._finished < self._passed or bool(self._ready)
  |     def __bool__(self): return self.is_active()
  |     def done(self, *nodes):
  |         if self._ready is None: raise ValueError('prepare() must be called first')
  |         for node in nodes:
  |             if node not in self._node: raise ValueError(f'node {node!r} was not added using add()')
  |             own = self._node[node]
  |             if own[1] != -1:
  |                 if own[1] >= 0: raise ValueError(f'node {node!r} was not passed out (still not ready)')
  |                 raise ValueError(f'node {node!r} was already marked done')
  |             own[1] = -2
  |             for s in own[2]:
  |                 self._node[s][1] -= 1
  |                 if self._node[s][1] == 0: self._ready.append(s)
  |             self._finished += 1
  |     def _find_cycle(self):
  |         stack, itstack, seen, place = [], [], set(), {}
  |         for node in self._node:
  |             if node in seen: continue
  |             while True:
  |                 if node in seen:
  |                     if node in place: return stack[place[node]:] + [node]
  |                 else:
  |                     seen.add(node)
  |                     itstack.append(iter(self._node[node][2]).__next__)
  |                     place[node] = len(stack)
  |                     stack.append(node)
  |                 while stack:
  |                     try:
  |                         node = itstack[-1]()
  |                         break
  |                     except StopIteration:
  |                         del place[stack.pop()]
  |                         itstack.pop()
  |                 else: break
  |         return None
  |     def static_order(self):
  |         self.prepare()
  |         while self.is_active():
  |             group = self.get_ready()
  |             yield from group
  |             self.done(*group)"# }

/-- the module for work that is put off -/
def plansLibrary : Library :=
  { name := "sched"
    source := r#"
  | import heapq, time
  | from collections import namedtuple
  | Event = namedtuple('Event', 'time, priority, sequence, action, argument, kwargs')
  | class scheduler:
  |     def __init__(self, timefunc=time.monotonic, delayfunc=time.sleep):
  |         self._queue, self.timefunc, self.delayfunc, self._count = [], timefunc, delayfunc, 0
  |     def enterabs(self, time, priority, action, argument=(), kwargs={}):
  |         event = Event(time, priority, self._count, action, argument, kwargs)
  |         self._count += 1
  |         heapq.heappush(self._queue, event)
  |         return event
  |     def enter(self, delay, priority, action, argument=(), kwargs={}):
  |         return self.enterabs(self.timefunc() + delay, priority, action, argument, kwargs)
  |     def cancel(self, event):
  |         self._queue.remove(event)
  |         heapq.heapify(self._queue)
  |     def empty(self): return not self._queue
  |     def run(self, blocking=True):
  |         while self._queue:
  |             event, now = self._queue[0], self.timefunc()
  |             if event.time > now:
  |                 if not blocking: return event.time - now
  |                 self.delayfunc(event.time - now)
  |             else:
  |                 heapq.heappop(self._queue)
  |                 event.action(*event.argument, **event.kwargs)
  |                 self.delayfunc(0)
  |     queue = property(lambda self: sorted(self._queue))"# }

/-- modules for containers of values: rows with two ends, counts, views of several dictionaries, heaps, and copies -/
def containersLibraries : List Library :=
  [collectionsLibrary, containerClassesLibrary, heapsLibrary, bisectionLibrary, copiesLibrary, numberRowsLibrary,
   ordersLibrary, plansLibrary]

end IncludeAudit.Offside
