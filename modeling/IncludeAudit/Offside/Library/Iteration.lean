/-
Modules for working through values one by one and for functions made of functions.

- `iterationLibraries`: the modules.
-/
import IncludeAudit.Offside.Library.Basic

namespace IncludeAudit.Offside

/-- the module for streams of values -/
def iterationLibrary : Library :=
  { name := "itertools"
    source := r#"
  | class _Stream:
  |     def __init__(self, steps, shown=None): self._steps, self._shown = steps, shown
  |     def __iter__(self): return self
  |     def __next__(self): return next(self._steps)
  | class count(_Stream):
  |     def __new__(cls, start=0, step=1):
  |         if not hasattr(start, '__add__') or isinstance(start, (str, list, tuple)): raise TypeError('a number is required')
  |         return object.__new__(cls)
  |     def __init__(self, start=0, step=1): self._at, self._step = start, step
  |     def __next__(self):
  |         now = self._at
  |         self._at = now + self._step
  |         return now
  |     def __repr__(self):
  |         return f'count({self._at!r})' if self._step == 1 and isinstance(self._step, int) else f'count({self._at!r}, {self._step!r})'
  | class cycle(_Stream):
  |     def __init__(self, iterable): super().__init__(self._turn(iter(iterable)))
  |     @staticmethod
  |     def _turn(it):
  |         seen = []
  |         for x in it:
  |             yield x
  |             seen.append(x)
  |         while seen: yield from seen
  | class repeat(_Stream):
  |     def __init__(self, object, times=None): self._value, self._left = object, times if times is None else max(times, 0)
  |     def __next__(self):
  |         if self._left is not None:
  |             if self._left <= 0: raise StopIteration
  |             self._left -= 1
  |         return self._value
  |     def __len__(self):
  |         if self._left is None: raise TypeError('len() of unsized object')
  |         return self._left
  |     __length_hint__ = __len__
  |     def __repr__(self):
  |         return f'repeat({self._value!r})' if self._left is None else f'repeat({self._value!r}, {self._left})'
  | class accumulate(_Stream):
  |     def __init__(self, iterable, func=None, *, initial=None): super().__init__(self._sums(iter(iterable), func, initial))
  |     @staticmethod
  |     def _sums(it, func, total):
  |         if total is None:
  |             for total in it: break
  |             else: return
  |         yield total
  |         for x in it:
  |             total = total + x if func is None else func(total, x)
  |             yield total
  | class chain(_Stream):
  |     def __init__(self, *iterables): super().__init__(self._parts(iterables))
  |     @staticmethod
  |     def _parts(iterables):
  |         for it in iterables: yield from it
  |     @classmethod
  |     def from_iterable(cls, iterables):
  |         self = cls()
  |         self._steps = cls._parts(iterables)
  |         return self
  | class compress(_Stream):
  |     def __init__(self, data, selectors): super().__init__(d for d, s in zip(data, selectors) if s)
  | class dropwhile(_Stream):
  |     def __init__(self, predicate, iterable, /): super().__init__(self._rest(predicate, iter(iterable)))
  |     @staticmethod
  |     def _rest(predicate, it):
  |         for x in it:
  |             if not predicate(x):
  |                 yield x
  |                 break
  |         yield from it
  | class takewhile(_Stream):
  |     def __init__(self, predicate, iterable, /): super().__init__(self._front(predicate, iter(iterable)))
  |     @staticmethod
  |     def _front(predicate, it):
  |         for x in it:
  |             if not predicate(x): return
  |             yield x
  | class filterfalse(_Stream):
  |     def __init__(self, function, iterable, /):
  |         super().__init__(x for x in iterable if not (x if function is None else function(x)))
  | class starmap(_Stream):
  |     def __init__(self, function, iterable, /): super().__init__(function(*args) for args in iterable)
  | class groupby(_Stream):
  |     def __init__(self, iterable, key=None):
  |         self._it, self._key = iter(iterable), key
  |         self._current = self._wanted = self._value = self
  |         self._round = None
  |     def _advance(self):
  |         self._value = next(self._it)
  |         self._current = self._value if self._key is None else self._key(self._value)
  |     def __next__(self):
  |         self._round = round = object()
  |         while self._current is self._wanted or self._current == self._wanted: self._advance()
  |         self._wanted = self._current
  |         return self._current, _Group(self._members(self._wanted, round))
  |     def _members(self, wanted, round):
  |         while self._round is round and (self._current is wanted or self._current == wanted):
  |             yield self._value
  |             try: self._advance()
  |             except StopIteration: return
  | class _Group(_Stream): pass
  | _Group.__name__ = '_grouper'
  | class islice(_Stream):
  |     def __init__(self, iterable, /, *args):
  |         if not args or len(args) > 3:
  |             raise TypeError(f'islice expected at {"least 2" if not args else "most 4"} arguments, got {len(args) + 1}')
  |         s = slice(*args)
  |         for v in (s.start, s.stop):
  |             if v is not None and (not isinstance(v, int) or v < 0):
  |                 raise ValueError('Stop argument for islice() must be None or an integer: 0 <= x <= sys.maxsize.'
  |                     if len(args) == 1 else 'Indices for islice() must be None or an integer: 0 <= x <= sys.maxsize.')
  |         if s.step is not None and (not isinstance(s.step, int) or s.step < 1):
  |             raise ValueError('Step for islice() must be a positive integer or None.')
  |         super().__init__(self._cut(iter(iterable), s.start or 0, s.stop, s.step or 1))
  |     @staticmethod
  |     def _cut(it, start, stop, step):
  |         n, wanted = 0, start
  |         if stop is not None and stop <= start:
  |             for _ in it if stop else ():
  |                 n += 1
  |                 if n >= stop: break
  |             return
  |         for x in it:
  |             if n == wanted:
  |                 yield x
  |                 wanted += step
  |             n += 1
  |             if stop is not None and n >= stop: return
  | class pairwise(_Stream):
  |     def __init__(self, iterable, /): super().__init__(self._pairs(iter(iterable)))
  |     @staticmethod
  |     def _pairs(it):
  |         for a in it:
  |             for b in it:
  |                 yield a, b
  |                 a = b
  | class zip_longest(_Stream):
  |     def __init__(self, *iterables, fillvalue=None): super().__init__(self._rows([iter(i) for i in iterables], fillvalue))
  |     @staticmethod
  |     def _rows(its, fill):
  |         left = len(its)
  |         while left:
  |             row = []
  |             for i, it in enumerate(its):
  |                 if it is None: row.append(fill)
  |                 else:
  |                     for x in it:
  |                         row.append(x)
  |                         break
  |                     else:
  |                         left -= 1
  |                         if not left: return
  |                         its[i] = None
  |                         row.append(fill)
  |             yield tuple(row)
  | class product(_Stream):
  |     def __init__(self, *iterables, repeat=1): super().__init__(self._all([tuple(i) for i in iterables] * repeat))
  |     @staticmethod
  |     def _all(pools):
  |         if any(not p for p in pools): return
  |         places = [0] * len(pools)
  |         while True:
  |             yield tuple([p[i] for p, i in zip(pools, places)])
  |             for k in reversed(range(len(pools))):
  |                 places[k] += 1
  |                 if places[k] < len(pools[k]): break
  |                 places[k] = 0
  |             else: return
  | class permutations(_Stream):
  |     def __init__(self, iterable, r=None):
  |         pool = tuple(iterable)
  |         super().__init__(self._all(pool, len(pool) if r is None else r))
  |     @staticmethod
  |     def _all(pool, r):
  |         n = len(pool)
  |         if r > n: return
  |         places = list(range(n))
  |         turns = list(range(n, n - r, -1))
  |         yield tuple([pool[i] for i in places[:r]])
  |         while n:
  |             for i in reversed(range(r)):
  |                 turns[i] -= 1
  |                 if turns[i] == 0:
  |                     places[i:] = places[i + 1:] + places[i:i + 1]
  |                     turns[i] = n - i
  |                 else:
  |                     j = turns[i]
  |                     places[i], places[-j] = places[-j], places[i]
  |                     yield tuple([pool[i] for i in places[:r]])
  |                     break
  |             else: return
  | class combinations(_Stream):
  |     def __init__(self, iterable, r):
  |         if r < 0: raise ValueError('r must be non-negative')
  |         super().__init__(self._all(tuple(iterable), r))
  |     @staticmethod
  |     def _all(pool, r):
  |         n = len(pool)
  |         if r > n: return
  |         places = list(range(r))
  |         yield tuple([pool[i] for i in places])
  |         while True:
  |             for i in reversed(range(r)):
  |                 if places[i] != i + n - r: break
  |             else: return
  |             places[i] += 1
  |             for j in range(i + 1, r): places[j] = places[j - 1] + 1
  |             yield tuple([pool[i] for i in places])
  | class combinations_with_replacement(_Stream):
  |     def __init__(self, iterable, r):
  |         if r < 0: raise ValueError('r must be non-negative')
  |         super().__init__(self._all(tuple(iterable), r))
  |     @staticmethod
  |     def _all(pool, r):
  |         n = len(pool)
  |         if not n and r: return
  |         places = [0] * r
  |         yield tuple([pool[i] for i in places])
  |         while True:
  |             for i in reversed(range(r)):
  |                 if places[i] != n - 1: break
  |             else: return
  |             places[i:] = [places[i] + 1] * (r - i)
  |             yield tuple([pool[i] for i in places])
  | def tee(iterable, n=2, /):
  |     if n < 0: raise ValueError('n must be >= 0')
  |     it = iter(iterable)
  |     rows = [[] for _ in range(n)]
  |     def branch(row):
  |         while True:
  |             if not row:
  |                 try: value = next(it)
  |                 except StopIteration: return
  |                 for r in rows: r.append(value)
  |             yield row.pop(0)
  |     return tuple(_Tee(branch(row)) for row in rows)
  | class _Tee(_Stream): pass"# }

def functionsLibrary : Library :=
  { name := "functools"
    source := r#"
  | WRAPPER_ASSIGNMENTS = ('__module__', '__name__', '__qualname__', '__doc__', '__annotations__')
  | WRAPPER_UPDATES = ('__dict__',)
  | __all__ = ['update_wrapper', 'wraps', 'WRAPPER_ASSIGNMENTS', 'WRAPPER_UPDATES', 'total_ordering', 'cache', 'cmp_to_key',
  |     'lru_cache', 'reduce', 'partial', 'partialmethod', 'singledispatch', 'singledispatchmethod', 'cached_property']
  | _nothing = object()
  | def update_wrapper(wrapper, wrapped, assigned=WRAPPER_ASSIGNMENTS, updated=WRAPPER_UPDATES):
  |     for attr in assigned:
  |         try: value = getattr(wrapped, attr)
  |         except AttributeError: pass
  |         else: setattr(wrapper, attr, value)
  |     for attr in updated: getattr(wrapper, attr).update(getattr(wrapped, attr, {}))
  |     wrapper.__wrapped__ = wrapped
  |     return wrapper
  | def wraps(wrapped, assigned=WRAPPER_ASSIGNMENTS, updated=WRAPPER_UPDATES):
  |     return partial(update_wrapper, wrapped=wrapped, assigned=assigned, updated=updated)
  | def total_ordering(cls):
  |     roots = [op for op in ('__lt__', '__gt__', '__le__', '__ge__') if getattr(cls, op, None) is not getattr(object, op, None)
  |         and any(op in c.__dict__ for c in cls.__mro__[:-1])]
  |     if not roots: raise ValueError('must define at least one ordering operation: < > <= >=')
  |     root = roots[0]
  |     def make(name, from_root):
  |         def method(self, other):
  |             result = getattr(type(self), root)(self, other)
  |             return result if result is NotImplemented else from_root(self, other, result)
  |         method.__name__ = name
  |         return method
  |     table = {
  |         '__lt__': {'__gt__': lambda s, o, r: not r and s != o, '__le__': lambda s, o, r: r or s == o,
  |             '__ge__': lambda s, o, r: not r},
  |         '__le__': {'__ge__': lambda s, o, r: not r or s == o, '__lt__': lambda s, o, r: r and s != o,
  |             '__gt__': lambda s, o, r: not r},
  |         '__gt__': {'__lt__': lambda s, o, r: not (r or s == o), '__ge__': lambda s, o, r: r or s == o,
  |             '__le__': lambda s, o, r: not r},
  |         '__ge__': {'__le__': lambda s, o, r: not r or s == o, '__gt__': lambda s, o, r: r and s != o,
  |             '__lt__': lambda s, o, r: not r}}
  |     for name, from_root in table[root].items():
  |         if name not in roots: setattr(cls, name, make(name, from_root))
  |     return cls
  | def cmp_to_key(mycmp):
  |     class K:
  |         __slots__ = ['obj']
  |         def __init__(self, obj): self.obj = obj
  |         def __lt__(self, other): return mycmp(self.obj, other.obj) < 0
  |         def __gt__(self, other): return mycmp(self.obj, other.obj) > 0
  |         def __eq__(self, other): return mycmp(self.obj, other.obj) == 0
  |         def __le__(self, other): return mycmp(self.obj, other.obj) <= 0
  |         def __ge__(self, other): return mycmp(self.obj, other.obj) >= 0
  |         __hash__ = None
  |     return K
  | def reduce(function, sequence, initial=_nothing, /):
  |     it = iter(sequence)
  |     if initial is _nothing:
  |         for value in it: break
  |         else: raise TypeError('reduce() of empty iterable with no initial value')
  |     else: value = initial
  |     for element in it: value = function(value, element)
  |     return value
  | class partial:
  |     def __new__(cls, func, /, *args, **keywords):
  |         if not callable(func): raise TypeError('the first argument must be callable')
  |         if isinstance(func, partial):
  |             args = func.args + args
  |             keywords = {**func.keywords, **keywords}
  |             func = func.func
  |         self = super().__new__(cls)
  |         self.func, self.args, self.keywords = func, args, keywords
  |         return self
  |     def __call__(self, /, *args, **keywords): return self.func(*self.args, *args, **{**self.keywords, **keywords})
  |     def __repr__(self):
  |         parts = [repr(self.func)] + [repr(x) for x in self.args] + [f'{k}={v!r}' for k, v in self.keywords.items()]
  |         name = type(self).__qualname__
  |         return ('functools.' if type(self) is partial else '') + name + '(' + ', '.join(parts) + ')'
  | class partialmethod:
  |     def __init__(self, func, /, *args, **keywords): self.func, self.args, self.keywords = func, args, keywords
  |     def __get__(self, obj, cls=None):
  |         func = self.func.__get__(obj, cls) if hasattr(self.func, '__get__') else self.func
  |         return partial(func, *self.args, **self.keywords)
  | class _Info(tuple):
  |     def __new__(cls, *values): return tuple.__new__(cls, values)
  |     hits = property(lambda self: self[0])
  |     misses = property(lambda self: self[1])
  |     maxsize = property(lambda self: self[2])
  |     currsize = property(lambda self: self[3])
  |     def __repr__(self): return 'CacheInfo(hits=%r, misses=%r, maxsize=%r, currsize=%r)' % tuple(self)
  | class _Remembered:
  |     def __init__(self, function, maxsize, typed):
  |         self.__wrapped__, self._maxsize, self._typed = function, maxsize, typed
  |         self.cache_clear()
  |         update_wrapper(self, function)
  |     def __call__(self, /, *args, **kwds):
  |         key = args
  |         if kwds: key += (_nothing,) + tuple(kwds.items())
  |         if self._typed: key += (_nothing,) + tuple(type(v) for v in args) + tuple(type(v) for v in kwds.values())
  |         elif len(key) == 1 and type(key[0]) in (int, str): key = key[0]
  |         known = self._known
  |         if key in known:
  |             self._hits += 1
  |             if self._maxsize is None: return known[key]
  |             value = known.pop(key)
  |             known[key] = value
  |             return value
  |         self._misses += 1
  |         value = self.__wrapped__(*args, **kwds)
  |         if self._maxsize is None: known[key] = value
  |         elif self._maxsize > 0:
  |             if key not in known and len(known) >= self._maxsize: del known[next(iter(known))]
  |             known[key] = value
  |         return value
  |     def cache_clear(self): self._known, self._hits, self._misses = {}, 0, 0
  |     def cache_info(self): return _Info(self._hits, self._misses, self._maxsize, len(self._known))
  |     def cache_parameters(self): return {'maxsize': self._maxsize, 'typed': self._typed}
  |     def __get__(self, obj, cls=None): return self if obj is None else _bind(self, obj)
  |     def __repr__(self): return f'<functools._lru_cache_wrapper object at {hex(id(self))}>'
  | def _bind(function, obj): return type(_bind.__get__(obj))(function, obj)
  | def lru_cache(maxsize=128, typed=False):
  |     if isinstance(maxsize, int): maxsize = max(maxsize, 0)
  |     elif callable(maxsize) and isinstance(typed, bool): return _Remembered(maxsize, 128, typed)
  |     elif maxsize is not None: raise TypeError('Expected first argument to be an integer, a callable, or None')
  |     return lambda function: _Remembered(function, maxsize, typed)
  | def cache(user_function, /): return lru_cache(maxsize=None)(user_function)
  | class cached_property:
  |     def __init__(self, func): self.func, self.attrname, self.__doc__ = func, None, func.__doc__
  |     def __set_name__(self, owner, name):
  |         if self.attrname is None: self.attrname = name
  |         elif name != self.attrname:
  |             raise TypeError('Cannot assign the same cached_property to two different names '
  |                 f'({self.attrname!r} and {name!r}).')
  |     def __get__(self, instance, owner=None):
  |         if instance is None: return self
  |         if self.attrname is None:
  |             raise TypeError('Cannot use cached_property instance without calling __set_name__ on it.')
  |         if self.attrname in instance.__dict__: return instance.__dict__[self.attrname]
  |         value = self.func(instance)
  |         instance.__dict__[self.attrname] = value
  |         return value
  | def singledispatch(func):
  |     registry = {object: func}
  |     def dispatch(cls):
  |         for c in cls.__mro__:
  |             if c is not object and c in registry: return registry[c]
  |         best = None
  |         for c in registry:
  |             if c is not object and issubclass(cls, c) and (best is None or issubclass(c, best)): best = c
  |         return registry[object if best is None else best]
  |     def register(cls, func=None):
  |         if func is None:
  |             if isinstance(cls, type): return lambda f: register(cls, f)
  |             func = cls
  |             kinds = [k for n, k in func.__annotations__.items() if n != 'return']
  |             if not kinds:
  |                 raise TypeError(f'Invalid first argument to `register()`: {func!r}. Use either `@register(some_class)` or plain '
  |                     '`@register` on an annotated function.')
  |             cls = kinds[0]
  |         for c in getattr(cls, '__args__', None) or (cls,): registry[c] = func
  |         return func
  |     def wrapper(*args, **kw):
  |         if not args: raise TypeError(f'{getattr(func, "__name__", "singledispatch function")} requires at least 1 positional argument')
  |         return dispatch(args[0].__class__)(*args, **kw)
  |     wrapper.register, wrapper.dispatch, wrapper.registry = register, dispatch, registry
  |     update_wrapper(wrapper, func)
  |     return wrapper
  | class singledispatchmethod:
  |     def __init__(self, func): self.dispatcher, self.func = singledispatch(func), func
  |     def register(self, cls, method=None): return self.dispatcher.register(cls, method)
  |     def __get__(self, obj, cls=None):
  |         def method(*args, **kwargs):
  |             return self.dispatcher.dispatch(args[0].__class__).__get__(obj, cls)(*args, **kwargs)
  |         method.register = self.register
  |         update_wrapper(method, self.func)
  |         return method"# }

/-- the module for operators as functions -/
def operatorsLibrary : Library :=
  { name := "operator"
    source := r#"
  | def lt(a, b): return a < b
  | def le(a, b): return a <= b
  | def eq(a, b): return a == b
  | def ne(a, b): return a != b
  | def ge(a, b): return a >= b
  | def gt(a, b): return a > b
  | def not_(a): return not a
  | def truth(a): return True if a else False
  | def is_(a, b): return a is b
  | def is_not(a, b): return a is not b
  | _abs = abs
  | def abs(a): return _abs(a)
  | def add(a, b): return a + b
  | def and_(a, b): return a & b
  | def floordiv(a, b): return a // b
  | def index(a):
  |     if not hasattr(a, '__index__'): raise TypeError(f"'{type(a).__name__}' object cannot be interpreted as an integer")
  |     return a.__index__()
  | def inv(a): return ~a
  | invert = inv
  | def lshift(a, b): return a << b
  | def mod(a, b): return a % b
  | def mul(a, b): return a * b
  | def matmul(a, b): return a @ b
  | def neg(a): return -a
  | def or_(a, b): return a | b
  | def pos(a): return +a
  | def pow(a, b): return a ** b
  | def rshift(a, b): return a >> b
  | def sub(a, b): return a - b
  | def truediv(a, b): return a / b
  | def xor(a, b): return a ^ b
  | def concat(a, b):
  |     if not hasattr(a, '__getitem__'): raise TypeError(f"'{type(a).__name__}' object can't be concatenated")
  |     return a + b
  | def contains(a, b): return b in a
  | def countOf(a, b): return sum(1 for i in a if i is b or i == b)
  | def delitem(a, b): del a[b]
  | def getitem(a, b): return a[b]
  | def indexOf(a, b):
  |     for i, j in enumerate(a):
  |         if j is b or j == b: return i
  |     raise ValueError('sequence.index(x): x not in sequence')
  | def setitem(a, b, c): a[b] = c
  | def length_hint(obj, default=0):
  |     try: return len(obj)
  |     except TypeError: return obj.__length_hint__() if hasattr(obj, '__length_hint__') else default
  | def call(obj, /, *args, **kwargs): return obj(*args, **kwargs)
  | class attrgetter:
  |     def __init__(self, attr, /, *attrs):
  |         for a in (attr,) + attrs:
  |             if not isinstance(a, str): raise TypeError('attribute name must be a string')
  |         self._attrs = (attr,) + attrs
  |     def _get(self, obj, name):
  |         for n in name.split('.'): obj = getattr(obj, n)
  |         return obj
  |     def __call__(self, obj, /):
  |         if len(self._attrs) == 1: return self._get(obj, self._attrs[0])
  |         return tuple([self._get(obj, a) for a in self._attrs])
  |     def __repr__(self): return 'operator.attrgetter(' + ', '.join(map(repr, self._attrs)) + ')'
  | class itemgetter:
  |     def __init__(self, item, /, *items): self._items = (item,) + items
  |     def __call__(self, obj, /):
  |         return obj[self._items[0]] if len(self._items) == 1 else tuple([obj[i] for i in self._items])
  |     def __repr__(self): return 'operator.itemgetter(' + ', '.join(map(repr, self._items)) + ')'
  | class methodcaller:
  |     def __init__(self, name, /, *args, **kwargs):
  |         if not isinstance(name, str): raise TypeError('method name must be a string')
  |         self._name, self._args, self._kwargs = name, args, kwargs
  |     def __call__(self, obj, /): return getattr(obj, self._name)(*self._args, **self._kwargs)
  |     def __repr__(self):
  |         return 'operator.methodcaller(' + ', '.join([repr(self._name)] + list(map(repr, self._args)) +
  |             [f'{k}={v!r}' for k, v in self._kwargs.items()]) + ')'
  | def iadd(a, b):
  |     a += b
  |     return a
  | def iand(a, b):
  |     a &= b
  |     return a
  | def iconcat(a, b):
  |     a += b
  |     return a
  | def ifloordiv(a, b):
  |     a //= b
  |     return a
  | def ilshift(a, b):
  |     a <<= b
  |     return a
  | def imod(a, b):
  |     a %= b
  |     return a
  | def imul(a, b):
  |     a *= b
  |     return a
  | def imatmul(a, b):
  |     a @= b
  |     return a
  | def ior(a, b):
  |     a |= b
  |     return a
  | def ipow(a, b):
  |     a **= b
  |     return a
  | def irshift(a, b):
  |     a >>= b
  |     return a
  | def isub(a, b):
  |     a -= b
  |     return a
  | def itruediv(a, b):
  |     a /= b
  |     return a
  | def ixor(a, b):
  |     a ^= b
  |     return a
  | for _n in ('lt le eq ne ge gt abs add floordiv index inv invert lshift mod mul matmul neg pos pow rshift sub truediv xor concat '
  |         'contains delitem getitem setitem iadd iconcat ifloordiv ilshift imod imul imatmul ior ipow irshift isub itruediv ixor '
  |         'iand call').split(): globals()['__' + _n + '__'] = globals()[_n]
  | __and__, __or__, __not__ = and_, or_, not_"# }

/-- the module for what is set up and left in order -/
def contextsLibrary : Library :=
  { name := "contextlib"
    source := r#"
  | import abc, sys
  | from functools import wraps
  | class AbstractContextManager(abc.ABC):
  |     def __enter__(self): return self
  |     @abc.abstractmethod
  |     def __exit__(self, exc_type, exc_value, traceback): return None
  |     @classmethod
  |     def __subclasshook__(cls, C):
  |         if cls is AbstractContextManager: return hasattr(C, '__enter__') and hasattr(C, '__exit__') or NotImplemented
  |         return NotImplemented
  | class AbstractAsyncContextManager(abc.ABC):
  |     async def __aenter__(self): return self
  |     @abc.abstractmethod
  |     async def __aexit__(self, exc_type, exc_value, traceback): return None
  | class ContextDecorator:
  |     def _recreate_cm(self): return self
  |     def __call__(self, func):
  |         @wraps(func)
  |         def inner(*args, **kwds):
  |             with self._recreate_cm(): return func(*args, **kwds)
  |         return inner
  | class AsyncContextDecorator:
  |     def _recreate_cm(self): return self
  |     def __call__(self, func):
  |         @wraps(func)
  |         async def inner(*args, **kwds):
  |             async with self._recreate_cm(): return await func(*args, **kwds)
  |         return inner
  | class _GeneratorContextManager(AbstractContextManager, ContextDecorator):
  |     def __init__(self, func, args, kwds):
  |         self.gen = func(*args, **kwds)
  |         self.func, self.args, self.kwds = func, args, kwds
  |         self.__doc__ = getattr(func, '__doc__', None)
  |     def _recreate_cm(self): return self.__class__(self.func, self.args, self.kwds)
  |     def __enter__(self):
  |         try: return next(self.gen)
  |         except StopIteration: raise RuntimeError("generator didn't yield") from None
  |     def __exit__(self, typ, value, traceback):
  |         if typ is None:
  |             try: next(self.gen)
  |             except StopIteration: return False
  |             raise RuntimeError("generator didn't stop")
  |         if value is None: value = typ()
  |         try: self.gen.throw(typ, value, traceback)
  |         except StopIteration as exc: return exc is not value
  |         except RuntimeError as exc:
  |             if exc is value: return False
  |             if isinstance(value, StopIteration) and exc.__cause__ is value: return False
  |             raise
  |         except BaseException as exc:
  |             if exc is not value: raise
  |             return False
  |         raise RuntimeError("generator didn't stop after throw()")
  | class _AsyncGeneratorContextManager(AbstractAsyncContextManager, AsyncContextDecorator):
  |     def __init__(self, func, args, kwds):
  |         self.gen = func(*args, **kwds)
  |         self.func, self.args, self.kwds = func, args, kwds
  |     def _recreate_cm(self): return self.__class__(self.func, self.args, self.kwds)
  |     async def __aenter__(self):
  |         try: return await self.gen.__anext__()
  |         except StopAsyncIteration: raise RuntimeError("generator didn't yield") from None
  |     async def __aexit__(self, typ, value, traceback):
  |         if typ is None:
  |             try: await self.gen.__anext__()
  |             except StopAsyncIteration: return False
  |             raise RuntimeError("generator didn't stop")
  |         if value is None: value = typ()
  |         try: await self.gen.athrow(typ, value, traceback)
  |         except StopAsyncIteration as exc: return exc is not value
  |         except BaseException as exc:
  |             if exc is not value: raise
  |             return False
  |         raise RuntimeError("generator didn't stop after athrow()")
  | def contextmanager(func):
  |     @wraps(func)
  |     def helper(*args, **kwds): return _GeneratorContextManager(func, args, kwds)
  |     return helper
  | def asynccontextmanager(func):
  |     @wraps(func)
  |     def helper(*args, **kwds): return _AsyncGeneratorContextManager(func, args, kwds)
  |     return helper
  | class closing(AbstractContextManager):
  |     def __init__(self, thing): self.thing = thing
  |     def __enter__(self): return self.thing
  |     def __exit__(self, *exc_info): self.thing.close()
  | class aclosing(AbstractAsyncContextManager):
  |     def __init__(self, thing): self.thing = thing
  |     async def __aenter__(self): return self.thing
  |     async def __aexit__(self, *exc_info): await self.thing.aclose()
  | class _RedirectStream(AbstractContextManager):
  |     def __init__(self, new_target): self._new_target, self._old_targets = new_target, []
  |     def __enter__(self):
  |         self._old_targets.append(getattr(sys, self._stream))
  |         setattr(sys, self._stream, self._new_target)
  |         return self._new_target
  |     def __exit__(self, exctype, excinst, exctb): setattr(sys, self._stream, self._old_targets.pop())
  | class redirect_stdout(_RedirectStream): _stream = 'stdout'
  | class redirect_stderr(_RedirectStream): _stream = 'stderr'
  | class suppress(AbstractContextManager):
  |     def __init__(self, *exceptions): self._exceptions = exceptions
  |     def __enter__(self): pass
  |     def __exit__(self, exctype, excinst, exctb): return exctype is not None and issubclass(exctype, self._exceptions)
  | class ExitStack(AbstractContextManager):
  |     def __init__(self): self._exit_callbacks = []
  |     def pop_all(self):
  |         new = type(self)()
  |         new._exit_callbacks, self._exit_callbacks = self._exit_callbacks, []
  |         return new
  |     def push(self, exit):
  |         if hasattr(type(exit), '__exit__'): self._exit_callbacks.append(exit.__exit__)
  |         else: self._exit_callbacks.append(exit)
  |         return exit
  |     def enter_context(self, cm):
  |         cls = type(cm)
  |         if not hasattr(cls, '__enter__') or not hasattr(cls, '__exit__'):
  |             raise TypeError(f"'{cls.__module__}.{cls.__qualname__}' object does not support the context manager protocol")
  |         result = cm.__enter__()
  |         self._exit_callbacks.append(cm.__exit__)
  |         return result
  |     def callback(self, callback, /, *args, **kwds):
  |         self._exit_callbacks.append(lambda *exc: callback(*args, **kwds) and None)
  |         return callback
  |     def close(self): self.__exit__(None, None, None)
  |     def __exit__(self, *exc_details):
  |         received = exc_details[0] is not None
  |         suppressed = pending = False
  |         while self._exit_callbacks:
  |             cb = self._exit_callbacks.pop()
  |             try:
  |                 if cb(*exc_details):
  |                     suppressed, pending = True, False
  |                     exc_details = (None, None, None)
  |             except BaseException as e:
  |                 pending = True
  |                 if e.__context__ is None and exc_details[1] is not e: e.__context__ = exc_details[1]
  |                 exc_details = (type(e), e, e.__traceback__)
  |         if pending: raise exc_details[1]
  |         return received and suppressed
  | class AsyncExitStack(AbstractAsyncContextManager):
  |     def __init__(self): self._exit_callbacks = []
  |     async def enter_async_context(self, cm):
  |         result = await cm.__aenter__()
  |         self._exit_callbacks.append((True, cm.__aexit__))
  |         return result
  |     def enter_context(self, cm):
  |         result = cm.__enter__()
  |         self._exit_callbacks.append((False, cm.__exit__))
  |         return result
  |     def callback(self, callback, /, *args, **kwds):
  |         self._exit_callbacks.append((False, lambda *exc: callback(*args, **kwds) and None))
  |         return callback
  |     def push_async_callback(self, callback, /, *args, **kwds):
  |         async def run(*exc): await callback(*args, **kwds)
  |         self._exit_callbacks.append((True, run))
  |         return callback
  |     async def aclose(self): await self.__aexit__(None, None, None)
  |     async def __aexit__(self, *exc_details):
  |         received = exc_details[0] is not None
  |         suppressed = pending = False
  |         while self._exit_callbacks:
  |             waits, cb = self._exit_callbacks.pop()
  |             try:
  |                 done = cb(*exc_details)
  |                 if waits: done = await done
  |                 if done:
  |                     suppressed, pending = True, False
  |                     exc_details = (None, None, None)
  |             except BaseException as e:
  |                 pending = True
  |                 exc_details = (type(e), e, e.__traceback__)
  |         if pending: raise exc_details[1]
  |         return received and suppressed
  | class nullcontext(AbstractContextManager, AbstractAsyncContextManager):
  |     def __init__(self, enter_result=None): self.enter_result = enter_result
  |     def __enter__(self): return self.enter_result
  |     def __exit__(self, *excinfo): pass
  |     async def __aenter__(self): return self.enter_result
  |     async def __aexit__(self, *excinfo): pass
  | class chdir(AbstractContextManager):
  |     def __init__(self, path): self.path, self._old_cwd = path, []
  |     def __enter__(self):
  |         import os
  |         self._old_cwd.append(os.getcwd())
  |         os.chdir(self.path)
  |     def __exit__(self, *excinfo):
  |         import os
  |         os.chdir(self._old_cwd.pop())
  | __all__ = ['asynccontextmanager', 'contextmanager', 'closing', 'nullcontext', 'AbstractContextManager',
  |     'AbstractAsyncContextManager', 'AsyncExitStack', 'ContextDecorator', 'ExitStack', 'redirect_stdout', 'redirect_stderr',
  |     'suppress', 'aclosing', 'chdir']"# }

/-- modules for working through values one by one and for functions made of functions -/
def iterationLibraries : List Library :=
  [iterationLibrary, functionsLibrary, operatorsLibrary, contextsLibrary]

end IncludeAudit.Offside
