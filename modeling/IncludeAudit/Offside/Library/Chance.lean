/-
Modules for numbers by chance, for exact parts, and for what is known of many numbers.

- `chanceLibraries`: the modules.
-/
import IncludeAudit.Offside.Library.Basic

namespace IncludeAudit.Offside

/-- the module for numbers by chance -/
def chanceLibrary : Library :=
  { name := "random"
    file := "/usr/lib/python3.11/random.py"
    source := r#"
  | import hashlib as _hashlib, os as _os
  | from math import log as _log, exp as _exp, pi as _pi, e as _e, ceil as _ceil, sqrt as _sqrt, acos as _acos, cos as _cos, sin as _sin, \
  |     floor as _floor, fabs as _fabs
  | from itertools import accumulate as _accumulate, repeat as _repeat
  | from bisect import bisect as _bisect
  | from operator import index as _index
  | NV_MAGICCONST, LOG4, SG_MAGICCONST, BPF = 4 * _exp(-0.5) / _sqrt(2.0), _log(4.0), 1.0 + _log(4.5), 53
  | TWOPI, RECIP_BPF = 2.0 * _pi, 2 ** -53
  | def _begin(s):
  |     mt = [s]
  |     for i in range(1, 624):
  |         s = (1812433253 * (s ^ s >> 30) + i) & 0xffffffff
  |         mt.append(s)
  |     return mt
  | _usual = None
  | def _by_key(key):
  |     global _usual
  |     if _usual is None: _usual = _begin(19650218)
  |     mt, i, j, k, n = _usual[:], 1, 0, max(624, len(key)), len(key)
  |     last = mt[0]
  |     for k in range(k):
  |         last = mt[i] = ((mt[i] ^ (last ^ last >> 30) * 1664525) + key[j] + j) & 0xffffffff
  |         i += 1
  |         j += 1
  |         if i >= 624: mt[0], i = last, 1
  |         if j >= n: j = 0
  |     for k in range(623):
  |         last = mt[i] = ((mt[i] ^ (last ^ last >> 30) * 1566083941) - i) & 0xffffffff
  |         i += 1
  |         if i >= 624: mt[0], i = last, 1
  |     mt[0] = 0x80000000
  |     return mt
  | class Random:
  |     VERSION = 3
  |     def __init__(self, x=None):
  |         self._mt, self._at, self._x, self.gauss_next = None, 624, None, None
  |         if x is not None: self.seed(x)
  |     def seed(self, a=None, version=2):
  |         if version == 1 and isinstance(a, (str, bytes)):
  |             a = a.decode('latin-1') if isinstance(a, bytes) else a
  |             x = ord(a[0]) << 7 if a else 0
  |             for c in map(ord, a): x = 1000003 * x ^ c & 0xFFFFFFFFFFFFFFFF
  |             x ^= len(a)
  |             a = -2 if x == -1 else x
  |         elif version == 2 and isinstance(a, (str, bytes, bytearray)):
  |             if isinstance(a, str): a = a.encode()
  |             a = int.from_bytes(a + _hashlib.sha512(a).digest(), 'big')
  |         elif not isinstance(a, (type(None), int, float, str, bytes, bytearray)):
  |             raise TypeError('The only supported seed types are: None,\nint, float, str, bytes, and bytearray.')
  |         if a is None: a = int.from_bytes(_os.urandom(16), 'big')
  |         a = abs(a) if isinstance(a, int) else hash(a) & 0xffffffffffffffff
  |         key = []
  |         while a:
  |             key.append(a & 0xffffffff)
  |             a >>= 32
  |         self._mt, self._at, self.gauss_next = _by_key(key or [0]), 624, None
  |     def _word(self):
  |         if self._mt is None: self.seed()
  |         i = self._at
  |         if i >= 624:
  |             mt = self._mt
  |             for k in range(624):
  |                 y = mt[k] & 0x80000000 | mt[(k + 1) % 624] & 0x7fffffff
  |                 mt[k] = mt[(k + 397) % 624] ^ y >> 1 ^ (0x9908b0df if y & 1 else 0)
  |             i = 0
  |         y = self._mt[i]
  |         self._at = i + 1
  |         y ^= y >> 11
  |         y ^= y << 7 & 0x9d2c5680
  |         y ^= y << 15 & 0xefc60000
  |         return y ^ y >> 18
  |     def random(self): return ((self._word() >> 5) * 67108864.0 + (self._word() >> 6)) * (1.0 / 9007199254740992.0)
  |     def getrandbits(self, k, /):
  |         if k < 0: raise ValueError('number of bits must be non-negative')
  |         if k == 0: return 0
  |         if k <= 32: return self._word() >> 32 - k
  |         out, shift = 0, 0
  |         while k > 0:
  |             r = self._word()
  |             if k < 32: r >>= 32 - k
  |             out |= r << shift
  |             shift += 32
  |             k -= 32
  |         return out
  |     def getstate(self):
  |         if self._mt is None: self.seed()
  |         return self.VERSION, tuple(self._mt) + (self._at,), self.gauss_next
  |     def setstate(self, state):
  |         self._mt, self._at, self.gauss_next = list(state[1][:-1]), state[1][-1], state[2]
  |     def _randbelow(self, n):
  |         k = n.bit_length()
  |         r = self.getrandbits(k)
  |         while r >= n: r = self.getrandbits(k)
  |         return r
  |     def randbytes(self, n): return self.getrandbits(n * 8).to_bytes(n, 'little')
  |     def randrange(self, start, stop=None, step=1):
  |         try: istart = _index(start)
  |         except TypeError:
  |             istart = int(start)
  |             if istart != start: raise ValueError('non-integer arg 1 for randrange()')
  |         if stop is None:
  |             if step != 1: raise TypeError('Missing a non-None stop argument')
  |             if istart > 0: return self._randbelow(istart)
  |             raise ValueError('empty range for randrange()')  #@318
  |         try: istop = _index(stop)
  |         except TypeError:
  |             istop = int(stop)
  |             if istop != stop: raise ValueError('non-integer stop for randrange()')
  |         width, istep = istop - istart, _index(step)
  |         if istep == 1:
  |             if width > 0: return istart + self._randbelow(width)
  |             raise ValueError('empty range for randrange() (%d, %d, %d)' % (istart, istop, width))  #@340
  |         if istep > 0: n = (width + istep - 1) // istep
  |         elif istep < 0: n = (width + istep + 1) // istep
  |         else: raise ValueError('zero step for randrange()')
  |         if n <= 0: raise ValueError('empty range for randrange()')
  |         return istart + istep * self._randbelow(n)
  |     def randint(self, a, b):
  |         return self.randrange(a, b + 1)  #@362
  |     def choice(self, seq):
  |         if not len(seq):
  |             raise IndexError('Cannot choose from an empty sequence')  #@370
  |         return seq[self._randbelow(len(seq))]
  |     def shuffle(self, x):
  |         for i in reversed(range(1, len(x))):
  |             j = self._randbelow(i + 1)
  |             x[i], x[j] = x[j], x[i]
  |     def sample(self, population, k, *, counts=None):
  |         if not hasattr(population, '__len__') or isinstance(population, (set, frozenset, dict)):
  |             raise TypeError('Population must be a sequence.  For dicts or sets, use sorted(d).')  #@439
  |         n = len(population)
  |         if counts is not None:
  |             cum = list(_accumulate(counts))
  |             if len(cum) != n: raise ValueError('The number of counts does not match the population')
  |             total = cum.pop()
  |             if total <= 0: raise ValueError('Total of counts must be greater than zero')
  |             return [population[_bisect(cum, s)] for s in self.sample(range(total), k=k)]
  |         if not 0 <= k <= n:
  |             raise ValueError('Sample larger than population or is negative')  #@456
  |         result, size = [None] * k, 21
  |         if k > 5: size += 4 ** _ceil(_log(k * 3, 4))
  |         if n <= size:
  |             pool = list(population)
  |             for i in range(k):
  |                 j = self._randbelow(n - i)
  |                 result[i] = pool[j]
  |                 pool[j] = pool[n - i - 1]
  |         else:
  |             selected = set()
  |             for i in range(k):
  |                 j = self._randbelow(n)
  |                 while j in selected: j = self._randbelow(n)
  |                 selected.add(j)
  |                 result[i] = population[j]
  |         return result
  |     def choices(self, population, weights=None, *, cum_weights=None, k=1):
  |         n = len(population)
  |         if cum_weights is None:
  |             if weights is None: return [population[_floor(self.random() * (n + 0.0))] for i in range(k)]
  |             if isinstance(weights, int): raise TypeError(f'The number of choices must be a keyword argument: k={weights}')
  |             cum_weights = list(_accumulate(weights))
  |         elif weights is not None: raise TypeError('Cannot specify both weights and cumulative weights')
  |         if len(cum_weights) != n: raise ValueError('The number of weights does not match the population')
  |         total = cum_weights[-1] + 0.0
  |         if total <= 0.0: raise ValueError('Total of weights must be greater than zero')
  |         return [population[_bisect(cum_weights, self.random() * total, 0, n - 1)] for i in range(k)]
  |     def uniform(self, a, b): return a + (b - a) * self.random()
  |     def triangular(self, low=0.0, high=1.0, mode=None):
  |         u = self.random()
  |         c = 0.5 if mode is None else 0 if high == low else (mode - low) / (high - low)
  |         if high == low: return low
  |         if u > c: u, c, low, high = 1.0 - u, 1.0 - c, high, low
  |         return low + (high - low) * _sqrt(u * c)
  |     def normalvariate(self, mu=0.0, sigma=1.0):
  |         while True:
  |             u1, u2 = self.random(), 1.0 - self.random()
  |             z = NV_MAGICCONST * (u1 - 0.5) / u2
  |             if z * z / 4.0 <= -_log(u2): break
  |         return mu + z * sigma
  |     def gauss(self, mu=0.0, sigma=1.0):
  |         z, self.gauss_next = self.gauss_next, None
  |         if z is None:
  |             x2pi = self.random() * TWOPI
  |             g2rad = _sqrt(-2.0 * _log(1.0 - self.random()))
  |             z, self.gauss_next = _cos(x2pi) * g2rad, _sin(x2pi) * g2rad
  |         return mu + z * sigma
  |     def lognormvariate(self, mu, sigma): return _exp(self.normalvariate(mu, sigma))
  |     def expovariate(self, lambd): return -_log(1.0 - self.random()) / lambd
  |     def paretovariate(self, alpha): return (1.0 - self.random()) ** (-1.0 / alpha)
  |     def weibullvariate(self, alpha, beta): return alpha * (-_log(1.0 - self.random())) ** (1.0 / beta)
  |     def gammavariate(self, alpha, beta):
  |         if alpha <= 0.0 or beta <= 0.0: raise ValueError('gammavariate: alpha and beta must be > 0.0')
  |         if alpha > 1.0:
  |             ainv = _sqrt(2.0 * alpha - 1.0)
  |             bbb, ccc = alpha - LOG4, alpha + ainv
  |             while True:
  |                 u1 = self.random()
  |                 if not 1e-7 < u1 < 0.9999999: continue
  |                 u2 = 1.0 - self.random()
  |                 v = _log(u1 / (1.0 - u1)) / ainv
  |                 x = alpha * _exp(v)
  |                 z, r = u1 * u1 * u2, bbb + ccc * v - x
  |                 if r + SG_MAGICCONST - 4.5 * z >= 0.0 or r >= _log(z): return x * beta
  |         if alpha == 1.0: return -_log(1.0 - self.random()) * beta
  |         while True:
  |             b = (_e + alpha) / _e
  |             p = b * self.random()
  |             x = p ** (1.0 / alpha) if p <= 1.0 else -_log((b - p) / alpha)
  |             u1 = self.random()
  |             if p > 1.0:
  |                 if u1 <= x ** (alpha - 1.0): break
  |             elif u1 <= _exp(-x): break
  |         return x * beta
  |     def betavariate(self, alpha, beta):
  |         y = self.gammavariate(alpha, 1.0)
  |         return y / (y + self.gammavariate(beta, 1.0)) if y else 0.0
  |     def vonmisesvariate(self, mu, kappa):
  |         if kappa <= 1e-6: return TWOPI * self.random()
  |         s = 0.5 / kappa
  |         r = s + _sqrt(1.0 + s * s)
  |         while True:
  |             z = _cos(_pi * self.random())
  |             d, u2 = z / (r + z), self.random()
  |             if u2 < 1.0 - d * d or u2 <= (1.0 - d) * _exp(d): break
  |         q = 1.0 / r
  |         f = (q + z) / (1.0 + q * z)
  |         return (mu + _acos(f)) % TWOPI if self.random() > 0.5 else (mu - _acos(f)) % TWOPI
  | class SystemRandom(Random):
  |     def seed(self, *args, **kwds): super().seed(None)
  | _inst = Random()
  | seed, random, uniform, triangular, randint, choice = _inst.seed, _inst.random, _inst.uniform, _inst.triangular, _inst.randint, _inst.choice
  | randrange, sample, shuffle, choices, normalvariate = _inst.randrange, _inst.sample, _inst.shuffle, _inst.choices, _inst.normalvariate
  | lognormvariate, expovariate, vonmisesvariate, gammavariate = _inst.lognormvariate, _inst.expovariate, _inst.vonmisesvariate, \
  |     _inst.gammavariate
  | gauss, betavariate, paretovariate, weibullvariate = _inst.gauss, _inst.betavariate, _inst.paretovariate, _inst.weibullvariate
  | getstate, setstate, getrandbits, randbytes = _inst.getstate, _inst.setstate, _inst.getrandbits, _inst.randbytes"# }

def numberKindsLibrary : Library :=
  { name := "numbers"
    source := r#"
  | from abc import ABCMeta, abstractmethod
  | class Number(metaclass=ABCMeta):
  |     __slots__ = ()
  |     __hash__ = None
  | class Complex(Number): __slots__ = ()
  | class Real(Complex): __slots__ = ()
  | class Rational(Real):
  |     __slots__ = ()
  |     def __float__(self): return int(self.numerator) / int(self.denominator)
  | class Integral(Rational): __slots__ = ()
  | Complex.register(complex)
  | Real.register(float)
  | Integral.register(int)"# }

/-- the module for numbers as quotients -/
def partsLibrary : Library :=
  { name := "fractions"
    source := r#"
  | import re, math, numbers, operator
  | _shape = re.compile(r'\A\s*(?P<sign>[-+]?)(?=\d|\.\d)(?P<num>\d*|\d+(_\d+)*)(?:(?:/(?P<denom>\d+(_\d+)*))?|(?:\.(?P<decimal>\d*|\d+(_\d+)*))?'
  |     r'(?:E(?P<exp>[-+]?\d+(_\d+)*))?)\s*\Z', re.VERBOSE | re.IGNORECASE)
  | class Fraction(numbers.Rational):
  |     def __new__(cls, numerator=0, denominator=None, *, _normalize=True):
  |         self = super(Fraction, cls).__new__(cls)
  |         if denominator is None:
  |             if type(numerator) is int:
  |                 self._numerator, self._denominator = numerator, 1
  |                 return self
  |             if isinstance(numerator, numbers.Rational):
  |                 self._numerator, self._denominator = numerator.numerator, numerator.denominator
  |                 return self
  |             if isinstance(numerator, float) or hasattr(numerator, 'as_integer_ratio') and not isinstance(numerator, str):
  |                 self._numerator, self._denominator = numerator.as_integer_ratio()
  |                 return self
  |             if not isinstance(numerator, str): raise TypeError('argument should be a string or a Rational instance')
  |             m = _shape.match(numerator)
  |             if m is None: raise ValueError('Invalid literal for Fraction: %r' % numerator)
  |             top, denom = int(m.group('num') or '0'), m.group('denom')
  |             if denom: bottom = int(denom)
  |             else:
  |                 bottom, decimal, exp = 1, m.group('decimal'), m.group('exp')
  |                 if decimal:
  |                     decimal = decimal.replace('_', '')
  |                     scale = 10 ** len(decimal)
  |                     top, bottom = top * scale + int(decimal), bottom * scale
  |                 if exp:
  |                     exp = int(exp)
  |                     if exp >= 0: top *= 10 ** exp
  |                     else: bottom *= 10 ** -exp
  |             numerator, denominator = -top if m.group('sign') == '-' else top, bottom
  |         elif isinstance(numerator, numbers.Rational) and isinstance(denominator, numbers.Rational):
  |             numerator, denominator = numerator.numerator * denominator.denominator, denominator.numerator * numerator.denominator
  |         else: raise TypeError('both arguments should be Rational instances')
  |         if denominator == 0: raise ZeroDivisionError('Fraction(%s, 0)' % numerator)
  |         if _normalize:
  |             g = math.gcd(numerator, denominator)
  |             if denominator < 0: g = -g
  |             numerator, denominator = numerator // g, denominator // g
  |         self._numerator, self._denominator = numerator, denominator
  |         return self
  |     @classmethod
  |     def from_float(cls, f):
  |         if isinstance(f, numbers.Integral): return cls(f)
  |         if not isinstance(f, float): raise TypeError('%s.from_float() only takes floats, not %r (%s)' % (cls.__name__, f, type(f).__name__))
  |         return cls(*f.as_integer_ratio())
  |     @classmethod
  |     def from_decimal(cls, dec): return cls(*dec.as_integer_ratio())
  |     def as_integer_ratio(self): return (self._numerator, self._denominator)
  |     def limit_denominator(self, max_denominator=1000000):
  |         if max_denominator < 1: raise ValueError('max_denominator should be at least 1')
  |         if self._denominator <= max_denominator: return Fraction(self)
  |         p0, q0, p1, q1 = 0, 1, 1, 0
  |         n, d = self._numerator, self._denominator
  |         while True:
  |             a = n // d
  |             q2 = q0 + a * q1
  |             if q2 > max_denominator: break
  |             p0, q0, p1, q1 = p1, q1, p0 + a * p1, q2
  |             n, d = d, n - a * d
  |         k = (max_denominator - q0) // q1
  |         bound1, bound2 = Fraction(p0 + k * p1, q0 + k * q1), Fraction(p1, q1)
  |         return bound2 if abs(bound2 - self) <= abs(bound1 - self) else bound1
  |     numerator, denominator = property(lambda a: a._numerator), property(lambda a: a._denominator)
  |     real, imag = property(lambda a: +a), property(lambda a: 0)
  |     def conjugate(self): return +self
  |     def __repr__(self): return '%s(%s, %s)' % (self.__class__.__name__, self._numerator, self._denominator)
  |     def __str__(self): return str(self._numerator) if self._denominator == 1 else '%s/%s' % (self._numerator, self._denominator)
  |     def _both(op, exact):
  |         def forward(a, b):
  |             if isinstance(b, (int, Fraction)): return exact(a, b)
  |             if isinstance(b, float): return op(float(a), b)
  |             if isinstance(b, complex): return op(complex(a), b)
  |             return NotImplemented
  |         def reverse(b, a):
  |             if isinstance(a, numbers.Rational): return exact(a, b)
  |             if isinstance(a, numbers.Real): return op(float(a), float(b))
  |             if isinstance(a, numbers.Complex): return op(complex(a), complex(b))
  |             return NotImplemented
  |         return forward, reverse
  |     __add__, __radd__ = _both(operator.add, lambda a, b: Fraction(
  |         a.numerator * b.denominator + b.numerator * a.denominator, a.denominator * b.denominator))
  |     __sub__, __rsub__ = _both(operator.sub, lambda a, b: Fraction(
  |         a.numerator * b.denominator - b.numerator * a.denominator, a.denominator * b.denominator))
  |     __mul__, __rmul__ = _both(operator.mul, lambda a, b: Fraction(a.numerator * b.numerator, a.denominator * b.denominator))
  |     __truediv__, __rtruediv__ = _both(operator.truediv, lambda a, b: Fraction(a.numerator * b.denominator, a.denominator * b.numerator))
  |     __floordiv__, __rfloordiv__ = _both(operator.floordiv, lambda a, b: (a.numerator * b.denominator) // (a.denominator * b.numerator))
  |     __divmod__, __rdivmod__ = _both(divmod, lambda a, b: (lambda d: (divmod(a.numerator * b.denominator, d)[0],
  |         Fraction(divmod(a.numerator * b.denominator, d)[1], a.denominator * b.denominator)))(a.denominator * b.numerator))
  |     __mod__, __rmod__ = _both(operator.mod, lambda a, b: Fraction(
  |         (a.numerator * b.denominator) % (b.numerator * a.denominator), a.denominator * b.denominator))
  |     def __pow__(a, b):
  |         if isinstance(b, numbers.Rational):
  |             if b.denominator != 1: return float(a) ** float(b)
  |             power = b.numerator
  |             if power >= 0: return Fraction(a._numerator ** power, a._denominator ** power, _normalize=False)
  |             if a._numerator >= 0: return Fraction(a._denominator ** -power, a._numerator ** -power, _normalize=a._numerator == 0)
  |             return Fraction((-a._denominator) ** -power, (-a._numerator) ** -power, _normalize=False)
  |         return float(a) ** b
  |     def __rpow__(b, a):
  |         if b._denominator == 1 and b._numerator >= 0: return a ** b._numerator
  |         if isinstance(a, numbers.Rational): return Fraction(a.numerator, a.denominator) ** b
  |         return a ** float(b)
  |     def __pos__(a): return Fraction(a._numerator, a._denominator, _normalize=False)
  |     def __neg__(a): return Fraction(-a._numerator, a._denominator, _normalize=False)
  |     def __abs__(a): return Fraction(abs(a._numerator), a._denominator, _normalize=False)
  |     def __int__(a): return -(-a._numerator // a._denominator) if a._numerator < 0 else a._numerator // a._denominator
  |     __trunc__ = __int__
  |     def __floor__(a): return a.numerator // a.denominator
  |     def __ceil__(a): return -(-a.numerator // a.denominator)
  |     def __round__(self, ndigits=None):
  |         if ndigits is None:
  |             floor, remainder = divmod(self.numerator, self.denominator)
  |             if remainder * 2 < self.denominator: return floor
  |             if remainder * 2 > self.denominator: return floor + 1
  |             return floor if floor % 2 == 0 else floor + 1
  |         shift = 10 ** abs(ndigits)
  |         return Fraction(round(self * shift), shift) if ndigits > 0 else Fraction(round(self / shift) * shift)
  |     def __hash__(self):
  |         try: dinv = pow(self._denominator, -1, 2305843009213693951)
  |         except ValueError: h = 314159
  |         else: h = hash(hash(abs(self._numerator)) * dinv)
  |         result = h if self._numerator >= 0 else -h
  |         return -2 if result == -1 else result
  |     def __eq__(a, b):
  |         if isinstance(b, numbers.Rational): return a._numerator == b.numerator and a._denominator == b.denominator
  |         if isinstance(b, numbers.Complex) and b.imag == 0: b = b.real
  |         if isinstance(b, float): return 0.0 == b if math.isnan(b) or math.isinf(b) else a == Fraction(b)
  |         return NotImplemented
  |     def _ordered(self, other, op):
  |         if isinstance(other, numbers.Rational): return op(self._numerator * other.denominator, self._denominator * other.numerator)
  |         if isinstance(other, float): return op(0.0, other) if math.isnan(other) or math.isinf(other) else op(self, Fraction(other))
  |         return NotImplemented
  |     def __lt__(a, b): return a._ordered(b, operator.lt)
  |     def __gt__(a, b): return a._ordered(b, operator.gt)
  |     def __le__(a, b): return a._ordered(b, operator.le)
  |     def __ge__(a, b): return a._ordered(b, operator.ge)
  |     def __bool__(a): return bool(a._numerator)
  |     def __reduce__(self): return (self.__class__, (self._numerator, self._denominator))
  |     def __copy__(self): return self
  |     def __deepcopy__(self, memo): return self"# }

/-- the module for what is known of many numbers -/
def surveysLibrary : Library :=
  { name := "statistics"
    source := r#"
  | import math
  | from fractions import Fraction
  | from collections import Counter
  | from math import sqrt, exp, log, tau, erf, fabs, hypot
  | class StatisticsError(ValueError): pass
  | def _kind(values):
  |     kind = int
  |     for v in values:
  |         t = type(v)
  |         if t is bool: t = int
  |         if t is kind or t is int: continue
  |         if kind is int: kind = t
  |         elif t is float and kind is Fraction or t is Fraction and kind is float: kind = float
  |         else: raise TypeError("don't know how to coerce %s and %s" % (kind.__name__, t.__name__))
  |     return kind
  | def _exact(v):
  |     if isinstance(v, float) and not math.isfinite(v): return v
  |     try: return Fraction(v)
  |     except TypeError: raise TypeError(f"can't convert type '{type(v).__name__}' to numerator/denominator")
  | def _sum(data):
  |     data = list(data)
  |     total = sum((_exact(v) for v in data), Fraction(0))
  |     return _kind(data), total, len(data)
  | def _convert(value, T):
  |     if type(value) is T: return value
  |     if issubclass(T, int) and value.denominator != 1: T = float
  |     try: return T(value)
  |     except TypeError: return T(value.numerator) / T(value.denominator)
  | def mean(data):
  |     T, total, n = _sum(data)
  |     if n < 1: raise StatisticsError('mean requires at least one data point')
  |     return _convert(total / n, T)
  | def fmean(data, weights=None):
  |     data = list(data)
  |     if weights is None:
  |         if not data: raise StatisticsError('fmean requires at least one data point')
  |         return math.fsum(data) / len(data)
  |     weights = list(weights)
  |     if len(weights) != len(data): raise StatisticsError('data and weights must be the same length')
  |     den = math.fsum(weights)
  |     if not den: raise StatisticsError('sum of weights must be non-zero')
  |     return math.fsum(d * w for d, w in zip(data, weights)) / den
  | def geometric_mean(data):
  |     try: return exp(fmean(map(log, data)))
  |     except ValueError: raise StatisticsError('geometric mean requires a non-empty dataset containing positive numbers') from None
  | def harmonic_mean(data, weights=None):
  |     data = list(data)
  |     n = len(data)
  |     if n < 1: raise StatisticsError('harmonic_mean requires at least one data point')
  |     if n == 1 and weights is None:
  |         if data[0] < 0: raise StatisticsError('harmonic mean does not support negative values')
  |         return data[0]
  |     weights, sum_weights = ([1] * n, n) if weights is None else (list(weights), sum(weights))
  |     if any(x < 0 for x in data): raise StatisticsError('harmonic mean does not support negative values')
  |     if any(x == 0 for x in data): return 0
  |     total = sum((Fraction(w) / Fraction(x) for w, x in zip(weights, data)), Fraction(0))
  |     if total <= 0: raise StatisticsError('Weighted sum must be positive')
  |     return _convert(Fraction(sum_weights) / total, _kind(data))
  | def median(data):
  |     data = sorted(data)
  |     n = len(data)
  |     if n == 0: raise StatisticsError('no median for empty data')
  |     return data[n // 2] if n % 2 == 1 else (data[n // 2 - 1] + data[n // 2]) / 2
  | def median_low(data):
  |     data = sorted(data)
  |     n = len(data)
  |     if n == 0: raise StatisticsError('no median for empty data')
  |     return data[n // 2] if n % 2 == 1 else data[n // 2 - 1]
  | def median_high(data):
  |     data = sorted(data)
  |     if not data: raise StatisticsError('no median for empty data')
  |     return data[len(data) // 2]
  | def median_grouped(data, interval=1):
  |     data = sorted(data)
  |     n = len(data)
  |     if not n: raise StatisticsError('no median for empty data')
  |     x = data[n // 2]
  |     i, j = data.index(x), n - data[::-1].index(x)
  |     return float(x) - interval / 2.0 + interval * (n / 2 - i) / (j - i)
  | def mode(data):
  |     pairs = Counter(iter(data)).most_common(1)
  |     if not pairs: raise StatisticsError('no mode for empty data')
  |     return pairs[0][0]
  | def multimode(data):
  |     counts = Counter(iter(data))
  |     if not counts: return []
  |     most = max(counts.values())
  |     return [value for value, count in counts.items() if count == most]
  | def quantiles(data, *, n=4, method='exclusive'):
  |     if n < 1: raise StatisticsError('n must be at least 1')
  |     data = sorted(data)
  |     ld = len(data)
  |     if ld < 2: raise StatisticsError('must have at least two data points')
  |     result = []
  |     if method == 'inclusive':
  |         for i in range(1, n):
  |             j, delta = divmod(i * (ld - 1), n)
  |             result.append((data[j] * (n - delta) + data[j + 1] * delta) / n)
  |         return result
  |     if method == 'exclusive':
  |         m = ld + 1
  |         for i in range(1, n):
  |             j = i * m // n
  |             j = 1 if j < 1 else ld - 1 if j > ld - 1 else j
  |             delta = i * m - j * n
  |             result.append((data[j - 1] * (n - delta) + data[j] * delta) / n)
  |         return result
  |     raise ValueError(f'Unknown method: {method!r}')
  | def _ss(data, c=None):
  |     data = list(data)
  |     n = len(data)
  |     T = _kind(data)
  |     if n == 0: return T, 0, 0, n
  |     xs = [_exact(v) for v in data]
  |     c = sum(xs, Fraction(0)) / n if c is None else _exact(c)
  |     return T, sum(((x - c) ** 2 for x in xs), Fraction(0)), c, n
  | def variance(data, xbar=None):
  |     T, ss, c, n = _ss(data, xbar)
  |     if n < 2: raise StatisticsError('variance requires at least two data points')
  |     return _convert(ss / (n - 1), T)
  | def pvariance(data, mu=None):
  |     T, ss, c, n = _ss(data, mu)
  |     if n < 1: raise StatisticsError('pvariance requires at least one data point')
  |     return _convert(ss / n, T)
  | def _root(q):
  |     n, m = q.numerator, q.denominator
  |     shift = (n.bit_length() - m.bit_length() - 109) // 2
  |     def up(n, m):
  |         a = math.isqrt(n // m)
  |         return a | (a * a * m != n)
  |     if shift >= 0: numerator, denominator = up(n, m << 2 * shift) << shift, 1
  |     else: numerator, denominator = up(n << -2 * shift, m), 1 << -shift
  |     return numerator / denominator
  | def stdev(data, xbar=None):
  |     T, ss, c, n = _ss(data, xbar)
  |     if n < 2: raise StatisticsError('stdev requires at least two data points')
  |     return _root(Fraction(ss) / (n - 1))
  | def pstdev(data, mu=None):
  |     T, ss, c, n = _ss(data, mu)
  |     if n < 1: raise StatisticsError('pstdev requires at least one data point')
  |     return _root(Fraction(ss) / n)
  | def covariance(x, y, /):
  |     n = len(x)
  |     if len(y) != n: raise StatisticsError('covariance requires that both inputs have same number of data points')
  |     if n < 2: raise StatisticsError('covariance requires at least two data points')
  |     xbar, ybar = math.fsum(x) / n, math.fsum(y) / n
  |     return math.fsum((xi - xbar) * (yi - ybar) for xi, yi in zip(x, y)) / (n - 1)
  | def correlation(x, y, /):
  |     n = len(x)
  |     if len(y) != n: raise StatisticsError('correlation requires that both inputs have same number of data points')
  |     if n < 2: raise StatisticsError('correlation requires at least two data points')
  |     xbar, ybar = math.fsum(x) / n, math.fsum(y) / n
  |     sxy = math.fsum((xi - xbar) * (yi - ybar) for xi, yi in zip(x, y))
  |     sxx, syy = math.fsum((d := xi - xbar) * d for xi in x), math.fsum((d := yi - ybar) * d for yi in y)
  |     try: return sxy / sqrt(sxx * syy)
  |     except ZeroDivisionError: raise StatisticsError('at least one of the inputs is constant')
  | class LinearRegression(tuple):
  |     slope, intercept = property(lambda s: s[0]), property(lambda s: s[1])
  |     def __repr__(self): return f'LinearRegression(slope={self[0]!r}, intercept={self[1]!r})'
  | def linear_regression(x, y, /, *, proportional=False):
  |     n = len(x)
  |     if len(y) != n: raise StatisticsError('linear regression requires that both inputs have same number of data points')
  |     if n < 2: raise StatisticsError('linear regression requires at least two data points')
  |     if proportional:
  |         sxy, sxx = math.fsum(xi * yi for xi, yi in zip(x, y)), math.fsum(xi * xi for xi in x)
  |     else:
  |         xbar, ybar = math.fsum(x) / n, math.fsum(y) / n
  |         sxy = math.fsum((xi - xbar) * (yi - ybar) for xi, yi in zip(x, y))
  |         sxx = math.fsum((d := xi - xbar) * d for xi in x)
  |     try: slope = sxy / sxx
  |     except ZeroDivisionError: raise StatisticsError('x is constant')
  |     return LinearRegression((slope, 0.0 if proportional else ybar - slope * xbar))
  | class NormalDist:
  |     def __init__(self, mu=0.0, sigma=1.0):
  |         if sigma < 0.0: raise StatisticsError('sigma must be non-negative')
  |         self._mu, self._sigma = float(mu), float(sigma)
  |     @classmethod
  |     def from_samples(cls, data):
  |         data = list(data)
  |         return cls(fmean(data), stdev(data))
  |     mean = median = mode = property(lambda self: self._mu)
  |     stdev, variance = property(lambda self: self._sigma), property(lambda self: self._sigma * self._sigma)
  |     def pdf(self, x):
  |         variance = self._sigma * self._sigma
  |         if not variance: raise StatisticsError('pdf() not defined when sigma is zero')
  |         diff = x - self._mu
  |         return exp(diff * diff / (-2.0 * variance)) / sqrt(tau * variance)
  |     def cdf(self, x):
  |         if not self._sigma: raise StatisticsError('cdf() not defined when sigma is zero')
  |         return 0.5 * (1.0 + erf((x - self._mu) / (self._sigma * sqrt(2.0))))
  |     def zscore(self, x): return (x - self._mu) / self._sigma
  |     def __repr__(self): return f'{type(self).__name__}(mu={self._mu!r}, sigma={self._sigma!r})'
  |     def __eq__(self, other): return isinstance(other, NormalDist) and (self._mu, self._sigma) == (other._mu, other._sigma)
  |     def __hash__(self): return hash((self._mu, self._sigma))"# }

/-- the module for names that nobody else has -/
def identitiesLibrary : Library :=
  { name := "uuid"
    source := r#"
  | import os, enum
  | RESERVED_NCS, RFC_4122 = 'reserved for NCS compatibility', 'specified in RFC 4122'
  | RESERVED_OTHER, RESERVED_FUTURE = 'reserved for compatibility', 'reserved for future definition'
  | class SafeUUID(enum.Enum):
  |     safe, unsafe, unknown = 0, -1, None
  | class UUID:
  |     def __init__(self, hex=None, bytes=None, bytes_le=None, fields=None, int=None, version=None, *, is_safe=SafeUUID.unknown):
  |         if [hex, bytes, bytes_le, fields, int].count(None) != 4:
  |             raise TypeError('one of the hex, bytes, bytes_le, fields, or int arguments must be given')
  |         if hex is not None:
  |             hex = hex.replace('urn:', '').replace('uuid:', '').strip('{}').replace('-', '')
  |             if len(hex) != 32: raise ValueError('badly formed hexadecimal UUID string')
  |             int = int_(hex, 16)
  |         if bytes_le is not None: bytes = bytes_le[3::-1] + bytes_le[5:3:-1] + bytes_le[7:5:-1] + bytes_le[8:]
  |         if bytes is not None:
  |             if len(bytes) != 16: raise ValueError('bytes is not a 16-char string')
  |             int = int_.from_bytes(bytes, 'big')
  |         if fields is not None:
  |             low, mid, high, seq_high, seq_low, node = fields
  |             int = low << 96 | mid << 80 | high << 64 | seq_high << 56 | seq_low << 48 | node
  |         if not 0 <= int < 1 << 128: raise ValueError('int is out of range (need a 128-bit value)')
  |         if version is not None:
  |             if not 1 <= version <= 5: raise ValueError('illegal version number')
  |             int = int & ~(0xc000 << 48) | 0x8000 << 48
  |             int = int & ~(0xf000 << 64) | version << 76
  |         self.__dict__.update(int=int, is_safe=is_safe)
  |     def __eq__(self, other): return self.int == other.int if isinstance(other, UUID) else NotImplemented
  |     def __lt__(self, other): return self.int < other.int if isinstance(other, UUID) else NotImplemented
  |     def __gt__(self, other): return self.int > other.int if isinstance(other, UUID) else NotImplemented
  |     def __le__(self, other): return self.int <= other.int if isinstance(other, UUID) else NotImplemented
  |     def __ge__(self, other): return self.int >= other.int if isinstance(other, UUID) else NotImplemented
  |     def __hash__(self): return hash(self.int)
  |     def __int__(self): return self.int
  |     def __repr__(self): return '%s(%r)' % (self.__class__.__name__, str(self))
  |     def __setattr__(self, name, value): raise TypeError('UUID objects are immutable')
  |     def __str__(self):
  |         hex = '%032x' % self.int
  |         return '%s-%s-%s-%s-%s' % (hex[:8], hex[8:12], hex[12:16], hex[16:20], hex[20:])
  |     bytes, hex, urn = property(lambda s: s.int.to_bytes(16, 'big')), property(lambda s: '%032x' % s.int), property(lambda s: 'urn:uuid:' + str(s))
  |     time_low, time_mid = property(lambda s: s.int >> 96), property(lambda s: s.int >> 80 & 0xffff)
  |     time_hi_version, node = property(lambda s: s.int >> 64 & 0xffff), property(lambda s: s.int & 0xffffffffffff)
  |     clock_seq = property(lambda s: (s.int >> 56 & 0x3f) << 8 | s.int >> 48 & 0xff)
  |     fields = property(lambda s: (s.time_low, s.time_mid, s.time_hi_version, s.int >> 56 & 0xff, s.int >> 48 & 0xff, s.node))
  |     time = property(lambda s: (s.time_hi_version & 0x0fff) << 48 | s.time_mid << 32 | s.time_low)
  |     @property
  |     def variant(self):
  |         if not self.int & 0x8000 << 48: return RESERVED_NCS
  |         if not self.int & 0x4000 << 48: return RFC_4122
  |         return RESERVED_OTHER if not self.int & 0x2000 << 48 else RESERVED_FUTURE
  |     version = property(lambda s: s.int >> 76 & 0xf if s.variant == RFC_4122 else None)
  | int_ = int
  | def getnode(): return 0x020000000001
  | def uuid1(node=None, clock_seq=None):
  |     import time
  |     t = time.time_ns() // 100 + 0x01b21dd213814000
  |     return UUID(fields=(t & 0xffffffff, t >> 32 & 0xffff, t >> 48 & 0x0fff, 1, 1, node or getnode()), version=1)
  | def uuid3(namespace, name):
  |     from hashlib import md5
  |     return UUID(bytes=md5(namespace.bytes + bytes(name, 'utf-8')).digest()[:16], version=3)
  | def uuid4(): return UUID(bytes=os.urandom(16), version=4)
  | def uuid5(namespace, name):
  |     from hashlib import sha1
  |     return UUID(bytes=sha1(namespace.bytes + bytes(name, 'utf-8')).digest()[:16], version=5)
  | NAMESPACE_DNS, NAMESPACE_URL = UUID('6ba7b810-9dad-11d1-80b4-00c04fd430c8'), UUID('6ba7b811-9dad-11d1-80b4-00c04fd430c8')
  | NAMESPACE_OID, NAMESPACE_X500 = UUID('6ba7b812-9dad-11d1-80b4-00c04fd430c8'), UUID('6ba7b814-9dad-11d1-80b4-00c04fd430c8')"# }

/-- the module for numbers that nobody can guess -/
def secrecyLibrary : Library :=
  { name := "secrets"
    source := r#"
  | import base64, os
  | from hmac import compare_digest
  | from random import SystemRandom
  | _own = SystemRandom()
  | randbits, choice, DEFAULT_ENTROPY = _own.getrandbits, _own.choice, 32
  | def randbelow(exclusive_upper_bound):
  |     if exclusive_upper_bound <= 0: raise ValueError('Upper bound must be positive.')
  |     return _own._randbelow(exclusive_upper_bound)
  | def token_bytes(nbytes=None): return os.urandom(DEFAULT_ENTROPY if nbytes is None else nbytes)
  | def token_hex(nbytes=None): return token_bytes(nbytes).hex()
  | def token_urlsafe(nbytes=None): return base64.urlsafe_b64encode(token_bytes(nbytes)).rstrip(b'=').decode('ascii')"# }

/-- modules for numbers by chance, for exact parts, and for what is known of many numbers -/
def chanceLibraries : List Library :=
  [chanceLibrary, numberKindsLibrary, partsLibrary, surveysLibrary, identitiesLibrary, secrecyLibrary]

end IncludeAudit.Offside
