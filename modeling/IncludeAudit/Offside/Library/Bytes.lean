/-
Modules for bytes: numbers in them, digests of them, and other ways to write them.

- `bytesLibraries`: the modules.
-/
import IncludeAudit.Offside.Library.Basic

namespace IncludeAudit.Offside

/-- the module for values laid out in bytes -/
def layoutsLibrary : Library :=
  { name := "struct"
    source := r#"
  | import _ground
  | __all__ = ['calcsize', 'pack', 'pack_into', 'unpack', 'unpack_from', 'iter_unpack', 'Struct', 'error']
  | class error(Exception): __module__ = 'struct'
  | _sizes = {'x': 1, 'c': 1, 'b': 1, 'B': 1, '?': 1, 'h': 2, 'H': 2, 'i': 4, 'I': 4, 'l': 4, 'L': 4, 'q': 8, 'Q': 8, 'n': 8, 'N': 8,
  |     'e': 2, 'f': 4, 'd': 8, 's': 1, 'p': 1, 'P': 8}
  | def _read(format):
  |     if isinstance(format, bytes): format = format.decode()
  |     if not isinstance(format, str):
  |         raise TypeError('Struct() argument 1 must be a str or bytes object, not %s' % type(format).__name__)
  |     order, native = 'little', True
  |     if format[:1] in ('@', '=', '<', '>', '!') and format:
  |         native = format[0] == '@'
  |         if format[0] in '>!': order = 'big'
  |         format = format[1:]
  |     items, size, count = [], 0, ''
  |     for c in format:
  |         if c.isspace() and not count: continue
  |         if c.isdigit():
  |             count += c
  |             continue
  |         if c not in _sizes or c in 'nNP' and not native: raise error('bad char in struct format')
  |         one = 8 if native and c in 'lL' else _sizes[c]
  |         n = int(count) if count else 1
  |         if native and c not in 'sp': size += -size % one
  |         items.append((c, n, one, size))
  |         size += n * one
  |         count = ''
  |     if count: raise error('repeat count given without format specifier')
  |     return order, items, size, native
  | def _wanted(items): return sum(0 if c == 'x' else 1 if c in 'sp' else n for c, n, one, at in items)
  | def _int(c, v, one, order, native):
  |     if not isinstance(v, int):
  |         if not hasattr(v, '__index__'): raise error('required argument is not an integer')
  |         v = v.__index__()
  |     bits = one * 8
  |     low, high = (-(1 << bits - 1), (1 << bits - 1) - 1) if c in 'bhilqn' else (0, (1 << bits) - 1)
  |     if not low <= v <= high:
  |         if c in 'qQ' and order == 'big': raise error('int too large to convert')
  |         wide = (0, (1 << 64) - 1) if c in 'ILQN' or c == 'H' and order == 'big' else (-(1 << 63), (1 << 63) - 1)
  |         if not wide[0] <= v <= wide[1]: raise error('argument out of range')
  |         named = {'b': 'byte', 'B': 'ubyte', 'h': 'short', 'H': 'ushort'}
  |         name = named[c] if c in 'bB' or c in 'hH' and order == 'little' else f"'{c}'"
  |         raise error(f'{name} format requires {low} <= number <= {high}')
  |     return v.to_bytes(one, order, signed=low < 0)
  | def _pack(what, read, args):
  |     order, items, size, native = read
  |     if len(args) != _wanted(items):
  |         raise error(f'{what} expected {_wanted(items)} items for packing (got {len(args)})')
  |     out, rest = bytearray(), iter(args)
  |     for c, n, one, at in items:
  |         out += bytes(at - len(out))
  |         if c == 'x': out += bytes(n)
  |         elif c in 'sp':
  |             v = next(rest)
  |             if not isinstance(v, (bytes, bytearray)): raise error(f"argument for '{c}' must be a bytes object")
  |             out += bytes(v[:n]).ljust(n, b'\0') if c == 's' else (bytes([min(len(v), n - 1, 255)]) + bytes(v[:n - 1])).ljust(n, b'\0') if n else b''
  |         else:
  |             for _ in range(n):
  |                 v = next(rest)
  |                 if c == 'c':
  |                     if not isinstance(v, (bytes, bytearray)) or len(v) != 1: raise error('char format requires a bytes object of length 1')
  |                     out += v
  |                 elif c == '?': out.append(bool(v))
  |                 elif c in 'efd':
  |                     try: v = float(v) if not isinstance(v, str) else None
  |                     except TypeError: v = None
  |                     if v is None: raise error('required argument is not a float')
  |                     bits = _ground.bits(v, one)
  |                     if bits is None and native and c == 'f': bits = 0x7f800000 if v > 0 else 0xff800000
  |                     if bits is None: raise OverflowError(f'float too large to pack with {c} format')
  |                     out += bits.to_bytes(one, order)
  |                 else: out += _int(c, v, one, order, native)
  |     return bytes(out + bytes(size - len(out)))
  | def _unpack(read, data):
  |     order, items, size, native = read
  |     out = []
  |     for c, n, one, at in items:
  |         if c == 'x': continue
  |         if c == 's': out.append(bytes(data[at:at + n]))
  |         elif c == 'p': out.append(bytes(data[at + 1:at + 1 + min(data[at], n - 1)]) if n else b'')
  |         else:
  |             for i in range(n):
  |                 part = bytes(data[at + i * one:at + (i + 1) * one])
  |                 if c == 'c': out.append(part)
  |                 elif c == '?': out.append(part != b'\0')
  |                 elif c in 'efd': out.append(_ground.real(int.from_bytes(part, order), one))
  |                 else: out.append(int.from_bytes(part, order, signed=c in 'bhilqn'))
  |     return tuple(out)
  | def _buffer(data):
  |     if not isinstance(data, (bytes, bytearray, memoryview)):
  |         raise TypeError(f"a bytes-like object is required, not '{type(data).__name__}'")
  |     return data
  | class Struct:
  |     def __init__(self, format):
  |         self.format = format.decode() if isinstance(format, bytes) else format
  |         self._read = _read(format)
  |         self.size = self._read[2]
  |     def pack(self, *args): return _pack('pack', self._read, args)
  |     def pack_into(self, buffer, offset, *args):
  |         data = _pack('pack_into', self._read, args)
  |         if offset < 0: offset += len(buffer)
  |         if len(buffer) - offset < self.size:
  |             raise error(f'pack_into requires a buffer of at least {offset + self.size} bytes for packing {self.size} bytes at '
  |                 f'offset {offset} (actual buffer size is {len(buffer)})')
  |         buffer[offset:offset + self.size] = data
  |     def unpack(self, buffer, /):
  |         if len(_buffer(buffer)) != self.size: raise error(f'unpack requires a buffer of {self.size} bytes')
  |         return _unpack(self._read, buffer)
  |     def unpack_from(self, /, buffer, offset=0):
  |         if offset < 0: offset += len(buffer)
  |         if len(_buffer(buffer)) - offset < self.size:
  |             raise error(f'unpack_from requires a buffer of at least {offset + self.size} bytes for unpacking {self.size} bytes at '
  |                 f'offset {offset} (actual buffer size is {len(buffer)})')
  |         return _unpack(self._read, buffer[offset:offset + self.size])
  |     def iter_unpack(self, buffer, /):
  |         if not self.size: raise error('cannot iteratively unpack with a struct of length 0')
  |         if len(buffer) % self.size: raise error(f'iterative unpacking requires a buffer of a multiple of {self.size} bytes')
  |         return (_unpack(self._read, buffer[i:i + self.size]) for i in range(0, len(buffer), self.size))
  |     def __repr__(self): return f'_struct.Struct({self.format!r})'
  | def calcsize(format, /): return _read(format)[2]
  | def pack(format, /, *args): return Struct(format).pack(*args)
  | def pack_into(format, buffer, offset, /, *args): return Struct(format).pack_into(buffer, offset, *args)
  | def unpack(format, buffer, /): return Struct(format).unpack(buffer)
  | def unpack_from(format, /, buffer, offset=0): return Struct(format).unpack_from(buffer, offset)
  | def iter_unpack(format, buffer, /): return Struct(format).iter_unpack(buffer)"# }

def digestsLibrary : Library :=
  { name := "hashlib"
    source := r#"
  | import _ground
  | algorithms_guaranteed = {'md5', 'sha1', 'sha224', 'sha256', 'sha384', 'sha512', 'blake2b', 'blake2s', 'sha3_224', 'sha3_256',
  |     'sha3_384', 'sha3_512', 'shake_128', 'shake_256'}
  | algorithms_available = set(algorithms_guaranteed)
  | _known = ('md5', 'sha1', 'sha224', 'sha256', 'sha384', 'sha512')
  | def new(name, data=b'', **kwargs):
  |     plain = name.lower().replace('-', '')
  |     if plain not in _known: raise ValueError('unsupported hash type ' + name)
  |     return _ground.digest(plain, data)
  | def md5(string=b'', *, usedforsecurity=True): return _ground.digest('md5', string)
  | def sha1(string=b'', *, usedforsecurity=True): return _ground.digest('sha1', string)
  | def sha224(string=b'', *, usedforsecurity=True): return _ground.digest('sha224', string)
  | def sha256(string=b'', *, usedforsecurity=True): return _ground.digest('sha256', string)
  | def sha384(string=b'', *, usedforsecurity=True): return _ground.digest('sha384', string)
  | def sha512(string=b'', *, usedforsecurity=True): return _ground.digest('sha512', string)
  | def file_digest(fileobj, digest, /, *, _bufsize=262144):
  |     found = new(digest) if isinstance(digest, str) else digest()
  |     while part := fileobj.read(_bufsize): found.update(part)
  |     return found
  | def pbkdf2_hmac(hash_name, password, salt, iterations, dklen=None):
  |     import hmac
  |     size = new(hash_name).digest_size
  |     dklen = dklen or size
  |     out = b''
  |     for i in range(1, -(-dklen // size) + 1):
  |         u = hmac.new(password, salt + i.to_bytes(4, 'big'), hash_name).digest()
  |         total = int.from_bytes(u, 'big')
  |         for _ in range(iterations - 1):
  |             u = hmac.new(password, u, hash_name).digest()
  |             total ^= int.from_bytes(u, 'big')
  |         out += total.to_bytes(size, 'big')
  |     return out[:dklen]"# }

def keyedDigestsLibrary : Library :=
  { name := "hmac"
    source := r#"
  | import hashlib
  | class HMAC:
  |     def __init__(self, key, msg=None, digestmod=''):
  |         if not isinstance(key, (bytes, bytearray)):
  |             raise TypeError('key: expected bytes or bytearray, but got %r' % type(key).__name__)
  |         if not digestmod: raise TypeError("Missing required parameter 'digestmod'.")
  |         if callable(digestmod): make = digestmod
  |         elif isinstance(digestmod, str): make = lambda d=b'': hashlib.new(digestmod, d)
  |         else: make = lambda d=b'': digestmod.new(d)
  |         inner = make()
  |         self.digest_size, self.block_size, self.name = inner.digest_size, inner.block_size, 'hmac-' + inner.name
  |         key = bytes(key)
  |         if len(key) > self.block_size: key = make(key).digest()
  |         key = key.ljust(self.block_size, b'\0')
  |         self._inner, self._outer = make(bytes([b ^ 0x36 for b in key])), make(bytes([b ^ 0x5c for b in key]))
  |         if msg is not None: self.update(msg)
  |     def update(self, msg): self._inner.update(msg)
  |     def copy(self):
  |         other = HMAC.__new__(HMAC)
  |         other.__dict__.update(self.__dict__)
  |         other._inner = self._inner.copy()
  |         return other
  |     def digest(self):
  |         outer = self._outer.copy()
  |         outer.update(self._inner.digest())
  |         return outer.digest()
  |     def hexdigest(self): return self.digest().hex()
  | def new(key, msg=None, digestmod=''): return HMAC(key, msg, digestmod)
  | def digest(key, msg, digest): return new(key, msg, digest).digest()
  | def compare_digest(a, b): return a == b"# }

/-- the module for bytes as characters -/
def spellingsLibrary : Library :=
  { name := "binascii"
    source := r#"
  | class Error(ValueError): pass
  | class Incomplete(Exception): pass
  | _letters = b'ABCDEFGHIJKLMNOPQRSTUVWXYZabcdefghijklmnopqrstuvwxyz0123456789+/'
  | _values = {c: i for i, c in enumerate(_letters)}
  | def _data(data):
  |     if isinstance(data, str):
  |         if not data.isascii(): raise ValueError('string argument should contain only ASCII characters')
  |         return data.encode()
  |     if not isinstance(data, (bytes, bytearray, memoryview)):
  |         raise TypeError(f"argument should be bytes, buffer or ASCII string, not '{type(data).__name__}'")
  |     return bytes(data)
  | def _bytes(data):
  |     if not isinstance(data, (bytes, bytearray, memoryview)):
  |         raise TypeError(f"a bytes-like object is required, not '{type(data).__name__}'")
  |     return bytes(data)
  | def b2a_base64(data, /, *, newline=True):
  |     data, out = _bytes(data), bytearray()
  |     for i in range(0, len(data), 3):
  |         part = data[i:i + 3]
  |         n = int.from_bytes(part.ljust(3, b'\0'), 'big')
  |         out += bytes([_letters[n >> 18], _letters[n >> 12 & 63], _letters[n >> 6 & 63], _letters[n & 63]])
  |         if len(part) < 3: out[len(part) - 3:] = b'=' * (3 - len(part))
  |     return bytes(out + b'\n') if newline else bytes(out)
  | def a2b_base64(data, /, *, strict_mode=False):
  |     out, bits, n, count, pads = bytearray(), 0, 0, 0, 0
  |     for c in _data(data):
  |         if c == 61:
  |             pads += 1
  |             if count % 4 >= 2 and count % 4 + pads >= 4: break
  |             continue
  |         if c not in _values: continue
  |         pads = 0
  |         n, bits, count = n << 6 | _values[c], bits + 6, count + 1
  |         if bits >= 8:
  |             bits -= 8
  |             out.append(n >> bits & 255)
  |             n &= (1 << bits) - 1
  |     if count % 4 == 1:
  |         raise Error('Invalid base64-encoded string: number of data characters (%d) cannot be 1 more than a multiple of 4' % count)
  |     if count % 4 and count % 4 + pads < 4: raise Error('Incorrect padding')
  |     return bytes(out)
  | def hexlify(data, sep=None, bytes_per_sep=1):
  |     return (_bytes(data).hex() if sep is None else _bytes(data).hex(sep, bytes_per_sep)).encode()
  | b2a_hex = hexlify
  | def unhexlify(hexstr, /):
  |     data = _data(hexstr)
  |     if len(data) % 2: raise Error('Odd-length string')
  |     try: return bytes([int(data[i:i + 2].decode(), 16) for i in range(0, len(data), 2)])
  |     except ValueError: raise Error('Non-hexadecimal digit found') from None
  | a2b_hex = unhexlify
  | _table = []
  | for _i in range(256):
  |     _c = _i
  |     for _ in range(8): _c = _c >> 1 ^ 0xedb88320 if _c & 1 else _c >> 1
  |     _table.append(_c)
  | def crc32(data, value=0, /):
  |     crc = value ^ 0xffffffff
  |     for b in _bytes(data): crc = crc >> 8 ^ _table[(crc ^ b) & 255]
  |     return crc ^ 0xffffffff
  | def crc_hqx(data, value, /):
  |     for b in _bytes(data):
  |         value ^= b << 8
  |         for _ in range(8): value = (value << 1 ^ 0x1021) & 0xffff if value & 0x8000 else value << 1 & 0xffff
  |     return value"# }

/-- the module for bytes as characters of other alphabets -/
def widerSpellingsLibrary : Library :=
  { name := "base64"
    source := r#"
  | import binascii
  | __all__ = ['encode', 'decode', 'encodebytes', 'decodebytes', 'b64encode', 'b64decode', 'b32encode', 'b32decode', 'b32hexencode',
  |     'b32hexdecode', 'b16encode', 'b16decode', 'b85encode', 'b85decode', 'a85encode', 'a85decode', 'standard_b64encode',
  |     'standard_b64decode', 'urlsafe_b64encode', 'urlsafe_b64decode']
  | def _bytes(s):
  |     if isinstance(s, str):
  |         try: return s.encode('ascii')
  |         except UnicodeEncodeError: raise ValueError('string argument should contain only ASCII characters')
  |     if isinstance(s, (bytes, bytearray, memoryview)): return bytes(s)
  |     raise TypeError('argument should be a bytes-like object or ASCII string, not %r' % s.__class__.__name__) from None
  | def b64encode(s, altchars=None):
  |     found = binascii.b2a_base64(s, newline=False)
  |     return found if altchars is None else found.translate(bytes.maketrans(b'+/', altchars))
  | def b64decode(s, altchars=None, validate=False):
  |     s = _bytes(s)
  |     if altchars is not None: s = s.translate(bytes.maketrans(_bytes(altchars), b'+/'))
  |     if validate:
  |         import re
  |         if not re.fullmatch(b'[A-Za-z0-9+/]*={0,2}', s): raise binascii.Error('Non-base64 digit found')
  |     return binascii.a2b_base64(s)
  | standard_b64encode, standard_b64decode = (lambda s: b64encode(s)), (lambda s: b64decode(s))
  | def urlsafe_b64encode(s): return b64encode(s).translate(bytes.maketrans(b'+/', b'-_'))
  | def urlsafe_b64decode(s): return b64decode(_bytes(s).translate(bytes.maketrans(b'-_', b'+/')))
  | _b32, _b32hex = b'ABCDEFGHIJKLMNOPQRSTUVWXYZ234567', b'0123456789ABCDEFGHIJKLMNOPQRSTUV'
  | def _encode32(alphabet, s):
  |     if isinstance(s, str): raise TypeError("memoryview: a bytes-like object is required, not 'str'")
  |     out = bytearray()
  |     for i in range(0, len(s), 5):
  |         part = bytes(s[i:i + 5])
  |         n = int.from_bytes(part.ljust(5, b'\0'), 'big')
  |         row = bytearray([alphabet[n >> k & 31] for k in range(35, -1, -5)])
  |         pad = {1: 6, 2: 4, 3: 3, 4: 1}.get(len(part), 0)
  |         out += row[:8 - pad] + b'=' * pad
  |     return bytes(out)
  | def _decode32(alphabet, s, casefold=False, map01=None):
  |     s = _bytes(s)
  |     if len(s) % 8: raise binascii.Error('Incorrect padding')
  |     if map01 is not None: s = s.translate(bytes.maketrans(b'01', b'O' + _bytes(map01)))
  |     if casefold: s = s.upper()
  |     left = s.rstrip(b'=')
  |     pad, known, out = len(s) - len(left), {c: i for i, c in enumerate(alphabet)}, bytearray()
  |     for i in range(0, len(left), 8):
  |         n = 0
  |         for c in left[i:i + 8].ljust(8, alphabet[:1]):
  |             if c not in known: raise binascii.Error('Non-base32 digit found')
  |             n = n << 5 | known[c]
  |         out += n.to_bytes(5, 'big')
  |     if pad not in (0, 1, 3, 4, 6): raise binascii.Error('Incorrect padding')
  |     return bytes(out[:-{1: 1, 3: 2, 4: 3, 6: 4}[pad]]) if pad and out else bytes(out)
  | def b32encode(s): return _encode32(_b32, s)
  | def b32decode(s, casefold=False, map01=None): return _decode32(_b32, s, casefold, map01)
  | def b32hexencode(s): return _encode32(_b32hex, s)
  | def b32hexdecode(s, casefold=False): return _decode32(_b32hex, s, casefold)
  | def b16encode(s): return binascii.hexlify(s).upper()
  | def b16decode(s, casefold=False):
  |     s = _bytes(s)
  |     if casefold: s = s.upper()
  |     if any(c not in b'0123456789ABCDEF' for c in s): raise binascii.Error('Non-base16 digit found')
  |     return binascii.unhexlify(s)
  | _b85 = b'0123456789ABCDEFGHIJKLMNOPQRSTUVWXYZabcdefghijklmnopqrstuvwxyz!#$%&()*+-;<=>?@^_\x60{|}~'
  | def _encode85(b, letters, pad, folds=b''):
  |     if isinstance(b, str): raise TypeError("memoryview: a bytes-like object is required, not 'str'")
  |     out = bytearray()
  |     for i in range(0, len(b), 4):
  |         part = bytes(b[i:i + 4])
  |         n = int.from_bytes(part.ljust(4, b'\0'), 'big')
  |         if folds and n == 0 and len(part) == 4:
  |             out += folds
  |             continue
  |         row = bytes([letters[n // 85 ** k % 85] for k in (4, 3, 2, 1, 0)])
  |         out += row if pad else row[:len(part) + 1]
  |     return bytes(out)
  | def b85encode(b, pad=False): return _encode85(b, _b85, pad)
  | def _decode85(s, values, what):
  |     out, fill = bytearray(), -len(s) % 5
  |     for i in range(0, len(s), 5):
  |         n = 0
  |         for k, c in enumerate(s[i:i + 5].ljust(5, bytes([max(values, key=values.get)]))):
  |             if c not in values: raise ValueError(what % (i + k))
  |             n = n * 85 + values[c]
  |         if n >= 1 << 32: raise ValueError('base85 overflow in hunk starting at byte %d' % i)
  |         out += n.to_bytes(4, 'big')
  |     return bytes(out[:len(out) - fill])
  | def b85decode(b): return _decode85(_bytes(b), {c: i for i, c in enumerate(_b85)}, 'bad base85 character at position %d')
  | _a85 = bytes(range(33, 118))
  | def a85encode(b, *, foldspaces=False, wrapcol=0, pad=False, adobe=False):
  |     out = _encode85(b, _a85, pad, b'z')
  |     return b'<~' + out + b'~>' if adobe else out
  | def a85decode(b, *, foldspaces=False, adobe=False, ignorechars=b' \t\n\r\v'):
  |     b = _bytes(b)
  |     if adobe: b = b.removeprefix(b'<~').removesuffix(b'~>')
  |     b = bytes([c for c in b if c not in ignorechars]).replace(b'z', b'!!!!!')
  |     return _decode85(b, {c: i for i, c in enumerate(_a85)}, 'Non-Ascii85 digit found: %c')
  | def encodebytes(s): return b''.join([binascii.b2a_base64(s[i:i + 57]) for i in range(0, len(s), 57)])
  | def decodebytes(s): return binascii.a2b_base64(s)
  | def encode(input, output): output.write(encodebytes(input.read()))
  | def decode(input, output): output.write(decodebytes(input.read()))"# }

/-- the module for packed bytes -/
def packingLibrary : Library :=
  { name := "zlib"
    source := r#"
  | from binascii import crc32
  | class error(Exception): pass
  | def adler32(data, value=1, /):
  |     a, b = value & 0xffff, value >> 16
  |     for c in data:
  |         a = (a + c) % 65521
  |         b = (b + a) % 65521
  |     return b << 16 | a
  | MAX_WBITS, DEFLATED, Z_BEST_COMPRESSION, Z_BEST_SPEED, Z_DEFAULT_COMPRESSION = 15, 8, 9, 1, -1
  | def _stored(data):
  |     out = b''
  |     parts = [data[i:i + 65535] for i in range(0, len(data), 65535)] or [b'']
  |     for i, part in enumerate(parts):
  |         out += bytes([i == len(parts) - 1]) + len(part).to_bytes(2, 'little') + (65535 - len(part)).to_bytes(2, 'little') + part
  |     return out
  | def compress(data, /, level=-1, wbits=15): return b'\x78\x9c' + _stored(bytes(data)) + adler32(data).to_bytes(4, 'big')
  | class _Bits:
  |     def __init__(self, data): self.data, self.place, self.held, self.count = data, 0, 0, 0
  |     def take(self, n):
  |         while self.count < n:
  |             if self.place >= len(self.data): raise error('Error -5 while decompressing data: incomplete or truncated stream')
  |             self.held |= self.data[self.place] << self.count
  |             self.place += 1
  |             self.count += 8
  |         found = self.held & (1 << n) - 1
  |         self.held >>= n
  |         self.count -= n
  |         return found
  |     def symbol(self, codes):
  |         code = size = 0
  |         while True:
  |             code = code << 1 | self.take(1)
  |             size += 1
  |             if (size, code) in codes: return codes[size, code]
  |             if size > 15: raise error('Error -3 while decompressing data: invalid code lengths set')
  | def _codes(sizes):
  |     codes, code = {}, 0
  |     for size in range(1, 16):
  |         for i, s in enumerate(sizes):
  |             if s == size:
  |                 codes[size, code] = i
  |                 code += 1
  |         code <<= 1
  |     return codes
  | _lengths = [3, 4, 5, 6, 7, 8, 9, 10, 11, 13, 15, 17, 19, 23, 27, 31, 35, 43, 51, 59, 67, 83, 99, 115, 131, 163, 195, 227, 258]
  | _extra = [0] * 8 + [1] * 4 + [2] * 4 + [3] * 4 + [4] * 4 + [5] * 4 + [0]
  | _far = [1, 2, 3, 4, 5, 7, 9, 13, 17, 25, 33, 49, 65, 97, 129, 193, 257, 385, 513, 769, 1025, 1537, 2049, 3073, 4097, 6145, 8193,
  |     12289, 16385, 24577]
  | def _inflate(data):
  |     bits, out, last = _Bits(data), bytearray(), 0
  |     while not last:
  |         last, kind = bits.take(1), bits.take(2)
  |         if kind == 0:
  |             bits.take(bits.count % 8)
  |             n = bits.take(16)
  |             bits.take(16)
  |             for _ in range(n): out.append(bits.take(8))
  |             continue
  |         if kind == 3: raise error('Error -3 while decompressing data: invalid block type')
  |         if kind == 1: main, far = _codes([8] * 144 + [9] * 112 + [7] * 24 + [8] * 8), _codes([5] * 30)
  |         else:
  |             n, m, k = bits.take(5) + 257, bits.take(5) + 1, bits.take(4) + 4
  |             sizes = [0] * 19
  |             for i in [16, 17, 18, 0, 8, 7, 9, 6, 10, 5, 11, 4, 12, 3, 13, 2, 14, 1, 15][:k]: sizes[i] = bits.take(3)
  |             codes, sizes = _codes(sizes), []
  |             while len(sizes) < n + m:
  |                 s = bits.symbol(codes)
  |                 if s < 16: sizes.append(s)
  |                 elif s == 16: sizes += sizes[-1:] * (3 + bits.take(2))
  |                 elif s == 17: sizes += [0] * (3 + bits.take(3))
  |                 else: sizes += [0] * (11 + bits.take(7))
  |             main, far = _codes(sizes[:n]), _codes(sizes[n:])
  |         while (s := bits.symbol(main)) != 256:
  |             if s < 256: out.append(s)
  |             else:
  |                 n = _lengths[s - 257] + bits.take(_extra[s - 257])
  |                 d = bits.symbol(far)
  |                 back = _far[d] + bits.take(max(0, d // 2 - 1))
  |                 for _ in range(n): out.append(out[-back])
  |     return bytes(out)
  | def decompress(data, /, wbits=15, bufsize=16384):
  |     data = bytes(data)
  |     if wbits < 0: return _inflate(data)
  |     if data[:2] == b'\x1f\x8b': return _inflate(data[10:])
  |     if len(data) < 2 or data[0] & 15 != 8 or (data[0] << 8 | data[1]) % 31:
  |         raise error('Error -3 while decompressing data: incorrect header check')
  |     return _inflate(data[2:])"# }

/-- modules for bytes: numbers in them, digests of them, and other ways to write them -/
def bytesLibraries : List Library :=
  [layoutsLibrary, digestsLibrary, keyedDigestsLibrary, spellingsLibrary, widerSpellingsLibrary, packingLibrary]

end IncludeAudit.Offside
