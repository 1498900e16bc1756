/-
Modules for text: its characters, its lines, its words, and what two texts have in common.

- `wordingLibraries`: the modules.
-/
import IncludeAudit.Offside.Library.Basic

namespace IncludeAudit.Offside

/-- the module for characters and shapes of text -/
def charactersLibrary : Library :=
  { name := "string"
    source := r#"
  | import re
  | __all__ = ['ascii_letters', 'ascii_lowercase', 'ascii_uppercase', 'capwords', 'digits', 'hexdigits', 'octdigits', 'printable',
  |     'punctuation', 'whitespace', 'Formatter', 'Template']
  | whitespace = ' \t\n\r\v\f'
  | ascii_lowercase, ascii_uppercase = 'abcdefghijklmnopqrstuvwxyz', 'ABCDEFGHIJKLMNOPQRSTUVWXYZ'
  | ascii_letters, digits, octdigits = ascii_lowercase + ascii_uppercase, '0123456789', '01234567'
  | hexdigits = digits + 'abcdef' + 'ABCDEF'
  | punctuation = '!"' '#$%&\'()*+,-./:;<=>?@[\\]^_\x60{|}~'
  | printable = digits + ascii_letters + punctuation + whitespace
  | def capwords(s, sep=None): return (sep or ' ').join(map(str.capitalize, s.split(sep)))
  | class Template:
  |     delimiter, idpattern, braceidpattern, flags = '$', r'(?a:[_a-z][_a-z0-9]*)', None, re.IGNORECASE
  |     def __init_subclass__(cls):
  |         super().__init_subclass__()
  |         if 'pattern' in cls.__dict__: pattern = cls.pattern
  |         else:
  |             delim, id = re.escape(cls.delimiter), cls.idpattern
  |             pattern = rf'{delim}(?:(?P<escaped>{delim})|(?P<named>{id})|{{(?P<braced>{cls.braceidpattern or id})}}|(?P<invalid>))'
  |         cls.pattern = re.compile(pattern, cls.flags | re.VERBOSE)
  |     def __init__(self, template): self.template = template
  |     def _invalid(self, found):
  |         i = found.start('invalid')
  |         lines = self.template[:i].splitlines(keepends=True)
  |         column, line = (i - len(''.join(lines[:-1])), len(lines)) if lines else (1, 1)
  |         raise ValueError('Invalid placeholder in string: line %d, col %d' % (line, column))
  |     def _filled(self, mapping, kws, safe):
  |         def given(name):
  |             return kws[name] if name in kws else mapping[name]
  |         def convert(found):
  |             name = found.group('named') or found.group('braced')
  |             if name is not None:
  |                 if not safe: return str(given(name))
  |                 try: return str(given(name))
  |                 except KeyError: return found.group()
  |             if found.group('escaped') is not None: return self.delimiter
  |             if safe: return found.group()
  |             self._invalid(found)
  |         return self.pattern.sub(convert, self.template)
  |     def substitute(self, mapping={}, /, **kws): return self._filled(mapping, kws, False)
  |     def safe_substitute(self, mapping={}, /, **kws): return self._filled(mapping, kws, True)
  |     def is_valid(self): return all(m.group('invalid') is None for m in self.pattern.finditer(self.template))
  |     def get_identifiers(self):
  |         found = [m.group('named') or m.group('braced') for m in self.pattern.finditer(self.template)]
  |         return list(dict.fromkeys(n for n in found if n is not None))
  | Template.__init_subclass__()
  | class Formatter:
  |     def format(self, format_string, /, *args, **kwargs): return self.vformat(format_string, args, kwargs)
  |     def vformat(self, format_string, args, kwargs):
  |         used = set()
  |         result, _ = self._vformat(format_string, args, kwargs, used, 2)
  |         self.check_unused_args(used, args, kwargs)
  |         return result
  |     def _vformat(self, format_string, args, kwargs, used, depth, auto=0):
  |         if depth < 0: raise ValueError('Max string recursion exceeded')
  |         out = []
  |         for text, name, spec, conversion in self.parse(format_string):
  |             if text: out.append(text)
  |             if name is None: continue
  |             if name == '':
  |                 if auto is False: raise ValueError('cannot switch from manual field specification to automatic field numbering')
  |                 name, auto = str(auto), auto + 1
  |             elif name.isdigit():
  |                 if auto: raise ValueError('cannot switch from manual field specification to automatic field numbering')
  |                 auto = False
  |             obj, first = self.get_field(name, args, kwargs)
  |             used.add(first)
  |             obj = self.convert_field(obj, conversion)
  |             spec, auto = self._vformat(spec, args, kwargs, used, depth - 1, auto)
  |             out.append(self.format_field(obj, spec))
  |         return ''.join(out), auto
  |     def get_value(self, key, args, kwargs): return args[key] if isinstance(key, int) else kwargs[key]
  |     def check_unused_args(self, used_args, args, kwargs): pass
  |     def format_field(self, value, format_spec): return format(value, format_spec)
  |     def convert_field(self, value, conversion):
  |         if conversion is None: return value
  |         if conversion in 'sra' and conversion: return {'s': str, 'r': repr, 'a': ascii}[conversion](value)
  |         raise ValueError('Unknown conversion specifier {0!s}'.format(conversion))
  |     def parse(self, format_string):
  |         i, text = 0, ''
  |         while i < len(format_string):
  |             c = format_string[i]
  |             if c in '{}' and format_string[i + 1:i + 2] == c:
  |                 text += c
  |                 i += 2
  |             elif c == '}': raise ValueError("Single '}' encountered in format string")
  |             elif c == '{':
  |                 depth, j = 1, i + 1
  |                 while j < len(format_string) and depth:
  |                     depth += {'{': 1, '}': -1}.get(format_string[j], 0)
  |                     j += 1
  |                 if depth: raise ValueError("expected '}' before end of string" if j > i + 1 else "Single '{' encountered in format string")
  |                 inner, i = format_string[i + 1:j - 1], j
  |                 head, _, spec = inner.partition(':')
  |                 name, mark, conversion = head.partition('!')
  |                 yield text, name, spec, conversion if mark else None
  |                 text = ''
  |             else:
  |                 text += c
  |                 i += 1
  |         if text: yield text, None, None, None
  |     def get_field(self, field_name, args, kwargs):
  |         found = re.match(r'[^.\[]*', field_name).group()
  |         first = int(found) if found.isdigit() else found
  |         obj, rest = self.get_value(first, args, kwargs), field_name[len(found):]
  |         for attr, index in re.findall(r'\.([^.\[]+)|\[([^\]]*)\]', rest):
  |             obj = getattr(obj, attr) if attr else obj[int(index) if index.isdigit() else index]
  |         return obj, first"# }

/-- the module for lines of some width -/
def fillingLibrary : Library :=
  { name := "textwrap"
    file := "/usr/lib/python3.11/textwrap.py"
    source := r#"
  | import re
  | __all__ = ['TextWrapper', 'wrap', 'fill', 'dedent', 'indent', 'shorten']
  | _blanks = '\t\n\x0b\x0c\r '
  | _words = re.compile(r'([\t\n\x0b\x0c\r ]+|(?<=[\w!"\'&.,?])-{2,}(?=\w)|[^\t\n\x0b\x0c\r ]+?(?:-(?:(?<=[^\d\W]{2}-)|(?<=[^\d\W]-[^\d\W]-))'
  |     r'(?=[^\d\W]-?[^\d\W])|(?=[\t\n\x0b\x0c\r ]|\Z)|(?<=[\w!"\'&.,?])(?=-{2,}\w)))')
  | class TextWrapper:
  |     unicode_whitespace_trans = dict.fromkeys(map(ord, _blanks), ord(' '))
  |     wordsep_re, wordsep_simple_re = _words, re.compile(r'([\t\n\x0b\x0c\r ]+)')
  |     sentence_end_re = re.compile(r'[a-z][\.\!\?][\"\']?\Z')
  |     def __init__(self, width=70, initial_indent='', subsequent_indent='', expand_tabs=True, replace_whitespace=True,
  |             fix_sentence_endings=False, break_long_words=True, drop_whitespace=True, break_on_hyphens=True, tabsize=8, *,
  |             max_lines=None, placeholder=' [...]'):
  |         self.width, self.initial_indent, self.subsequent_indent = width, initial_indent, subsequent_indent
  |         self.expand_tabs, self.replace_whitespace, self.fix_sentence_endings = expand_tabs, replace_whitespace, fix_sentence_endings
  |         self.break_long_words, self.drop_whitespace, self.break_on_hyphens = break_long_words, drop_whitespace, break_on_hyphens
  |         self.tabsize, self.max_lines, self.placeholder = tabsize, max_lines, placeholder
  |     def _munge_whitespace(self, text):
  |         if self.expand_tabs: text = text.expandtabs(self.tabsize)
  |         return text.translate(self.unicode_whitespace_trans) if self.replace_whitespace else text
  |     def _split(self, text):
  |         return [c for c in (self.wordsep_re if self.break_on_hyphens is True else self.wordsep_simple_re).split(text) if c]
  |     def _fix_sentence_endings(self, chunks):
  |         i = 0
  |         while i < len(chunks) - 1:
  |             if chunks[i + 1] == ' ' and self.sentence_end_re.search(chunks[i]):
  |                 chunks[i + 1] = '  '
  |                 i += 1
  |             i += 1
  |     def _handle_long_word(self, chunks, line, size, width):
  |         left = 1 if width < 1 else width - size
  |         if self.break_long_words:
  |             end, chunk = left, chunks[-1]
  |             if self.break_on_hyphens and len(chunk) > left:
  |                 hyphen = chunk.rfind('-', 0, left)
  |                 if hyphen > 0 and any(c != '-' for c in chunk[:hyphen]): end = hyphen + 1
  |             line.append(chunk[:end])
  |             chunks[-1] = chunk[end:]
  |         elif not line: line.append(chunks.pop())
  |     def _wrap_chunks(self, chunks):
  |         if self.width <= 0: raise ValueError('invalid width %r (must be > 0)' % self.width)
  |         if self.max_lines is not None:
  |             indent = self.subsequent_indent if self.max_lines > 1 else self.initial_indent
  |             if len(indent) + len(self.placeholder.lstrip()) > self.width:
  |                 raise ValueError('placeholder too large for max width')
  |         lines = []
  |         chunks.reverse()
  |         while chunks:
  |             line, size = [], 0
  |             indent = self.subsequent_indent if lines else self.initial_indent
  |             width = self.width - len(indent)
  |             if self.drop_whitespace and chunks[-1].strip() == '' and lines: del chunks[-1]
  |             while chunks and size + len(chunks[-1]) <= width:
  |                 size += len(chunks[-1])
  |                 line.append(chunks.pop())
  |             if chunks and len(chunks[-1]) > width:
  |                 self._handle_long_word(chunks, line, size, width)
  |                 size = sum(map(len, line))
  |             if self.drop_whitespace and line and line[-1].strip() == '': size -= len(line.pop())
  |             if not line: continue
  |             rest = chunks and not (self.drop_whitespace and len(chunks) == 1 and not chunks[0].strip())
  |             if self.max_lines is None or len(lines) + 1 < self.max_lines or not rest and size <= width:
  |                 lines.append(indent + ''.join(line))
  |                 continue
  |             while line:
  |                 if line[-1].strip() and size + len(self.placeholder) <= width:
  |                     lines.append(indent + ''.join(line) + self.placeholder)
  |                     break
  |                 size -= len(line.pop())
  |             else:
  |                 if lines and len(lines[-1].rstrip()) + len(self.placeholder) <= self.width:
  |                     lines[-1] = lines[-1].rstrip() + self.placeholder
  |                 else: lines.append(indent + self.placeholder.lstrip())
  |             break
  |         return lines
  |     def _split_chunks(self, text): return self._split(self._munge_whitespace(text))
  |     def wrap(self, text):
  |         chunks = self._split_chunks(text)
  |         if self.fix_sentence_endings: self._fix_sentence_endings(chunks)
  |         return self._wrap_chunks(chunks)
  |     def fill(self, text): return '\n'.join(self.wrap(text))
  | def wrap(text, width=70, **kwargs): return TextWrapper(width=width, **kwargs).wrap(text)
  | def fill(text, width=70, **kwargs): return TextWrapper(width=width, **kwargs).fill(text)
  | def shorten(text, width, **kwargs): return TextWrapper(width=width, max_lines=1, **kwargs).fill(' '.join(text.strip().split()))
  | def dedent(text):
  |     lines = ['' if line.strip(' \t') == '' else line for line in text.split('\n')]
  |     margin = None
  |     for line in lines:
  |         if not line: continue
  |         front = line[:len(line) - len(line.lstrip(' \t'))]
  |         if margin is None: margin = front
  |         else:
  |             n = 0
  |             while n < len(margin) and n < len(front) and margin[n] == front[n]: n += 1
  |             margin = margin[:n]
  |     return '\n'.join([line[len(margin):] for line in lines] if margin else lines)
  | def indent(text, prefix, predicate=None):
  |     if predicate is None: predicate = lambda line: line.strip()
  |     return ''.join([prefix + line if predicate(line) else line for line in text.splitlines(True)])"# }

/-- the module for words of commands -/
def wordsLibrary : Library :=
  { name := "shlex"
    file := "/usr/lib/python3.11/shlex.py"
    source := r#"
  | import re, sys
  | __all__ = ['shlex', 'split', 'quote', 'join']
  | class shlex:
  |     def __init__(self, instream=None, infile=None, posix=False, punctuation_chars=False):
  |         self._text = instream if isinstance(instream, str) else (sys.stdin if instream is None else instream).read()
  |         self._place, self.infile, self.posix, self.eof = 0, infile, posix, None if posix else ''
  |         self.commenters = '#'
  |         self.wordchars = 'abcdfeghijklmnopqrstuvwxyzABCDEFGHIJKLMNOPQRSTUVWXYZ0123456789_'
  |         if posix: self.wordchars += 'ßàáâãäåæçèéêëìíîïðñòóôõöøùúûüýþÿÀÁÂÃÄÅÆÇÈÉÊËÌÍÎÏÐÑÒÓÔÕÖØÙÚÛÜÝÞ'
  |         self.whitespace, self.whitespace_split, self.quotes, self.escape, self.escapedquotes = ' \t\r\n', False, '\'"', '\\', '"'
  |         self.state, self.pushback, self.lineno, self.token, self.debug, self.source = ' ', [], 1, '', 0, None
  |         self.punctuation_chars = '();<>|&' if punctuation_chars is True else punctuation_chars or ''
  |         self._pushback_chars = []
  |         if self.punctuation_chars:
  |             self.wordchars += '~-./*?='
  |             for c in self.punctuation_chars: self.wordchars = self.wordchars.replace(c, '')
  |     def push_token(self, tok): self.pushback.insert(0, tok)
  |     def get_token(self):
  |         if self.pushback: return self.pushback.pop(0)
  |         return self.read_token()
  |     def _next(self):
  |         if self._pushback_chars: return self._pushback_chars.pop()
  |         c = self._text[self._place:self._place + 1]
  |         self._place += 1
  |         return c
  |     def _line(self):
  |         while (c := self._next()) not in ('', '\n'): pass
  |     def read_token(self):
  |         quoted, escaped, mark = False, ' ', None
  |         while True:
  |             c = self._next()
  |             if c == '\n': self.lineno += 1
  |             if self.state is None:
  |                 self.token = ''
  |                 break
  |             elif self.state == ' ':
  |                 if not c:
  |                     self.state = None
  |                     break
  |                 elif c in self.whitespace:
  |                     if self.token or self.posix and quoted: break
  |                 elif c in self.commenters:
  |                     self._line()
  |                     self.lineno += 1
  |                 elif self.posix and c in self.escape: escaped, self.state = 'a', c
  |                 elif c in self.wordchars: self.token, self.state = c, 'a'
  |                 elif c in self.punctuation_chars: self.token, self.state = c, 'c'
  |                 elif c in self.quotes:
  |                     if not self.posix: self.token = c
  |                     self.state = c
  |                 elif self.whitespace_split: self.token, self.state = c, 'a'
  |                 else:
  |                     self.token = c
  |                     if self.token or self.posix and quoted: break
  |             elif self.state in self.quotes:
  |                 quoted = True
  |                 if not c: raise ValueError('No closing quotation')
  |                 if c == self.state:
  |                     if not self.posix:
  |                         self.token += c
  |                         self.state = ' '
  |                         break
  |                     self.state = 'a'
  |                 elif self.posix and c in self.escape and self.state in self.escapedquotes: escaped, self.state = self.state, c
  |                 else: self.token += c
  |             elif self.state in self.escape:
  |                 if not c: raise ValueError('No escaped character')
  |                 if escaped in self.quotes and c != self.state and c != escaped: self.token += self.state
  |                 self.token += c
  |                 self.state = escaped
  |             elif self.state in ('a', 'c'):
  |                 if not c:
  |                     self.state = None
  |                     break
  |                 elif c in self.whitespace:
  |                     self.state = ' '
  |                     if self.token or self.posix and quoted: break
  |                 elif c in self.commenters:
  |                     self._line()
  |                     self.lineno += 1
  |                     if self.posix:
  |                         self.state = ' '
  |                         if self.token or self.posix and quoted: break
  |                 elif self.state == 'c':
  |                     if c in self.punctuation_chars: self.token += c
  |                     else:
  |                         if c not in self.whitespace: self._pushback_chars.append(c)
  |                         self.state = ' '
  |                         break
  |                 elif self.posix and c in self.quotes: self.state = c
  |                 elif self.posix and c in self.escape: escaped, self.state = 'a', c
  |                 elif c in self.wordchars or c in self.quotes or self.whitespace_split and c not in self.punctuation_chars:
  |                     self.token += c
  |                 else:
  |                     if self.punctuation_chars: self._pushback_chars.append(c)
  |                     else: self.pushback.insert(0, c)
  |                     self.state = ' '
  |                     if self.token or self.posix and quoted: break
  |         result, self.token = self.token, ''
  |         return None if self.posix and not quoted and result == '' else result
  |     def __iter__(self): return self
  |     def __next__(self):
  |         token = self.get_token()
  |         if token == self.eof: raise StopIteration
  |         return token
  | def split(s, comments=False, posix=True):
  |     if s is None: raise ValueError('s argument must not be None')
  |     lex = shlex(s, posix=posix)
  |     lex.whitespace_split = True
  |     if not comments: lex.commenters = ''
  |     return list(lex)
  | def join(split_command): return ' '.join(quote(arg) for arg in split_command)
  | _unsafe = re.compile(r'[^\w@%+=:,./-]', re.ASCII)
  | def quote(s):
  |     if not s: return "''"
  |     return s if _unsafe.search(s) is None else "'" + s.replace("'", "'\"'\"'") + "'""# }

/-- the module for text as bytes -/
def codingsLibrary : Library :=
  { name := "codecs"
    source := r#"
  | import builtins
  | BOM_UTF8 = b'\xef\xbb\xbf'
  | BOM_LE = BOM_UTF16_LE = b'\xff\xfe'
  | BOM_BE = BOM_UTF16_BE = b'\xfe\xff'
  | BOM_UTF32_LE = b'\xff\xfe\x00\x00'
  | BOM_UTF32_BE = b'\x00\x00\xfe\xff'
  | BOM = BOM_UTF16 = BOM_UTF16_LE
  | BOM_UTF32 = BOM_UTF32_LE
  | _from = 'abcdefghijklmnopqrstuvwxyzABCDEFGHIJKLMNOPQRSTUVWXYZ'
  | _rot = str.maketrans(_from, 'nopqrstuvwxyzabcdefghijklmNOPQRSTUVWXYZABCDEFGHIJKLM')
  | def _hex_encode(data): return bytes(data).hex().encode()
  | def _hex_decode(data): return bytes.fromhex(bytes(data).decode('ascii'))
  | def _base64_encode(data):
  |     import base64
  |     return base64.encodebytes(data)
  | def _base64_decode(data):
  |     import base64
  |     return base64.decodebytes(data)
  | def _zlib_encode(data):
  |     import zlib
  |     return zlib.compress(data)
  | def _zlib_decode(data):
  |     import zlib
  |     return zlib.decompress(data)
  | _special = {'rot13': (lambda t: t.translate(_rot),) * 2, 'hex': (_hex_encode, _hex_decode),
  |     'base64': (_base64_encode, _base64_decode), 'zlib': (_zlib_encode, _zlib_decode)}
  | _other = {'rot_13': 'rot13', 'rot-13': 'rot13', 'hex_codec': 'hex', 'base64_codec': 'base64', 'base_64': 'base64',
  |     'zlib_codec': 'zlib', 'zip': 'zlib'}
  | def _own(encoding):
  |     name = encoding.lower()
  |     return _special.get(_other.get(name, name))
  | def encode(obj, encoding='utf-8', errors='strict'):
  |     own = _own(encoding)
  |     return own[0](obj) if own else obj.encode(encoding, errors)
  | def decode(obj, encoding='utf-8', errors='strict'):
  |     own = _own(encoding)
  |     return own[1](obj) if own else bytes(obj).decode(encoding, errors)
  | class CodecInfo(tuple):
  |     def __new__(cls, encode, decode, streamreader=None, streamwriter=None, incrementalencoder=None, incrementaldecoder=None,
  |             name=None, *, _is_text_encoding=None):
  |         self = tuple.__new__(cls, (encode, decode, streamreader, streamwriter))
  |         self.name, self.encode, self.decode = name, encode, decode
  |         self.streamreader, self.streamwriter = streamreader, streamwriter
  |         self.incrementalencoder, self.incrementaldecoder = incrementalencoder, incrementaldecoder
  |         return self
  |     def __repr__(self): return f'<codecs.CodecInfo object for encoding {self.name} at {id(self):#x}>'
  | _names = {'utf8': 'utf-8', 'utf_8': 'utf-8', 'u8': 'utf-8', 'latin1': 'iso8859-1', 'latin-1': 'iso8859-1', 'latin_1': 'iso8859-1',
  |     'iso-8859-1': 'iso8859-1', 'us-ascii': 'ascii', 'utf16': 'utf-16', 'utf_16': 'utf-16', 'utf32': 'utf-32'}
  | _searches = []
  | def register(search_function): _searches.append(search_function)
  | def unregister(search_function): _searches.remove(search_function)
  | class IncrementalEncoder:
  |     def __init__(self, errors='strict'): self.errors, self.buffer = errors, ''
  |     def encode(self, input, final=False): return input.encode(self._name, self.errors)
  |     def reset(self): pass
  |     def getstate(self): return 0
  |     def setstate(self, state): pass
  | class IncrementalDecoder:
  |     def __init__(self, errors='strict'): self.errors, self.buffer = errors, b''
  |     def decode(self, input, final=False):
  |         data = self.buffer + bytes(input)
  |         keep = 0
  |         if not final and self._name in ('utf-8', 'utf-8-sig'):
  |             for i in range(1, min(4, len(data)) + 1):
  |                 c = data[-i]
  |                 if c & 0xC0 == 0x80: continue
  |                 need = 2 if c >> 5 == 6 else 3 if c >> 4 == 14 else 4 if c >> 3 == 30 else 1
  |                 if i < need: keep = i
  |                 break
  |         self.buffer = data[len(data) - keep:]
  |         return data[:len(data) - keep].decode(self._name, self.errors)
  |     def reset(self): self.buffer = b''
  |     def getstate(self): return (self.buffer, 0)
  |     def setstate(self, state): self.buffer = state[0]
  | class StreamWriter:
  |     encoding = 'utf-8'
  |     def __init__(self, stream, errors='strict'): self.stream, self.errors = stream, errors
  |     def write(self, object): self.stream.write(object.encode(self.encoding, self.errors))
  |     def writelines(self, list): self.write(''.join(list))
  |     def __getattr__(self, name): return getattr(self.stream, name)
  |     def __enter__(self): return self
  |     def __exit__(self, type, value, tb): self.stream.close()
  | class StreamReader:
  |     encoding = 'utf-8'
  |     def __init__(self, stream, errors='strict'): self.stream, self.errors = stream, errors
  |     def read(self, size=-1, chars=-1, firstline=False): return self.stream.read(size).decode(self.encoding, self.errors)
  |     def readline(self, size=None, keepends=True):
  |         line = self.stream.readline().decode(self.encoding, self.errors)
  |         return line if keepends else line.rstrip('\n')
  |     def readlines(self, sizehint=None, keepends=True): return self.read().splitlines(keepends)
  |     def __iter__(self): return self
  |     def __next__(self):
  |         line = self.readline()
  |         if line: return line
  |         raise StopIteration
  |     def __getattr__(self, name): return getattr(self.stream, name)
  |     def __enter__(self): return self
  |     def __exit__(self, type, value, tb): self.stream.close()
  | def lookup(encoding):
  |     for search in _searches:
  |         found = search(encoding.lower().replace('-', '_').replace(' ', '_'))
  |         if found is not None: return found
  |     own = _own(encoding)
  |     if own:
  |         return CodecInfo(lambda x, errors='strict': (own[0](x), len(x)), lambda x, errors='strict': (own[1](x), len(x)),
  |             name=_other.get(encoding.lower(), encoding.lower()))
  |     ''.encode(encoding)
  |     name = encoding.lower().replace('_', '-').replace(' ', '-')
  |     name = _names.get(name, name)
  |     here = {'encoding': name, '_name': name}
  |     return CodecInfo(lambda x, errors='strict': (x.encode(name, errors), len(x)),
  |         lambda x, errors='strict': (bytes(x).decode(name, errors), len(x)), type('StreamReader', (StreamReader,), here),
  |         type('StreamWriter', (StreamWriter,), here), type('IncrementalEncoder', (IncrementalEncoder,), here),
  |         type('IncrementalDecoder', (IncrementalDecoder,), here), name)
  | def getencoder(encoding): return lookup(encoding).encode
  | def getdecoder(encoding): return lookup(encoding).decode
  | def getincrementalencoder(encoding): return lookup(encoding).incrementalencoder
  | def getincrementaldecoder(encoding): return lookup(encoding).incrementaldecoder
  | def getreader(encoding): return lookup(encoding).streamreader
  | def getwriter(encoding): return lookup(encoding).streamwriter
  | def utf_8_encode(str, errors='strict'): return (str.encode('utf-8', errors), len(str))
  | def utf_8_decode(data, errors='strict', final=False): return (bytes(data).decode('utf-8', errors), len(data))
  | def escape_decode(data, errors='strict'):
  |     import ast
  |     return (ast.literal_eval("b'''" + data.decode('latin-1').replace("'", "\\'") + "'''"), len(data))
  | def iterencode(iterator, encoding, errors='strict', **kwargs):
  |     encoder = getincrementalencoder(encoding)(errors, **kwargs)
  |     for part in iterator:
  |         output = encoder.encode(part)
  |         if output: yield output
  | def iterdecode(iterator, encoding, errors='strict', **kwargs):
  |     decoder = getincrementaldecoder(encoding)(errors, **kwargs)
  |     for part in iterator:
  |         output = decoder.decode(part)
  |         if output: yield output
  |     output = decoder.decode(b'', True)
  |     if output: yield output
  | def open(filename, mode='r', encoding=None, errors='strict', buffering=-1):
  |     if encoding is not None and 'b' not in mode: return builtins.open(filename, mode, encoding=encoding, errors=errors, newline='')
  |     return builtins.open(filename, mode if 'b' in mode or encoding is None else mode + 'b')
  | _handlers = {}
  | def register_error(errors, handler): _handlers[errors] = handler
  | def strict_errors(exception): raise exception
  | def ignore_errors(exception): return ('', exception.end)
  | def replace_errors(exception):
  |     return ('?' * (exception.end - exception.start) if isinstance(exception, UnicodeEncodeError) else '\ufffd', exception.end)
  | def backslashreplace_errors(exception):
  |     part = exception.object[exception.start:exception.end]
  |     if isinstance(part, bytes): return (''.join(f'\\x{c:02x}' for c in part), exception.end)
  |     return (part.encode('ascii', 'backslashreplace').decode(), exception.end)
  | def xmlcharrefreplace_errors(exception):
  |     return (''.join(f'&#{ord(c)};' for c in exception.object[exception.start:exception.end]), exception.end)
  | def namereplace_errors(exception): return backslashreplace_errors(exception)
  | _handlers.update(strict=strict_errors, ignore=ignore_errors, replace=replace_errors, backslashreplace=backslashreplace_errors,
  |     xmlcharrefreplace=xmlcharrefreplace_errors, namereplace=namereplace_errors)
  | def lookup_error(errors):
  |     if errors in _handlers: return _handlers[errors]
  |     raise LookupError(f"unknown error handler name '{errors}'")"# }

/-- the module for what two texts have in common -/
def differencesLibrary : Library :=
  { name := "difflib"
    source := r#"
  | import re
  | from heapq import nlargest as _nlargest
  | from collections import namedtuple as _namedtuple
  | __all__ = ['get_close_matches', 'ndiff', 'restore', 'SequenceMatcher', 'Differ', 'IS_CHARACTER_JUNK', 'IS_LINE_JUNK', 'context_diff',
  |     'unified_diff', 'diff_bytes', 'HtmlDiff', 'Match']
  | Match = _namedtuple('Match', 'a b size')
  | class SequenceMatcher:
  |     def __init__(self, isjunk=None, a='', b='', autojunk=True):
  |         self.isjunk, self.a, self.b, self.autojunk = isjunk, None, None, autojunk
  |         self.set_seqs(a, b)
  |     def set_seqs(self, a, b):
  |         self.set_seq1(a)
  |         self.set_seq2(b)
  |     def set_seq1(self, a):
  |         if a is self.a: return
  |         self.a = a
  |         self.matching_blocks = self.opcodes = None
  |     def set_seq2(self, b):
  |         if b is self.b: return
  |         self.b = b
  |         self.matching_blocks = self.opcodes = self.fullbcount = None
  |         self.b2j = b2j = {}
  |         for i, elt in enumerate(b): b2j.setdefault(elt, []).append(i)
  |         self.bjunk = {elt for elt in b2j if self.isjunk(elt)} if self.isjunk else set()
  |         for elt in self.bjunk: del b2j[elt]
  |         self.bpopular, n = set(), len(b)
  |         if self.autojunk and n >= 200:
  |             self.bpopular = {elt for elt, idxs in b2j.items() if len(idxs) > n // 100 + 1}
  |             for elt in self.bpopular: del b2j[elt]
  |     def find_longest_match(self, alo=0, ahi=None, blo=0, bhi=None):
  |         a, b, b2j, isbjunk = self.a, self.b, self.b2j, self.bjunk
  |         if ahi is None: ahi = len(a)
  |         if bhi is None: bhi = len(b)
  |         besti, bestj, bestsize = alo, blo, 0
  |         j2len, nothing = {}, []
  |         for i in range(alo, ahi):
  |             newj2len = {}
  |             for j in b2j.get(a[i], nothing):
  |                 if j < blo: continue
  |                 if j >= bhi: break
  |                 k = newj2len[j] = j2len.get(j - 1, 0) + 1
  |                 if k > bestsize: besti, bestj, bestsize = i - k + 1, j - k + 1, k
  |             j2len = newj2len
  |         while besti > alo and bestj > blo and b[bestj - 1] not in isbjunk and a[besti - 1] == b[bestj - 1]:
  |             besti, bestj, bestsize = besti - 1, bestj - 1, bestsize + 1
  |         while besti + bestsize < ahi and bestj + bestsize < bhi and b[bestj + bestsize] not in isbjunk and \
  |                 a[besti + bestsize] == b[bestj + bestsize]:
  |             bestsize += 1
  |         while besti > alo and bestj > blo and b[bestj - 1] in isbjunk and a[besti - 1] == b[bestj - 1]:
  |             besti, bestj, bestsize = besti - 1, bestj - 1, bestsize + 1
  |         while besti + bestsize < ahi and bestj + bestsize < bhi and b[bestj + bestsize] in isbjunk and \
  |                 a[besti + bestsize] == b[bestj + bestsize]:
  |             bestsize += 1
  |         return Match(besti, bestj, bestsize)
  |     def get_matching_blocks(self):
  |         if self.matching_blocks is not None: return self.matching_blocks
  |         la, lb = len(self.a), len(self.b)
  |         queue, found = [(0, la, 0, lb)], []
  |         while queue:
  |             alo, ahi, blo, bhi = queue.pop()
  |             i, j, k = x = self.find_longest_match(alo, ahi, blo, bhi)
  |             if k:
  |                 found.append(x)
  |                 if alo < i and blo < j: queue.append((alo, i, blo, j))
  |                 if i + k < ahi and j + k < bhi: queue.append((i + k, ahi, j + k, bhi))
  |         found.sort()
  |         i1 = j1 = k1 = 0
  |         joined = []
  |         for i2, j2, k2 in found:
  |             if i1 + k1 == i2 and j1 + k1 == j2: k1 += k2
  |             else:
  |                 if k1: joined.append((i1, j1, k1))
  |                 i1, j1, k1 = i2, j2, k2
  |         if k1: joined.append((i1, j1, k1))
  |         joined.append((la, lb, 0))
  |         self.matching_blocks = list(map(Match._make, joined))
  |         return self.matching_blocks
  |     def get_opcodes(self):
  |         if self.opcodes is not None: return self.opcodes
  |         i = j = 0
  |         self.opcodes = answer = []
  |         for ai, bj, size in self.get_matching_blocks():
  |             tag = 'replace' if i < ai and j < bj else 'delete' if i < ai else 'insert' if j < bj else ''
  |             if tag: answer.append((tag, i, ai, j, bj))
  |             i, j = ai + size, bj + size
  |             if size: answer.append(('equal', ai, i, bj, j))
  |         return answer
  |     def get_grouped_opcodes(self, n=3):
  |         codes = list(self.get_opcodes()) or [('equal', 0, 1, 0, 1)]
  |         if codes[0][0] == 'equal':
  |             tag, i1, i2, j1, j2 = codes[0]
  |             codes[0] = tag, max(i1, i2 - n), i2, max(j1, j2 - n), j2
  |         if codes[-1][0] == 'equal':
  |             tag, i1, i2, j1, j2 = codes[-1]
  |             codes[-1] = tag, i1, min(i2, i1 + n), j1, min(j2, j1 + n)
  |         group = []
  |         for tag, i1, i2, j1, j2 in codes:
  |             if tag == 'equal' and i2 - i1 > n + n:
  |                 group.append((tag, i1, min(i2, i1 + n), j1, min(j2, j1 + n)))
  |                 yield group
  |                 group = []
  |                 i1, j1 = max(i1, i2 - n), max(j1, j2 - n)
  |             group.append((tag, i1, i2, j1, j2))
  |         if group and not (len(group) == 1 and group[0][0] == 'equal'): yield group
  |     def ratio(self): return _ratio(sum(triple[-1] for triple in self.get_matching_blocks()), len(self.a) + len(self.b))
  |     def quick_ratio(self):
  |         if self.fullbcount is None:
  |             self.fullbcount = {}
  |             for elt in self.b: self.fullbcount[elt] = self.fullbcount.get(elt, 0) + 1
  |         avail, matches = {}, 0
  |         for elt in self.a:
  |             left = avail[elt] if elt in avail else self.fullbcount.get(elt, 0)
  |             avail[elt] = left - 1
  |             if left > 0: matches += 1
  |         return _ratio(matches, len(self.a) + len(self.b))
  |     def real_quick_ratio(self): return _ratio(min(len(self.a), len(self.b)), len(self.a) + len(self.b))
  | def _ratio(matches, length): return 2.0 * matches / length if length else 1.0
  | def get_close_matches(word, possibilities, n=3, cutoff=0.6):
  |     if not n > 0: raise ValueError('n must be > 0: %r' % (n,))
  |     if not 0.0 <= cutoff <= 1.0: raise ValueError('cutoff must be in [0.0, 1.0]: %r' % (cutoff,))
  |     result, s = [], SequenceMatcher()
  |     s.set_seq2(word)
  |     for x in possibilities:
  |         s.set_seq1(x)
  |         if s.real_quick_ratio() >= cutoff and s.quick_ratio() >= cutoff and s.ratio() >= cutoff: result.append((s.ratio(), x))
  |     return [x for score, x in _nlargest(n, result)]
  | class Differ:
  |     def __init__(self, linejunk=None, charjunk=None): self.linejunk, self.charjunk = linejunk, charjunk
  |     def compare(self, a, b):
  |         for tag, alo, ahi, blo, bhi in SequenceMatcher(self.linejunk, a, b).get_opcodes():
  |             if tag == 'replace': yield from self._fancy_replace(a, alo, ahi, b, blo, bhi)
  |             elif tag == 'delete': yield from self._dump('-', a, alo, ahi)
  |             elif tag == 'insert': yield from self._dump('+', b, blo, bhi)
  |             else: yield from self._dump(' ', a, alo, ahi)
  |     def _dump(self, tag, x, lo, hi):
  |         for i in range(lo, hi): yield '%s %s' % (tag, x[i])
  |     def _plain_replace(self, a, alo, ahi, b, blo, bhi):
  |         if bhi - blo < ahi - alo:
  |             yield from self._dump('+', b, blo, bhi)
  |             yield from self._dump('-', a, alo, ahi)
  |         else:
  |             yield from self._dump('-', a, alo, ahi)
  |             yield from self._dump('+', b, blo, bhi)
  |     def _fancy_replace(self, a, alo, ahi, b, blo, bhi):
  |         best_ratio, cutoff = 0.74, 0.75
  |         cruncher = SequenceMatcher(self.charjunk)
  |         eqi = eqj = None
  |         for j in range(blo, bhi):
  |             bj = b[j]
  |             cruncher.set_seq2(bj)
  |             for i in range(alo, ahi):
  |                 ai = a[i]
  |                 if ai == bj:
  |                     if eqi is None: eqi, eqj = i, j
  |                     continue
  |                 cruncher.set_seq1(ai)
  |                 if cruncher.real_quick_ratio() > best_ratio and cruncher.quick_ratio() > best_ratio and \
  |                         cruncher.ratio() > best_ratio:
  |                     best_ratio, best_i, best_j = cruncher.ratio(), i, j
  |         if best_ratio < cutoff:
  |             if eqi is None:
  |                 yield from self._plain_replace(a, alo, ahi, b, blo, bhi)
  |                 return
  |             best_i, best_j, best_ratio = eqi, eqj, 1.0
  |         else: eqi = None
  |         yield from self._fancy_helper(a, alo, best_i, b, blo, best_j)
  |         aelt, belt = a[best_i], b[best_j]
  |         if eqi is None:
  |             atags = btags = ''
  |             cruncher.set_seqs(aelt, belt)
  |             for tag, ai1, ai2, bj1, bj2 in cruncher.get_opcodes():
  |                 la, lb = ai2 - ai1, bj2 - bj1
  |                 if tag == 'replace':
  |                     atags += '^' * la
  |                     btags += '^' * lb
  |                 elif tag == 'delete': atags += '-' * la
  |                 elif tag == 'insert': btags += '+' * lb
  |                 else:
  |                     atags += ' ' * la
  |                     btags += ' ' * lb
  |             yield from self._qformat(aelt, belt, atags, btags)
  |         else: yield '  ' + aelt
  |         yield from self._fancy_helper(a, best_i + 1, ahi, b, best_j + 1, bhi)
  |     def _fancy_helper(self, a, alo, ahi, b, blo, bhi):
  |         if alo < ahi:
  |             if blo < bhi: yield from self._fancy_replace(a, alo, ahi, b, blo, bhi)
  |             else: yield from self._dump('-', a, alo, ahi)
  |         elif blo < bhi: yield from self._dump('+', b, blo, bhi)
  |     def _qformat(self, aline, bline, atags, btags):
  |         def kept(line, tags): return ''.join(c if t == ' ' and c.isspace() else t for c, t in zip(line, tags)).rstrip()
  |         atags, btags = kept(aline, atags), kept(bline, btags)
  |         yield '- ' + aline
  |         if atags: yield f'? {atags}\n'
  |         yield '+ ' + bline
  |         if btags: yield f'? {btags}\n'
  | def IS_LINE_JUNK(line, pat=re.compile(r'\s*(?:#\s*)?$').match): return pat(line) is not None
  | def IS_CHARACTER_JUNK(ch, ws=' \t'): return ch in ws
  | def _range(start, stop, context):
  |     beginning, length = start + 1, stop - start
  |     if context:
  |         if not length: beginning -= 1
  |         return '{}'.format(beginning) if length <= 1 else '{},{}'.format(beginning, beginning + length - 1)
  |     if length == 1: return '{}'.format(beginning)
  |     if not length: beginning -= 1
  |     return '{},{}'.format(beginning, length)
  | def _check_types(a, b, *args):
  |     if a and not isinstance(a[0], str):
  |         raise TypeError('lines to compare must be str, not %s (%r)' % (type(a[0]).__name__, a[0]))
  |     if b and not isinstance(b[0], str):
  |         raise TypeError('lines to compare must be str, not %s (%r)' % (type(b[0]).__name__, b[0]))
  |     for arg in args:
  |         if not isinstance(arg, str): raise TypeError('all arguments must be str, not: %r' % (arg,))
  | def unified_diff(a, b, fromfile='', tofile='', fromfiledate='', tofiledate='', n=3, lineterm='\n'):
  |     _check_types(a, b, fromfile, tofile, fromfiledate, tofiledate, lineterm)
  |     started = False
  |     for group in SequenceMatcher(None, a, b).get_grouped_opcodes(n):
  |         if not started:
  |             started = True
  |             yield '--- {}{}{}'.format(fromfile, '\t' + fromfiledate if fromfiledate else '', lineterm)
  |             yield '+++ {}{}{}'.format(tofile, '\t' + tofiledate if tofiledate else '', lineterm)
  |         first, last = group[0], group[-1]
  |         yield '@@ -{} +{} @@{}'.format(_range(first[1], last[2], False), _range(first[3], last[4], False), lineterm)
  |         for tag, i1, i2, j1, j2 in group:
  |             if tag == 'equal':
  |                 for line in a[i1:i2]: yield ' ' + line
  |                 continue
  |             if tag in ('replace', 'delete'):
  |                 for line in a[i1:i2]: yield '-' + line
  |             if tag in ('replace', 'insert'):
  |                 for line in b[j1:j2]: yield '+' + line
  | def context_diff(a, b, fromfile='', tofile='', fromfiledate='', tofiledate='', n=3, lineterm='\n'):
  |     _check_types(a, b, fromfile, tofile, fromfiledate, tofiledate, lineterm)
  |     sign, started = dict(insert='+ ', delete='- ', replace='! ', equal='  '), False
  |     for group in SequenceMatcher(None, a, b).get_grouped_opcodes(n):
  |         if not started:
  |             started = True
  |             yield '*** {}{}{}'.format(fromfile, '\t' + fromfiledate if fromfiledate else '', lineterm)
  |             yield '--- {}{}{}'.format(tofile, '\t' + tofiledate if tofiledate else '', lineterm)
  |         first, last = group[0], group[-1]
  |         yield '***************' + lineterm
  |         yield '*** {} ****{}'.format(_range(first[1], last[2], True), lineterm)
  |         if any(tag in ('replace', 'delete') for tag, *_ in group):
  |             for tag, i1, i2, _, _ in group:
  |                 if tag != 'insert':
  |                     for line in a[i1:i2]: yield sign[tag] + line
  |         yield '--- {} ----{}'.format(_range(first[3], last[4], True), lineterm)
  |         if any(tag in ('replace', 'insert') for tag, *_ in group):
  |             for tag, _, _, j1, j2 in group:
  |                 if tag != 'delete':
  |                     for line in b[j1:j2]: yield sign[tag] + line
  | def diff_bytes(dfunc, a, b, fromfile=b'', tofile=b'', fromfiledate=b'', tofiledate=b'', n=3, lineterm=b'\n'):
  |     def decode(s):
  |         try: return s.decode('latin-1')
  |         except AttributeError:
  |             raise TypeError('all arguments must be bytes, not %s (%r)' % (type(s).__name__, s)) from None
  |     for line in dfunc(list(map(decode, a)), list(map(decode, b)), decode(fromfile), decode(tofile), decode(fromfiledate),
  |             decode(tofiledate), n, decode(lineterm)):
  |         yield line.encode('latin-1')
  | def ndiff(a, b, linejunk=None, charjunk=IS_CHARACTER_JUNK): return Differ(linejunk, charjunk).compare(a, b)
  | def restore(delta, which):
  |     try: tag = {1: '- ', 2: '+ '}[int(which)]
  |     except KeyError: raise ValueError('unknown delta choice (must be 1 or 2): %r' % which) from None
  |     for line in delta:
  |         if line[:2] in ('  ', tag): yield line[2:]"# }

/-- the module for values on several lines -/
def printsLibrary : Library :=
  { name := "pprint"
    source := r#"
  | import collections, dataclasses, re, sys, types
  | from io import StringIO
  | __all__ = ['pprint', 'pformat', 'isreadable', 'isrecursive', 'saferepr', 'PrettyPrinter', 'pp']
  | def pprint(object, stream=None, indent=1, width=80, depth=None, *, compact=False, sort_dicts=True, underscore_numbers=False):
  |     PrettyPrinter(stream=stream, indent=indent, width=width, depth=depth, compact=compact, sort_dicts=sort_dicts,
  |         underscore_numbers=underscore_numbers).pprint(object)
  | def pformat(object, indent=1, width=80, depth=None, *, compact=False, sort_dicts=True, underscore_numbers=False):
  |     return PrettyPrinter(indent=indent, width=width, depth=depth, compact=compact, sort_dicts=sort_dicts,
  |         underscore_numbers=underscore_numbers).pformat(object)
  | def pp(object, *args, sort_dicts=False, **kwargs): pprint(object, *args, sort_dicts=sort_dicts, **kwargs)
  | def saferepr(object): return PrettyPrinter()._safe_repr(object, {}, None, 0)[0]
  | def isreadable(object): return PrettyPrinter()._safe_repr(object, {}, None, 0)[1]
  | def isrecursive(object): return PrettyPrinter()._safe_repr(object, {}, None, 0)[2]
  | class _safe_key:
  |     def __init__(self, obj): self.obj = obj
  |     def __lt__(self, other):
  |         try: return self.obj < other.obj
  |         except TypeError: return (str(type(self.obj)), id(self.obj)) < (str(type(other.obj)), id(other.obj))
  | def _safe_tuple(t): return _safe_key(t[0]), _safe_key(t[1])
  | class PrettyPrinter:
  |     def __init__(self, indent=1, width=80, depth=None, stream=None, *, compact=False, sort_dicts=True, underscore_numbers=False):
  |         indent, width = int(indent), int(width)
  |         if indent < 0: raise ValueError('indent must be >= 0')
  |         if depth is not None and depth <= 0: raise ValueError('depth must be > 0')
  |         if not width: raise ValueError('width must be != 0')
  |         self._depth, self._indent_per_level, self._width = depth, indent, width
  |         self._stream = stream if stream is not None else sys.stdout
  |         self._compact, self._sort_dicts, self._underscore_numbers = bool(compact), sort_dicts, underscore_numbers
  |     def pprint(self, object):
  |         if self._stream is not None:
  |             self._format(object, self._stream, 0, 0, {}, 0)
  |             self._stream.write('\n')
  |     def pformat(self, object):
  |         sio = StringIO()
  |         self._format(object, sio, 0, 0, {}, 0)
  |         return sio.getvalue()
  |     def isrecursive(self, object): return self.format(object, {}, 0, 0)[2]
  |     def isreadable(self, object):
  |         s, readable, recursive = self.format(object, {}, 0, 0)
  |         return readable and not recursive
  |     def _format(self, object, stream, indent, allowance, context, level):
  |         objid = id(object)
  |         if objid in context:
  |             stream.write(_recursion(object))
  |             return
  |         rep = self._repr(object, context, level)
  |         if len(rep) > self._width - indent - allowance:
  |             p = self._shape(object)
  |             if p is not None:
  |                 context[objid] = 1
  |                 p(object, stream, indent, allowance, context, level + 1)
  |                 del context[objid]
  |                 return
  |             if dataclasses.is_dataclass(object) and not isinstance(object, type) and object.__dataclass_params__.repr and \
  |                     '__create_fn__' in getattr(type(object).__repr__, '__qualname__', '__create_fn__'):
  |                 context[objid] = 1
  |                 self._pprint_dataclass(object, stream, indent, allowance, context, level + 1)
  |                 del context[objid]
  |                 return
  |         stream.write(rep)
  |     def _shape(self, object):
  |         r = type(object).__repr__
  |         for kind, shape in ((dict, self._pprint_dict), (collections.OrderedDict, self._pprint_ordered), (list, self._pprint_list),
  |                 (tuple, self._pprint_tuple), (set, self._pprint_set), (frozenset, self._pprint_set), (str, self._pprint_str),
  |                 (bytes, self._pprint_bytes), (bytearray, self._pprint_bytearray), (types.SimpleNamespace, self._pprint_namespace),
  |                 (types.MappingProxyType, self._pprint_proxy), (collections.defaultdict, self._pprint_default),
  |                 (collections.Counter, self._pprint_counter), (collections.deque, self._pprint_deque),
  |                 (collections.ChainMap, self._pprint_chain), (collections.UserDict, self._pprint_user),
  |                 (collections.UserList, self._pprint_user), (collections.UserString, self._pprint_user)):
  |             if r is kind.__repr__ and isinstance(object, kind): return shape
  |     def _pprint_dataclass(self, object, stream, indent, allowance, context, level):
  |         name = object.__class__.__name__
  |         indent += len(name) + 1
  |         items = [(f.name, getattr(object, f.name)) for f in dataclasses.fields(object) if f.repr]
  |         stream.write(name + '(')
  |         self._format_namespace_items(items, stream, indent, allowance, context, level)
  |         stream.write(')')
  |     def _pprint_dict(self, object, stream, indent, allowance, context, level):
  |         write = stream.write
  |         write('{')
  |         if self._indent_per_level > 1: write((self._indent_per_level - 1) * ' ')
  |         if len(object):
  |             items = sorted(object.items(), key=_safe_tuple) if self._sort_dicts else object.items()
  |             self._format_dict_items(items, stream, indent, allowance + 1, context, level)
  |         write('}')
  |     def _pprint_ordered(self, object, stream, indent, allowance, context, level):
  |         if not len(object): return stream.write(repr(object))
  |         cls = object.__class__
  |         stream.write(cls.__name__ + '(')
  |         self._format(list(object.items()), stream, indent + len(cls.__name__) + 1, allowance + 1, context, level)
  |         stream.write(')')
  |     def _pprint_list(self, object, stream, indent, allowance, context, level):
  |         stream.write('[')
  |         self._format_items(object, stream, indent, allowance + 1, context, level)
  |         stream.write(']')
  |     def _pprint_tuple(self, object, stream, indent, allowance, context, level):
  |         stream.write('(')
  |         end = ',)' if len(object) == 1 else ')'
  |         self._format_items(object, stream, indent, allowance + len(end), context, level)
  |         stream.write(end)
  |     def _pprint_set(self, object, stream, indent, allowance, context, level):
  |         if not len(object): return stream.write(repr(object))
  |         typ = object.__class__
  |         if typ is set:
  |             stream.write('{')
  |             end = '}'
  |         else:
  |             stream.write(typ.__name__ + '({')
  |             end = '})'
  |             indent += len(typ.__name__) + 1
  |         self._format_items(sorted(object, key=_safe_key), stream, indent, allowance + len(end), context, level)
  |         stream.write(end)
  |     def _pprint_str(self, object, stream, indent, allowance, context, level):
  |         write = stream.write
  |         if not len(object): return write(repr(object))
  |         chunks, lines = [], object.splitlines(True)
  |         if level == 1:
  |             indent += 1
  |             allowance += 1
  |         max_width1 = max_width = self._width - indent
  |         rep = ''
  |         for i, line in enumerate(lines):
  |             rep = repr(line)
  |             if i == len(lines) - 1: max_width1 -= allowance
  |             if len(rep) <= max_width1: chunks.append(rep)
  |             else:
  |                 parts = re.findall(r'\S*\s*', line)
  |                 parts.pop()
  |                 max_width2, current = max_width, ''
  |                 for j, part in enumerate(parts):
  |                     candidate = current + part
  |                     if j == len(parts) - 1 and i == len(lines) - 1: max_width2 -= allowance
  |                     if len(repr(candidate)) > max_width2:
  |                         if current: chunks.append(repr(current))
  |                         current = part
  |                     else: current = candidate
  |                 if current: chunks.append(repr(current))
  |         if len(chunks) == 1: return write(rep)
  |         if level == 1: write('(')
  |         for i, rep in enumerate(chunks):
  |             if i > 0: write('\n' + ' ' * indent)
  |             write(rep)
  |         if level == 1: write(')')
  |     def _pprint_bytes(self, object, stream, indent, allowance, context, level):
  |         write = stream.write
  |         if len(object) <= 4: return write(repr(object))
  |         parens = level == 1
  |         if parens:
  |             indent += 1
  |             allowance += 1
  |             write('(')
  |         delim = ''
  |         for rep in _wrap_bytes(object, self._width - indent, allowance):
  |             write(delim + rep)
  |             delim = '\n' + ' ' * indent
  |         if parens: write(')')
  |     def _pprint_bytearray(self, object, stream, indent, allowance, context, level):
  |         stream.write('bytearray(')
  |         self._pprint_bytes(bytes(object), stream, indent + 10, allowance + 1, context, level + 1)
  |         stream.write(')')
  |     def _pprint_proxy(self, object, stream, indent, allowance, context, level):
  |         stream.write('mappingproxy(')
  |         self._format(object.copy(), stream, indent + 13, allowance + 1, context, level)
  |         stream.write(')')
  |     def _pprint_namespace(self, object, stream, indent, allowance, context, level):
  |         name = 'namespace' if type(object) is types.SimpleNamespace else object.__class__.__name__
  |         indent += len(name) + 1
  |         stream.write(name + '(')
  |         self._format_namespace_items(object.__dict__.items(), stream, indent, allowance, context, level)
  |         stream.write(')')
  |     def _format_dict_items(self, items, stream, indent, allowance, context, level):
  |         indent += self._indent_per_level
  |         delimnl, items = ',\n' + ' ' * indent, list(items)
  |         for i, (key, ent) in enumerate(items):
  |             last = i == len(items) - 1
  |             rep = self._repr(key, context, level)
  |             stream.write(rep + ': ')
  |             self._format(ent, stream, indent + len(rep) + 2, allowance if last else 1, context, level)
  |             if not last: stream.write(delimnl)
  |     def _format_namespace_items(self, items, stream, indent, allowance, context, level):
  |         delimnl, items = ',\n' + ' ' * indent, list(items)
  |         for i, (key, ent) in enumerate(items):
  |             last = i == len(items) - 1
  |             stream.write(key + '=')
  |             if id(ent) in context: stream.write('...')
  |             else: self._format(ent, stream, indent + len(key) + 1, allowance if last else 1, context, level)
  |             if not last: stream.write(delimnl)
  |     def _format_items(self, items, stream, indent, allowance, context, level):
  |         write = stream.write
  |         indent += self._indent_per_level
  |         if self._indent_per_level > 1: write((self._indent_per_level - 1) * ' ')
  |         delimnl, delim = ',\n' + ' ' * indent, ''
  |         width = max_width = self._width - indent + 1
  |         items = list(items)
  |         for i, ent in enumerate(items):
  |             last = i == len(items) - 1
  |             if last:
  |                 max_width -= allowance
  |                 width -= allowance
  |             if self._compact:
  |                 rep = self._repr(ent, context, level)
  |                 w = len(rep) + 2
  |                 if width < w:
  |                     width = max_width
  |                     if delim: delim = delimnl
  |                 if width >= w:
  |                     width -= w
  |                     write(delim)
  |                     delim = ', '
  |                     write(rep)
  |                     continue
  |             write(delim)
  |             delim = delimnl
  |             self._format(ent, stream, indent, allowance if last else 1, context, level)
  |     def _repr(self, object, context, level): return self.format(object, context.copy(), self._depth, level)[0]
  |     def format(self, object, context, maxlevels, level): return self._safe_repr(object, context, maxlevels, level)
  |     def _pprint_default(self, object, stream, indent, allowance, context, level):
  |         if not len(object): return stream.write(repr(object))
  |         rdf = self._repr(object.default_factory, context, level)
  |         cls = object.__class__
  |         indent += len(cls.__name__) + 1
  |         stream.write('%s(%s,\n%s' % (cls.__name__, rdf, ' ' * indent))
  |         self._pprint_dict(object, stream, indent, allowance + 1, context, level)
  |         stream.write(')')
  |     def _pprint_counter(self, object, stream, indent, allowance, context, level):
  |         if not len(object): return stream.write(repr(object))
  |         cls = object.__class__
  |         stream.write(cls.__name__ + '({')
  |         if self._indent_per_level > 1: stream.write((self._indent_per_level - 1) * ' ')
  |         self._format_dict_items(object.most_common(), stream, indent + len(cls.__name__) + 1, allowance + 2, context, level)
  |         stream.write('})')
  |     def _pprint_chain(self, object, stream, indent, allowance, context, level):
  |         if not len(object.maps): return stream.write(repr(object))
  |         cls = object.__class__
  |         stream.write(cls.__name__ + '(')
  |         indent += len(cls.__name__) + 1
  |         for i, m in enumerate(object.maps):
  |             if i == len(object.maps) - 1:
  |                 self._format(m, stream, indent, allowance + 1, context, level)
  |                 stream.write(')')
  |             else:
  |                 self._format(m, stream, indent, 1, context, level)
  |                 stream.write(',\n' + ' ' * indent)
  |     def _pprint_deque(self, object, stream, indent, allowance, context, level):
  |         if not len(object): return stream.write(repr(object))
  |         cls = object.__class__
  |         stream.write(cls.__name__ + '(')
  |         indent += len(cls.__name__) + 1
  |         stream.write('[')
  |         if object.maxlen is None:
  |             self._format_items(object, stream, indent, allowance + 2, context, level)
  |             stream.write('])')
  |         else:
  |             self._format_items(object, stream, indent, 2, context, level)
  |             rml = self._repr(object.maxlen, context, level)
  |             stream.write('],\n%smaxlen=%s)' % (' ' * indent, rml))
  |     def _pprint_user(self, object, stream, indent, allowance, context, level):
  |         self._format(object.data, stream, indent, allowance, context, level - 1)
  |     def _safe_repr(self, object, context, maxlevels, level):
  |         typ = type(object)
  |         if typ in (str, bytes, bytearray, float, complex, bool, type(None)): return repr(object), True, False
  |         r = getattr(typ, '__repr__', None)
  |         if issubclass(typ, int) and r is int.__repr__:
  |             return f'{object:_d}' if self._underscore_numbers else repr(object), True, False
  |         if issubclass(typ, dict) and r is dict.__repr__:
  |             if not object: return '{}', True, False
  |             objid = id(object)
  |             if maxlevels and level >= maxlevels: return '{...}', False, objid in context
  |             if objid in context: return _recursion(object), False, True
  |             context[objid] = 1
  |             readable, recursive, components = True, False, []
  |             level += 1
  |             for k, v in sorted(object.items(), key=_safe_tuple) if self._sort_dicts else object.items():
  |                 krepr, kreadable, krecur = self.format(k, context, maxlevels, level)
  |                 vrepr, vreadable, vrecur = self.format(v, context, maxlevels, level)
  |                 components.append('%s: %s' % (krepr, vrepr))
  |                 readable = readable and kreadable and vreadable
  |                 recursive = recursive or krecur or vrecur
  |             del context[objid]
  |             return '{%s}' % ', '.join(components), readable, recursive
  |         if issubclass(typ, list) and r is list.__repr__ or issubclass(typ, tuple) and r is tuple.__repr__:
  |             if issubclass(typ, list):
  |                 if not object: return '[]', True, False
  |                 format = '[%s]'
  |             elif len(object) == 1: format = '(%s,)'
  |             else:
  |                 if not object: return '()', True, False
  |                 format = '(%s)'
  |             objid = id(object)
  |             if maxlevels and level >= maxlevels: return format % '...', False, objid in context
  |             if objid in context: return _recursion(object), False, True
  |             context[objid] = 1
  |             readable, recursive, components = True, False, []
  |             level += 1
  |             for o in object:
  |                 orepr, oreadable, orecur = self.format(o, context, maxlevels, level)
  |                 components.append(orepr)
  |                 readable, recursive = readable and oreadable, recursive or orecur
  |             del context[objid]
  |             return format % ', '.join(components), readable, recursive
  |         rep = repr(object)
  |         return rep, rep and not rep.startswith('<'), False
  | def _recursion(object): return '<Recursion on %s with id=%s>' % (type(object).__name__, id(object))
  | def _wrap_bytes(object, width, allowance):
  |     current, last = b'', len(object) // 4 * 4
  |     for i in range(0, len(object), 4):
  |         part = object[i:i + 4]
  |         candidate = current + part
  |         if i == last: width -= allowance
  |         if len(repr(candidate)) > width:
  |             if current: yield repr(current)
  |             current = part
  |         else: current = candidate
  |     if current: yield repr(current)"# }

/-- the module for values in few characters -/
def abridgedLibrary : Library :=
  { name := "reprlib"
    source := r#"
  | from builtins import repr as _plain
  | from itertools import islice
  | def recursive_repr(fillvalue='...'):
  |     def decorating(user_function):
  |         running = set()
  |         def wrapper(self):
  |             if id(self) in running: return fillvalue
  |             running.add(id(self))
  |             try: return user_function(self)
  |             finally: running.discard(id(self))
  |         wrapper.__module__, wrapper.__doc__ = user_function.__module__, user_function.__doc__
  |         wrapper.__name__, wrapper.__qualname__ = user_function.__name__, user_function.__qualname__
  |         return wrapper
  |     return decorating
  | class Repr:
  |     def __init__(self):
  |         self.fillvalue, self.maxlevel, self.maxtuple, self.maxlist, self.maxarray, self.maxdict = '...', 6, 6, 6, 5, 4
  |         self.maxset = self.maxfrozenset = self.maxdeque = 6
  |         self.maxstring, self.maxlong, self.maxother = 30, 40, 30
  |     def repr(self, x): return self.repr1(x, self.maxlevel)
  |     def repr1(self, x, level):
  |         typename = type(x).__name__
  |         if ' ' in typename: typename = '_'.join(typename.split())
  |         if hasattr(self, 'repr_' + typename): return getattr(self, 'repr_' + typename)(x, level)
  |         return self.repr_instance(x, level)
  |     def _repr_iterable(self, x, level, left, right, maxiter, trail=''):
  |         n = len(x)
  |         if level <= 0 and n: s = self.fillvalue
  |         else:
  |             pieces = [self.repr1(elem, level - 1) for elem in islice(x, maxiter)]
  |             if n > maxiter: pieces.append(self.fillvalue)
  |             s = ', '.join(pieces)
  |             if n == 1 and trail: right = trail + right
  |         return '%s%s%s' % (left, s, right)
  |     def repr_tuple(self, x, level): return self._repr_iterable(x, level, '(', ')', self.maxtuple, ',')
  |     def repr_list(self, x, level): return self._repr_iterable(x, level, '[', ']', self.maxlist)
  |     def repr_set(self, x, level): return self._repr_iterable(_possibly_sorted(x), level, '{', '}', self.maxset) if x else 'set()'
  |     def repr_frozenset(self, x, level):
  |         return self._repr_iterable(_possibly_sorted(x), level, 'frozenset({', '})', self.maxfrozenset) if x else 'frozenset()'
  |     def repr_deque(self, x, level): return self._repr_iterable(x, level, 'deque([', '])', self.maxdeque)
  |     def repr_dict(self, x, level):
  |         n = len(x)
  |         if n == 0: return '{}'
  |         if level <= 0: return '{' + self.fillvalue + '}'
  |         pieces = [self.repr1(k, level - 1) + ': ' + self.repr1(x[k], level - 1) for k in islice(_possibly_sorted(x), self.maxdict)]
  |         if n > self.maxdict: pieces.append(self.fillvalue)
  |         return '{%s}' % ', '.join(pieces)
  |     def _cut(self, s, size):
  |         if len(s) <= size: return s
  |         i = max(0, (size - 3) // 2)
  |         j = max(0, size - 3 - i)
  |         return s[:i] + self.fillvalue + s[len(s) - j:]
  |     def repr_str(self, x, level):
  |         s = _plain(x[:self.maxstring])
  |         if len(s) > self.maxstring:
  |             i = max(0, (self.maxstring - 3) // 2)
  |             j = max(0, self.maxstring - 3 - i)
  |             s = _plain(x[:i] + x[len(x) - j:])
  |             s = s[:i] + self.fillvalue + s[len(s) - j:]
  |         return s
  |     def repr_int(self, x, level): return self._cut(_plain(x), self.maxlong)
  |     def repr_instance(self, x, level):
  |         try: s = _plain(x)
  |         except Exception: return '<%s instance at %#x>' % (x.__class__.__name__, id(x))
  |         return self._cut(s, self.maxother)
  | def _possibly_sorted(x):
  |     try: return sorted(x)
  |     except Exception: return list(x)
  | aRepr = Repr()
  | repr = aRepr.repr"# }

/-- modules for text: its characters, its lines, its words, and what two texts have in common -/
def wordingLibraries : List Library :=
  [charactersLibrary, fillingLibrary, wordsLibrary, codingsLibrary, differencesLibrary, printsLibrary,
   abridgedLibrary]

end IncludeAudit.Offside
