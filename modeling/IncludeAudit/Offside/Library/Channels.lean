/-
Modules for files in memory and for what is told on channels.

- `channelsLibraries`: the modules.
-/
import IncludeAudit.Offside.Library.Basic

namespace IncludeAudit.Offside

/-- the classes of files -/
def channelValues : Eval (List (Text × Value)) :=
  return [("TextIOWrapper", .base .textFile), ("StringIO", .base .textBuffer), ("BytesIO", .base .byteBuffer),
    ("BufferedReader", .base .byteReader), ("BufferedWriter", .base .byteWriter), ("BufferedRandom", .base .byteRandom),
    ("FileIO", .base .rawFile), ("UnsupportedOperation", .base .unsupportedOperation)]

/-- the module for files in memory -/
def channelsLibrary : Library :=
  { name := "io"
    values := channelValues
    source := r#"
  | import builtins
  | from builtins import open
  | open_code = lambda path: open(path, 'rb')
  | SEEK_SET, SEEK_CUR, SEEK_END = 0, 1, 2
  | DEFAULT_BUFFER_SIZE = 8192
  | BlockingIOError = builtins.BlockingIOError
  | _text, _bytes, _raw = (TextIOWrapper, StringIO), (BufferedReader, BufferedWriter, BufferedRandom, BytesIO), (FileIO,)
  | class _Kind(type):
  |     def __instancecheck__(cls, value):
  |         return type.__instancecheck__(cls, value) or isinstance(value, cls.__dict__.get('_known', ()))
  |     def __subclasscheck__(cls, C):
  |         return type.__subclasscheck__(cls, C) or any(issubclass(C, k) for k in cls.__dict__.get('_known', ()))
  | class IOBase(metaclass=_Kind):
  |     _known = _text + _bytes + _raw
  |     closed = False
  |     def __enter__(self):
  |         if self.closed: raise ValueError('I/O operation on closed file.')
  |         return self
  |     def __exit__(self, *exc): self.close()
  |     def close(self):
  |         if not self.closed:
  |             self.flush()
  |             self.closed = True
  |     def flush(self): pass
  |     def readable(self): return False
  |     def writable(self): return False
  |     def seekable(self): return False
  |     def isatty(self): return False
  |     def fileno(self): raise UnsupportedOperation('fileno')
  |     def seek(self, *args): raise UnsupportedOperation('seek')
  |     def tell(self): return self.seek(0, 1)
  |     def truncate(self, size=None): raise UnsupportedOperation('truncate')
  |     def readline(self, size=-1):
  |         out = b''
  |         while size < 0 or len(out) < size:
  |             b = self.read(1)
  |             if not b: break
  |             out += b
  |             if out.endswith(b'\n'): break
  |         return out
  |     def readlines(self, hint=None): return list(self)
  |     def writelines(self, lines):
  |         for line in lines: self.write(line)
  |     def __iter__(self): return self
  |     def __next__(self):
  |         line = self.readline()
  |         if not line: raise StopIteration
  |         return line
  | class RawIOBase(IOBase):
  |     _known = _raw
  |     def read(self, size=-1):
  |         if size is None or size < 0: return self.readall()
  |         b = bytearray(size)
  |         n = self.readinto(b)
  |         return None if n is None else bytes(b[:n])
  |     def readall(self):
  |         out = b''
  |         while part := self.read(DEFAULT_BUFFER_SIZE): out += part
  |         return out
  | class BufferedIOBase(IOBase):
  |     _known = _bytes
  |     def read(self, size=-1): raise UnsupportedOperation('read')
  |     def read1(self, size=-1): return self.read(size)
  |     def write(self, b): raise UnsupportedOperation('write')
  | class TextIOBase(IOBase):
  |     _known = _text
  |     encoding = errors = newlines = None
  |     def read(self, size=-1): raise UnsupportedOperation('read')
  |     def write(self, s): raise UnsupportedOperation('write')
  |     def readline(self): raise UnsupportedOperation('readline')
  | class BufferedRWPair(BufferedIOBase):
  |     def __init__(self, reader, writer, buffer_size=8192): self.reader, self.writer = reader, writer
  |     def read(self, size=-1): return self.reader.read(size)
  |     def write(self, b): return self.writer.write(b)
  |     def flush(self): return self.writer.flush()
  |     def readable(self): return True
  |     def writable(self): return True
  | def text_encoding(encoding, stacklevel=2): return 'locale' if encoding is None else encoding
  | __all__ = ['BlockingIOError', 'open', 'IOBase', 'RawIOBase', 'FileIO', 'BytesIO', 'StringIO', 'BufferedIOBase',
  |     'BufferedReader', 'BufferedWriter', 'BufferedRWPair', 'BufferedRandom', 'TextIOBase', 'TextIOWrapper', 'UnsupportedOperation',
  |     'SEEK_SET', 'SEEK_CUR', 'SEEK_END']"# }

def doubtsLibrary : Library :=
  { name := "warnings"
    source := r#"
  | import sys
  | filters, _seen, _default_filters = [], set(), []
  | class WarningMessage:
  |     def __init__(self, message, category, filename, lineno, file=None, line=None, source=None):
  |         self.message, self.category, self.filename, self.lineno = message, category, filename, lineno
  |         self.file, self.line, self.source = file, line, source
  |     def __str__(self):
  |         return '{message : %r, category : %r, filename : %r, lineno : %s, line : %r}' % (self.message,
  |             self.category.__name__, self.filename, self.lineno, self.line)
  | def formatwarning(message, category, filename, lineno, line=None):
  |     import linecache
  |     text = f'{filename}:{lineno}: {category.__name__}: {message}\n'
  |     if line is None: line = linecache.getline(filename, lineno)
  |     line = line.strip()
  |     return text + f'  {line}\n' if line else text
  | def showwarning(message, category, filename, lineno, file=None, line=None):
  |     file = sys.stderr if file is None else file
  |     if file is not None: file.write(formatwarning(message, category, filename, lineno, line))
  | _shown_first = showwarning
  | def _action(text, category, module, lineno):
  |     for action, message, kind, mod, line in filters:
  |         if issubclass(category, kind) and (message is None or message.match(text)) and (mod is None or mod.match(module)) \
  |                 and (line == 0 or line == lineno): return action
  |     if issubclass(category, DeprecationWarning): return 'default' if module == '__main__' else 'ignore'
  |     if issubclass(category, (PendingDeprecationWarning, ImportWarning, ResourceWarning)): return 'ignore'
  |     return defaultaction
  | defaultaction = 'default'
  | def warn(message, category=None, stacklevel=1, source=None):
  |     if isinstance(message, Warning): category = message.__class__
  |     if category is None: category = UserWarning
  |     if not (isinstance(category, type) and issubclass(category, Warning)):
  |         raise TypeError("category must be a Warning subclass, not '{:s}'".format(type(category).__name__))
  |     try: frame = sys._getframe(max(stacklevel, 1))
  |     except ValueError: names, filename, lineno = {}, 'sys', 1
  |     else: names, filename, lineno = frame.f_globals, frame.f_code.co_filename, frame.f_lineno
  |     warn_explicit(message, category, filename, lineno, names.get('__name__', '<string>'), names.setdefault(
  |         '__warningregistry__', {}) if names else {}, names, source)
  | def warn_explicit(message, category, filename, lineno, module=None, registry=None, module_globals=None, source=None):
  |     if registry is None: registry = {}
  |     if isinstance(message, Warning): text, category = str(message), message.__class__
  |     else: text, message = message, category(message)
  |     action = _action(text, category, module or filename, lineno)
  |     if action == 'ignore': return
  |     if action == 'error': raise message
  |     key = (text, category, lineno)
  |     if action == 'default':
  |         if key in registry: return
  |         registry[key] = 1
  |     elif action == 'once':
  |         if (text, category) in _seen: return
  |         _seen.add((text, category))
  |     elif action == 'module':
  |         if (text, category, 0) in registry: return
  |         registry[text, category, 0] = 1
  |     msg = WarningMessage(message, category, filename, lineno, source=source)
  |     if _log is not None: _log.append(msg)
  |     elif showwarning is not _shown_first: showwarning(message, category, filename, lineno)
  |     elif sys.stderr is not None: sys.stderr.write(formatwarning(message, category, filename, lineno))
  | _log = None
  | def _filter(action, message, category, module, lineno, append):
  |     import re
  |     item = (action, re.compile(message, re.I) if message else None, category, re.compile(module) if module else None, lineno)
  |     if item in filters and not append: filters.remove(item)
  |     if append: filters.append(item)
  |     else: filters.insert(0, item)
  | def filterwarnings(action, message='', category=Warning, module='', lineno=0, append=False):
  |     assert action in ('error', 'ignore', 'always', 'default', 'module', 'once'), 'invalid action: %r' % (action,)
  |     _filter(action, message, category, module, lineno, append)
  | def simplefilter(action, category=Warning, lineno=0, append=False):
  |     assert action in ('error', 'ignore', 'always', 'default', 'module', 'once'), 'invalid action: %r' % (action,)
  |     _filter(action, '', category, '', lineno, append)
  | def resetwarnings(): filters[:] = []
  | class catch_warnings:
  |     def __init__(self, *, record=False, module=None, action=None, category=Warning, lineno=0, append=False):
  |         self._record, self._given = record, action and (action, category, lineno, append)
  |     def __enter__(self):
  |         global _log
  |         self._before = filters[:], _log, showwarning
  |         if self._given: simplefilter(*self._given)
  |         if self._record:
  |             _log = []
  |             return _log
  |     def __exit__(self, *exc):
  |         global _log, showwarning
  |         filters[:], _log, showwarning = self._before"# }

/-- the module for lines of files -/
def linesLibrary : Library :=
  { name := "linecache"
    source := r#"
  | cache = {}
  | def getlines(filename, module_globals=None):
  |     if filename not in cache:
  |         try:
  |             with open(filename, encoding='utf-8', errors='replace') as f: cache[filename] = f.read().splitlines(True)
  |         except (OSError, ValueError): return []
  |     return cache[filename]
  | def getline(filename, lineno, module_globals=None):
  |     lines = getlines(filename, module_globals)
  |     if not 1 <= lineno <= len(lines): return ''
  |     line = lines[lineno - 1]
  |     return line if line.endswith('\n') else line + '\n'
  | def clearcache(): cache.clear()
  | def checkcache(filename=None): clearcache()
  | def updatecache(filename, module_globals=None): return getlines(filename)"# }

/-- modules for files in memory and for what is told on channels -/
def channelsLibraries : List Library :=
  [channelsLibrary, doubtsLibrary, linesLibrary]

end IncludeAudit.Offside
