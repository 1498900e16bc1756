/-
What a script can know of the tool, of the way that a failure takes, and of the end.

- `selvesLibraries`: the modules.
-/
import IncludeAudit.Offside.Library.Basic

namespace IncludeAudit.Offside

/-- the module for rarer values about the tool -/
def self_Library : Library :=
  { name := "_sys_more"
    source := r#"
  | class _Row(tuple):
  |     def __repr__(self): return f'sys.{type(self).__name__}(' + ', '.join(f'{n}={v!r}' for n, v in zip(self._names, self)) + ')'
  | def _row(name, names, values, full=None):
  |     names = names.split()
  |     space = {n: property(lambda self, i=i: self[i]) for i, n in enumerate(names)}
  |     return type(name, (_Row,), {**space, '_names': names, '__module__': 'sys', 'n_fields': len(names)})(values)
  | version_info = _row('version_info', 'major minor micro releaselevel serial', (3, 11, 2, 'final', 0))
  | flags = _row('flags', 'debug inspect interactive optimize dont_write_bytecode no_user_site no_site ignore_environment verbose '
  |     'bytes_warning quiet hash_randomization isolated dev_mode utf8_mode warn_default_encoding safe_path int_max_str_digits',
  |     (0, 0, 0, 0, 0, 0, 0, 0, 0, 0, 0, 1, 0, False, 1, 0, False, -1))
  | float_info = _row('float_info', 'max max_exp max_10_exp min min_exp min_10_exp dig mant_dig epsilon radix rounds',
  |     (1.7976931348623157e+308, 1024, 308, 2.2250738585072014e-308, -1021, -307, 15, 53, 2.220446049250313e-16, 2, 1))
  | int_info = _row('int_info', 'bits_per_digit sizeof_digit default_max_str_digits str_digits_check_threshold', (30, 4, 4300, 640))
  | hash_info = _row('hash_info', 'width modulus inf nan imag algorithm hash_bits seed_bits cutoff',
  |     (64, 2305843009213693951, 314159, 0, 1000003, 'siphash13', 64, 128, 0))
  | thread_info = _row('thread_info', 'name lock version', ('pthread', 'semaphore', 'NPTL 2.36'))
  | class _Names:
  |     def __init__(self, **more): self.__dict__.update(more)
  |     def __repr__(self): return 'namespace(' + ', '.join(f'{k}={v!r}' for k, v in self.__dict__.items()) + ')'
  | implementation = _Names(name='cpython', cache_tag='cpython-311', version=version_info, hexversion=51053296,
  |     _multiarch='x86_64-linux-gnu')
  | _digits = 4300
  | def get_int_max_str_digits(): return _digits
  | def set_int_max_str_digits(maxdigits):
  |     global _digits
  |     _digits = maxdigits
  | def getallocatedblocks(): return 100000
  | def unraisablehook(unraisable): pass
  | def breakpointhook(*args): pass
  | def get_coroutine_origin_tracking_depth(): return 0
  | def get_asyncgen_hooks(): return (None, None)
  | def set_asyncgen_hooks(*args): pass
  | def getdlopenflags(): return 2
  | def _current_frames(): return {}
  | def activate_stack_trampoline(*args): pass
  | abiflags, tracebacklimit_default = '', 1000
  | last_type = last_value = last_traceback = None
  | _git = ('CPython', '', '')
  | _framework, _base_executable, exec_files = '', '/usr/bin/python3', ()
  | stdlib_module_names = frozenset('''abc argparse array ast asyncio atexit base64 binascii bisect builtins calendar cmath codecs
  |     collections configparser contextlib contextvars copy csv dataclasses datetime decimal difflib enum errno fnmatch fractions
  |     functools gc getopt getpass gettext glob graphlib gzip hashlib heapq hmac html io inspect itertools json keyword linecache
  |     locale logging math numbers operator optparse os pathlib pickle platform pprint queue random re reprlib sched secrets select
  |     shlex shutil signal socket stat statistics string struct subprocess sys tempfile textwrap threading time timeit traceback types
  |     typing unicodedata unittest urllib uuid warnings weakref zlib'''.split())"# }

/-- the module for the ways that failures take -/
def waysLibrary : Library :=
  { name := "traceback"
    source := r#"
  | import sys, linecache, _ground
  | __all__ = ['extract_stack', 'extract_tb', 'format_exception', 'format_exception_only', 'format_list', 'format_stack',
  |     'format_tb', 'print_exc', 'format_exc', 'print_exception', 'print_last', 'print_stack', 'print_tb', 'clear_frames',
  |     'FrameSummary', 'StackSummary', 'TracebackException', 'walk_stack', 'walk_tb']
  | class FrameSummary:
  |     def __init__(self, filename, lineno, name, *, lookup_line=True, locals=None, line=None, end_lineno=None, colno=None,
  |             end_colno=None, text=None):
  |         self.filename, self.lineno, self.name, self._line, self._text = filename, lineno, name, line, text
  |         self.locals = None if locals is None else {k: repr(v) for k, v in locals.items()}
  |         self.end_lineno, self.colno, self.end_colno = end_lineno, colno, end_colno
  |     @property
  |     def line(self):
  |         if self._line is None: self._line = linecache.getline(self.filename, self.lineno) if self.lineno else ''
  |         return self._line.strip()
  |     def __eq__(self, other):
  |         if isinstance(other, (FrameSummary, tuple)): return tuple(self) == tuple(other)
  |         return NotImplemented
  |     def __getitem__(self, pos): return (self.filename, self.lineno, self.name, self.line)[pos]
  |     def __iter__(self): return iter([self.filename, self.lineno, self.name, self.line])
  |     def __len__(self): return 4
  |     def __repr__(self): return f'<FrameSummary file {self.filename}, line {self.lineno} in {self.name}>'
  | def _cut(rows, limit):
  |     if limit is None: limit = getattr(sys, 'tracebacklimit', None)
  |     if limit is None: return list(rows)
  |     return list(rows)[:limit] if limit >= 0 else list(rows)[limit:]
  | class StackSummary(list):
  |     @classmethod
  |     def extract(klass, frame_gen, *, limit=None, lookup_lines=True, capture_locals=False):
  |         return klass(FrameSummary(f.f_code.co_filename, n, f.f_code.co_name, locals=f.f_locals if capture_locals else None)
  |             for f, n in _cut(frame_gen, limit))
  |     @classmethod
  |     def from_list(klass, a_list):
  |         return klass(x if isinstance(x, FrameSummary) else FrameSummary(x[0], x[1], x[2], line=x[3]) for x in a_list)
  |     def format_frame_summary(self, frame_summary):
  |         if frame_summary._text is not None: return frame_summary._text
  |         row = f'  File "{frame_summary.filename}", line {frame_summary.lineno}, in {frame_summary.name}\n'
  |         if frame_summary.line: row += f'    {frame_summary.line}\n'
  |         if frame_summary.locals:
  |             for name, value in sorted(frame_summary.locals.items()): row += f'    {name} = {value}\n'
  |         return row
  |     def format(self):
  |         result, last, count = [], None, 0
  |         for frame in self:
  |             text = self.format_frame_summary(frame)
  |             if text is None: continue
  |             here = (frame.filename, frame.lineno, frame.name)
  |             if here != last:
  |                 if count > 3: result.append(_repeated(count))
  |                 last, count = here, 0
  |             count += 1
  |             if count <= 3: result.append(text)
  |         if count > 3: result.append(_repeated(count))
  |         return result
  | def _repeated(count): return f'  [Previous line repeated {count - 3} more time{"s" if count > 4 else ""}]\n'
  | def walk_stack(f):
  |     if f is None: f = sys._getframe(1)
  |     while f is not None:
  |         yield f, f.f_lineno
  |         f = f.f_back
  | def walk_tb(tb):
  |     while tb is not None:
  |         yield tb.tb_frame, tb.tb_lineno
  |         tb = tb.tb_next
  | def extract_tb(tb, limit=None):
  |     return StackSummary(FrameSummary(f, n, name, line=line, text=text)
  |         for f, n, name, line, text in _cut(_ground.entries(tb) if tb is not None else [], limit))
  | def format_list(extracted_list): return StackSummary.from_list(extracted_list).format()
  | def print_list(extracted_list, file=None):
  |     for item in format_list(extracted_list): print(item, file=_file(file), end='')
  | def format_tb(tb, limit=None): return extract_tb(tb, limit).format()
  | def print_tb(tb, limit=None, file=None): print_list(extract_tb(tb, limit), file)
  | def _file(file): return sys.stderr if file is None else file
  | _missing = object()
  | def _value(exc, value, tb):
  |     if (value is _missing) != (tb is _missing): raise ValueError('Both or neither of value and tb must be given')
  |     if value is not _missing: return value, tb
  |     if exc is None: return None, None
  |     if isinstance(exc, BaseException): return exc, exc.__traceback__
  |     raise TypeError(f'Exception expected for value, {type(exc).__name__} found')
  | def _only(value):
  |     if value is None: return ['NoneType: None\n']
  |     text, notes = _ground.headline(value), getattr(value, '__notes__', None)
  |     more = []
  |     if isinstance(notes, (list, tuple)):
  |         for note in notes: more += [line + '\n' for line in str(note).split('\n')]
  |         if more: text = text[:-len(''.join(more))]
  |     return (text.splitlines(True) if isinstance(value, SyntaxError) else [text]) + more
  | class TracebackException:
  |     def __init__(self, exc_type, exc_value, exc_traceback, *, limit=None, lookup_lines=True, capture_locals=False, compact=False,
  |             max_group_width=15, max_group_depth=10, _seen=None):
  |         seen = _seen if _seen is not None else set()
  |         seen.add(id(exc_value))
  |         self.exc_type, self._value, self.stack = exc_type, exc_value, extract_tb(exc_traceback, limit)
  |         self._had = exc_traceback is not None
  |         cause, context = getattr(exc_value, '__cause__', None), getattr(exc_value, '__context__', None)
  |         self.__suppress_context__ = getattr(exc_value, '__suppress_context__', False)
  |         self.__notes__ = getattr(exc_value, '__notes__', None)
  |         def of(e):
  |             if e is None or id(e) in seen: return None
  |             return TracebackException(type(e), e, e.__traceback__, limit=limit, _seen=seen)
  |         self.__cause__, self.__context__ = of(cause), of(context)
  |         self.exceptions = None
  |         for name in ('filename', 'lineno', 'text', 'offset', 'msg'):
  |             if isinstance(exc_value, SyntaxError): setattr(self, name, getattr(exc_value, name))
  |     @classmethod
  |     def from_exception(cls, exc, *args, **kwargs): return cls(type(exc), exc, exc.__traceback__, *args, **kwargs)
  |     def __str__(self): return str(self._value)
  |     def __eq__(self, other): return self.__dict__ == other.__dict__ if isinstance(other, TracebackException) else NotImplemented
  |     def format_exception_only(self): yield from _only(self._value)
  |     def format(self, *, chain=True, _ctx=None):
  |         if chain:
  |             if self.__cause__ is not None:
  |                 yield from self.__cause__.format()
  |                 yield '\nThe above exception was the direct cause of the following exception:\n\n'
  |             elif self.__context__ is not None and not self.__suppress_context__:
  |                 yield from self.__context__.format()
  |                 yield '\nDuring handling of the above exception, another exception occurred:\n\n'
  |         if self._had: yield 'Traceback (most recent call last):\n'
  |         if self._had: yield from self.stack.format()
  |         yield from _only(self._value)
  |     def print(self, *, file=None, chain=True):
  |         for line in self.format(chain=chain): print(line, file=_file(file), end='')
  | def format_exception(exc, /, value=_missing, tb=_missing, limit=None, chain=True):
  |     value, tb = _value(exc, value, tb)
  |     return list(TracebackException(type(value), value, tb, limit=limit).format(chain=chain))
  | def print_exception(exc, /, value=_missing, tb=_missing, limit=None, file=None, chain=True):
  |     value, tb = _value(exc, value, tb)
  |     TracebackException(type(value), value, tb, limit=limit).print(file=file, chain=chain)
  | def format_exception_only(exc, /, value=_missing):
  |     if value is _missing: value = exc
  |     return _only(value)
  | def print_exc(limit=None, file=None, chain=True): print_exception(*sys.exc_info(), limit=limit, file=file, chain=chain)
  | def format_exc(limit=None, chain=True): return ''.join(format_exception(*sys.exc_info(), limit=limit, chain=chain))
  | def print_last(limit=None, file=None, chain=True):
  |     if not hasattr(sys, 'last_type'): raise ValueError('no last exception')
  |     print_exception(sys.last_type, sys.last_value, sys.last_traceback, limit, file, chain)
  | def _frames(f):
  |     while f is not None:
  |         yield f, f.f_lineno
  |         f = f.f_back
  | def extract_stack(f=None, limit=None):
  |     if f is None: f = sys._getframe(1)
  |     if limit is None: limit = getattr(sys, 'tracebacklimit', None)
  |     rows = list(_frames(f))
  |     if limit is not None: rows = rows[:limit] if limit >= 0 else rows[limit:]
  |     return StackSummary.extract(reversed(rows))
  | def format_stack(f=None, limit=None): return format_list(extract_stack(f or sys._getframe(1), limit))
  | def print_stack(f=None, limit=None, file=None): print_list(extract_stack(f or sys._getframe(1), limit), file)
  | def clear_frames(tb): pass"# }

/-- the module for what a script is told from outside -/
def interruptionsLibrary : Library :=
  { name := "signal"
    source := r#"
  | import enum, os
  | class Signals(enum.IntEnum):
  |     SIGHUP, SIGINT, SIGQUIT, SIGILL, SIGTRAP, SIGABRT, SIGBUS, SIGFPE, SIGKILL, SIGUSR1, SIGSEGV, SIGUSR2, SIGPIPE, SIGALRM, \
  |         SIGTERM, SIGSTKFLT, SIGCHLD, SIGCONT, SIGSTOP, SIGTSTP, SIGTTIN, SIGTTOU, SIGURG, SIGXCPU, SIGXFSZ, SIGVTALRM, SIGPROF, \
  |         SIGWINCH, SIGIO, SIGPWR, SIGSYS = range(1, 32)
  |     SIGRTMIN, SIGRTMAX = 34, 64
  |     SIGCLD, SIGIOT, SIGPOLL = 17, 6, 29
  | class Handlers(enum.IntEnum):
  |     SIG_DFL, SIG_IGN = 0, 1
  | class Sigmasks(enum.IntEnum):
  |     SIG_BLOCK, SIG_UNBLOCK, SIG_SETMASK = 0, 1, 2
  | globals().update(Signals.__members__)
  | globals().update(Handlers.__members__)
  | globals().update(Sigmasks.__members__)
  | NSIG = 65
  | ITIMER_REAL, ITIMER_VIRTUAL, ITIMER_PROF = 0, 1, 2
  | class ItimerError(OSError): pass
  | def default_int_handler(signalnum, frame, /): raise KeyboardInterrupt
  | _names = {1: 'Hangup', 2: 'Interrupt', 3: 'Quit', 4: 'Illegal instruction', 5: 'Trace/breakpoint trap', 6: 'Aborted', 7: 'Bus error',
  |     8: 'Floating point exception', 9: 'Killed', 10: 'User defined signal 1', 11: 'Segmentation fault',
  |     12: 'User defined signal 2', 13: 'Broken pipe', 14: 'Alarm clock', 15: 'Terminated', 16: 'Stack fault', 17: 'Child exited',
  |     18: 'Continued', 19: 'Stopped (signal)', 20: 'Stopped', 21: 'Stopped (tty input)', 22: 'Stopped (tty output)',
  |     23: 'Urgent I/O condition', 24: 'CPU time limit exceeded', 25: 'File size limit exceeded', 26: 'Virtual timer expired',
  |     27: 'Profiling timer expired', 28: 'Window changed', 29: 'I/O possible', 30: 'Power failure', 31: 'Bad system call'}
  | _set = {2: default_int_handler, 13: SIG_IGN, 25: SIG_IGN}
  | _blocked, _waiting = set(), []
  | def _shown(n): return Signals(n) if n in Signals._value2member_map_ else n
  | def _right(signalnum):
  |     if not 1 <= signalnum < NSIG: raise ValueError('signal number out of range')
  | def signal(signalnum, handler):
  |     if not callable(handler) and handler not in (SIG_DFL, SIG_IGN):
  |         raise TypeError('signal handler must be signal.SIG_IGN, signal.SIG_DFL, or a callable object')
  |     _right(signalnum)
  |     if signalnum in (9, 19, 32, 33): raise OSError(22, 'Invalid argument')
  |     old = getsignal(signalnum)
  |     _set[int(signalnum)] = handler if callable(handler) else Handlers(handler)
  |     return old
  | def getsignal(signalnum):
  |     _right(signalnum)
  |     return None if signalnum in (32, 33) else _set.get(int(signalnum), SIG_DFL)
  | def _receive(sig):
  |     sig = int(sig)
  |     if sig in _blocked and sig not in (9, 19):
  |         _waiting.append(sig)
  |         return
  |     handler = getsignal(sig)
  |     if handler == SIG_IGN and sig not in (9, 19): return
  |     if callable(handler): handler(sig, None)
  |     elif sig not in (17, 18, 19, 20, 21, 22, 23, 28): os._die(sig)
  | def raise_signal(signalnum, /):
  |     _right(signalnum)
  |     _receive(signalnum)
  | def strsignal(signalnum, /):
  |     _right(signalnum)
  |     return _names.get(signalnum, f'Real-time signal {signalnum - 34}' if signalnum >= 34 else None)
  | def valid_signals(): return {_shown(n) for n in range(1, 65) if n not in (32, 33)}
  | def pthread_sigmask(how, mask):
  |     global _blocked
  |     old = {_shown(n) for n in _blocked}
  |     mask = set(map(int, mask))
  |     _blocked = _blocked | mask if how == 0 else _blocked - mask if how == 1 else mask
  |     while any(n not in _blocked for n in _waiting):
  |         for n in _waiting:
  |             if n not in _blocked:
  |                 _waiting.remove(n)
  |                 _receive(n)
  |                 break
  |     return old
  | def sigpending(): return {_shown(n) for n in _waiting}
  | def pause(): os._die(14)
  | def alarm(seconds, /): return 0
  | def setitimer(which, seconds, interval=0.0, /): return (0.0, 0.0)
  | def getitimer(which, /): return (0.0, 0.0)
  | def siginterrupt(signalnum, flag, /): pass
  | def set_wakeup_fd(fd, /, *, warn_on_full_buffer=True): return -1
  | def pthread_kill(thread_id, signalnum): _receive(signalnum)"# }

def machineLibrary : Library :=
  { name := "platform"
    source := r#"
  | import os
  | from collections import namedtuple
  | class uname_result(namedtuple('uname_result', 'system node release version machine')):
  |     processor = ''
  | _uname = uname_result('Linux', 'localhost', '6.1.0', '#1 SMP', 'x86_64')
  | def uname(): return _uname
  | def system(): return 'Linux'
  | def node(): return _uname.node
  | def release(): return _uname.release
  | def version(): return _uname.version
  | def machine(): return 'x86_64'
  | def processor(): return ''
  | def architecture(executable='', bits='', linkage=''): return ('64bit', 'ELF')
  | def platform(aliased=False, terse=False): return 'Linux-6.1.0-x86_64-with-glibc2.36'
  | def libc_ver(executable=None, lib='', version='', chunksize=16384): return ('glibc', '2.36')
  | def python_version(): return '3.11.2'
  | def python_version_tuple(): return ('3', '11', '2')
  | def python_implementation(): return 'CPython'
  | def python_branch(): return ''
  | def python_revision(): return ''
  | def python_build(): return ('main', 'Apr 28 2025 14:11:48')
  | def python_compiler(): return 'GCC 12.2.0'
  | def freedesktop_os_release():
  |     return {'NAME': 'Linux', 'ID': 'linux', 'PRETTY_NAME': 'Linux'}"# }

/-- the module for people and what they know -/
def peopleLibrary : Library :=
  { name := "getpass"
    source := r#"
  | import os, sys
  | class GetPassWarning(UserWarning): pass
  | def getuser():
  |     for name in ('LOGNAME', 'USER', 'LNAME', 'USERNAME'):
  |         if os.environ.get(name): return os.environ[name]
  |     return 'root'
  | def getpass(prompt='Password: ', stream=None):
  |     import warnings
  |     warnings.warn('Can not control echo on the terminal.', GetPassWarning, stacklevel=2)
  |     sys.stderr.write('Warning: Password input may be echoed.\n' + prompt)
  |     line = sys.stdin.readline()
  |     if not line: raise EOFError
  |     return line[:-1] if line[-1] == '\n' else line"# }

/-- the module for how long work takes -/
def timingLibrary : Library :=
  { name := "timeit"
    source := r#"
  | import time, itertools
  | default_timer, default_number, default_repeat = time.perf_counter, 1000000, 5
  | class Timer:
  |     def __init__(self, stmt='pass', setup='pass', timer=default_timer, globals=None):
  |         self._stmt, self._setup, self.timer, self._globals = stmt, setup, timer, {} if globals is None else dict(globals)
  |     def timeit(self, number=default_number):
  |         names = dict(self._globals)
  |         if callable(self._setup): self._setup()
  |         else: exec(self._setup, names)
  |         run = self._stmt if callable(self._stmt) else lambda code=compile(self._stmt, '<timeit-src>', 'exec'): exec(code, names)
  |         begun = self.timer()
  |         for _ in range(min(number, 1000)): run()
  |         return self.timer() - begun
  |     def repeat(self, repeat=default_repeat, number=default_number): return [self.timeit(number) for _ in range(repeat)]
  |     def autorange(self, callback=None): return 1000, self.timeit(1000)
  | def timeit(stmt='pass', setup='pass', timer=default_timer, number=default_number, globals=None):
  |     return Timer(stmt, setup, timer, globals).timeit(number)
  | def repeat(stmt='pass', setup='pass', timer=default_timer, repeat=default_repeat, number=default_number, globals=None):
  |     return Timer(stmt, setup, timer, globals).repeat(repeat, number)"# }

/-- the module for memory that is free again -/
def memoryLibrary : Library :=
  { name := "gc"
    source := r#"
  | _on, garbage, callbacks = True, [], []
  | def enable():
  |     global _on
  |     _on = True
  | def disable():
  |     global _on
  |     _on = False
  | def isenabled(): return _on
  | def collect(generation=2): return 0
  | def get_threshold(): return (700, 10, 10)
  | def set_threshold(*args): pass
  | def get_count(): return (100, 5, 2)
  | def get_objects(generation=None): return []
  | def get_stats(): return [{'collections': 0, 'collected': 0, 'uncollectable': 0} for _ in range(3)]
  | def get_referrers(*objs): return []
  | def get_referents(*objs): return []
  | def is_tracked(obj): return not isinstance(obj, (int, str, float, bytes, type(None)))
  | def freeze(): pass
  | def unfreeze(): pass
  | def set_debug(flags): pass
  | def get_debug(): return 0"# }

/-- the module for values that belong to a piece of work -/
def settingsLibrary : Library :=
  { name := "contextvars"
    source := r#"
  | _missing, _now = object(), {}
  | class Token:
  |     MISSING = _missing
  |     def __init__(self, var, old): self.var, self.old_value = var, old
  | class ContextVar:
  |     def __init__(self, name, *, default=_missing): self.name, self._default = name, default
  |     def get(self, default=_missing, /):
  |         if self in _now: return _now[self]
  |         if default is not _missing: return default
  |         if self._default is not _missing: return self._default
  |         raise LookupError(self)
  |     def set(self, value, /):
  |         token = Token(self, _now.get(self, _missing))
  |         _now[self] = value
  |         return token
  |     def reset(self, token, /):
  |         if token.old_value is _missing: _now.pop(self, None)
  |         else: _now[self] = token.old_value
  |     def __repr__(self):
  |         shown = '' if self._default is _missing else f' default={self._default!r}'
  |         return f"<ContextVar name={self.name!r}{shown} at {id(self):#x}>"
  | class Context(dict):
  |     def run(self, callable, *args, **kwargs):
  |         before = dict(_now)
  |         _now.clear()
  |         _now.update(self)
  |         try: return callable(*args, **kwargs)
  |         finally:
  |             self.clear()
  |             self.update(_now)
  |             _now.clear()
  |             _now.update(before)
  |     def copy(self): return Context(self)
  |     __hash__ = object.__hash__
  | def copy_context(): return Context(_now)"# }

/-- the module for modules by name -/
def loadingLibrary : Library :=
  { name := "importlib"
    source := r#"
  | import sys
  | __import__ = __import__
  | def import_module(name, package=None):
  |     level = len(name) - len(name.lstrip('.'))
  |     if level:
  |         if not package:
  |             raise TypeError("the 'package' argument is required to perform a relative import for {!r}".format(name))
  |         parts = package.split('.')
  |         if level > len(parts): raise ImportError('attempted relative import beyond top-level package')
  |         base = '.'.join(parts[:len(parts) - level + 1])
  |         name = base + '.' + name[level:] if name[level:] else base
  |     return __import__(name, fromlist=['*'])
  | def reload(module):
  |     sys.modules.pop(module.__name__, None)
  |     fresh = import_module(module.__name__)
  |     module.__dict__.update(fresh.__dict__)
  |     sys.modules[module.__name__] = module
  |     return module
  | def invalidate_caches(): pass
  | import importlib.util as util"# }

/-- the module for modules by file -/
def loadingPartsLibrary : Library :=
  { name := "importlib.util"
    source := r#"
  | import os, sys, types
  | class _Loader:
  |     def __init__(self, name, path): self.name, self.path = name, path
  |     def exec_module(self, module):
  |         with open(self.path) as f: code = compile(f.read(), self.path, 'exec')
  |         exec(code, module.__dict__)
  |     def get_filename(self, name=None): return self.path
  | class _Spec:
  |     def __init__(self, name, loader, *, origin=None): self.name, self.loader, self.origin, self.has_location = name, loader, origin, True
  |     parent = property(lambda self: self.name.rpartition('.')[0])
  |     submodule_search_locations = cached = None
  |     def __repr__(self): return f"ModuleSpec(name={self.name!r}, loader={self.loader!r}, origin={self.origin!r})"
  | def spec_from_file_location(name, location=None, *, loader=None, submodule_search_locations=None):
  |     location = os.path.abspath(location)
  |     return _Spec(name, loader or _Loader(name, location), origin=location)
  | def module_from_spec(spec):
  |     module = types.ModuleType(spec.name)
  |     module.__spec__, module.__loader__, module.__file__ = spec, spec.loader, spec.origin
  |     return module
  | def find_spec(name, package=None):
  |     if name in sys.modules: return _Spec(name, None, origin=getattr(sys.modules[name], '__file__', 'built-in'))
  |     for d in sys.path:
  |         for p in (os.path.join(d, *name.split('.')) + '.py', os.path.join(d, *name.split('.'), '__init__.py')):
  |             if os.path.isfile(p): return _Spec(name, _Loader(name, p), origin=os.path.abspath(p))
  |     if name in sys.stdlib_module_names: return _Spec(name, None, origin=f'/usr/lib/python3.11/{name}.py')
  |     return None"# }

/-- the module for what functions and classes are made of -/
def looksLibrary : Library :=
  { name := "inspect"
    source := r#"
  | import collections, enum, functools, linecache, os, sys, types
  | CO_OPTIMIZED, CO_NEWLOCALS, CO_VARARGS, CO_VARKEYWORDS, CO_GENERATOR, CO_COROUTINE, CO_ASYNC_GENERATOR = 1, 2, 4, 8, 32, 128, 512
  | def ismodule(o): return isinstance(o, types.ModuleType)
  | def isclass(o): return isinstance(o, type)
  | def ismethod(o): return isinstance(o, types.MethodType)
  | def isfunction(o): return isinstance(o, types.FunctionType)
  | def isbuiltin(o): return isinstance(o, types.BuiltinFunctionType)
  | def isroutine(o): return isbuiltin(o) or isfunction(o) or ismethod(o) or isinstance(o, types.MethodDescriptorType)
  | def isgenerator(o): return isinstance(o, types.GeneratorType)
  | def iscoroutine(o): return isinstance(o, types.CoroutineType)
  | def isasyncgen(o): return isinstance(o, types.AsyncGeneratorType)
  | def _flag(o, n):
  |     while ismethod(o): o = o.__func__
  |     while isinstance(o, functools.partial): o = o.func
  |     return isfunction(o) and bool(o.__code__.co_flags & n)
  | def isgeneratorfunction(o): return _flag(o, 32)
  | def iscoroutinefunction(o): return _flag(o, 128)
  | def isasyncgenfunction(o): return _flag(o, 512)
  | def isawaitable(o): return iscoroutine(o) or hasattr(type(o), '__await__')
  | def istraceback(o): return isinstance(o, types.TracebackType)
  | def isframe(o): return isinstance(o, types.FrameType)
  | def iscode(o): return isinstance(o, types.CodeType)
  | def isdatadescriptor(o): return not isclass(o) and (hasattr(type(o), '__set__') or hasattr(type(o), '__delete__'))
  | def ismethoddescriptor(o): return not isclass(o) and not ismethod(o) and not isfunction(o) and hasattr(type(o), '__get__') and not hasattr(type(o), '__set__')
  | def isabstract(o): return isclass(o) and bool(getattr(o, '__abstractmethods__', None))
  | def getmembers(object, predicate=None):
  |     out = []
  |     for name in dir(object):
  |         try: value = getattr(object, name)
  |         except AttributeError: continue
  |         if not predicate or predicate(value): out.append((name, value))
  |     out.sort(key=lambda pair: pair[0])
  |     return out
  | def getmro(cls): return cls.__mro__
  | def unwrap(func, *, stop=None):
  |     while hasattr(func, '__wrapped__') and not (stop and stop(func)): func = func.__wrapped__
  |     return func
  | def cleandoc(doc):
  |     lines = doc.expandtabs().split('\n')
  |     margin = min([len(l) - len(l.lstrip()) for l in lines[1:] if l.lstrip()], default=0)
  |     if lines: lines[0] = lines[0].lstrip()
  |     lines[1:] = [l[margin:] for l in lines[1:]]
  |     while lines and not lines[-1]: lines.pop()
  |     while lines and not lines[0]: lines.pop(0)
  |     return '\n'.join(lines)
  | def getdoc(object):
  |     doc = getattr(object, '__doc__', None)
  |     if doc is None and isclass(object):
  |         for base in object.__mro__[1:-1]:
  |             if base.__doc__ is not None:
  |                 doc = base.__doc__
  |                 break
  |     return cleandoc(doc) if isinstance(doc, str) else None
  | def getfile(object):
  |     if ismodule(object):
  |         if getattr(object, '__file__', None): return object.__file__
  |         raise TypeError(f'{object!r} is a built-in module')
  |     if isclass(object):
  |         module = sys.modules.get(object.__module__)
  |         if getattr(module, '__file__', None): return module.__file__
  |         raise TypeError(f'{object!r} is a built-in class')
  |     if ismethod(object): object = object.__func__
  |     if isfunction(object): object = object.__code__
  |     if istraceback(object): object = object.tb_frame
  |     if isframe(object): object = object.f_code
  |     if iscode(object): return object.co_filename
  |     raise TypeError('module, class, method, function, traceback, frame, or code object was expected, got ' + type(object).__name__)
  | getsourcefile = getabsfile = getfile
  | def getmodule(object, _filename=None): return object if ismodule(object) else sys.modules.get(getattr(object, '__module__', None))
  | def getmodulename(path):
  |     name = os.path.basename(path)
  |     return name[:-3] if name.endswith('.py') else None
  | def getblock(lines):
  |     out, indent, depth = [], None, None
  |     for i, line in enumerate(lines):
  |         text = line.strip()
  |         width = len(line) - len(line.lstrip())
  |         if i == 0: indent = width
  |         elif text and width <= indent and out and not out[-1].lstrip().startswith('@') and not text.startswith((')', ']', '}')):
  |             if not (len(out) and all(x.lstrip().startswith('@') for x in out)): break
  |         out.append(line)
  |     while out and not out[-1].strip(): out.pop()
  |     return out
  | def getsourcelines(object):
  |     object = unwrap(object)
  |     file = getfile(object)
  |     lines = linecache.getlines(file)
  |     if not lines: raise OSError('could not get source code')
  |     if ismodule(object): return lines, 0
  |     if isclass(object):
  |         import re
  |         shape = re.compile(r'^(\s*)class\s*' + object.__name__ + r'\b')
  |         for i, line in enumerate(lines):
  |             if shape.match(line):
  |                 while i and lines[i - 1].lstrip().startswith('@'): i -= 1
  |                 return getblock(lines[i:]), i + 1
  |         raise OSError('could not find class definition')
  |     if ismethod(object): object = object.__func__
  |     code = object.__code__ if isfunction(object) else object
  |     i = code.co_firstlineno - 1
  |     return getblock(lines[i:]), i + 1
  | def getsource(object): return ''.join(getsourcelines(object)[0])
  | def getcomments(object): return None
  | class _empty: pass
  | class _Kind(enum.IntEnum):
  |     POSITIONAL_ONLY, POSITIONAL_OR_KEYWORD, VAR_POSITIONAL, KEYWORD_ONLY, VAR_KEYWORD = range(5)
  |     def __str__(self): return self._name_
  |     @property
  |     def description(self):
  |         return ('positional-only', 'positional or keyword', 'variadic positional', 'keyword-only', 'variadic keyword')[self._value_]
  | def formatannotation(annotation, base_module=None):
  |     if isinstance(annotation, types.GenericAlias): return str(annotation)
  |     if getattr(annotation, '__module__', None) == 'typing' or type(annotation).__module__ == 'typing': return repr(annotation).replace('typing.', '')
  |     if isinstance(annotation, type):
  |         if annotation.__module__ in ('builtins', base_module): return annotation.__qualname__
  |         return annotation.__module__ + '.' + annotation.__qualname__
  |     return repr(annotation)
  | class Parameter:
  |     POSITIONAL_ONLY, POSITIONAL_OR_KEYWORD, VAR_POSITIONAL = _Kind.POSITIONAL_ONLY, _Kind.POSITIONAL_OR_KEYWORD, _Kind.VAR_POSITIONAL
  |     KEYWORD_ONLY, VAR_KEYWORD, empty = _Kind.KEYWORD_ONLY, _Kind.VAR_KEYWORD, _empty
  |     def __init__(self, name, kind, *, default=_empty, annotation=_empty):
  |         self.name, self.kind, self.default, self.annotation = name, _Kind(kind), default, annotation
  |     def replace(self, *, name=None, kind=None, default=Ellipsis, annotation=Ellipsis):
  |         return Parameter(name or self.name, self.kind if kind is None else kind, default=self.default if default is ... else default,
  |             annotation=self.annotation if annotation is ... else annotation)
  |     def __str__(self):
  |         out = self.name
  |         if self.annotation is not _empty: out = f'{out}: {formatannotation(self.annotation)}'
  |         if self.default is not _empty: out = f'{out} = {self.default!r}' if self.annotation is not _empty else f'{out}={self.default!r}'
  |         return '*' + out if self.kind == 2 else '**' + out if self.kind == 4 else out
  |     def __repr__(self): return f'<{self.__class__.__name__} "{self}">'
  |     def __eq__(self, other):
  |         if not isinstance(other, Parameter): return NotImplemented
  |         return (self.name, self.kind, self.default, self.annotation) == (other.name, other.kind, other.default, other.annotation)
  |     def __hash__(self): return hash((self.name, self.kind))
  | class BoundArguments:
  |     def __init__(self, signature, arguments): self._signature, self.arguments = signature, arguments
  |     signature = property(lambda self: self._signature)
  |     @property
  |     def args(self):
  |         out = []
  |         for name, p in self._signature.parameters.items():
  |             if p.kind in (3, 4) or name not in self.arguments: break
  |             if p.kind == 2: out.extend(self.arguments[name])
  |             else: out.append(self.arguments[name])
  |         return tuple(out)
  |     @property
  |     def kwargs(self):
  |         out, started = {}, False
  |         for name, p in self._signature.parameters.items():
  |             if not started and (p.kind in (3, 4) or name not in self.arguments): started = True
  |             if not started or name not in self.arguments: continue
  |             if p.kind == 4: out.update(self.arguments[name])
  |             else: out[name] = self.arguments[name]
  |         return out
  |     def apply_defaults(self):
  |         new = []
  |         for name, p in self._signature.parameters.items():
  |             if name in self.arguments: new.append((name, self.arguments[name]))
  |             elif p.default is not _empty: new.append((name, p.default))
  |             elif p.kind == 2: new.append((name, ()))
  |             elif p.kind == 4: new.append((name, {}))
  |         self.arguments = dict(new)
  |     def __repr__(self): return '<{} ({})>'.format(self.__class__.__name__, ', '.join(f'{k}={v!r}' for k, v in self.arguments.items()))
  | class Signature:
  |     empty = _empty
  |     def __init__(self, parameters=None, *, return_annotation=_empty):
  |         self.parameters = types.MappingProxyType({p.name: p for p in parameters or ()})
  |         self.return_annotation = return_annotation
  |     @classmethod
  |     def from_callable(cls, obj, **kwargs): return signature(obj)
  |     def replace(self, *, parameters=Ellipsis, return_annotation=Ellipsis):
  |         return Signature(self.parameters.values() if parameters is ... else parameters,
  |             return_annotation=self.return_annotation if return_annotation is ... else return_annotation)
  |     def bind(self, /, *args, **kwargs): return self._bind(args, kwargs)
  |     def bind_partial(self, /, *args, **kwargs): return self._bind(args, kwargs, True)
  |     def _bind(self, args, kwargs, partial=False):
  |         arguments, args, kwargs = {}, list(args), dict(kwargs)
  |         rest = None
  |         for name, p in self.parameters.items():
  |             if p.kind == 2:
  |                 arguments[name] = tuple(args)
  |                 args = []
  |                 if not arguments[name]: del arguments[name]
  |             elif p.kind == 4: rest = name
  |             elif args and p.kind != 3:
  |                 if name in kwargs and p.kind == 1: raise TypeError(f'multiple values for argument {name!r}')
  |                 arguments[name] = args.pop(0)
  |             elif name in kwargs and p.kind != 0: arguments[name] = kwargs.pop(name)
  |             elif p.default is _empty and not partial:
  |                 more = ' keyword-only' if p.kind == 3 else ''
  |                 raise TypeError(f'missing a required{more} argument: {name!r}')
  |         if args: raise TypeError('too many positional arguments')
  |         if kwargs:
  |             if rest is None: raise TypeError(f'got an unexpected keyword argument {next(iter(kwargs))!r}')
  |             arguments[rest] = kwargs
  |         return BoundArguments(self, arguments)
  |     def __str__(self):
  |         result, placed, star = [], False, True
  |         for p in self.parameters.values():
  |             if p.kind == 0: placed = True
  |             elif placed:
  |                 result.append('/')
  |                 placed = False
  |             if p.kind == 2: star = False
  |             elif p.kind == 3 and star:
  |                 result.append('*')
  |                 star = False
  |             result.append(str(p))
  |         if placed: result.append('/')
  |         out = '({})'.format(', '.join(result))
  |         return out if self.return_annotation is _empty else out + f' -> {formatannotation(self.return_annotation)}'
  |     def __repr__(self): return f'<{self.__class__.__name__} {self}>'
  |     def __eq__(self, other):
  |         if not isinstance(other, Signature): return NotImplemented
  |         return dict(self.parameters) == dict(other.parameters) and self.return_annotation == other.return_annotation
  |     def __hash__(self): return hash(tuple(self.parameters.values()))
  | def _of_function(f):
  |     code, hints = f.__code__, getattr(f, '__annotations__', {})
  |     names, n, placed, named = code.co_varnames, code.co_argcount, code.co_posonlyargcount, code.co_kwonlyargcount
  |     defaults, usual = f.__defaults__ or (), f.__kwdefaults__ or {}
  |     out = []
  |     for i, name in enumerate(names[:n]):
  |         d = defaults[i - (n - len(defaults))] if i >= n - len(defaults) else _empty
  |         out.append(Parameter(name, 0 if i < placed else 1, default=d, annotation=hints.get(name, _empty)))
  |     i = n + named
  |     if code.co_flags & 4:
  |         out.append(Parameter(names[i], 2, annotation=hints.get(names[i], _empty)))
  |         i += 1
  |     for name in names[n:n + named]: out.append(Parameter(name, 3, default=usual.get(name, _empty), annotation=hints.get(name, _empty)))
  |     if code.co_flags & 8: out.append(Parameter(names[i], 4, annotation=hints.get(names[i], _empty)))
  |     return Signature(out, return_annotation=hints.get('return', _empty))
  | def signature(obj, *, follow_wrapped=True, globals=None, locals=None, eval_str=False):
  |     if not callable(obj): raise TypeError(f'{obj!r} is not a callable object')
  |     if ismethod(obj):
  |         found = signature(obj.__func__)
  |         return found.replace(parameters=list(found.parameters.values())[1:])
  |     if follow_wrapped: obj = unwrap(obj, stop=lambda f: hasattr(f, '__signature__'))
  |     if getattr(obj, '__signature__', None) is not None: return obj.__signature__
  |     if isfunction(obj): return _of_function(obj)
  |     if isinstance(obj, functools.partial):
  |         found = signature(obj.func)
  |         params = list(found.parameters.values())[len(obj.args):]
  |         out, keep = [], False
  |         for p in params:
  |             if p.name in (obj.keywords or {}):
  |                 p, keep = p.replace(default=obj.keywords[p.name], kind=3), True
  |             elif keep and p.kind == 1: p = p.replace(kind=3)
  |             out.append(p)
  |         return found.replace(parameters=out)
  |     if isclass(obj):
  |         for name in ('__new__', '__init__'):
  |             f = getattr(obj, name, None)
  |             for base in obj.__mro__:
  |                 if name in base.__dict__:
  |                     f = base.__dict__[name]
  |                     break
  |             if isinstance(f, staticmethod): f = f.__func__
  |             if isfunction(f):
  |                 found = _of_function(f)
  |                 return found.replace(parameters=list(found.parameters.values())[1:])
  |         if obj.__module__ == 'builtins': raise ValueError(f'no signature found for builtin type {obj!r}')
  |         return Signature()
  |     if isbuiltin(obj): raise ValueError(f'no signature found for builtin {obj!r}')
  |     call = getattr(type(obj), '__call__', None)
  |     if isfunction(call):
  |         found = _of_function(call)
  |         return found.replace(parameters=list(found.parameters.values())[1:])
  |     raise ValueError(f'callable {obj!r} is not supported by signature')
  | FullArgSpec = collections.namedtuple('FullArgSpec', 'args, varargs, varkw, defaults, kwonlyargs, kwonlydefaults, annotations')
  | def getfullargspec(func):
  |     args, varargs, varkw, named, defaults, usual, hints = [], None, None, [], (), {}, {}
  |     found = _of_function(func.__func__ if ismethod(func) else func)
  |     if found.return_annotation is not _empty: hints['return'] = found.return_annotation
  |     for p in found.parameters.values():
  |         if p.kind in (0, 1):
  |             args.append(p.name)
  |             if p.default is not _empty: defaults += (p.default,)
  |         elif p.kind == 2: varargs = p.name
  |         elif p.kind == 3:
  |             named.append(p.name)
  |             if p.default is not _empty: usual[p.name] = p.default
  |         else: varkw = p.name
  |         if p.annotation is not _empty: hints[p.name] = p.annotation
  |     return FullArgSpec(args, varargs, varkw, defaults or None, named, usual or None, hints)
  | def getcallargs(func, /, *positional, **named):
  |     bound = signature(func).bind(*positional, **named)
  |     bound.apply_defaults()
  |     return bound.arguments
  | def currentframe(): return sys._getframe(1)
  | Traceback = collections.namedtuple('Traceback', 'filename lineno function code_context index')
  | FrameInfo = collections.namedtuple('FrameInfo', 'frame filename lineno function code_context index')
  | def getframeinfo(frame, context=1):
  |     lineno = frame.tb_lineno if istraceback(frame) else frame.f_lineno
  |     if istraceback(frame): frame = frame.tb_frame
  |     line = linecache.getline(frame.f_code.co_filename, lineno)
  |     return Traceback(frame.f_code.co_filename, lineno, frame.f_code.co_name, [line] if line else None, 0 if line else None)
  | def stack(context=1):
  |     out, f = [], sys._getframe(1)
  |     while f:
  |         out.append(FrameInfo(f, *getframeinfo(f, context)))
  |         f = f.f_back
  |     return out
  | def trace(context=1): return []
  | def getclosurevars(func): raise NotImplementedError
  | def getattr_static(obj, attr, default=_empty):
  |     for place in [getattr(obj, '__dict__', {})] + [c.__dict__ for c in (obj.__mro__ if isclass(obj) else type(obj).__mro__)]:
  |         if attr in place: return place[attr]
  |     if default is not _empty: return default
  |     raise AttributeError(attr)
  | def get_annotations(obj, *, globals=None, locals=None, eval_str=False): return dict(getattr(obj, '__annotations__', {}))"# }

/-- what a script can know of the tool, of the way that a failure takes, and of the end -/
def selvesLibraries : List Library :=
  [self_Library, waysLibrary, interruptionsLibrary, machineLibrary, peopleLibrary, timingLibrary, memoryLibrary,
   settingsLibrary, loadingLibrary, loadingPartsLibrary, looksLibrary]

end IncludeAudit.Offside
