/-
Modules for what surrounds a script: directories, paths, the environment and other programs.

- `directoriesLibraries`: the modules.
-/
import IncludeAudit.Offside.Library.Surroundings

namespace IncludeAudit.Offside

def systemLibrary : Library :=
  { name := "os"
    functions := Surroundings.functions
    run := Surroundings.function
    values := Surroundings.values
    file := "<frozen os>"
    source := r#"
  | import sys
  | import posixpath as path
  | sys.modules['os.path'] = path
  | supports_follow_symlinks = supports_dir_fd = supports_fd = supports_effective_ids = set()
  | class _Kind(type):
  |     def __instancecheck__(cls, value): return hasattr(type(value), '__fspath__')
  |     def __subclasscheck__(cls, C): return hasattr(C, '__fspath__')
  | def _aliased(cls, k):
  |     from types import GenericAlias
  |     return GenericAlias(cls, k)
  | PathLike = _Kind('PathLike', (), {'__module__': 'os', '__class_getitem__': classmethod(_aliased)})
  | class _Row(tuple):
  |     def __new__(cls, values): return tuple.__new__(cls, values)
  |     def __repr__(self):
  |         return f'{self._full}(' + ', '.join(f'{n}={v!r}' for n, v in zip(self._names, self)) + ')'
  | def _row(name, names, full=None):
  |     space = {n: property(lambda self, i=i: self[i]) for i, n in enumerate(names.split())}
  |     return type(name, (_Row,), {**space, '_names': names.split(), '_full': full or 'os.' + name, '__module__': 'os'})
  | _Stat = _row('stat_result', 'st_mode st_ino st_dev st_nlink st_uid st_gid st_size st_atime st_mtime st_ctime')
  | class stat_result(_Stat):
  |     st_blksize, st_rdev = 4096, 0
  |     st_atime = st_mtime = st_ctime = property(lambda self: float(self[8]))
  |     st_atime_ns = st_mtime_ns = st_ctime_ns = property(lambda self: self[8] * 1000000000)
  | terminal_size = _row('terminal_size', 'columns lines')
  | uname_result = _row('uname_result', 'sysname nodename release version machine', 'posix.uname_result')
  | times_result = _row('times_result', 'user system children_user children_system elapsed', 'posix.times_result')
  | def stat(path, *, dir_fd=None, follow_symlinks=True):
  |     facts = _stat(path, follow_symlinks)
  |     result = stat_result(facts[:7] + (_start,) * 3)
  |     result.st_blocks = facts[7]
  |     return result
  | _start = 1700000000
  | def lstat(path, *, dir_fd=None): return stat(path, follow_symlinks=False)
  | def fstat(fd):
  |     if fd in _files: return stat(_files[fd].name)
  |     return stat(fd)
  | def utime(path, times=None, *, ns=None, dir_fd=None, follow_symlinks=True):
  |     try: _stat(path, follow_symlinks)
  |     except OSError as e: raise OSError(e.errno, e.strerror) from None
  | def chown(path, uid, gid, **more): _stat(path, True)
  | lchown = chown
  | def sync(): pass
  | def fsync(fd): pass
  | fdatasync = fsync
  | def nice(n): return 0
  | def getlogin(): raise OSError(25, strerror(25))
  | def ttyname(fd): raise OSError(25, strerror(25))
  | def get_terminal_size(fd=1): raise OSError(25, strerror(25))
  | def getpgid(pid): return pid
  | def getpgrp(): return getpid()
  | def getsid(pid): return pid
  | def getgroups(): return [0]
  | def setsid(): return getpid()
  | def getloadavg(): return (0.0, 0.0, 0.0)
  | def sched_getaffinity(pid): return set(range(cpu_count()))
  | def uname(): return uname_result(('Linux', 'localhost', '6.1.0', '#1 SMP', 'x86_64'))
  | def times(): return times_result((0.02, 0.01, 0.0, 0.0, 17000000.0))
  | def kill(pid, sig):
  |     if pid not in (getpid(), 0): raise ProcessLookupError(3, strerror(3))
  |     if sig: _killed(sig)
  | def _killed(sig):
  |     import signal
  |     signal._receive(sig)
  | def abort(): _killed(6)
  | def waitpid(pid, options): raise ChildProcessError(10, strerror(10))
  | def wait(): raise ChildProcessError(10, strerror(10))
  | def fork(): raise OSError(38, strerror(38))
  | WEXITSTATUS = waitstatus_to_exitcode = lambda status: status >> 8
  | def WIFEXITED(status): return status & 127 == 0
  | def WIFSIGNALED(status): return status & 127 != 0
  | def WTERMSIG(status): return status & 127
  | def fsencode(filename):
  |     filename = fspath(filename)
  |     return filename.encode('utf-8', 'surrogateescape') if isinstance(filename, str) else filename
  | def fsdecode(filename):
  |     filename = fspath(filename)
  |     return filename.decode('utf-8', 'surrogateescape') if isinstance(filename, bytes) else filename
  | class _Environ:
  |     def __init__(self, data): self._data = data
  |     def _key(self, key):
  |         if not isinstance(key, str): raise TypeError('str expected, not %s' % type(key).__name__)
  |         return key.encode('utf-8', 'surrogateescape')
  |     def __getitem__(self, key):
  |         try: value = self._data[self._key(key)]
  |         except KeyError: raise KeyError(key) from None
  |         return value.decode('utf-8', 'surrogateescape')
  |     def __setitem__(self, key, value):
  |         key, value = self._key(key), self._key(value)
  |         putenv(key, value)
  |         self._data[key] = value
  |     def __delitem__(self, key):
  |         code = self._key(key)
  |         unsetenv(code)
  |         try: del self._data[code]
  |         except KeyError: raise KeyError(key) from None
  |     def __iter__(self): return iter([k.decode('utf-8', 'surrogateescape') for k in self._data])
  |     def __len__(self): return len(self._data)
  |     def __contains__(self, key): return isinstance(key, str) and self._key(key) in self._data
  |     def __repr__(self): return 'environ({' + ', '.join(f'{k!r}: {v!r}' for k, v in self.items()) + '})'
  |     def get(self, key, default=None): return self[key] if self._key(key) in self._data else default
  |     def keys(self): return self.copy().keys()
  |     def values(self): return self.copy().values()
  |     def items(self): return self.copy().items()
  |     def copy(self): return {k: self[k] for k in self}
  |     def setdefault(self, key, value):
  |         if key not in self: self[key] = value
  |         return self[key]
  |     def pop(self, key, *default):
  |         if key in self:
  |             value = self[key]
  |             del self[key]
  |             return value
  |         if default: return default[0]
  |         raise KeyError(key)
  |     def popitem(self):
  |         for key in self: return key, self.pop(key)
  |         raise KeyError
  |     def update(self, other=(), /, **more):
  |         for k, v in (other.items() if hasattr(other, 'items') else other): self[k] = v
  |         for k, v in more.items(): self[k] = v
  |     def clear(self):
  |         for k in list(self): del self[k]
  |     def __eq__(self, other): return self.copy() == (other.copy() if isinstance(other, _Environ) else other)
  |     def __or__(self, other): return self.copy() | dict(other)
  |     def __ror__(self, other): return dict(other) | self.copy()
  |     def __ior__(self, other):
  |         self.update(other)
  |         return self
  | environ = _Environ(_environment())
  | class _EnvironBytes:
  |     def __getitem__(self, key): return environ._data[key]
  |     def get(self, key, default=None): return environ._data.get(key, default)
  |     def __contains__(self, key): return key in environ._data
  |     def __iter__(self): return iter(environ._data)
  |     def items(self): return environ._data.items()
  | environb = _EnvironBytes()
  | supports_bytes_environ = True
  | def getenv(key, default=None): return environ.get(key, default)
  | def getenvb(key, default=None): return environb.get(key, default)
  | def get_exec_path(env=None):
  |     found = (environ if env is None else env).get('PATH')
  |     return (defpath if found is None else found).split(pathsep)
  | def makedirs(name, mode=0o777, exist_ok=False):
  |     head, tail = path.split(name)
  |     if not tail: head, tail = path.split(head)
  |     if head and tail and not path.exists(head):
  |         try: makedirs(head, exist_ok=exist_ok)
  |         except FileExistsError: pass
  |         if tail == ('.' if isinstance(tail, str) else b'.'): return
  |     try: mkdir(name, mode)  #@225
  |     except OSError:
  |         if not exist_ok or not path.isdir(name): raise
  | def removedirs(name):
  |     rmdir(name)
  |     head, tail = path.split(name)
  |     if not tail: head, tail = path.split(head)
  |     while head and tail:
  |         try: rmdir(head)
  |         except OSError: break
  |         head, tail = path.split(head)
  | def renames(old, new):
  |     head, tail = path.split(new)
  |     if head and tail and not path.exists(head): makedirs(head)
  |     rename(old, new)
  |     head, tail = path.split(old)
  |     if head and tail:
  |         try: removedirs(head)
  |         except OSError: pass
  | class DirEntry:
  |     def __init__(self, dir, name): self.name, self.path = name, path.join(dir, name)
  |     def __fspath__(self): return self.path
  |     def _mode(self, follow):
  |         try: return _stat(self.path, follow)[0] & 0o170000
  |         except FileNotFoundError: return 0
  |     def is_dir(self, *, follow_symlinks=True): return self._mode(follow_symlinks) == 0o040000
  |     def is_file(self, *, follow_symlinks=True): return self._mode(follow_symlinks) == 0o100000
  |     def is_symlink(self): return self._mode(False) == 0o120000
  |     def stat(self, *, follow_symlinks=True): return stat(self.path, follow_symlinks=follow_symlinks)
  |     def inode(self): return _stat(self.path, False)[1]
  |     def __repr__(self): return f'<DirEntry {self.name!r}>'
  | class _Scan:
  |     def __init__(self, dir):
  |         try: names = listdir(dir)
  |         except TypeError as e: raise TypeError(str(e).replace('listdir:', 'scandir:')) from None
  |         self._rest = iter([DirEntry('.' if dir is None else fspath(dir), n) for n in names])
  |     def __iter__(self): return self
  |     def __next__(self): return next(self._rest)
  |     def __enter__(self): return self
  |     def __exit__(self, *exc): self.close()
  |     def close(self): self._rest = iter(())
  | def scandir(path='.'): return _Scan(path)
  | def walk(top, topdown=True, onerror=None, followlinks=False): return _walk(fspath(top), topdown, onerror, followlinks)
  | def _walk(top, topdown, onerror, followlinks):
  |     dirs, files, inner = [], [], []
  |     try: entries = list(scandir(top))
  |     except OSError as e:
  |         if onerror is not None: onerror(e)
  |         return
  |     for entry in entries:
  |         if entry.is_dir():
  |             dirs.append(entry.name)
  |             if not topdown and (followlinks or not entry.is_symlink()): inner.append(entry.path)
  |         else: files.append(entry.name)
  |     if topdown:
  |         yield top, dirs, files
  |         for name in dirs:
  |             below = path.join(top, name)
  |             if followlinks or not path.islink(below): yield from _walk(below, topdown, onerror, followlinks)
  |     else:
  |         for below in inner: yield from _walk(below, topdown, onerror, followlinks)
  |         yield top, dirs, files
  | def fwalk(top='.', topdown=True, onerror=None, **more):
  |     for root, dirs, files in walk(top, topdown, onerror): yield root, dirs, files, 3
  | _files = {}
  | def open(path, flags, mode=0o777, *, dir_fd=None):
  |     way = flags & 3
  |     there = _exists(path)
  |     if flags & O_CREAT and flags & O_EXCL and there: raise FileExistsError(17, strerror(17), fspath(path))
  |     if not there and not flags & O_CREAT: raise FileNotFoundError(2, strerror(2), fspath(path))
  |     import builtins
  |     new = not there
  |     if way == 0 and there: f = builtins.open(path, 'rb')
  |     elif flags & O_APPEND: f = builtins.open(path, 'ab+' if way == 2 else 'ab')
  |     elif flags & O_TRUNC or new: f = builtins.open(path, 'wb+' if way == 2 else 'wb')
  |     else: f = builtins.open(path, 'rb+')
  |     if new: chmod(path, mode & ~umask(umask(0)) & 0o777)
  |     _files[f.fileno()] = f
  |     return f.fileno()
  | def _exists(path):
  |     try: _stat(path, False)
  |     except FileNotFoundError: return False
  |     return True
  | _plain_write, _plain_read = write, read
  | def write(fd, data, /):
  |     if fd in _files:
  |         if isinstance(data, str): raise TypeError("a bytes-like object is required, not 'str'")
  |         return _files[fd].write(data)
  |     return _plain_write(fd, data)
  | def read(fd, length, /): return _files[fd].read(length) if fd in _files else _plain_read(fd, length)
  | def close(fd):
  |     if fd in _files: _files.pop(fd).close()
  |     elif not 0 <= fd <= 2: raise OSError(9, strerror(9))
  | def lseek(fd, pos, how, /):
  |     if fd not in _files: raise OSError(29 if 0 <= fd <= 2 else 9, strerror(29 if 0 <= fd <= 2 else 9))
  |     return _files[fd].seek(pos, how)
  | def ftruncate(fd, length, /): _files[fd].truncate(length)
  | def dup(fd, /): return fd
  | def dup2(fd, fd2, inheritable=True): return fd2
  | def pipe():
  |     import io
  |     f = io.BytesIO()
  |     n = 100 + len(_files)
  |     class End:
  |         def __init__(self, reads): self.at = 0
  |         def write(self, data): return f.write(data)
  |         def read(self, n):
  |             part = f.getvalue()[self.at:self.at + n]
  |             self.at += len(part)
  |             return part
  |         def close(self): pass
  |     _files[n], _files[n + 1] = End(True), End(False)
  |     return n, n + 1
  | def fdopen(fd, mode='r', buffering=-1, encoding=None, *args, **kwargs):
  |     if not isinstance(fd, int): raise TypeError('invalid fd type (%s, expected integer)' % type(fd))
  |     import builtins
  |     if fd in _files:
  |         known = _files.pop(fd)
  |         return known if 'b' in mode else builtins.open(known.name, mode.replace('w', 'r+') if 'w' in mode else mode, buffering, encoding)
  |     return builtins.open(fd, mode, buffering, encoding, *args, **kwargs)
  | def mkfifo(path, mode=0o666): raise PermissionError(1, strerror(1), fspath(path))
  | def get_inheritable(fd): return False
  | def set_inheritable(fd, on): pass
  | def set_blocking(fd, on): pass
  | def _finish(result):
  |     status, signal = result[:2]
  |     return signal if signal is not None else status << 8
  | def system(command):
  |     return _finish(_run(['/bin/sh', '-c', fsdecode(command)], None, False, 0, None, None))
  | class _Output:
  |     def __init__(self, file, status): self._file, self._status = file, status
  |     def close(self):
  |         self._file.close()
  |         return self._status or None
  |     def __enter__(self): return self
  |     def __exit__(self, *exc): self.close()
  |     def __getattr__(self, name): return getattr(self._file, name)
  |     def __iter__(self): return iter(self._file)
  | class _Input:
  |     def __init__(self, command): self._command, self._parts, self.closed = command, [], False
  |     def write(self, text):
  |         self._parts.append(text)
  |         return len(text)
  |     def flush(self): pass
  |     def close(self):
  |         if not self.closed:
  |             self.closed = True
  |             self._status = _finish(_run(['/bin/sh', '-c', self._command], ''.join(self._parts).encode(), False, 0, None, None))
  |         return self._status or None
  |     def __enter__(self): return self
  |     def __exit__(self, *exc): self.close()
  | def popen(cmd, mode='r', buffering=-1):
  |     if not isinstance(cmd, str): raise TypeError('invalid cmd type (%s, expected string)' % type(cmd))
  |     if mode not in ('r', 'w'): raise ValueError('invalid mode %r' % mode)
  |     if mode == 'w': return _Input(cmd)
  |     import io
  |     result = _run(['/bin/sh', '-c', cmd], None, True, 0, None, None)
  |     return _Output(io.StringIO(result[2].decode('utf-8', 'strict')), _finish(result))
  | def _replace(file, args, env):
  |     args = [fspath(a) for a in args]
  |     if not args: raise ValueError('execv() arg 2 must not be empty')
  |     try: result = _run([file] + args[1:], None, False, 0, None if env is None else _pairs(env), None)
  |     except OSError as e: raise OSError(e.errno, e.strerror) from None
  |     _exit(result[0])
  | def _pairs(env): return [(fsencode(k), fsencode(v)) for k, v in env.items()]
  | def execv(file, args): _replace(path.join('.', file), args, None)
  | def execve(file, args, env): _replace(path.join('.', file), args, env)
  | def execvp(file, args): _replace(file, args, None)
  | def execvpe(file, args, env): _replace(file, args, env)
  | def execl(file, *args): execv(file, args)
  | def execle(file, *args): execve(file, args[:-1], args[-1])
  | def execlp(file, *args): execvp(file, args)
  | def execlpe(file, *args): execvpe(file, args[:-1], args[-1])
  | def spawnv(mode, file, args):
  |     result = _run([path.join('.', file)] + list(args)[1:], None, False, 0, None, None)
  |     return result[0] if result[1] is None else -result[1]
  | def spawnvp(mode, file, args):
  |     result = _run([file] + list(args)[1:], None, False, 0, None, None)
  |     return result[0] if result[1] is None else -result[1]
  | def spawnl(mode, file, *args): return spawnv(mode, file, args)
  | def spawnlp(mode, file, *args): return spawnvp(mode, file, args)"# }

/-- the module for paths, by its second name -/
def systemPathsLibrary : Library :=
  { name := "os.path"
    source := r#"
  | import posixpath, sys
  | sys.modules['os.path'] = posixpath"# }

def pathsLibrary : Library :=
  { name := "posixpath"
    file := "<frozen posixpath>"
    source := r#"
  | import os, genericpath
  | from genericpath import *
  | curdir, pardir, extsep, sep, pathsep, altsep = '.', '..', '.', '/', ':', None
  | defpath, devnull = '/bin:/usr/bin', '/dev/null'
  | supports_unicode_filenames = False
  | def _slash(path): return b'/' if isinstance(path, bytes) else '/'
  | def normcase(s): return os.fspath(s)
  | def isabs(s):
  |     s = os.fspath(s)
  |     return s.startswith(_slash(s))
  | def join(a, *p):
  |     a = os.fspath(a)  #@76
  |     sep = _slash(a)
  |     path = a
  |     try:
  |         if not p: path[:0] + sep
  |         for b in map(os.fspath, p):
  |             if b.startswith(sep): path = b
  |             elif not path or path.endswith(sep): path += b
  |             else: path += sep + b
  |     except (TypeError, AttributeError, BytesWarning):
  |         genericpath._check_arg_types('join', a, *p)  #@90
  |         raise
  |     return path
  | def split(p):
  |     p = os.fspath(p)  #@103
  |     i = p.rfind(_slash(p)) + 1
  |     head, tail = p[:i], p[i:]
  |     if head and head != _slash(p) * len(head): head = head.rstrip(_slash(p))
  |     return head, tail
  | def splitext(p):
  |     p = os.fspath(p)  #@118
  |     return genericpath._splitext(p, _slash(p), None, b'.' if isinstance(p, bytes) else '.')
  | def splitdrive(p):
  |     p = os.fspath(p)
  |     return p[:0], p
  | def basename(p):
  |     p = os.fspath(p)  #@142
  |     return p[p.rfind(_slash(p)) + 1:]
  | def dirname(p):
  |     p = os.fspath(p)  #@152
  |     head = p[:p.rfind(_slash(p)) + 1]
  |     if head and head != _slash(p) * len(head): head = head.rstrip(_slash(p))
  |     return head
  | def islink(path):
  |     try: st = os._stat(path, False)
  |     except (OSError, ValueError, AttributeError): return False
  |     return st[0] & 0o170000 == 0o120000
  | def lexists(path):
  |     try: os._stat(path, False)
  |     except (OSError, ValueError): return False
  |     return True
  | def ismount(path): return lexists(path) and realpath(path) == '/'
  | def expanduser(path):
  |     path = os.fspath(path)
  |     tilde = b'~' if isinstance(path, bytes) else '~'
  |     if not path.startswith(tilde): return path
  |     i = path.find(_slash(path), 1)
  |     if i < 0: i = len(path)
  |     if i == 1: home = os.environ.get('HOME', '/root')
  |     elif path[1:i] in ('root', b'root'): home = '/root'
  |     else: return path
  |     if isinstance(path, bytes): home = os.fsencode(home)
  |     home = home.rstrip(_slash(path))
  |     return (home + path[i:]) or _slash(path)
  | def expandvars(path):
  |     path = os.fspath(path)
  |     if isinstance(path, bytes): return os.fsencode(expandvars(os.fsdecode(path)))
  |     out, i = [], 0
  |     while i < len(path):
  |         c = path[i]
  |         if c == '$':
  |             rest = path[i + 1:]
  |             if rest.startswith('{') and '}' in rest: name, used = rest[1:rest.index('}')], rest.index('}') + 1
  |             else:
  |                 used = 0
  |                 while used < len(rest) and (rest[used].isascii() and rest[used].isalnum() or rest[used] == '_'): used += 1
  |                 name = rest[:used]
  |             if name and name in os.environ:
  |                 out.append(os.environ[name])
  |                 i += used + 1
  |                 continue
  |         out.append(c)
  |         i += 1
  |     return ''.join(out)
  | def normpath(path):
  |     path = os.fspath(path)  #@378
  |     if isinstance(path, bytes): return os.fsencode(normpath(os.fsdecode(path)))
  |     if not path: return '.'
  |     front = '//' if path.startswith('//') and not path.startswith('///') else '/' if path.startswith('/') else ''
  |     parts = []
  |     for part in path.split('/'):
  |         if part in ('', '.'): continue
  |         if part != '..' or not front and not parts or parts and parts[-1] == '..': parts.append(part)
  |         elif parts: parts.pop()
  |     return front + '/'.join(parts) or '.'
  | def abspath(path):
  |     path = os.fspath(path)  #@407
  |     if not isabs(path): path = join(os.getcwdb() if isinstance(path, bytes) else os.getcwd(), path)
  |     return normpath(path)
  | def realpath(filename, *, strict=False):
  |     filename = os.fspath(filename)  #@414
  |     if strict: os._stat(filename, True)
  |     found = os._realpath(filename)
  |     return os.fsencode(found) if isinstance(filename, bytes) else found
  | def relpath(path, start=None):
  |     if not path: raise ValueError('no path specified')  #@471
  |     path = os.fspath(path)
  |     byte = isinstance(path, bytes)
  |     start = (b'.' if byte else '.') if start is None else os.fspath(start)
  |     sep = _slash(path)
  |     try:
  |         base = [x for x in abspath(start).split(sep) if x]
  |         goal = [x for x in abspath(path).split(sep) if x]
  |     except (TypeError, AttributeError, BytesWarning, DeprecationWarning):
  |         genericpath._check_arg_types('relpath', path, start)
  |         raise
  |     i = len(commonprefix([base, goal]))
  |     rel = [b'..' if byte else '..'] * (len(base) - i) + goal[i:]
  |     return join(*rel) if rel else (b'.' if byte else '.')
  | def commonpath(paths):
  |     if not paths: raise ValueError('commonpath() arg is an empty sequence')  #@511
  |     paths = tuple(map(os.fspath, paths))
  |     sep, dot = (b'/', b'.') if isinstance(paths[0], bytes) else ('/', '.')
  |     rows = [p.split(sep) for p in paths]
  |     kinds = set(p[:1] == sep for p in paths)
  |     if len(kinds) > 1: raise ValueError("Can't mix absolute and relative paths") from None  #@528
  |     rows = [[c for c in r if c and c != dot] for r in rows]
  |     low, high = min(rows), max(rows)
  |     common = low
  |     for i, c in enumerate(low):
  |         if c != high[i]:
  |             common = low[:i]
  |             break
  |     return (sep if kinds.pop() else sep[:0]) + sep.join(common)
  | __all__ = ['normcase', 'isabs', 'join', 'splitdrive', 'split', 'splitext', 'basename', 'dirname', 'commonprefix', 'getsize',
  |     'getmtime', 'getatime', 'getctime', 'islink', 'exists', 'lexists', 'isdir', 'isfile', 'ismount', 'expanduser', 'expandvars',
  |     'normpath', 'abspath', 'samefile', 'sameopenfile', 'samestat', 'curdir', 'pardir', 'sep', 'pathsep', 'defpath', 'altsep',
  |     'extsep', 'devnull', 'realpath', 'supports_unicode_filenames', 'relpath', 'commonpath']"# }

/-- the module for what all kinds of paths share -/
def anyPathsLibrary : Library :=
  { name := "genericpath"
    file := "<frozen genericpath>"
    source := r#"
  | import os
  | __all__ = ['commonprefix', 'exists', 'getatime', 'getctime', 'getmtime', 'getsize', 'isdir', 'isfile', 'samefile',
  |     'sameopenfile', 'samestat']
  | def exists(path):
  |     try: os._stat(path, True)
  |     except (OSError, ValueError): return False
  |     return True
  | def isfile(path):
  |     try: st = os._stat(path, True)
  |     except (OSError, ValueError): return False
  |     return st[0] & 0o170000 == 0o100000
  | def isdir(s):
  |     try: st = os._stat(s, True)
  |     except (OSError, ValueError): return False
  |     return st[0] & 0o170000 == 0o040000
  | def getsize(filename): return os.stat(filename).st_size  #@50
  | def getmtime(filename): return os.stat(filename).st_mtime  #@55
  | def getatime(filename): return os.stat(filename).st_atime  #@60
  | def getctime(filename): return os.stat(filename).st_ctime  #@65
  | def commonprefix(m):
  |     if not m: return ''
  |     if not isinstance(m[0], (list, tuple)): m = tuple(map(os.fspath, m))
  |     low, high = min(m), max(m)
  |     for i, c in enumerate(low):
  |         if c != high[i]: return low[:i]
  |     return low
  | def samestat(s1, s2): return s1.st_ino == s2.st_ino and s1.st_dev == s2.st_dev
  | def samefile(f1, f2): return samestat(os.stat(f1), os.stat(f2))
  | def sameopenfile(fp1, fp2): return samestat(os.fstat(fp1), os.fstat(fp2))
  | def _splitext(p, sep, altsep, extsep):
  |     slash, dot = p.rfind(sep), p.rfind(extsep)
  |     if dot > slash:
  |         i = slash + 1
  |         while i < dot:
  |             if p[i:i + 1] != extsep: return p[:dot], p[dot:]
  |             i += 1
  |     return p, p[:0]
  | def _check_arg_types(funcname, *args):
  |     text = byte = False
  |     for s in args:
  |         if isinstance(s, str): text = True
  |         elif isinstance(s, bytes): byte = True
  |         else:
  |             raise TypeError(f'{funcname}() argument must be str, bytes, or os.PathLike object, not {s.__class__.__name__!r}') from None  #@152
  |     if text and byte: raise TypeError("Can't mix strings and bytes in path components") from None  #@155"# }

/-- the module for the numbers that say what a file is -/
def modesLibrary : Library :=
  { name := "stat"
    source := r#"
  | ST_MODE, ST_INO, ST_DEV, ST_NLINK, ST_UID, ST_GID, ST_SIZE, ST_ATIME, ST_MTIME, ST_CTIME = range(10)
  | S_IFDIR, S_IFCHR, S_IFBLK, S_IFREG, S_IFIFO, S_IFLNK, S_IFSOCK = (0o040000, 0o020000, 0o060000, 0o100000, 0o010000, 0o120000,
  |     0o140000)
  | S_ISUID, S_ISGID, S_ISVTX = 0o4000, 0o2000, 0o1000
  | S_IRWXU, S_IRUSR, S_IWUSR, S_IXUSR = 0o700, 0o400, 0o200, 0o100
  | S_IRWXG, S_IRGRP, S_IWGRP, S_IXGRP = 0o070, 0o040, 0o020, 0o010
  | S_IRWXO, S_IROTH, S_IWOTH, S_IXOTH = 0o007, 0o004, 0o002, 0o001
  | S_IREAD, S_IWRITE, S_IEXEC, S_ENFMT = S_IRUSR, S_IWUSR, S_IXUSR, S_ISGID
  | def S_IMODE(mode): return mode & 0o7777
  | def S_IFMT(mode): return mode & 0o170000
  | def S_ISDIR(mode): return S_IFMT(mode) == S_IFDIR
  | def S_ISCHR(mode): return S_IFMT(mode) == S_IFCHR
  | def S_ISBLK(mode): return S_IFMT(mode) == S_IFBLK
  | def S_ISREG(mode): return S_IFMT(mode) == S_IFREG
  | def S_ISFIFO(mode): return S_IFMT(mode) == S_IFIFO
  | def S_ISLNK(mode): return S_IFMT(mode) == S_IFLNK
  | def S_ISSOCK(mode): return S_IFMT(mode) == S_IFSOCK
  | def filemode(mode):
  |     kind = {S_IFLNK: 'l', S_IFREG: '-', S_IFBLK: 'b', S_IFDIR: 'd', S_IFCHR: 'c', S_IFIFO: 'p', S_IFSOCK: 's'}
  |     letters = [kind.get(S_IFMT(mode), '?')]
  |     for shift, special, on, off in ((6, S_ISUID, 's', 'S'), (3, S_ISGID, 's', 'S'), (0, S_ISVTX, 't', 'T')):
  |         bits = mode >> shift
  |         letters += ['r' if bits & 4 else '-', 'w' if bits & 2 else '-']
  |         letters.append((on if bits & 1 else off) if mode & special else 'x' if bits & 1 else '-')
  |     return ''.join(letters)"# }

/-- the module for the numbers that the system refuses with -/
def refusalsLibrary : Library :=
  { name := "errno"
    source := r#"
  | errorcode = {}
  | for _n, _name in ((1, 'EPERM'), (2, 'ENOENT'), (3, 'ESRCH'), (4, 'EINTR'), (5, 'EIO'), (6, 'ENXIO'), (7, 'E2BIG'), (8, 'ENOEXEC'),
  |         (9, 'EBADF'), (10, 'ECHILD'), (11, 'EAGAIN'), (12, 'ENOMEM'), (13, 'EACCES'), (14, 'EFAULT'), (15, 'ENOTBLK'),
  |         (16, 'EBUSY'), (17, 'EEXIST'), (18, 'EXDEV'), (19, 'ENODEV'), (20, 'ENOTDIR'), (21, 'EISDIR'), (22, 'EINVAL'),
  |         (23, 'ENFILE'), (24, 'EMFILE'), (25, 'ENOTTY'), (26, 'ETXTBSY'), (27, 'EFBIG'), (28, 'ENOSPC'), (29, 'ESPIPE'),
  |         (30, 'EROFS'), (31, 'EMLINK'), (32, 'EPIPE'), (33, 'EDOM'), (34, 'ERANGE'), (35, 'EDEADLK'), (36, 'ENAMETOOLONG'),
  |         (37, 'ENOLCK'), (38, 'ENOSYS'), (39, 'ENOTEMPTY'), (40, 'ELOOP'), (61, 'ENODATA'), (62, 'ETIME'), (71, 'EPROTO'),
  |         (75, 'EOVERFLOW'), (84, 'EILSEQ'), (88, 'ENOTSOCK'), (95, 'ENOTSUP'), (98, 'EADDRINUSE'), (99, 'EADDRNOTAVAIL'),
  |         (101, 'ENETUNREACH'), (103, 'ECONNABORTED'), (104, 'ECONNRESET'), (107, 'ENOTCONN'), (110, 'ETIMEDOUT'),
  |         (111, 'ECONNREFUSED'), (113, 'EHOSTUNREACH'), (114, 'EALREADY'), (115, 'EINPROGRESS')):
  |     globals()[_name] = _n
  |     errorcode[_n] = _name
  | EWOULDBLOCK, EDEADLOCK, EOPNOTSUPP = EAGAIN, EDEADLK, ENOTSUP"# }

def nameShapesLibrary : Library :=
  { name := "fnmatch"
    source := r#"
  | import os, re
  | __all__ = ['filter', 'fnmatch', 'fnmatchcase', 'translate']
  | _known = {}
  | def _matcher(pat):
  |     if pat not in _known:
  |         _known[pat] = re.compile(translate(pat) if isinstance(pat, str) else translate(pat.decode('latin-1')).encode('latin-1'))
  |     return _known[pat].match
  | def fnmatch(name, pat): return fnmatchcase(os.path.normcase(name), os.path.normcase(pat))
  | def fnmatchcase(name, pat): return _matcher(pat)(name) is not None
  | def filter(names, pat):
  |     match = _matcher(os.path.normcase(pat))
  |     return [n for n in names if match(n)]
  | def translate(pat):
  |     res, i, n = [], 0, len(pat)
  |     star = object()
  |     while i < n:
  |         c = pat[i]
  |         i += 1
  |         if c == '*':
  |             if not res or res[-1] is not star: res.append(star)
  |         elif c == '?': res.append('.')
  |         elif c == '[':
  |             j = i
  |             if j < n and pat[j] == '!': j += 1
  |             if j < n and pat[j] == ']': j += 1
  |             while j < n and pat[j] != ']': j += 1
  |             if j >= n: res.append('\\[')
  |             else:
  |                 stuff = pat[i:j]
  |                 if '-' not in stuff: stuff = stuff.replace('\\', r'\\')
  |                 else:
  |                     chunks = []
  |                     k = i + 2 if pat[i] == '!' else i + 1
  |                     while True:
  |                         k = pat.find('-', k, j)
  |                         if k < 0: break
  |                         chunks.append(pat[i:k])
  |                         i = k + 1
  |                         k += 3
  |                     chunk = pat[i:j]
  |                     if chunk: chunks.append(chunk)
  |                     else: chunks[-1] += '-'
  |                     for k in range(len(chunks) - 1, 0, -1):
  |                         if chunks[k - 1][-1] > chunks[k][0]:
  |                             chunks[k - 1] = chunks[k - 1][:-1] + chunks[k][1:]
  |                             del chunks[k]
  |                     stuff = '-'.join(s.replace('\\', r'\\').replace('-', r'\-') for s in chunks)
  |                 stuff = re.sub(r'([&~|])', r'\\\1', stuff)
  |                 i = j + 1
  |                 if not stuff: res.append('(?!)')
  |                 elif stuff == '!': res.append('.')
  |                 else:
  |                     if stuff[0] == '!': stuff = '^' + stuff[1:]
  |                     elif stuff[0] in ('^', '['): stuff = '\\' + stuff
  |                     res.append(f'[{stuff}]')
  |         else: res.append(re.escape(c))
  |     inp, res, i, n = res, [], 0, len(res)
  |     while i < n and inp[i] is not star:
  |         res.append(inp[i])
  |         i += 1
  |     while i < n:
  |         i += 1
  |         if i == n:
  |             res.append('.*')
  |             break
  |         fixed = []
  |         while i < n and inp[i] is not star:
  |             fixed.append(inp[i])
  |             i += 1
  |         fixed = ''.join(fixed)
  |         if i == n: res += ['.*', fixed]
  |         else: res.append(f'(?>.*?{fixed})')
  |     return fr'(?s:{"".join(res)})\Z'"# }

def pathShapesLibrary : Library :=
  { name := "glob"
    source := r#"
  | import os, re, fnmatch
  | __all__ = ['escape', 'glob', 'iglob']
  | def glob(pathname, *, root_dir=None, dir_fd=None, recursive=False, include_hidden=False):
  |     return list(iglob(pathname, root_dir=root_dir, recursive=recursive, include_hidden=include_hidden))
  | def iglob(pathname, *, root_dir=None, dir_fd=None, recursive=False, include_hidden=False):
  |     pathname = os.fspath(pathname)
  |     if isinstance(pathname, bytes):
  |         for p in iglob(os.fsdecode(pathname), root_dir=root_dir, recursive=recursive, include_hidden=include_hidden):
  |             yield os.fsencode(p)
  |         return
  |     root = os.fspath(root_dir) if root_dir is not None else pathname[:0]
  |     it = _iglob(pathname, root, recursive, False, include_hidden)
  |     if not pathname or recursive and pathname[:2] == '**':
  |         for first in it:
  |             if first: yield first
  |             break
  |     yield from it
  | def _iglob(pathname, root_dir, recursive, dironly, hidden):
  |     dirname, basename = os.path.split(pathname)
  |     if not has_magic(pathname):
  |         if basename:
  |             if os.path.lexists(_join(root_dir, pathname)): yield pathname
  |         elif os.path.isdir(_join(root_dir, dirname)): yield pathname
  |         return
  |     if not dirname:
  |         if recursive and basename == '**': yield from _glob2(root_dir, dironly, hidden)
  |         else: yield from _glob1(root_dir, basename, dironly, hidden)
  |         return
  |     if dirname != pathname and has_magic(dirname): dirs = _iglob(dirname, root_dir, recursive, True, hidden)
  |     else: dirs = [dirname]
  |     for d in dirs:
  |         here = _join(root_dir, d)
  |         if has_magic(basename):
  |             if recursive and basename == '**': names = _glob2(here, dironly, hidden)
  |             else: names = _glob1(here, basename, dironly, hidden)
  |         elif basename: names = [basename] if os.path.lexists(_join(here, basename)) else []
  |         else: names = [basename] if os.path.isdir(here) else []
  |         for name in names: yield os.path.join(d, name)
  | def _glob1(dirname, pattern, dironly, hidden):
  |     names = _listdir(dirname, dironly)
  |     if hidden or pattern[0] != '.' and hidden: pass
  |     elif pattern[0] != '.': names = [n for n in names if n[0] != '.']
  |     return fnmatch.filter(names, pattern)
  | def _glob2(dirname, dironly, hidden):
  |     if not dirname or os.path.isdir(dirname): yield dirname[:0]
  |     yield from _rlistdir(dirname, dironly, hidden)
  | def _rlistdir(dirname, dironly, hidden):
  |     for x in _listdir(dirname, dironly):
  |         if hidden or x[0] != '.':
  |             yield x
  |             below = _join(dirname, x) if dirname else x
  |             for y in _rlistdir(below, dironly, hidden): yield _join(x, y)
  | def _listdir(dirname, dironly):
  |     try:
  |         with os.scandir(dirname or os.curdir) as it: return [e.name for e in it if not dironly or e.is_dir()]
  |     except OSError: return []
  | def _join(dirname, basename):
  |     if not dirname or not basename: return dirname or basename
  |     return os.path.join(dirname, basename)
  | _magic = re.compile('([*?[])')
  | def has_magic(s): return _magic.search(s) is not None
  | def escape(pathname): return _magic.sub(r'[\1]', pathname)"# }

def treeWorkLibrary : Library :=
  { name := "shutil"
    file := "/usr/lib/python3.11/shutil.py"
    source := r#"
  | import os, sys, stat, fnmatch
  | class Error(OSError): pass
  | class SameFileError(Error): pass
  | class SpecialFileError(OSError): pass
  | class ExecError(OSError): pass
  | class ReadError(OSError): pass
  | class RegistryError(Exception): pass
  | def copyfileobj(fsrc, fdst, length=0):
  |     while buf := fsrc.read(length or 65536): fdst.write(buf)
  | def _same(src, dst):
  |     try: return os.path.samefile(src, dst)
  |     except OSError: return False
  | def copyfile(src, dst, *, follow_symlinks=True):
  |     if _same(src, dst): raise SameFileError('{!r} and {!r} are the same file'.format(src, dst))
  |     if not follow_symlinks and os.path.islink(src): os.symlink(os.readlink(src), dst)
  |     else:
  |         with open(src, 'rb') as fsrc:  #@256
  |             try:
  |                 with open(dst, 'wb') as fdst:  #@258
  |                     fdst.write(fsrc.read())
  |             except IsADirectoryError as e:
  |                 if not os.path.exists(dst): raise FileNotFoundError(f'Directory does not exist: {dst}') from e
  |                 raise
  |     return dst
  | def copymode(src, dst, *, follow_symlinks=True):
  |     if not follow_symlinks and os.path.islink(src): return
  |     os.chmod(dst, stat.S_IMODE(os.stat(src).st_mode))
  | def copystat(src, dst, *, follow_symlinks=True): copymode(src, dst, follow_symlinks=follow_symlinks)
  | def copy(src, dst, *, follow_symlinks=True):
  |     if os.path.isdir(dst): dst = os.path.join(dst, os.path.basename(src))
  |     copyfile(src, dst, follow_symlinks=follow_symlinks)  #@419
  |     copymode(src, dst, follow_symlinks=follow_symlinks)
  |     return dst
  | def copy2(src, dst, *, follow_symlinks=True):
  |     if os.path.isdir(dst): dst = os.path.join(dst, os.path.basename(src))
  |     copyfile(src, dst, follow_symlinks=follow_symlinks)  #@436
  |     copystat(src, dst, follow_symlinks=follow_symlinks)
  |     return dst
  | def ignore_patterns(*patterns):
  |     def ignore(path, names): return {n for p in patterns for n in fnmatch.filter(names, p)}
  |     return ignore
  | def copytree(src, dst, symlinks=False, ignore=None, copy_function=copy2, ignore_dangling_symlinks=False,
  |         dirs_exist_ok=False):
  |     with os.scandir(src) as itr:  #@559
  |         entries = list(itr)
  |     ignored = ignore(os.fspath(src), [e.name for e in entries]) if ignore is not None else ()
  |     os.makedirs(dst, exist_ok=dirs_exist_ok)
  |     errors = []
  |     for entry in entries:
  |         if entry.name in ignored: continue
  |         srcname, dstname = os.path.join(src, entry.name), os.path.join(dst, entry.name)
  |         try:
  |             if entry.is_symlink():
  |                 target = os.readlink(srcname)
  |                 if symlinks: os.symlink(target, dstname)
  |                 elif not os.path.exists(target) and ignore_dangling_symlinks: continue
  |                 elif entry.is_dir(): copytree(srcname, dstname, symlinks, ignore, copy_function, dirs_exist_ok=dirs_exist_ok)
  |                 else: copy_function(srcname, dstname)
  |             elif entry.is_dir():
  |                 copytree(srcname, dstname, symlinks, ignore, copy_function, dirs_exist_ok=dirs_exist_ok)
  |             else: copy_function(srcname, dstname)
  |         except Error as err: errors.extend(err.args[0])
  |         except OSError as why: errors.append((srcname, dstname, str(why)))
  |     if errors: raise Error(errors)
  |     return dst
  | def rmtree(path, ignore_errors=False, onerror=None, *, dir_fd=None):
  |     if ignore_errors:
  |         def onerror(*args): pass
  |     elif onerror is None:
  |         def onerror(*args): raise
  |     try:
  |         if os.path.islink(path): raise OSError('Cannot call rmtree on a symbolic link')
  |         st = os.lstat(path)
  |     except OSError:
  |         onerror(os.lstat, path, sys.exc_info())
  |         return
  |     try: names = os.listdir(path)
  |     except OSError:
  |         onerror(os.scandir, path, sys.exc_info())
  |         return
  |     for name in names:
  |         full = os.path.join(path, name)
  |         if os.path.isdir(full) and not os.path.islink(full): rmtree(full, False, onerror)
  |         else:
  |             try: os.unlink(full)
  |             except OSError: onerror(os.unlink, full, sys.exc_info())
  |     try: os.rmdir(path)
  |     except OSError: onerror(os.rmdir, path, sys.exc_info())
  | def move(src, dst, copy_function=copy2):
  |     real = dst
  |     if os.path.isdir(dst):
  |         if _same(src, dst):
  |             os.rename(src, dst)
  |             return
  |         real = os.path.join(dst, os.path.basename(os.fspath(src).rstrip('/')))
  |         if os.path.exists(real): raise Error("Destination path '%s' already exists" % real)
  |     try: os.rename(src, real)
  |     except OSError:
  |         if os.path.islink(src):
  |             os.symlink(os.readlink(src), real)
  |             os.unlink(src)
  |         elif os.path.isdir(src):
  |             if os.path.abspath(dst).startswith(os.path.abspath(src) + '/'):
  |                 raise Error("Cannot move a directory '%s' into itself '%s'." % (src, dst))
  |             copytree(src, real, copy_function=copy_function, symlinks=True)
  |             rmtree(src)
  |         else:
  |             copy_function(src, real)
  |             os.unlink(src)
  |     return real
  | def which(cmd, mode=os.F_OK | os.X_OK, path=None):
  |     def fits(fn): return os.path.exists(fn) and os.access(fn, mode) and not os.path.isdir(fn)
  |     if os.path.dirname(cmd): return cmd if fits(cmd) else None
  |     if path is None: path = os.environ.get('PATH', os.defpath)
  |     for dir in path.split(os.pathsep) if path else ():
  |         if fits(os.path.join(dir, cmd)): return os.path.join(dir, cmd)
  |     return None
  | def get_terminal_size(fallback=(80, 24)):
  |     try: columns = int(os.environ['COLUMNS'])
  |     except (KeyError, ValueError): columns = 0
  |     try: lines = int(os.environ['LINES'])
  |     except (KeyError, ValueError): lines = 0
  |     return os.terminal_size((columns or fallback[0], lines or fallback[1]))
  | class _Usage(tuple):
  |     def __repr__(self): return 'usage(total=%r, used=%r, free=%r)' % tuple(self)
  |     total, used, free = (property(lambda self, i=i: self[i]) for i in range(3))
  | def disk_usage(path): return _Usage((100000000000, 40000000000, 60000000000))
  | def chown(path, user=None, group=None): os.stat(path)"# }

def pathValuesLibrary : Library :=
  { name := "pathlib"
    file := "/usr/lib/python3.11/pathlib.py"
    source := r#"
  | import os, io, re, sys, fnmatch, posixpath
  | __all__ = ['PurePath', 'PurePosixPath', 'PureWindowsPath', 'Path', 'PosixPath', 'WindowsPath']
  | class _Parents:
  |     def __init__(self, path): self._path, self._count = path, len(path._tail())
  |     def __len__(self): return self._count
  |     def __getitem__(self, i):
  |         if isinstance(i, slice): return tuple(self[k] for k in range(*i.indices(len(self))))
  |         if i >= len(self) or i < -len(self): raise IndexError(i)
  |         if i < 0: i += len(self)
  |         p = self._path
  |         return p._make(p._root, p._tail()[:len(p._tail()) - i - 1])
  |     def __iter__(self): return (self[i] for i in range(len(self)))
  |     def __repr__(self): return '<{}.parents>'.format(type(self._path).__name__)
  | class PurePath:
  |     def __new__(cls, *args):
  |         if cls is PurePath: cls = PurePosixPath
  |         return cls._from(args)
  |     @classmethod
  |     def _from(cls, args):
  |         texts = []
  |         for a in args:
  |             if isinstance(a, PurePath): texts.append(str(a) if a._parts else '')
  |             else:
  |                 a = os.fspath(a)
  |                 if not isinstance(a, str):
  |                     raise TypeError('argument should be a str object or an os.PathLike object returning str, not %r' % type(a))
  |                 texts.append(a)
  |         path = ''
  |         for t in texts: path = posixpath.join(path, t)
  |         root = ''
  |         if path.startswith('/'): root = '//' if path.startswith('//') and not path.startswith('///') else '/'
  |         return cls._make(root, [p for p in path.split('/') if p and p != '.'])
  |     @classmethod
  |     def _make(cls, root, tail):
  |         self = object.__new__(cls)
  |         self._root, self._parts = root, ([root] if root else []) + list(tail)
  |         return self
  |     def _tail(self): return self._parts[1:] if self._root else self._parts
  |     def __reduce__(self): return (self.__class__, tuple(self._parts))
  |     def __str__(self):
  |         tail = '/'.join(self._tail())
  |         return self._root + tail if self._root or tail else '.'
  |     def __fspath__(self): return str(self)
  |     def as_posix(self): return str(self)
  |     def __bytes__(self): return os.fsencode(self)
  |     def __repr__(self): return '{}({!r})'.format(self.__class__.__name__, self.as_posix())
  |     def as_uri(self):
  |         if not self.is_absolute(): raise ValueError("relative path can't be expressed as a file URI")
  |         safe = 'abcdefghijklmnopqrstuvwxyzABCDEFGHIJKLMNOPQRSTUVWXYZ0123456789_.-~/'
  |         return 'file://' + ''.join(chr(b) if chr(b) in safe else '%%%02X' % b for b in bytes(self))
  |     def __eq__(self, other):
  |         if not isinstance(other, PurePath): return NotImplemented
  |         return self._parts == other._parts
  |     def __hash__(self): return hash(tuple(self._parts))
  |     def __lt__(self, other): return self._parts < other._parts if isinstance(other, PurePath) else NotImplemented
  |     def __le__(self, other): return self._parts <= other._parts if isinstance(other, PurePath) else NotImplemented
  |     def __gt__(self, other): return self._parts > other._parts if isinstance(other, PurePath) else NotImplemented
  |     def __ge__(self, other): return self._parts >= other._parts if isinstance(other, PurePath) else NotImplemented
  |     drive = ''
  |     root = property(lambda self: self._root)
  |     anchor = property(lambda self: self._root)
  |     @property
  |     def name(self):
  |         tail = self._tail()
  |         return tail[-1] if tail else ''
  |     @property
  |     def suffix(self):
  |         name = self.name
  |         i = name.rfind('.')
  |         return name[i:] if 0 < i < len(name) - 1 else ''
  |     @property
  |     def suffixes(self):
  |         name = self.name
  |         if name.endswith('.'): return []
  |         return ['.' + suffix for suffix in name.lstrip('.').split('.')[1:]]
  |     @property
  |     def stem(self):
  |         name = self.name
  |         i = name.rfind('.')
  |         return name[:i] if 0 < i < len(name) - 1 else name
  |     def with_name(self, name):
  |         if not self.name: raise ValueError('%r has an empty name' % (self,))
  |         if not name or '/' in name or name == '.': raise ValueError('Invalid name %r' % (name,))
  |         return self._make(self._root, self._tail()[:-1] + [name])
  |     def with_stem(self, stem): return self.with_name(stem + self.suffix)
  |     def with_suffix(self, suffix):
  |         if '/' in suffix: raise ValueError('Invalid suffix %r' % (suffix,))
  |         if suffix and not suffix.startswith('.') or suffix == '.': raise ValueError('Invalid suffix %r' % (suffix,))
  |         name = self.name
  |         if not name: raise ValueError('%r has an empty name' % (self,))
  |         old = self.suffix
  |         name = name + suffix if not old else name[:-len(old)] + suffix
  |         return self._make(self._root, self._tail()[:-1] + [name])
  |     def relative_to(self, *other):
  |         if not other: raise TypeError('need at least one argument')
  |         other = self.__class__(*other) if not (len(other) == 1 and isinstance(other[0], PurePath)) else other[0]
  |         n = len(other._parts)
  |         if self._parts[:n] != other._parts:
  |             shown = str(other) if other._parts else '.'
  |             raise ValueError('{!r} is not in the subpath of {!r} OR one path is relative and the other is absolute.'.format(
  |                 str(self), shown))
  |         if n == 0 and self._root: raise ValueError('{!r} is not in the subpath of {!r} OR one path is relative and the other '
  |             'is absolute.'.format(str(self), '.'))
  |         return self._make('', self._parts[n:])
  |     def is_relative_to(self, *other):
  |         try: self.relative_to(*other)
  |         except ValueError: return False
  |         return True
  |     @property
  |     def parts(self): return tuple(self._parts)
  |     def joinpath(self, *args): return self._from((self,) + args)
  |     def __truediv__(self, key):
  |         try: return self._from((self, key))
  |         except TypeError: return NotImplemented
  |     def __rtruediv__(self, key):
  |         try: return self._from((key, self))
  |         except TypeError: return NotImplemented
  |     @property
  |     def parent(self):
  |         tail = self._tail()
  |         return self._make(self._root, tail[:-1]) if tail else self
  |     @property
  |     def parents(self): return _Parents(self)
  |     def is_absolute(self): return bool(self._root)
  |     def is_reserved(self): return False
  |     def match(self, path_pattern):
  |         pattern = self.__class__(path_pattern)
  |         if not pattern._parts: raise ValueError('empty pattern')
  |         if pattern._root:
  |             if len(pattern._parts) != len(self._parts): return False
  |         elif len(pattern._parts) > len(self._parts): return False
  |         return all(fnmatch.fnmatchcase(part, pat) for part, pat in zip(reversed(self._parts), reversed(pattern._parts)))
  | class PurePosixPath(PurePath): __slots__ = ()
  | class PureWindowsPath(PurePath): __slots__ = ()
  | class Path(PurePath):
  |     def __new__(cls, *args, **kwargs):
  |         if cls is Path: cls = PosixPath
  |         return cls._from(args)
  |     def __enter__(self): return self
  |     def __exit__(self, t, v, tb): pass
  |     @classmethod
  |     def cwd(cls): return cls(os.getcwd())
  |     @classmethod
  |     def home(cls): return cls('~').expanduser()
  |     def samefile(self, other_path):
  |         other = other_path.stat() if hasattr(other_path, 'stat') else self.__class__(other_path).stat()
  |         return os.path.samestat(self.stat(), other)
  |     def iterdir(self):
  |         for name in os.listdir(self):  #@931
  |             yield self._make(self._root, self._tail() + [name])
  |     def _children(self):
  |         try: return sorted(os.scandir(self), key=lambda e: 0)
  |         except PermissionError: return []
  |         except (FileNotFoundError, NotADirectoryError): return []
  |     def _select(self, pattern):
  |         if not pattern:
  |             yield self
  |             return
  |         part, rest = pattern[0], pattern[1:]
  |         if part == '**':
  |             seen = set()
  |             for start in self._below():
  |                 for p in start._select(rest):
  |                     if p not in seen:
  |                         seen.add(p)
  |                         yield p
  |         elif '..' == part:
  |             yield from self._make(self._root, self._tail() + [part])._select(rest)
  |         elif not re.search('[*?[]', part):
  |             p = self._make(self._root, self._tail() + [part])
  |             if (p.is_dir() if rest else p.exists()): yield from p._select(rest)
  |         else:
  |             for e in self._children():
  |                 if (not rest or e.is_dir()) and fnmatch.fnmatchcase(e.name, part):
  |                     yield from self._make(self._root, self._tail() + [e.name])._select(rest)
  |     def _below(self):
  |         yield self
  |         for e in self._children():
  |             if e.is_dir() and not e.is_symlink(): yield from self._make(self._root, self._tail() + [e.name])._below()
  |     def _pattern(self, pattern):
  |         if not pattern: raise ValueError('Unacceptable pattern: {!r}'.format(pattern))
  |         if pattern.startswith('/'): raise NotImplementedError('Non-relative patterns are unsupported')
  |         parts = [p for p in pattern.split('/') if p and p != '.']
  |         for p in parts:
  |             if '**' in p and p != '**': raise ValueError("Invalid pattern: '**' can only be an entire path component")
  |         return parts
  |     def glob(self, pattern):
  |         parts = self._pattern(pattern)
  |         if parts and parts[-1] == '**' or pattern[-1] == '/': return (p for p in self._select(parts) if p.is_dir())
  |         return self._select(parts)
  |     def rglob(self, pattern): return self._select(['**'] + self._pattern(pattern))
  |     def absolute(self): return self if self.is_absolute() else self._from((os.getcwd(), self))
  |     def resolve(self, strict=False):
  |         if strict: os.stat(self)
  |         return self._from((os.path.realpath(self),))
  |     def stat(self, *, follow_symlinks=True):
  |         return os.stat(self, follow_symlinks=follow_symlinks)  #@1013
  |     def lstat(self): return self.stat(follow_symlinks=False)
  |     def owner(self): return 'root'
  |     def group(self): return 'root'
  |     def open(self, mode='r', buffering=-1, encoding=None, errors=None, newline=None):
  |         return io.open(self, mode, buffering, encoding, errors, newline)  #@1044
  |     def read_bytes(self):
  |         with self.open(mode='rb') as f:  #@1050
  |             return f.read()
  |     def read_text(self, encoding=None, errors=None):
  |         with self.open(mode='r', encoding=encoding, errors=errors) as f:  #@1058
  |             return f.read()
  |     def write_bytes(self, data):
  |         with self.open(mode='wb') as f:  #@1067
  |             return f.write(bytes(data))
  |     def write_text(self, data, encoding=None, errors=None, newline=None):
  |         if not isinstance(data, str):
  |             raise TypeError('data must be str, not %s' % data.__class__.__name__)
  |         with self.open(mode='w', encoding=encoding, errors=errors, newline=newline) as f:  #@1078
  |             return f.write(data)
  |     def readlink(self): return self._from((os.readlink(self),))
  |     def touch(self, mode=0o666, exist_ok=True):
  |         if exist_ok:
  |             try: os.utime(self)
  |             except OSError: pass
  |             else: return
  |         flags = os.O_CREAT | os.O_WRONLY
  |         if not exist_ok: flags |= os.O_EXCL
  |         fd = os.open(self, flags, mode)  #@1108
  |         os.close(fd)
  |     def mkdir(self, mode=0o777, parents=False, exist_ok=False):
  |         try:
  |             os.mkdir(self, mode)  #@1116
  |         except FileNotFoundError:
  |             if not parents or self.parent == self: raise
  |             self.parent.mkdir(parents=True, exist_ok=True)
  |             self.mkdir(mode, parents=False, exist_ok=exist_ok)
  |         except OSError:
  |             if not exist_ok or not self.is_dir(): raise
  |     def chmod(self, mode, *, follow_symlinks=True):
  |         os.chmod(self, mode)  #@1136
  |     def lchmod(self, mode): pass
  |     def unlink(self, missing_ok=False):
  |         try:
  |             os.unlink(self)  #@1147
  |         except FileNotFoundError:
  |             if not missing_ok: raise
  |     def rmdir(self):
  |         os.rmdir(self)  #@1156
  |     def rename(self, target):
  |         os.rename(self, target)  #@1175
  |         return self.__class__(target)
  |     def replace(self, target):
  |         os.replace(self, target)  #@1188
  |         return self.__class__(target)
  |     def symlink_to(self, target, target_is_directory=False): os.symlink(target, self)
  |     def hardlink_to(self, target): os.link(target, self)
  |     def link_to(self, target): os.link(self, target)
  |     def exists(self): return os.path.exists(self)
  |     def is_dir(self): return os.path.isdir(self)
  |     def is_file(self): return os.path.isfile(self)
  |     def is_mount(self): return os.path.ismount(self)
  |     def is_symlink(self): return os.path.islink(self)
  |     def _kind(self):
  |         try: return os.stat(self).st_mode & 0o170000
  |         except (OSError, ValueError): return 0
  |     def is_block_device(self): return self._kind() == 0o060000
  |     def is_char_device(self): return self._kind() == 0o020000
  |     def is_fifo(self): return self._kind() == 0o010000
  |     def is_socket(self): return self._kind() == 0o140000
  |     def expanduser(self):
  |         if not self._root and self._parts and self._parts[0][:1] == '~':
  |             home = os.path.expanduser(self._parts[0])
  |             if home[:1] == '~': raise RuntimeError('Could not determine home directory.')
  |             return self._from((home, *self._parts[1:]))
  |         return self
  | class PosixPath(Path, PurePosixPath): __slots__ = ()
  | class WindowsPath(Path, PureWindowsPath):
  |     def __new__(cls, *args): raise NotImplementedError('cannot instantiate %r on your system' % (cls.__name__,))"# }

/-- the module for files that do not stay -/
def passingLibrary : Library :=
  { name := "tempfile"
    source := r#"
  | import os, io, shutil
  | __all__ = ['NamedTemporaryFile', 'TemporaryFile', 'SpooledTemporaryFile', 'TemporaryDirectory', 'mkstemp', 'mkdtemp', 'mktemp',
  |     'TMP_MAX', 'gettempprefix', 'tempdir', 'gettempdir', 'gettempprefixb', 'gettempdirb']
  | TMP_MAX, template, tempdir = 10000, 'tmp', None
  | _seed = [48271]
  | def _name():
  |     letters = 'abcdefghijklmnopqrstuvwxyz0123456789_'
  |     out = []
  |     for _ in range(8):
  |         _seed[0] = _seed[0] * 48271 % 2147483647
  |         out.append(letters[_seed[0] % 37])
  |     return ''.join(out)
  | def gettempdir():
  |     global tempdir
  |     if tempdir is None:
  |         found = [os.environ[n] for n in ('TMPDIR', 'TEMP', 'TMP') if os.environ.get(n)] + ['/tmp', '/var/tmp', '/usr/tmp', os.getcwd()]
  |         tempdir = os.path.abspath(next((d for d in found if os.path.isdir(d)), os.getcwd()))
  |     return tempdir
  | def gettempdirb(): return os.fsencode(gettempdir())
  | def gettempprefix(): return template
  | def gettempprefixb(): return template.encode()
  | def mktemp(suffix='', prefix=template, dir=None):
  |     while True:
  |         path = os.path.join(gettempdir() if dir is None else dir, prefix + _name() + suffix)
  |         if not os.path.lexists(path): return os.path.abspath(path)
  | def mkstemp(suffix=None, prefix=None, dir=None, text=False):
  |     path = mktemp(suffix or '', template if prefix is None else prefix, dir)
  |     return os.open(path, os.O_RDWR | os.O_CREAT | os.O_EXCL, 0o600), path
  | def mkdtemp(suffix=None, prefix=None, dir=None):
  |     path = mktemp(suffix or '', template if prefix is None else prefix, dir)
  |     os.mkdir(path, 0o700)
  |     return path
  | class _TemporaryFileWrapper:
  |     def __init__(self, file, name, delete): self.file, self.name, self.delete = file, name, delete
  |     def __getattr__(self, name): return getattr(self.__dict__['file'], name)
  |     def __enter__(self): return self
  |     def __exit__(self, *exc): self.close()
  |     def __iter__(self): return iter(self.file)
  |     def close(self):
  |         if not self.file.closed:
  |             self.file.close()
  |             if self.delete: os.unlink(self.name)
  | def NamedTemporaryFile(mode='w+b', buffering=-1, encoding=None, newline=None, suffix=None, prefix=None, dir=None, delete=True, *,
  |         errors=None):
  |     path = mktemp(suffix or '', template if prefix is None else prefix, dir)
  |     file = open(path, mode.replace('r', 'w') if 'r' in mode else mode, buffering, encoding, errors, newline)
  |     os.chmod(path, 0o600)
  |     return _TemporaryFileWrapper(file, path, delete)
  | def TemporaryFile(mode='w+b', buffering=-1, encoding=None, newline=None, suffix=None, prefix=None, dir=None, *, errors=None):
  |     path = mktemp(suffix or '', template if prefix is None else prefix, dir)
  |     return _TemporaryFileWrapper(open(path, mode, buffering, encoding, errors, newline), path, True)
  | class SpooledTemporaryFile:
  |     def __init__(self, max_size=0, mode='w+b', *args, **kwargs): self._file = io.BytesIO() if 'b' in mode else io.StringIO()
  |     def __getattr__(self, name): return getattr(self.__dict__['_file'], name)
  |     def __enter__(self): return self
  |     def __exit__(self, *exc): self._file.close()
  |     def __iter__(self): return iter(self._file)
  | class TemporaryDirectory:
  |     def __init__(self, suffix=None, prefix=None, dir=None, ignore_cleanup_errors=False):
  |         import atexit
  |         self.name = mkdtemp(suffix, prefix, dir)
  |         self._gone = False
  |         atexit.register(self.cleanup)
  |     def __repr__(self): return '<{} {!r}>'.format(self.__class__.__name__, self.name)
  |     def __enter__(self): return self.name
  |     def __exit__(self, exc, value, tb): self.cleanup()
  |     def cleanup(self):
  |         if not self._gone:
  |             self._gone = True
  |             shutil.rmtree(self.name, ignore_errors=True)"# }

/-- the module for files that are the same -/
def comparisonsLibrary : Library :=
  { name := "filecmp"
    source := r#"
  | import os, stat
  | from itertools import filterfalse
  | DEFAULT_IGNORES = ['RCS', 'CVS', 'tags', '.git', '.hg', '.bzr', '_darcs', '__pycache__']
  | def clear_cache(): pass
  | def cmp(f1, f2, shallow=True):
  |     s1, s2 = os.stat(f1), os.stat(f2)
  |     if not stat.S_ISREG(s1.st_mode) or not stat.S_ISREG(s2.st_mode) or s1.st_size != s2.st_size: return False
  |     with open(f1, 'rb') as a, open(f2, 'rb') as b: return a.read() == b.read()
  | def cmpfiles(a, b, common, shallow=True):
  |     res = ([], [], [])
  |     for x in common:
  |         try: k = 0 if cmp(os.path.join(a, x), os.path.join(b, x), shallow) else 1
  |         except OSError: k = 2
  |         res[k].append(x)
  |     return res
  | class dircmp:
  |     def __init__(self, a, b, ignore=None, hide=None):
  |         self.left, self.right = a, b
  |         skip = set(DEFAULT_IGNORES if ignore is None else ignore) | set([os.curdir, os.pardir] if hide is None else hide)
  |         self.left_list, self.right_list = sorted(set(os.listdir(a)) - skip), sorted(set(os.listdir(b)) - skip)
  |         self.common = [x for x in self.left_list if x in self.right_list]
  |         self.left_only = [x for x in self.left_list if x not in self.right_list]
  |         self.right_only = [x for x in self.right_list if x not in self.left_list]
  |         self.common_dirs, self.common_files, self.common_funny = [], [], []
  |         for x in self.common:
  |             p, q = os.path.join(a, x), os.path.join(b, x)
  |             kinds = [(os.path.isdir(y), os.path.isfile(y)) for y in (p, q)]
  |             (self.common_funny if kinds[0] != kinds[1] else self.common_dirs if kinds[0][0] else self.common_files if kinds[0][1] else
  |                 self.common_funny).append(x)
  |         self.same_files, self.diff_files, self.funny_files = cmpfiles(a, b, self.common_files)
  |         self.subdirs = {x: dircmp(os.path.join(a, x), os.path.join(b, x), ignore, hide) for x in self.common_dirs}
  |     def report(self):
  |         print('diff', self.left, self.right)
  |         for text, names in (('Only in ' + str(self.left), self.left_only), ('Only in ' + str(self.right), self.right_only),
  |                 ('Identical files', self.same_files), ('Differing files', self.diff_files), ('Trouble with common files', self.funny_files),
  |                 ('Common subdirectories', self.common_dirs), ('Common funny cases', self.common_funny)):
  |             if names: print(text, ':', sorted(names))
  |     def report_full_closure(self):
  |         self.report()
  |         for s in self.subdirs.values():
  |             print()
  |             s.report_full_closure()"# }

/-- the module for the lines of several files -/
def rowsOfFilesLibrary : Library :=
  { name := "fileinput"
    file := "/usr/lib/python3.11/fileinput.py"
    source := r#"
  | import os, sys
  | _state = None
  | class FileInput:
  |     def __init__(self, files=None, inplace=False, backup='', *, mode='r', openhook=None, encoding=None, errors=None):
  |         if files is None: files = sys.argv[1:]
  |         if isinstance(files, (str, os.PathLike)): files = (files,)
  |         self._files, self._inplace, self._backup, self._mode = list(files) or ['-'], inplace, backup, mode
  |         self._openhook, self._encoding, self._errors = openhook, encoding, errors
  |         self._file = self._filename = self._out = self._saved = None
  |         self._total, self._line, self._stdin = 0, 0, False
  |     def __enter__(self): return self
  |     def __exit__(self, *exc): self.close()
  |     def close(self):
  |         self.nextfile()
  |         self._files = []
  |     def nextfile(self):
  |         if self._out is not None:
  |             sys.stdout, out = self._saved, self._out
  |             out.close()
  |             self._out = None
  |         if self._file is not None and not self._stdin: self._file.close()
  |         self._file = None
  |     def _next(self):
  |         self._filename = self._files.pop(0)
  |         self._line, self._stdin = 0, self._filename == '-'
  |         if self._stdin: self._file = sys.stdin.buffer if 'b' in self._mode else sys.stdin
  |         elif self._inplace:
  |             with open(self._filename, encoding=self._encoding) as f: text = f.read()
  |             if self._backup:
  |                 with open(self._filename + self._backup, 'w') as f: f.write(text)
  |             import io
  |             self._file = io.StringIO(text)
  |             self._out, self._saved = open(self._filename, 'w', encoding=self._encoding), sys.stdout
  |             sys.stdout = self._out
  |         elif self._openhook: self._file = self._openhook(self._filename, self._mode)
  |         else: self._file = open(self._filename, self._mode, encoding=self._encoding, errors=self._errors)  #@347
  |     def __iter__(self): return self
  |     def __next__(self):
  |         line = self.readline()
  |         if not line: raise StopIteration
  |         return line
  |     def readline(self):
  |         while True:
  |             if self._file is None:
  |                 if not self._files:
  |                     self.nextfile()
  |                     return ''
  |                 self._next()
  |             line = self._file.readline()
  |             if line:
  |                 self._total += 1
  |                 self._line += 1
  |                 return line
  |             self.nextfile()
  |     def filename(self): return '<stdin>' if self._stdin else self._filename
  |     def lineno(self): return self._total
  |     def filelineno(self): return self._line
  |     def isfirstline(self): return self._line == 1
  |     def isstdin(self): return self._stdin
  |     def fileno(self): return self._file.fileno() if self._file else -1
  | def input(files=None, inplace=False, backup='', *, mode='r', openhook=None, encoding=None, errors=None):
  |     global _state
  |     if _state is not None and _state._file: raise RuntimeError('input() already active')
  |     _state = FileInput(files, inplace, backup, mode=mode, openhook=openhook, encoding=encoding, errors=errors)
  |     return _state
  | def _active():
  |     if _state is None: raise RuntimeError('no active input()')
  |     return _state
  | def close():
  |     global _state
  |     state, _state = _state, None
  |     if state: state.close()
  | def nextfile(): return _active().nextfile()
  | def filename(): return _active().filename()
  | def lineno(): return _active().lineno()
  | def filelineno(): return _active().filelineno()
  | def isfirstline(): return _active().isfirstline()
  | def isstdin(): return _active().isstdin()
  | def fileno(): return _active().fileno()
  | def hook_encoded(encoding, errors=None): return lambda filename, mode: open(filename, mode, encoding=encoding, errors=errors)"# }

/-- modules for what surrounds a script: directories, paths, the environment and other programs -/
def directoriesLibraries : List Library :=
  [systemLibrary, systemPathsLibrary, pathsLibrary, anyPathsLibrary, modesLibrary, refusalsLibrary,
   nameShapesLibrary, pathShapesLibrary, treeWorkLibrary, pathValuesLibrary, passingLibrary, comparisonsLibrary,
   rowsOfFilesLibrary]

end IncludeAudit.Offside
