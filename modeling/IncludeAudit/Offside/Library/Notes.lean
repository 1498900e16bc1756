/-
Modules for notes that a script takes of its work, and for values that are not held.

- `notesLibraries`: the modules.
-/
import IncludeAudit.Offside.Library.Basic

namespace IncludeAudit.Offside

/-- the module for notes of the work -/
def notesLibrary : Library :=
  { name := "logging"
    file := "/usr/lib/python3.11/logging/__init__.py"
    source := r#"
  | import sys, os, time, io, re, traceback, warnings, threading, atexit, weakref
  | from string import Template
  | CRITICAL, FATAL, ERROR, WARNING, WARN, INFO, DEBUG, NOTSET = 50, 50, 40, 30, 30, 20, 10, 0
  | _levelToName = {50: 'CRITICAL', 40: 'ERROR', 30: 'WARNING', 20: 'INFO', 10: 'DEBUG', 0: 'NOTSET'}
  | _nameToLevel = {'CRITICAL': 50, 'FATAL': 50, 'ERROR': 40, 'WARN': 30, 'WARNING': 30, 'INFO': 20, 'DEBUG': 10, 'NOTSET': 0}
  | raiseExceptions, lastResort = True, None
  | logThreads = logMultiprocessing = logProcesses = logAsyncioTasks = True
  | _startTime = time.time()
  | def getLevelNamesMapping(): return _nameToLevel.copy()
  | def getLevelName(level): return _levelToName.get(level, _nameToLevel.get(level, f'Level {level}') if isinstance(level, str) else f'Level {level}')
  | def addLevelName(level, levelName): _levelToName[level], _nameToLevel[levelName] = levelName, level
  | def _checkLevel(level):
  |     if isinstance(level, int): return level
  |     if str(level) == level:
  |         if level not in _nameToLevel:
  |             raise ValueError('Unknown level: %r' % (level,))  #@207
  |         return _nameToLevel[level]
  |     raise TypeError('Level not an integer or a valid string: %r' % (level,))
  | class LogRecord:
  |     def __init__(self, name, level, pathname, lineno, msg, args, exc_info, func=None, sinfo=None, **kwargs):
  |         ct = time.time()
  |         if args and len(args) == 1 and isinstance(args[0], dict) and args[0]: args = args[0]
  |         self.name, self.msg, self.args = name, msg, args
  |         self.levelname, self.levelno, self.pathname = getLevelName(level), level, pathname
  |         self.filename = os.path.basename(pathname)
  |         self.module = os.path.splitext(self.filename)[0]
  |         self.exc_info, self.exc_text, self.stack_info, self.lineno, self.funcName = exc_info, None, sinfo, lineno, func
  |         self.created, self.msecs, self.relativeCreated = ct, int((ct - int(ct)) * 1000) + 0.0, (ct - _startTime) * 1000
  |         thread = threading.current_thread()
  |         self.thread, self.threadName = thread.ident, thread.name
  |         self.processName, self.process, self.taskName = 'MainProcess', os.getpid(), None
  |     def __repr__(self): return '<LogRecord: %s, %s, %s, %s, "%s">' % (self.name, self.levelno, self.pathname, self.lineno, self.msg)
  |     def getMessage(self):
  |         msg = str(self.msg)
  |         if self.args:
  |             msg = msg % self.args  #@377
  |         return msg
  | _logRecordFactory = LogRecord
  | def setLogRecordFactory(factory):
  |     global _logRecordFactory
  |     _logRecordFactory = factory
  | def getLogRecordFactory(): return _logRecordFactory
  | def makeLogRecord(dict):
  |     rv = _logRecordFactory(None, None, '', 0, '', (), None, None)
  |     rv.__dict__.update(dict)
  |     return rv
  | class PercentStyle:
  |     default_format, asctime_format, asctime_search = '%(message)s', '%(asctime)s', '%(asctime)'
  |     pattern = re.compile(r'%\(\w+\)[#0+ -]*(\*|\d+)?(\.(\*|\d+))?[diouxefgcrsa%]', re.I)
  |     def __init__(self, fmt, *, defaults=None): self._fmt, self._defaults = fmt or self.default_format, defaults
  |     def usesTime(self): return self._fmt.find(self.asctime_search) >= 0
  |     def validate(self):
  |         if not self.pattern.search(self._fmt):
  |             raise ValueError("Invalid format '%s' for '%s' style" % (self._fmt, self.default_format[0]))
  |     def _values(self, record): return {**(self._defaults or {}), **record.__dict__}
  |     def _format(self, record): return self._fmt % self._values(record)
  |     def format(self, record):
  |         try: return self._format(record)
  |         except KeyError as e: raise ValueError('Formatting field not found in record: %s' % e)
  | class StrFormatStyle(PercentStyle):
  |     default_format, asctime_format, asctime_search = '{message}', '{asctime}', '{asctime'
  |     def validate(self):
  |         if '{' not in self._fmt: raise ValueError('invalid format: no fields')
  |     def _format(self, record): return self._fmt.format(**self._values(record))
  | class StringTemplateStyle(PercentStyle):
  |     default_format, asctime_format, asctime_search = '${message}', '${asctime}', '${asctime}'
  |     def usesTime(self): return '$asctime' in self._fmt or '${asctime}' in self._fmt
  |     def validate(self):
  |         if '$' not in self._fmt: raise ValueError('invalid format: no fields')
  |     def _format(self, record): return Template(self._fmt).substitute(**self._values(record))
  | BASIC_FORMAT = '%(levelname)s:%(name)s:%(message)s'
  | _STYLES = {'%': (PercentStyle, BASIC_FORMAT), '{': (StrFormatStyle, '{levelname}:{name}:{message}'),
  |     '$': (StringTemplateStyle, '${levelname}:${name}:${message}')}
  | class Formatter:
  |     converter = time.localtime
  |     default_time_format, default_msec_format = '%Y-%m-%d %H:%M:%S', '%s,%03d'
  |     def __init__(self, fmt=None, datefmt=None, style='%', validate=True, *, defaults=None):
  |         if style not in _STYLES: raise ValueError('Style must be one of: %s' % ','.join(_STYLES.keys()))
  |         self._style = _STYLES[style][0](fmt, defaults=defaults)
  |         if validate: self._style.validate()
  |         self._fmt, self.datefmt = self._style._fmt, datefmt
  |     def formatTime(self, record, datefmt=None):
  |         ct = time.localtime(record.created)
  |         if datefmt: return time.strftime(datefmt, ct)
  |         s = time.strftime(self.default_time_format, ct)
  |         return self.default_msec_format % (s, record.msecs) if self.default_msec_format else s
  |     def formatException(self, ei):
  |         sio = io.StringIO()
  |         traceback.print_exception(ei[0], ei[1], ei[2], None, sio)
  |         s = sio.getvalue()
  |         return s[:-1] if s[-1:] == '\n' else s
  |     def usesTime(self): return self._style.usesTime()
  |     def formatMessage(self, record): return self._style.format(record)
  |     def formatStack(self, stack_info): return stack_info
  |     def format(self, record):
  |         record.message = record.getMessage()  #@687
  |         if self.usesTime(): record.asctime = self.formatTime(record, self.datefmt)
  |         s = self.formatMessage(record)  #@690
  |         if record.exc_info and not record.exc_text: record.exc_text = self.formatException(record.exc_info)
  |         if record.exc_text: s += ('' if s[-1:] == '\n' else '\n') + record.exc_text
  |         if record.stack_info: s += ('' if s[-1:] == '\n' else '\n') + self.formatStack(record.stack_info)
  |         return s
  | _defaultFormatter = Formatter()
  | class BufferingFormatter:
  |     def __init__(self, linefmt=None): self.linefmt = linefmt or _defaultFormatter
  |     def formatHeader(self, records): return ''
  |     def formatFooter(self, records): return ''
  |     def format(self, records):
  |         if not records: return ''
  |         return self.formatHeader(records) + ''.join(self.linefmt.format(r) for r in records) + self.formatFooter(records)
  | class Filter:
  |     def __init__(self, name=''): self.name = name
  |     def filter(self, record): return not self.name or record.name == self.name or record.name.startswith(self.name + '.')
  | class Filterer:
  |     def __init__(self): self.filters = []
  |     def addFilter(self, filter):
  |         if filter not in self.filters: self.filters.append(filter)
  |     def removeFilter(self, filter):
  |         if filter in self.filters: self.filters.remove(filter)
  |     def filter(self, record):
  |         for f in self.filters:
  |             if not (f.filter(record) if hasattr(f, 'filter') else f(record)): return False
  |         return True
  | _handlers, _handlerList = {}, []
  | class Handler(Filterer):
  |     def __init__(self, level=NOTSET):
  |         Filterer.__init__(self)
  |         self._name, self.level, self.formatter, self._closed = None, _checkLevel(level), None, False
  |         _handlerList.append(self)
  |         self.createLock()
  |     name = property(lambda self: self._name, lambda self, v: self.set_name(v))
  |     def get_name(self): return self._name
  |     def set_name(self, name):
  |         if self._name in _handlers: del _handlers[self._name]
  |         self._name = name
  |         if name: _handlers[name] = self
  |     def createLock(self): self.lock = threading.RLock()
  |     def acquire(self): self.lock.acquire()
  |     def release(self): self.lock.release()
  |     def setLevel(self, level): self.level = _checkLevel(level)
  |     def format(self, record):
  |         fmt = self.formatter if self.formatter else _defaultFormatter
  |         return fmt.format(record)  #@953
  |     def emit(self, record): raise NotImplementedError('emit must be implemented by Handler subclasses')
  |     def handle(self, record):
  |         rv = self.filter(record)
  |         if rv: self.emit(record)
  |         return rv
  |     def setFormatter(self, fmt): self.formatter = fmt
  |     def flush(self): pass
  |     def close(self):
  |         self._closed = True
  |         if self._name in _handlers: del _handlers[self._name]
  |     def handleError(self, record):
  |         if not raiseExceptions or not sys.stderr: return
  |         t, v, tb = sys.exc_info()
  |         sys.stderr.write('--- Logging error ---\n')
  |         traceback.print_exception(t, v, tb, None, sys.stderr)
  |         sys.stderr.write('Call stack:\n')
  |         frame = sys._getframe(1)
  |         while frame is not None and frame.f_code.co_filename == __file__: frame = frame.f_back
  |         if frame: traceback.print_stack(frame, file=sys.stderr)
  |         try: sys.stderr.write('Message: %r\nArguments: %s\n' % (record.msg, record.args))
  |         except Exception:
  |             sys.stderr.write('Unable to print the message and arguments - possible formatting error.\n'
  |                 'Use the traceback above to help find the error.\n')
  |     def __repr__(self): return '<%s (%s)>' % (self.__class__.__name__, getLevelName(self.level))
  | class StreamHandler(Handler):
  |     terminator = '\n'
  |     def __init__(self, stream=None):
  |         Handler.__init__(self)
  |         self.stream = sys.stderr if stream is None else stream
  |     def flush(self):
  |         if self.stream and hasattr(self.stream, 'flush'): self.stream.flush()
  |     def emit(self, record):
  |         try:
  |             msg = self.format(record)  #@1110
  |             stream = self.stream
  |             stream.write(msg + self.terminator)  #@1113
  |             self.flush()
  |         except RecursionError: raise
  |         except Exception: self.handleError(record)
  |     def setStream(self, stream):
  |         if stream is self.stream: return None
  |         result = self.stream
  |         self.flush()
  |         self.stream = stream
  |         return result
  |     def __repr__(self):
  |         name = str(getattr(self.stream, 'name', ''))
  |         return '<%s %s(%s)>' % (self.__class__.__name__, name + ' ' if name else '', getLevelName(self.level))
  | class FileHandler(StreamHandler):
  |     def __init__(self, filename, mode='a', encoding=None, delay=False, errors=None):
  |         filename = os.fspath(filename)
  |         self.baseFilename, self.mode, self.encoding, self.delay, self.errors = os.path.abspath(filename), mode, encoding, delay, errors
  |         if delay:
  |             Handler.__init__(self)
  |             self.stream = None
  |         else:
  |             StreamHandler.__init__(self, self._open())  #@1181
  |     def _open(self):
  |         return open(self.baseFilename, self.mode,  #@1213
  |             encoding=self.encoding, errors=self.errors)
  |     def close(self):
  |         if self.stream:
  |             self.flush()
  |             self.stream.close()
  |             self.stream = None
  |         StreamHandler.close(self)
  |     def emit(self, record):
  |         if self.stream is None and not self._closed: self.stream = self._open()
  |         if self.stream: StreamHandler.emit(self, record)
  |     def __repr__(self): return '<%s %s (%s)>' % (self.__class__.__name__, self.baseFilename, getLevelName(self.level))
  | class NullHandler(Handler):
  |     def handle(self, record): pass
  |     def emit(self, record): pass
  |     def createLock(self): self.lock = None
  | class _StderrHandler(StreamHandler):
  |     def __init__(self, level=NOTSET): Handler.__init__(self, level)
  |     stream = property(lambda self: sys.stderr)
  | lastResort = _StderrHandler(WARNING)
  | class PlaceHolder:
  |     def __init__(self, alogger): self.loggerMap = {alogger: None}
  | class Manager:
  |     def __init__(self, rootnode):
  |         self.root, self.disable, self.emittedNoHandlerWarning, self.loggerDict, self.loggerClass = rootnode, 0, False, {}, None
  |         self.logRecordFactory = None
  |     def getLogger(self, name):
  |         if not isinstance(name, str): raise TypeError('A logger name must be a string')
  |         found = self.loggerDict.get(name)
  |         if isinstance(found, Logger): return found
  |         logger = (self.loggerClass or _loggerClass)(name)
  |         logger.manager = self
  |         self.loggerDict[name] = logger
  |         logger.parent, parts = self.root, name.split('.')
  |         for i in range(len(parts) - 1, 0, -1):
  |             above = self.loggerDict.get('.'.join(parts[:i]))
  |             if isinstance(above, Logger):
  |                 logger.parent = above
  |                 break
  |         for other, l in self.loggerDict.items():
  |             if isinstance(l, Logger) and other.startswith(name + '.') and len(l.parent.name if l.parent is not self.root else '') < len(name):
  |                 l.parent = logger
  |         return logger
  |     def setLoggerClass(self, klass): self.loggerClass = klass
  | class Logger(Filterer):
  |     def __init__(self, name, level=NOTSET):
  |         Filterer.__init__(self)
  |         self.name, self.level, self.parent, self.propagate, self.handlers, self.disabled = name, _checkLevel(level), None, True, [], False
  |     def setLevel(self, level):
  |         self.level = _checkLevel(level)  #@1499
  |     def debug(self, msg, *args, **kwargs):
  |         if self.isEnabledFor(DEBUG):
  |             self._log(DEBUG, msg, args, **kwargs)  #@1477
  |     def info(self, msg, *args, **kwargs):
  |         if self.isEnabledFor(INFO):
  |             self._log(INFO, msg, args, **kwargs)  #@1489
  |     def warning(self, msg, *args, **kwargs):
  |         if self.isEnabledFor(WARNING):
  |             self._log(WARNING, msg, args, **kwargs)  #@1501
  |     def warn(self, msg, *args, **kwargs):
  |         warnings.warn("The 'warn' method is deprecated, use 'warning' instead", DeprecationWarning, 2)
  |         self.warning(msg, *args, **kwargs)
  |     def error(self, msg, *args, **kwargs):
  |         if self.isEnabledFor(ERROR):
  |             self._log(ERROR, msg, args, **kwargs)  #@1518
  |     def exception(self, msg, *args, exc_info=True, **kwargs):
  |         self.error(msg, *args, exc_info=exc_info, **kwargs)  #@1524
  |     def critical(self, msg, *args, **kwargs):
  |         if self.isEnabledFor(CRITICAL):
  |             self._log(CRITICAL, msg, args, **kwargs)  #@1536
  |     def fatal(self, msg, *args, **kwargs): self.critical(msg, *args, **kwargs)
  |     def log(self, level, msg, *args, **kwargs):
  |         if not isinstance(level, int):
  |             if raiseExceptions: raise TypeError('level must be an integer')
  |             return
  |         if self.isEnabledFor(level): self._log(level, msg, args, **kwargs)
  |     def findCaller(self, stack_info=False, stacklevel=1):
  |         f = sys._getframe(1)
  |         while f is not None and f.f_code.co_filename == __file__: f = f.f_back
  |         while stacklevel > 1 and f is not None and f.f_back is not None: f, stacklevel = f.f_back, stacklevel - 1
  |         if f is None: return '(unknown file)', 0, '(unknown function)', None
  |         sinfo = None
  |         if stack_info: sinfo = 'Stack (most recent call last):\n' + ''.join(traceback.format_stack(f))[:-1]
  |         return f.f_code.co_filename, f.f_lineno, f.f_code.co_name, sinfo
  |     def makeRecord(self, name, level, fn, lno, msg, args, exc_info, func=None, extra=None, sinfo=None):
  |         rv = _logRecordFactory(name, level, fn, lno, msg, args, exc_info, func, sinfo)
  |         if extra is not None:
  |             for key in extra:
  |                 if key in ['message', 'asctime'] or key in rv.__dict__:
  |                     raise KeyError('Attempt to overwrite %r in LogRecord' % key)  #@1606
  |                 rv.__dict__[key] = extra[key]
  |         return rv
  |     def _log(self, level, msg, args, exc_info=None, extra=None, stack_info=False, stacklevel=1):
  |         fn, lno, func, sinfo = self.findCaller(stack_info, stacklevel)
  |         if exc_info:
  |             if isinstance(exc_info, BaseException): exc_info = (type(exc_info), exc_info, exc_info.__traceback__)
  |             elif not isinstance(exc_info, tuple): exc_info = sys.exc_info()
  |         record = self.makeRecord(self.name, level, fn, lno, msg, args, exc_info, func, extra, sinfo)  #@1632
  |         self.handle(record)
  |     def handle(self, record):
  |         if not self.disabled and self.filter(record): self.callHandlers(record)
  |     def addHandler(self, hdlr):
  |         if hdlr not in self.handlers: self.handlers.append(hdlr)
  |     def removeHandler(self, hdlr):
  |         if hdlr in self.handlers: self.handlers.remove(hdlr)
  |     def hasHandlers(self):
  |         c = self
  |         while c:
  |             if c.handlers: return True
  |             c = c.parent if c.propagate else None
  |         return False
  |     def callHandlers(self, record):
  |         c, found = self, 0
  |         while c:
  |             for hdlr in c.handlers:
  |                 found += 1
  |                 if record.levelno >= hdlr.level: hdlr.handle(record)
  |             c = c.parent if c.propagate else None
  |         if found == 0 and lastResort and record.levelno >= lastResort.level: lastResort.handle(record)
  |     def getEffectiveLevel(self):
  |         logger = self
  |         while logger:
  |             if logger.level: return logger.level
  |             logger = logger.parent
  |         return NOTSET
  |     def isEnabledFor(self, level): return not self.disabled and level > self.manager.disable and level >= self.getEffectiveLevel()
  |     def getChild(self, suffix): return self.manager.getLogger(suffix if self.root is self else '.'.join((self.name, suffix)))
  |     def __repr__(self): return '<%s %s (%s)>' % (self.__class__.__name__, self.name, getLevelName(self.getEffectiveLevel()))
  | class RootLogger(Logger):
  |     def __init__(self, level): Logger.__init__(self, 'root', level)
  | _loggerClass = Logger
  | def setLoggerClass(klass):
  |     global _loggerClass
  |     if klass != Logger and not issubclass(klass, Logger): raise TypeError('logger not derived from logging.Logger: ' + klass.__name__)
  |     _loggerClass = klass
  | def getLoggerClass(): return _loggerClass
  | root = RootLogger(WARNING)
  | Logger.root = root
  | Logger.manager = Manager(root)
  | class LoggerAdapter:
  |     def __init__(self, logger, extra=None): self.logger, self.extra = logger, extra
  |     def process(self, msg, kwargs):
  |         kwargs['extra'] = self.extra
  |         return msg, kwargs
  |     def debug(self, msg, *args, **kwargs): self.log(DEBUG, msg, *args, **kwargs)
  |     def info(self, msg, *args, **kwargs): self.log(INFO, msg, *args, **kwargs)
  |     def warning(self, msg, *args, **kwargs): self.log(WARNING, msg, *args, **kwargs)
  |     def error(self, msg, *args, **kwargs): self.log(ERROR, msg, *args, **kwargs)
  |     def exception(self, msg, *args, exc_info=True, **kwargs): self.log(ERROR, msg, *args, exc_info=exc_info, **kwargs)
  |     def critical(self, msg, *args, **kwargs): self.log(CRITICAL, msg, *args, **kwargs)
  |     def log(self, level, msg, *args, **kwargs):
  |         if self.isEnabledFor(level):
  |             msg, kwargs = self.process(msg, kwargs)
  |             self.logger.log(level, msg, *args, **kwargs)
  |     def isEnabledFor(self, level): return self.logger.isEnabledFor(level)
  |     def setLevel(self, level): self.logger.setLevel(level)
  |     def getEffectiveLevel(self): return self.logger.getEffectiveLevel()
  |     def hasHandlers(self): return self.logger.hasHandlers()
  |     name, manager = property(lambda self: self.logger.name), property(lambda self: self.logger.manager)
  |     def __repr__(self):
  |         return '<%s %s (%s)>' % (self.__class__.__name__, self.logger.name, getLevelName(self.logger.getEffectiveLevel()))
  | def basicConfig(**kwargs):
  |     force, encoding, errors = kwargs.pop('force', False), kwargs.pop('encoding', None), kwargs.pop('errors', 'backslashreplace')
  |     if force:
  |         for h in root.handlers[:]:
  |             root.removeHandler(h)
  |             h.close()
  |     if root.handlers: return
  |     handlers = kwargs.pop('handlers', None)
  |     if handlers is None:
  |         if 'stream' in kwargs and 'filename' in kwargs:
  |             raise ValueError("'stream' and 'filename' should not be specified together")
  |     elif 'stream' in kwargs or 'filename' in kwargs:
  |         raise ValueError("'stream' or 'filename' should not be specified together with 'handlers'")
  |     if handlers is None:
  |         filename, mode = kwargs.pop('filename', None), kwargs.pop('filemode', 'a')
  |         if filename: h = FileHandler(filename, mode, encoding=encoding, errors=errors)
  |         else: h = StreamHandler(kwargs.pop('stream', None))
  |         handlers = [h]
  |     dfs, style = kwargs.pop('datefmt', None), kwargs.pop('style', '%')
  |     if style not in _STYLES: raise ValueError('Style must be one of: %s' % ','.join(_STYLES.keys()))
  |     fmt = Formatter(kwargs.pop('format', _STYLES[style][1]), dfs, style)
  |     for h in handlers:
  |         if h.formatter is None: h.setFormatter(fmt)
  |         root.addHandler(h)
  |     level = kwargs.pop('level', None)
  |     if level is not None: root.setLevel(level)
  |     if kwargs: raise ValueError('Unrecognised argument(s): %s' % ', '.join(kwargs.keys()))
  | def getLogger(name=None): return root if not name or isinstance(name, str) and name == root.name else Logger.manager.getLogger(name)
  | def _ready():
  |     if len(root.handlers) == 0: basicConfig()
  | def critical(msg, *args, **kwargs):
  |     _ready()
  |     root.critical(msg, *args, **kwargs)
  | def fatal(msg, *args, **kwargs): critical(msg, *args, **kwargs)
  | def error(msg, *args, **kwargs):
  |     _ready()
  |     root.error(msg, *args, **kwargs)
  | def exception(msg, *args, exc_info=True, **kwargs): error(msg, *args, exc_info=exc_info, **kwargs)
  | def warning(msg, *args, **kwargs):
  |     _ready()
  |     root.warning(msg, *args, **kwargs)
  | def warn(msg, *args, **kwargs):
  |     warnings.warn("The 'warn' function is deprecated, use 'warning' instead", DeprecationWarning, 2)
  |     warning(msg, *args, **kwargs)
  | def info(msg, *args, **kwargs):
  |     _ready()
  |     root.info(msg, *args, **kwargs)
  | def debug(msg, *args, **kwargs):
  |     _ready()
  |     root.debug(msg, *args, **kwargs)
  | def log(level, msg, *args, **kwargs):
  |     _ready()
  |     root.log(level, msg, *args, **kwargs)
  | def disable(level=CRITICAL): root.manager.disable = _checkLevel(level)
  | def shutdown(handlerList=_handlerList):
  |     for h in reversed(handlerList[:]):
  |         try:
  |             h.flush()
  |             h.close()
  |         except (OSError, ValueError): pass
  | atexit.register(shutdown)
  | def getHandlerByName(name): return _handlers.get(name)
  | _shown = None
  | def captureWarnings(capture):
  |     global _shown
  |     if capture and _shown is None:
  |         _shown = warnings.showwarning
  |         def show(message, category, filename, lineno, file=None, line=None):
  |             logger = getLogger('py.warnings')
  |             if not logger.handlers: logger.addHandler(NullHandler())
  |             logger.warning(str(warnings.formatwarning(message, category, filename, lineno, line)))
  |         warnings.showwarning = show
  |     elif not capture and _shown is not None: warnings.showwarning, _shown = _shown, None"# }

/-- the module for values that are not held -/
def looseLibrary : Library :=
  { name := "weakref"
    source := r#"
  | class ReferenceType:
  |     def __init__(self, o, callback=None): self._o, self.__callback__ = o, callback
  |     def __call__(self): return self._o
  |     def __eq__(self, other): return self._o == other._o if isinstance(other, ReferenceType) else NotImplemented
  |     def __hash__(self): return hash(self._o)
  |     def __repr__(self): return f"<weakref at {id(self):#x}; to '{type(self._o).__name__}' at {id(self._o):#x}>"
  | ReferenceType.__name__ = ReferenceType.__qualname__ = 'ReferenceType'
  | def ref(o, callback=None):
  |     if o is None or isinstance(o, (int, str, float, bytes, tuple, list, dict)) and type(o).__module__ == 'builtins':
  |         raise TypeError(f"cannot create weak reference to '{type(o).__name__}' object")
  |     return ReferenceType(o, callback)
  | class _Proxy:
  |     def __init__(self, o): object.__setattr__(self, '_o', o)
  |     def __getattr__(self, name): return getattr(object.__getattribute__(self, '_o'), name)
  |     def __setattr__(self, name, value): setattr(self._o, name, value)
  |     def __call__(self, *args, **kw): return self._o(*args, **kw)
  |     def __repr__(self): return repr(self._o)
  |     def __str__(self): return str(self._o)
  | def proxy(o, callback=None): return _Proxy(o)
  | ProxyType = CallableProxyType = _Proxy
  | class WeakValueDictionary(dict):
  |     def __repr__(self): return f'<WeakValueDictionary at {id(self):#x}>'
  | class WeakKeyDictionary(dict):
  |     def __repr__(self): return f'<WeakKeyDictionary at {id(self):#x}>'
  | class WeakSet(set): pass
  | class WeakMethod(ReferenceType): pass
  | class finalize:
  |     def __init__(self, obj, func, /, *args, **kwargs):
  |         import atexit
  |         self._call, self.alive, self.atexit = (obj, func, args, kwargs), True, True
  |         atexit.register(self._last)
  |     def _last(self):
  |         if self.alive and self.atexit: self()
  |     def __call__(self, _=None):
  |         if self.alive:
  |             self.alive = False
  |             return self._call[1](*self._call[2], **self._call[3])
  |     def detach(self):
  |         if self.alive:
  |             self.alive = False
  |             return self._call
  |     def peek(self): return self._call if self.alive else None
  | def getweakrefcount(o): return 0
  | def getweakrefs(o): return []"# }

/-- modules for notes that a script takes of its work, and for values that are not held -/
def notesLibraries : List Library :=
  [notesLibrary, looseLibrary]

end IncludeAudit.Offside
