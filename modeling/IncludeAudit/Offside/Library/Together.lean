/-
Modules for work that goes on side by side.

- `togetherLibraries`: the modules.
-/
import IncludeAudit.Offside.Library.Basic

namespace IncludeAudit.Offside

/-- the module for failures of work side by side -/
def troublesLibrary : Library :=
  { name := "asyncio.exceptions"
    source := r#"
  | __all__ = ('BrokenBarrierError', 'CancelledError', 'InvalidStateError', 'TimeoutError', 'IncompleteReadError',
  |     'LimitOverrunError', 'SendfileNotAvailableError')
  | class CancelledError(BaseException): pass
  | TimeoutError = TimeoutError
  | class InvalidStateError(Exception): pass
  | class SendfileNotAvailableError(RuntimeError): pass
  | class IncompleteReadError(EOFError):
  |     def __init__(self, partial, expected):
  |         super().__init__(f'{len(partial)} bytes read on a total of {"undefined" if expected is None else repr(expected)} expected bytes')
  |         self.partial, self.expected = partial, expected
  | class LimitOverrunError(Exception):
  |     def __init__(self, message, consumed):
  |         super().__init__(message)
  |         self.consumed = consumed
  | class BrokenBarrierError(RuntimeError): pass"# }

/-- the module for the loop that work goes on in -/
def roundsLibrary : Library :=
  { name := "asyncio.base_events"
    file := "/usr/lib/python3.11/asyncio/base_events.py"
    source := r#"
  | import heapq, sys, time
  | from collections import deque
  | _running = None
  | class Handle:
  |     def __init__(self, callback, args, when=None):
  |         self._callback, self._args, self._when, self._cancelled = callback, args, when, False
  |     def cancel(self): self._cancelled = True
  |     def cancelled(self): return self._cancelled
  |     def when(self): return self._when
  | class BaseEventLoop:
  |     def __init__(self):
  |         self._ready, self._timers, self._count, self._closed, self._stopping, self._factory = deque(), [], 0, False, False, None
  |         self._debug, self._handler = False, None
  |     def __repr__(self):
  |         return f'<{self.__class__.__name__} running={self.is_running()} closed={self.is_closed()} debug={self._debug}>'
  |     def time(self): return time.monotonic()
  |     def is_running(self): return _running is self
  |     def is_closed(self): return self._closed
  |     def get_debug(self): return self._debug
  |     def set_debug(self, enabled): self._debug = enabled
  |     def _check_closed(self):
  |         if self._closed:
  |             raise RuntimeError('Event loop is closed')  #@519
  |     def call_soon(self, callback, *args, context=None):
  |         self._check_closed()  #@761
  |         handle = Handle(callback, args)
  |         self._ready.append(handle)
  |         return handle
  |     call_soon_threadsafe = call_soon
  |     def call_later(self, delay, callback, *args, context=None):
  |         if delay is None:
  |             raise TypeError('delay must not be None')
  |         return self.call_at(self.time() + delay, callback, *args)
  |     def call_at(self, when, callback, *args, context=None):
  |         self._check_closed()
  |         handle = Handle(callback, args, when)
  |         self._count += 1
  |         heapq.heappush(self._timers, (when, self._count, handle))
  |         return handle
  |     def create_future(self):
  |         from asyncio import Future
  |         return Future(loop=self)
  |     def create_task(self, coro, *, name=None, context=None):
  |         from asyncio import Task
  |         self._check_closed()
  |         if self._factory is not None: return self._factory(self, coro)
  |         return Task(coro, loop=self, name=name)
  |     def set_task_factory(self, factory): self._factory = factory
  |     def get_task_factory(self): return self._factory
  |     def run_in_executor(self, executor, func, *args):
  |         future = self.create_future()
  |         try: future.set_result(func(*args))
  |         except BaseException as e: future.set_exception(e)
  |         return future
  |     def set_default_executor(self, executor): pass
  |     def add_signal_handler(self, sig, callback, *args):
  |         import signal
  |         signal.signal(sig, lambda *_: self.call_soon(callback, *args))
  |     def remove_signal_handler(self, sig):
  |         import signal
  |         signal.signal(sig, signal.SIG_DFL)
  |     def set_exception_handler(self, handler): self._handler = handler
  |     def get_exception_handler(self): return self._handler
  |     def default_exception_handler(self, context):
  |         import traceback
  |         print(context.get('message') or 'Unhandled exception in event loop', file=sys.stderr)
  |         for key in sorted(context):
  |             if key not in ('message', 'exception'): print(f'{key}: {context[key]!r}', file=sys.stderr)
  |         e = context.get('exception')
  |         if e is not None: traceback.print_exception(type(e), e, e.__traceback__)
  |     def call_exception_handler(self, context):
  |         (self._handler or (lambda loop, context: self.default_exception_handler(context)))(self, context)
  |     def _run_once(self):
  |         while self._timers and self._timers[0][2]._cancelled: heapq.heappop(self._timers)
  |         if not self._ready and self._timers:
  |             wait = self._timers[0][0] - self.time()
  |             if wait > 0: time.sleep(wait)
  |         elif not self._ready: self._stopping = True
  |         now = self.time()
  |         while self._timers and self._timers[0][0] <= now:
  |             handle = heapq.heappop(self._timers)[2]
  |             if not handle._cancelled: self._ready.append(handle)
  |         for _ in range(len(self._ready)):
  |             handle = self._ready.popleft()
  |             if handle._cancelled: continue
  |             try: handle._callback(*handle._args)
  |             except (SystemExit, KeyboardInterrupt): raise
  |             except BaseException as e:
  |                 self.call_exception_handler({'message': f'Exception in callback {handle._callback!r}', 'exception': e})
  |     def run_forever(self):
  |         global _running
  |         self._check_closed()
  |         if self.is_running():
  |             raise RuntimeError('This event loop is already running')
  |         if _running is not None:
  |             raise RuntimeError('Cannot run the event loop while another loop is running')
  |         _running = self
  |         try:
  |             while True:
  |                 self._run_once()  #@607
  |                 if self._stopping: break
  |         finally:
  |             self._stopping = False
  |             _running = None
  |     def run_until_complete(self, future):
  |         import asyncio
  |         self._check_closed()
  |         if self.is_running():
  |             raise RuntimeError('This event loop is already running')
  |         future = asyncio.ensure_future(future, loop=self)
  |         def stop(f): self._stopping = True
  |         future.add_done_callback(stop)
  |         self.run_forever()  #@640
  |         future.remove_done_callback(stop)
  |         if not future.done():
  |             raise RuntimeError('Event loop stopped before Future completed.')  #@651
  |         return future.result()  #@653
  |     def stop(self): self._stopping = True
  |     def close(self):
  |         if self.is_running():
  |             raise RuntimeError('Cannot close a running event loop')
  |         self._closed = True
  |         self._ready.clear()
  |         self._timers.clear()
  |     async def shutdown_asyncgens(self): pass
  |     async def shutdown_default_executor(self): pass
  | class _UnixSelectorEventLoop(BaseEventLoop): pass"# }

/-- the module for loops around one piece of work -/
def runsLibrary : Library :=
  { name := "asyncio.runners"
    file := "/usr/lib/python3.11/asyncio/runners.py"
    source := r#"
  | import asyncio.base_events as _base
  | class Runner:
  |     def __init__(self, *, debug=None, loop_factory=None): self._debug, self._factory, self._loop = debug, loop_factory, None
  |     def __enter__(self):
  |         self.get_loop()
  |         return self
  |     def __exit__(self, exc_type, exc_val, exc_tb): self.close()
  |     def get_loop(self):
  |         if self._loop is None:
  |             import asyncio
  |             self._loop = self._factory() if self._factory else asyncio.new_event_loop()
  |             asyncio.set_event_loop(self._loop)
  |         return self._loop
  |     def close(self):
  |         import asyncio
  |         loop = self._loop
  |         if loop is None or loop.is_closed(): return
  |         left = [t for t in asyncio.all_tasks(loop) if not t.done()]
  |         for task in left: task.cancel()
  |         if left:
  |             loop.run_until_complete(asyncio.gather(*left, return_exceptions=True))
  |             for task in left:
  |                 if not task.cancelled() and task.exception() is not None:
  |                     loop.call_exception_handler({'message': 'unhandled exception during asyncio.run() shutdown',
  |                         'exception': task.exception(), 'task': task})
  |         asyncio.set_event_loop(None)
  |         loop.close()
  |     def run(self, coro, *, context=None):
  |         import asyncio
  |         if not asyncio.iscoroutine(coro):
  |             raise ValueError("a coroutine was expected, got {!r}".format(coro))  #@89
  |         if _base._running is not None:
  |             raise RuntimeError(  #@93
  |                 "Runner.run() cannot be called from a running event loop")
  |         task = self.get_loop().create_task(coro)
  |         return self._loop.run_until_complete(task)  #@118
  | def run(main, *, debug=None):
  |     if _base._running is not None:
  |         raise RuntimeError(  #@186
  |             "asyncio.run() cannot be called from a running event loop")
  |     with Runner(debug=debug) as runner:
  |         return runner.run(main)  #@190"# }

/-- the module for work that waits -/
def waitingLibrary : Library :=
  { name := "asyncio.tasks"
    file := "/usr/lib/python3.11/asyncio/tasks.py"
    source := r#"
  | from asyncio.exceptions import CancelledError
  | async def sleep(delay, result=None):
  |     import asyncio
  |     if delay <= 0:
  |         await _once()
  |         return result
  |     loop = asyncio.get_running_loop()
  |     future = loop.create_future()
  |     h = loop.call_later(delay, _give, future, result)
  |     try:
  |         return await future  #@649
  |     finally:
  |         h.cancel()
  | class _once:
  |     def __await__(self): yield
  | def _give(future, result):
  |     if not future.cancelled(): future.set_result(result)
  | async def wait_for(fut, timeout):
  |     import asyncio
  |     if timeout is None:
  |         return await fut  #@442
  |     fut = asyncio.ensure_future(fut)
  |     if timeout <= 0 and not fut.done():
  |         fut.cancel()
  |         try: await fut
  |         except CancelledError as exc:
  |             raise TimeoutError() from exc
  |     done, pending = await asyncio.wait([fut], timeout=timeout)
  |     if done:
  |         return fut.result()  #@479
  |     fut.cancel()
  |     await asyncio.wait([fut])
  |     try:
  |         return fut.result()  #@456
  |     except CancelledError as exc:
  |         raise TimeoutError() from exc  #@458"# }

/-- the module for work that may only last so long -/
def limitsLibrary : Library :=
  { name := "asyncio.timeouts"
    file := "/usr/lib/python3.11/asyncio/timeouts.py"
    source := r#"
  | from asyncio.exceptions import CancelledError
  | class Timeout:
  |     def __init__(self, when): self._when, self._task, self._handle, self._late, self._state = when, None, None, False, 'created'
  |     def when(self): return self._when
  |     def reschedule(self, when):
  |         import asyncio
  |         self._when = when
  |         if self._handle is not None: self._handle.cancel()
  |         self._handle = None if when is None else asyncio.get_running_loop().call_at(when, self._end)
  |     def expired(self): return self._late
  |     def _end(self):
  |         self._task.cancel()
  |         self._late = True
  |     async def __aenter__(self):
  |         import asyncio
  |         self._task = asyncio.current_task()
  |         if self._task is None:
  |             raise RuntimeError('Timeout should be used inside a task')
  |         self._cancelling = self._task.cancelling()
  |         self.reschedule(self._when)
  |         return self
  |     async def __aexit__(self, exc_type, exc_val, exc_tb):
  |         if self._handle is not None: self._handle.cancel()
  |         if self._late and self._task.uncancel() <= self._cancelling and exc_type is CancelledError:
  |             raise TimeoutError from exc_val  #@115
  |         return None
  | def timeout(delay):
  |     import asyncio
  |     return Timeout(asyncio.get_running_loop().time() + delay if delay is not None else None)
  | def timeout_at(when): return Timeout(when)"# }

/-- the module for programs side by side -/
def otherProgramsLibrary : Library :=
  { name := "asyncio.subprocess"
    source := r#"
  | import subprocess as _programs
  | PIPE, STDOUT, DEVNULL = _programs.PIPE, _programs.STDOUT, _programs.DEVNULL
  | class _Sink:
  |     def __init__(self, file): self._file = file
  |     def write(self, data): self._file.write(data)
  |     def writelines(self, data): self._file.writelines(data)
  |     async def drain(self): pass
  |     def close(self): self._file.close()
  |     def write_eof(self): self._file.close()
  |     def is_closing(self): return self._file.closed
  |     async def wait_closed(self): pass
  | class _Source:
  |     def __init__(self, file): self._file, self._reader = file, None
  |     def __getattr__(self, name):
  |         import asyncio
  |         if self._reader is None:
  |             self._reader = asyncio.StreamReader()
  |             self._reader.feed_data(self._file.read())
  |         return getattr(self._reader, name)
  |     def __aiter__(self): return self
  |     async def __anext__(self): return await self.__getattr__('__anext__')()
  | class Process:
  |     def __init__(self, program):
  |         self._program, self.pid = program, program.pid
  |         self.stdin = _Sink(program.stdin) if program.stdin else None
  |         self.stdout = _Source(program.stdout) if program.stdout else None
  |         self.stderr = _Source(program.stderr) if program.stderr else None
  |     returncode = property(lambda self: self._program.returncode)
  |     def __repr__(self): return f'<Process {self.pid}>'
  |     async def wait(self): return self._program.wait()
  |     async def communicate(self, input=None): return self._program.communicate(input)
  |     def send_signal(self, signal): self._program.send_signal(signal)
  |     def terminate(self): self._program.terminate()
  |     def kill(self): self._program.kill()
  | async def create_subprocess_exec(program, *args, stdin=None, stdout=None, stderr=None, limit=65536, **kwds):
  |     return Process(_programs.Popen([program, *args], stdin=stdin, stdout=stdout, stderr=stderr, **kwds))
  | async def create_subprocess_shell(cmd, stdin=None, stdout=None, stderr=None, limit=65536, **kwds):
  |     return Process(_programs.Popen(cmd, shell=True, stdin=stdin, stdout=stdout, stderr=stderr, **kwds))"# }

/-- the module for work that goes on side by side -/
def togetherLibrary : Library :=
  { name := "asyncio"
    source := r#"
  | import collections, heapq, types
  | import asyncio.exceptions as exceptions
  | from asyncio.exceptions import *
  | import asyncio.base_events as base_events
  | from asyncio.base_events import BaseEventLoop, Handle, _UnixSelectorEventLoop
  | AbstractEventLoop, SelectorEventLoop, TimerHandle = BaseEventLoop, _UnixSelectorEventLoop, Handle
  | FIRST_COMPLETED, FIRST_EXCEPTION, ALL_COMPLETED = 'FIRST_COMPLETED', 'FIRST_EXCEPTION', 'ALL_COMPLETED'
  | _current = [None]
  | _tasks, _names, _now = [], 0, {}
  | def get_running_loop():
  |     if base_events._running is None: raise RuntimeError('no running event loop')
  |     return base_events._running
  | def _get_running_loop(): return base_events._running
  | def new_event_loop(): return _UnixSelectorEventLoop()
  | def set_event_loop(loop): _current[0] = loop
  | def get_event_loop():
  |     if base_events._running is not None: return base_events._running
  |     if _current[0] is None: _current[0] = new_event_loop()
  |     return _current[0]
  | class Future:
  |     def __init__(self, *, loop=None):
  |         self._loop = loop or get_event_loop()
  |         self._state, self._result, self._exception, self._callbacks, self._message = 'PENDING', None, None, [], None
  |         self._asyncio_future_blocking = False
  |     def __repr__(self):
  |         shown = self._state.lower()
  |         if self._state == 'FINISHED':
  |             shown += f' exception={self._exception!r}' if self._exception is not None else f' result={self._result!r}'
  |         return f'<{type(self).__name__} {shown}>'
  |     def get_loop(self): return self._loop
  |     def done(self): return self._state != 'PENDING'
  |     def cancelled(self): return self._state == 'CANCELLED'
  |     def cancel(self, msg=None):
  |         if self.done(): return False
  |         self._state, self._message = 'CANCELLED', msg
  |         self._tell()
  |         return True
  |     def _tell(self):
  |         callbacks, self._callbacks = self._callbacks, []
  |         for f in callbacks: self._loop.call_soon(f, self)
  |     def _cancelled_error(self): return CancelledError() if self._message is None else CancelledError(self._message)
  |     def result(self):
  |         if self._state == 'CANCELLED': raise self._cancelled_error()
  |         if self._state != 'FINISHED': raise InvalidStateError('Result is not set.')
  |         if self._exception is not None: raise self._exception.with_traceback(self._way)
  |         return self._result
  |     def exception(self):
  |         if self._state == 'CANCELLED': raise self._cancelled_error()
  |         if self._state != 'FINISHED': raise InvalidStateError('Exception is not set.')
  |         return self._exception
  |     def add_done_callback(self, fn, *, context=None):
  |         if self.done(): self._loop.call_soon(fn, self)
  |         else: self._callbacks.append(fn)
  |     def remove_done_callback(self, fn):
  |         n = len(self._callbacks)
  |         self._callbacks = [f for f in self._callbacks if f != fn]
  |         return n - len(self._callbacks)
  |     def set_result(self, result):
  |         if self._state != 'PENDING': raise InvalidStateError('invalid state')
  |         self._state, self._result = 'FINISHED', result
  |         self._tell()
  |     def set_exception(self, exception):
  |         if self._state != 'PENDING': raise InvalidStateError('invalid state')
  |         if isinstance(exception, type): exception = exception()
  |         if type(exception) is StopIteration:
  |             raise TypeError('StopIteration interacts badly with generators and cannot be raised into a Future')
  |         self._state, self._exception, self._way = 'FINISHED', exception, exception.__traceback__
  |         self._tell()
  |     def __await__(self):
  |         if not self.done(): yield self
  |         if not self.done(): raise RuntimeError("await wasn't used with future")
  |         return self.result()
  |     __iter__ = __await__
  | class Task(Future):
  |     def __init__(self, coro, *, loop=None, name=None, context=None):
  |         global _names
  |         super().__init__(loop=loop)
  |         if not iscoroutine(coro): raise TypeError(f'a coroutine was expected, got {coro!r}')
  |         if name is None:
  |             _names += 1
  |             name = f'Task-{_names}'
  |         self._name, self._coro, self._must, self._waits, self._asked = str(name), coro, False, None, 0
  |         _tasks.append(self)
  |         self._loop.call_soon(self._step)
  |     def __repr__(self):
  |         shown = self._state.lower()
  |         if self._state == 'PENDING' and self._asked: shown = 'cancelling'
  |         shown += f' name={self._name!r} coro=<{self._coro.__qualname__}()>'
  |         if self._state == 'FINISHED':
  |             shown += f' exception={self._exception!r}' if self._exception is not None else f' result={self._result!r}'
  |         return f'<{type(self).__name__} {shown}>'
  |     def get_name(self): return self._name
  |     def set_name(self, value): self._name = str(value)
  |     def get_coro(self): return self._coro
  |     def get_stack(self, *, limit=None): return []
  |     def print_stack(self, *, limit=None, file=None): pass
  |     def set_result(self, result): raise RuntimeError('Task does not support set_result operation')
  |     def set_exception(self, exception): raise RuntimeError('Task does not support set_exception operation')
  |     def cancelling(self): return self._asked
  |     def uncancel(self):
  |         if self._asked > 0: self._asked -= 1
  |         return self._asked
  |     def cancel(self, msg=None):
  |         if self.done(): return False
  |         self._asked += 1
  |         if self._waits is not None and self._waits.cancel(msg=msg): return True
  |         self._must, self._message = True, msg
  |         return True
  |     def _step(self, exc=None):
  |         if self.done(): raise InvalidStateError(f'_step(): already done: {self!r}, {exc!r}')
  |         if self._must:
  |             if not isinstance(exc, CancelledError): exc = self._cancelled_error()
  |             self._must = False
  |         self._waits = None
  |         before, _now[self._loop] = _now.get(self._loop), self
  |         try: result = self._coro.send(None) if exc is None else self._coro.throw(exc)
  |         except StopIteration as e:
  |             if self._must:
  |                 self._must = False
  |                 super().cancel(msg=self._message)
  |             else: super().set_result(e.value)
  |         except CancelledError as e:
  |             self._message = e.args[0] if e.args else None
  |             self._was = e
  |             super().cancel(msg=self._message)
  |         except (KeyboardInterrupt, SystemExit) as e:
  |             super().set_exception(e)
  |             raise
  |         except BaseException as e: super().set_exception(e)
  |         else:
  |             if isinstance(result, Future):
  |                 result.add_done_callback(self._wakeup)
  |                 self._waits = result
  |                 if self._must and result.cancel(msg=self._message): self._must = False
  |             elif result is None: self._loop.call_soon(self._step)
  |             else: self._loop.call_soon(self._step, RuntimeError(f'Task got bad yield: {result!r}'))
  |         finally: _now[self._loop] = before
  |     def _cancelled_error(self):
  |         found = self.__dict__.pop('_was', None)
  |         return found if found is not None else super()._cancelled_error()
  |     def _wakeup(self, future):
  |         try: future.result()
  |         except BaseException as e: self._step(e)
  |         else: self._step()
  | def current_task(loop=None): return _now.get(loop or get_running_loop())
  | def all_tasks(loop=None):
  |     loop = loop or get_running_loop()
  |     return {t for t in _tasks if t._loop is loop and not t.done()}
  | def iscoroutine(obj): return isinstance(obj, types.CoroutineType)
  | def iscoroutinefunction(func):
  |     func = getattr(func, '__func__', func)
  |     return isinstance(func, types.FunctionType) and bool(func.__code__.co_flags & 128)
  | def isfuture(obj): return isinstance(obj, Future)
  | def ensure_future(coro_or_future, *, loop=None):
  |     if isfuture(coro_or_future): return coro_or_future
  |     if not iscoroutine(coro_or_future):
  |         if not hasattr(coro_or_future, '__await__'): raise TypeError('An asyncio.Future, a coroutine or an awaitable is required')
  |         async def wrap(awaitable): return await awaitable
  |         coro_or_future = wrap(coro_or_future)
  |     return (loop or get_event_loop()).create_task(coro_or_future)
  | def wrap_future(future, *, loop=None):
  |     if isfuture(future): return future
  |     made = Future(loop=loop)
  |     try: made.set_result(future.result())
  |     except BaseException as e: made.set_exception(e)
  |     return made
  | def create_task(coro, *, name=None, context=None): return get_running_loop().create_task(coro, name=name)
  | def run_coroutine_threadsafe(coro, loop): return loop.create_task(coro)
  | from asyncio.tasks import sleep, wait_for
  | from asyncio.timeouts import Timeout, timeout, timeout_at
  | from asyncio.runners import Runner, run
  | class _Gathering(Future):
  |     def cancel(self, msg=None):
  |         if self.done(): return False
  |         hit = False
  |         for child in self._children:
  |             if child.cancel(msg=msg): hit = True
  |         if hit: self._asked = True
  |         return hit
  | def gather(*coros_or_futures, return_exceptions=False):
  |     if not coros_or_futures:
  |         outer = get_event_loop().create_future()
  |         outer.set_result([])
  |         return outer
  |     seen, children = {}, []
  |     for arg in coros_or_futures:
  |         if id(arg) not in seen: seen[id(arg)] = ensure_future(arg)
  |         children.append(seen[id(arg)])
  |     outer = _Gathering(loop=children[0]._loop)
  |     outer._children, outer._asked, left = children, False, [len(seen)]
  |     def done(f):
  |         left[0] -= 1
  |         if outer.done():
  |             if not f.cancelled(): f.exception()
  |             return
  |         if not return_exceptions:
  |             if f.cancelled(): return outer.set_exception(f._cancelled_error())
  |             if f.exception() is not None: return outer.set_exception(f.exception())
  |         if left[0] == 0:
  |             results = [x._cancelled_error() if x.cancelled() else x.exception() if x.exception() is not None else x.result()
  |                 for x in children]
  |             if outer._asked: outer.set_exception(f._cancelled_error() if f.cancelled() else CancelledError())
  |             else: outer.set_result(results)
  |     for f in seen.values(): f.add_done_callback(done)
  |     return outer
  | def shield(arg):
  |     inner = ensure_future(arg)
  |     if inner.done(): return inner
  |     outer = inner._loop.create_future()
  |     def done(f):
  |         if outer.cancelled(): return
  |         if f.cancelled(): outer.cancel()
  |         elif f.exception() is not None: outer.set_exception(f.exception())
  |         else: outer.set_result(f.result())
  |     inner.add_done_callback(done)
  |     return outer
  | async def wait(fs, *, timeout=None, return_when=ALL_COMPLETED):
  |     if isfuture(fs) or iscoroutine(fs): raise TypeError(f'expect a list of futures, not {type(fs).__name__}')
  |     if not fs: raise ValueError('Set of Tasks/Futures is empty.')
  |     if return_when not in (FIRST_COMPLETED, FIRST_EXCEPTION, ALL_COMPLETED): raise ValueError(f'Invalid return_when value: {return_when}')
  |     fs = set(fs)
  |     if any(iscoroutine(f) for f in fs): raise TypeError('Passing coroutines is forbidden, use tasks explicitly.')
  |     loop = get_running_loop()
  |     def enough():
  |         return all(f.done() for f in fs) or return_when == FIRST_COMPLETED and any(f.done() for f in fs) or \
  |             return_when == FIRST_EXCEPTION and any(f.done() and not f.cancelled() and f.exception() is not None for f in fs)
  |     if not enough():
  |         waiter = loop.create_future()
  |         def told(f):
  |             if enough() and not waiter.done(): waiter.set_result(None)
  |         handle = None if timeout is None else loop.call_later(timeout, lambda: waiter.done() or waiter.set_result(None))
  |         for f in fs: f.add_done_callback(told)
  |         try: await waiter
  |         finally:
  |             if handle is not None: handle.cancel()
  |             for f in fs: f.remove_done_callback(told)
  |     return {f for f in fs if f.done()}, {f for f in fs if not f.done()}
  | def as_completed(fs, *, timeout=None):
  |     todo, done = {ensure_future(f) for f in set(fs)}, Queue()
  |     count = len(todo)
  |     for f in todo: f.add_done_callback(done.put_nowait)
  |     async def one():
  |         f = await (done.get() if timeout is None else wait_for(done.get(), timeout))
  |         return f.result()
  |     for _ in range(count): yield one()
  | async def to_thread(func, /, *args, **kwargs): return func(*args, **kwargs)
  | class _Held:
  |     async def __aenter__(self):
  |         await self.acquire()
  |         return None
  |     async def __aexit__(self, exc_type, exc, tb): self.release()
  | class Lock(_Held):
  |     def __init__(self): self._locked, self._waiters = False, collections.deque()
  |     def __repr__(self): return f'<asyncio.locks.Lock object at {id(self):#x} [{"locked" if self._locked else "unlocked"}]>'
  |     def locked(self): return self._locked
  |     async def acquire(self):
  |         if not self._locked and all(w.cancelled() for w in self._waiters):
  |             self._locked = True
  |             return True
  |         f = get_running_loop().create_future()
  |         self._waiters.append(f)
  |         try: await f
  |         finally: self._waiters.remove(f)
  |         self._locked = True
  |         return True
  |     def release(self):
  |         if not self._locked: raise RuntimeError('Lock is not acquired.')
  |         self._locked = False
  |         for f in self._waiters:
  |             if not f.done():
  |                 f.set_result(True)
  |                 break
  | class Event:
  |     def __init__(self): self._waiters, self._value = [], False
  |     def is_set(self): return self._value
  |     def set(self):
  |         if not self._value:
  |             self._value = True
  |             for f in self._waiters:
  |                 if not f.done(): f.set_result(True)
  |     def clear(self): self._value = False
  |     async def wait(self):
  |         if self._value: return True
  |         f = get_running_loop().create_future()
  |         self._waiters.append(f)
  |         try:
  |             await f
  |             return True
  |         finally: self._waiters.remove(f)
  | class Condition(_Held):
  |     def __init__(self, lock=None):
  |         self._lock = lock or Lock()
  |         self.locked, self.acquire, self.release, self._waiters = self._lock.locked, self._lock.acquire, self._lock.release, []
  |     async def wait(self):
  |         if not self.locked(): raise RuntimeError('cannot wait on un-acquired lock')
  |         self.release()
  |         f = get_running_loop().create_future()
  |         self._waiters.append(f)
  |         try:
  |             await f
  |             return True
  |         finally:
  |             self._waiters.remove(f)
  |             await self.acquire()
  |     async def wait_for(self, predicate):
  |         while not (result := predicate()): await self.wait()
  |         return result
  |     def notify(self, n=1):
  |         if not self.locked(): raise RuntimeError('cannot notify on un-acquired lock')
  |         for f in self._waiters:
  |             if n and not f.done():
  |                 n -= 1
  |                 f.set_result(False)
  |     def notify_all(self): self.notify(len(self._waiters))
  | class Semaphore(_Held):
  |     def __init__(self, value=1):
  |         if value < 0: raise ValueError('Semaphore initial value must be >= 0')
  |         self._value, self._waiters = value, collections.deque()
  |     def locked(self): return self._value == 0
  |     async def acquire(self):
  |         if self._value > 0 and not self._waiters:
  |             self._value -= 1
  |             return True
  |         f = get_running_loop().create_future()
  |         self._waiters.append(f)
  |         try: await f
  |         finally:
  |             if f in self._waiters: self._waiters.remove(f)
  |         return True
  |     def release(self):
  |         for f in list(self._waiters):
  |             if not f.done():
  |                 self._waiters.remove(f)
  |                 f.set_result(True)
  |                 return
  |         self._value += 1
  | class BoundedSemaphore(Semaphore):
  |     def __init__(self, value=1):
  |         self._bound = value
  |         super().__init__(value)
  |     def release(self):
  |         if self._value >= self._bound: raise ValueError('BoundedSemaphore released too many times')
  |         super().release()
  | class QueueEmpty(Exception): pass
  | class QueueFull(Exception): pass
  | class Queue:
  |     def __init__(self, maxsize=0):
  |         self._maxsize, self._getters, self._putters, self._unfinished = maxsize, collections.deque(), collections.deque(), 0
  |         self._finished = Event()
  |         self._finished.set()
  |         self._init(maxsize)
  |     def _init(self, maxsize): self._queue = collections.deque()
  |     def _get(self): return self._queue.popleft()
  |     def _put(self, item): self._queue.append(item)
  |     maxsize = property(lambda self: self._maxsize)
  |     def qsize(self): return len(self._queue)
  |     def empty(self): return not self._queue
  |     def full(self): return 0 < self._maxsize <= self.qsize()
  |     def _wake(self, waiters):
  |         while waiters:
  |             f = waiters.popleft()
  |             if not f.done():
  |                 f.set_result(None)
  |                 break
  |     async def put(self, item):
  |         while self.full():
  |             f = get_running_loop().create_future()
  |             self._putters.append(f)
  |             await f
  |         return self.put_nowait(item)
  |     def put_nowait(self, item):
  |         if self.full(): raise QueueFull
  |         self._put(item)
  |         self._unfinished += 1
  |         self._finished.clear()
  |         self._wake(self._getters)
  |     async def get(self):
  |         while self.empty():
  |             f = get_running_loop().create_future()
  |             self._getters.append(f)
  |             await f
  |         return self.get_nowait()
  |     def get_nowait(self):
  |         if self.empty(): raise QueueEmpty
  |         item = self._get()
  |         self._wake(self._putters)
  |         return item
  |     def task_done(self):
  |         if self._unfinished <= 0: raise ValueError('task_done() called too many times')
  |         self._unfinished -= 1
  |         if self._unfinished == 0: self._finished.set()
  |     async def join(self):
  |         if self._unfinished > 0: await self._finished.wait()
  | class PriorityQueue(Queue):
  |     def _init(self, maxsize): self._queue = []
  |     def _put(self, item): heapq.heappush(self._queue, item)
  |     def _get(self): return heapq.heappop(self._queue)
  | class LifoQueue(Queue):
  |     def _init(self, maxsize): self._queue = []
  |     def _get(self): return self._queue.pop()
  | for _c in (CancelledError, InvalidStateError, IncompleteReadError): _c.__module__ = 'asyncio.exceptions'
  | for _c in (QueueEmpty, QueueFull, Queue, PriorityQueue, LifoQueue): _c.__module__ = 'asyncio.queues'
  | for _c in (Lock, Event, Condition, Semaphore, BoundedSemaphore): _c.__module__ = 'asyncio.locks'
  | class TaskGroup:
  |     def __init__(self): self._tasks, self._errors, self._entered, self._parent, self._ends = set(), [], False, None, False
  |     async def __aenter__(self):
  |         if self._entered: raise RuntimeError(f'TaskGroup {self!r} has already been entered')
  |         self._entered, self._parent = True, current_task()
  |         return self
  |     def create_task(self, coro, *, name=None, context=None):
  |         if not self._entered: raise RuntimeError(f'TaskGroup {self!r} has not been entered')
  |         task = get_running_loop().create_task(coro, name=name)
  |         self._tasks.add(task)
  |         task.add_done_callback(self._done)
  |         return task
  |     def _done(self, task):
  |         self._tasks.discard(task)
  |         if task.cancelled() or task.exception() is None: return
  |         self._errors.append(task.exception())
  |         if not self._ends:
  |             self._ends = True
  |             for t in self._tasks: t.cancel()
  |             if not self._parent.done() and self._inside: self._parent.cancel()
  |     _inside = True
  |     async def __aexit__(self, et, exc, tb):
  |         self._inside = False
  |         if et is not None and et is CancelledError and self._ends: self._parent.uncancel()
  |         elif et is not None:
  |             self._ends = True
  |             for t in self._tasks: t.cancel()
  |             if et is not CancelledError: self._errors.append(exc)
  |         while self._tasks: await wait(set(self._tasks))
  |         if self._errors: raise BaseExceptionGroup('unhandled errors in a TaskGroup', self._errors)
  | class StreamReader:
  |     def __init__(self, limit=65536, loop=None): self._data, self._end = bytearray(), False
  |     def feed_data(self, data): self._data += data
  |     def feed_eof(self): self._end = True
  |     def at_eof(self): return not self._data
  |     async def read(self, n=-1):
  |         n = len(self._data) if n < 0 else n
  |         out = bytes(self._data[:n])
  |         del self._data[:n]
  |         return out
  |     async def readline(self):
  |         i = self._data.find(b'\n')
  |         return await self.read(len(self._data) if i < 0 else i + 1)
  |     async def readexactly(self, n):
  |         if len(self._data) < n: raise IncompleteReadError(await self.read(), n)
  |         return await self.read(n)
  |     async def readuntil(self, separator=b'\n'):
  |         i = self._data.find(separator)
  |         if i < 0: raise IncompleteReadError(await self.read(), None)
  |         return await self.read(i + len(separator))
  |     def __aiter__(self): return self
  |     async def __anext__(self):
  |         line = await self.readline()
  |         if not line: raise StopAsyncIteration
  |         return line
  | import asyncio.subprocess as subprocess
  | from asyncio.subprocess import create_subprocess_exec, create_subprocess_shell"# }

/-- the module for functions side by side -/
def threadsLibrary : Library :=
  { name := "threading"
    file := "/usr/lib/python3.11/threading.py"
    source := r#"
  | import sys, time as _time, _ground
  | from collections import deque as _deque
  | TIMEOUT_MAX = 9223372036.0
  | class _Blocked(BaseException): pass
  | class ThreadError(RuntimeError): pass
  | ThreadError = RuntimeError
  | _count, _pending, _active, _numbers = 0, [], [], 140000000000000
  | def _first():
  |     for t in list(_pending):
  |         if t not in _active: yield t
  | def _until(ready, timeout=None):
  |     if ready(): return True
  |     moved = True
  |     while moved:
  |         moved = False
  |         for t in _first():
  |             if t._attempt(): moved = True
  |             if ready(): return True
  |     if timeout is not None:
  |         _time._tick(max(0, timeout))
  |         return ready()
  |     if _active: raise _Blocked
  |     raise KeyboardInterrupt
  | class Thread:
  |     daemon = property(lambda self: self._daemonic, lambda self, v: self._set_daemon(v))
  |     def __init__(self, group=None, target=None, name=None, args=(), kwargs=None, *, daemon=None):
  |         global _count
  |         if group is not None: raise AssertionError('group argument must be None for now')
  |         if name is None:
  |             _count += 1
  |             name = f'Thread-{_count}'
  |             if target is not None and hasattr(target, '__name__'): name += f' ({target.__name__})'
  |         self._target, self._name, self._args, self._kwargs = target, str(name), args, {} if kwargs is None else kwargs
  |         self._daemonic = current_thread()._daemonic if daemon is None else daemon
  |         self._started, self._is_stopped, self._ident, self._initialized = False, False, None, True
  |     def _set_daemon(self, value):
  |         if self._started: raise RuntimeError('cannot set daemon status of active thread')
  |         self._daemonic = value
  |     def __repr__(self):
  |         shown = 'initial' if not self._started else 'stopped' if self._is_stopped else 'started'
  |         if self._daemonic: shown += ' daemon'
  |         if self._ident is not None: shown += f' {self._ident}'
  |         return f'<{self.__class__.__name__}({self._name}, {shown})>'
  |     name = property(lambda self: self._name, lambda self, v: setattr(self, '_name', str(v)))
  |     ident = native_id = property(lambda self: self._ident)
  |     def getName(self): return self._name
  |     def setName(self, name): self._name = name
  |     def isDaemon(self): return self._daemonic
  |     def setDaemon(self, daemonic): self._set_daemon(daemonic)
  |     def start(self):
  |         global _numbers
  |         if not getattr(self, '_initialized', False):
  |             raise RuntimeError('thread.__init__() not called')
  |         if self._started:
  |             raise RuntimeError('threads can only be started once')
  |         self._started = True
  |         _numbers += 4096
  |         self._ident = _numbers
  |         _pending.append(self)
  |         self._attempt()
  |     def _attempt(self):
  |         _active.append(self)
  |         done = _ground.attempt(self._bootstrap, _Blocked)
  |         if _active and _active[-1] is self: _active.pop()
  |         return done
  |     def _bootstrap(self):
  |         try: self._bootstrap_inner()
  |         finally:
  |             self._is_stopped = True
  |             if self in _pending: _pending.remove(self)
  |     def _bootstrap_inner(self):
  |         try:
  |             self.run()  #@1038
  |         except (SystemExit, _Blocked) as e:
  |             if isinstance(e, _Blocked): raise
  |         except BaseException:
  |             excepthook(ExceptHookArgs((*sys.exc_info(), self)))
  |     def run(self):
  |         try:
  |             if self._target is not None:
  |                 self._target(*self._args, **self._kwargs)  #@975
  |         finally: pass
  |     def join(self, timeout=None):
  |         if not self._started:
  |             raise RuntimeError('cannot join thread before it is started')
  |         if self is current_thread():
  |             raise RuntimeError('cannot join current thread')
  |         _until(lambda: self._is_stopped, timeout)
  |     def is_alive(self): return self._started and not self._is_stopped
  | class _MainThread(Thread):
  |     def __init__(self): self._name, self._daemonic, self._started, self._is_stopped, self._ident = 'MainThread', False, True, False, 139999999999
  | _main = _MainThread()
  | class ExceptHookArgs(tuple):
  |     exc_type, exc_value = property(lambda s: s[0]), property(lambda s: s[1])
  |     exc_traceback, thread = property(lambda s: s[2]), property(lambda s: s[3])
  | def excepthook(args, /):
  |     import traceback
  |     if args.exc_type is SystemExit: return
  |     name = args.thread.name if args.thread is not None else 0
  |     print(f'Exception in thread {name}:', file=sys.stderr)
  |     traceback.print_exception(args.exc_type, args.exc_value, args.exc_traceback)
  | __excepthook__ = excepthook
  | def current_thread(): return _active[-1] if _active else _main
  | currentThread = current_thread
  | def main_thread(): return _main
  | def get_ident(): return current_thread()._ident
  | get_native_id = get_ident
  | def enumerate(): return [_main] + [t for t in _pending + _active if not t._is_stopped]
  | def active_count(): return len(enumerate())
  | activeCount = active_count
  | def settrace(func): pass
  | def setprofile(func): pass
  | def stack_size(size=0): return 0
  | class _Lock:
  |     _kind = '_thread.lock'
  |     def __init__(self): self._held = False
  |     def __repr__(self): return f'<{"locked" if self._held else "unlocked"} {self._kind} object at {id(self):#x}>'
  |     def acquire(self, blocking=True, timeout=-1):
  |         if not blocking and timeout != -1: raise ValueError("can't specify a timeout for a non-blocking call")
  |         if self._held:
  |             if not blocking: return False
  |             if not _until(lambda: not self._held, None if timeout == -1 else timeout): return False
  |         self._held = True
  |         return True
  |     def release(self):
  |         if not self._held: raise RuntimeError('release unlocked lock')
  |         self._held = False
  |     def locked(self): return self._held
  |     acquire_lock, release_lock, locked_lock = acquire, release, locked
  |     def __enter__(self): return self.acquire()
  |     def __exit__(self, *exc): self.release()
  | _Lock.__name__ = _Lock.__qualname__ = 'lock'
  | _Lock.__module__ = '_thread'
  | Lock = allocate_lock = _Lock
  | class RLock:
  |     def __init__(self): self._owner, self._depth = None, 0
  |     def __repr__(self):
  |         shown = 'locked' if self._depth else 'unlocked'
  |         return f'<{shown} _thread.RLock object owner={get_ident() if self._depth else 0} count={self._depth} at {id(self):#x}>'
  |     def acquire(self, blocking=True, timeout=-1):
  |         me = current_thread()
  |         if self._depth and self._owner is not me:
  |             if not blocking or not _until(lambda: not self._depth, None if timeout == -1 else timeout): return False
  |         self._owner, self._depth = me, self._depth + 1
  |         return True
  |     def release(self):
  |         if not self._depth or self._owner is not current_thread(): raise RuntimeError('cannot release un-acquired lock')
  |         self._depth -= 1
  |         if not self._depth: self._owner = None
  |     def __enter__(self): return self.acquire()
  |     def __exit__(self, *exc): self.release()
  | class Condition:
  |     def __init__(self, lock=None):
  |         self._lock = lock or RLock()
  |         self.acquire, self.release, self._waiters = self._lock.acquire, self._lock.release, 0
  |         self._told = 0
  |     def __enter__(self): return self._lock.__enter__()
  |     def __exit__(self, *exc): return self._lock.__exit__(*exc)
  |     def _owned(self): return self._lock._depth > 0 if isinstance(self._lock, RLock) else self._lock.locked()
  |     def wait(self, timeout=None):
  |         if not self._owned(): raise RuntimeError('cannot wait on un-acquired lock')
  |         self._waiters += 1
  |         self.release()
  |         try:
  |             ok = _until(lambda: self._told > 0, timeout)
  |             if ok: self._told -= 1
  |             return ok
  |         finally:
  |             self._waiters -= 1
  |             self.acquire()
  |     def wait_for(self, predicate, timeout=None):
  |         result = predicate()
  |         while not result:
  |             if not self.wait(timeout) and timeout is not None: return predicate()
  |             result = predicate()
  |         return result
  |     def notify(self, n=1):
  |         if not self._owned(): raise RuntimeError('cannot notify on un-acquired lock')
  |         self._told = min(self._told + n, self._waiters)
  |     def notify_all(self): self.notify(self._waiters)
  |     notifyAll = notify_all
  | class Semaphore:
  |     def __init__(self, value=1):
  |         if value < 0: raise ValueError('semaphore initial value must be >= 0')
  |         self._value = value
  |     def acquire(self, blocking=True, timeout=None):
  |         if not blocking and timeout is not None: raise ValueError("can't specify timeout for non-blocking acquire")
  |         if not self._value and (not blocking or not _until(lambda: self._value > 0, timeout)): return False
  |         self._value -= 1
  |         return True
  |     def release(self, n=1):
  |         if n < 1: raise ValueError('n must be one or more')
  |         self._value += n
  |     __enter__ = acquire
  |     def __exit__(self, *exc): self.release()
  | class BoundedSemaphore(Semaphore):
  |     def __init__(self, value=1):
  |         super().__init__(value)
  |         self._initial_value = value
  |     def release(self, n=1):
  |         if self._value + n > self._initial_value: raise ValueError('Semaphore released too many times')
  |         super().release(n)
  | class Event:
  |     def __init__(self): self._flag = False
  |     def __repr__(self): return f'<threading.Event at {id(self):#x}: {"set" if self._flag else "unset"}>'
  |     def is_set(self): return self._flag
  |     isSet = is_set
  |     def set(self): self._flag = True
  |     def clear(self): self._flag = False
  |     def wait(self, timeout=None): return _until(lambda: self._flag, timeout)
  | class BrokenBarrierError(RuntimeError): pass
  | class Barrier:
  |     def __init__(self, parties, action=None, timeout=None): self.parties, self._action, self.n_waiting = parties, action, 0
  |     def wait(self, timeout=None):
  |         n = self.n_waiting
  |         self.n_waiting += 1
  |         return n
  | class Timer(Thread):
  |     def __init__(self, interval, function, args=None, kwargs=None):
  |         super().__init__()
  |         self.interval, self.function, self.finished = interval, function, False
  |         self.args, self.kwargs = args if args is not None else [], kwargs if kwargs is not None else {}
  |     def start(self):
  |         global _numbers
  |         if self._started: raise RuntimeError('threads can only be started once')
  |         self._started = True
  |         _numbers += 4096
  |         self._ident = _numbers
  |         _pending.append(self)
  |         _time._alarms.append((_time._now + self.interval, lambda: self in _pending and self._attempt()))
  |         _time._alarms.sort(key=lambda p: p[0])
  |     def cancel(self):
  |         self.finished = True
  |         if self in _pending:
  |             _pending.remove(self)
  |             self._is_stopped = True
  |     def run(self):
  |         if not self.finished: self.function(*self.args, **self.kwargs)
  |         self.finished = True
  | class local: pass
  | def _shutdown():
  |     while True:
  |         left = [t for t in _first() if not t._daemonic]
  |         if not left or not any([t._attempt() for t in left]): return
  | import atexit as _atexit
  | _atexit.register(_shutdown)"# }

/-- the module for rows that threads share -/
def queuesLibrary : Library :=
  { name := "queue"
    source := r#"
  | import threading, heapq
  | from collections import deque
  | class Empty(Exception): pass
  | class Full(Exception): pass
  | Empty.__module__ = '_queue'
  | class Queue:
  |     def __init__(self, maxsize=0):
  |         self.maxsize, self.unfinished_tasks, self.mutex = maxsize, 0, threading.Lock()
  |         self._init(maxsize)
  |     def _init(self, maxsize): self.queue = deque()
  |     def _qsize(self): return len(self.queue)
  |     def _put(self, item): self.queue.append(item)
  |     def _get(self): return self.queue.popleft()
  |     def qsize(self): return self._qsize()
  |     def empty(self): return not self._qsize()
  |     def full(self): return 0 < self.maxsize <= self._qsize()
  |     def put(self, item, block=True, timeout=None):
  |         if self.full():
  |             if not block: raise Full
  |             if timeout is not None and timeout < 0: raise ValueError("'timeout' must be a non-negative number")
  |             try: ok = threading._until(lambda: not self.full(), timeout)
  |             except (threading._Blocked, KeyboardInterrupt): ok = True
  |             if not ok: raise Full
  |         self._put(item)
  |         self.unfinished_tasks += 1
  |     def get(self, block=True, timeout=None):
  |         if not self._qsize():
  |             if not block: raise Empty
  |             if timeout is not None and timeout < 0: raise ValueError("'timeout' must be a non-negative number")
  |             if not threading._until(self._qsize, timeout): raise Empty
  |         return self._get()
  |     def put_nowait(self, item): return self.put(item, block=False)
  |     def get_nowait(self): return self.get(block=False)
  |     def task_done(self):
  |         if self.unfinished_tasks <= 0: raise ValueError('task_done() called too many times')
  |         self.unfinished_tasks -= 1
  |     def join(self): threading._until(lambda: self.unfinished_tasks == 0)
  | class PriorityQueue(Queue):
  |     def _init(self, maxsize): self.queue = []
  |     def _put(self, item): heapq.heappush(self.queue, item)
  |     def _get(self): return heapq.heappop(self.queue)
  | class LifoQueue(Queue):
  |     def _init(self, maxsize): self.queue = []
  |     def _get(self): return self.queue.pop()
  | class SimpleQueue(Queue):
  |     def __init__(self): super().__init__()
  | SimpleQueue.__module__ = '_queue'"# }

/-- the module for work that goes on side by side, by its other name -/
def concurrentLibrary : Library :=
  { name := "concurrent" }

/-- the module for work that something will come of -/
def futureWorkLibrary : Library :=
  { name := "concurrent.futures.thread"
    file := "/usr/lib/python3.11/concurrent/futures/thread.py"
    source := r#"
  | import threading
  | class _WorkItem:
  |     def __init__(self, future, fn, args, kwargs): self.future, self.fn, self.args, self.kwargs = future, fn, args, kwargs
  |     def run(self):
  |         if not self.future.set_running_or_notify_cancel(): return
  |         try:
  |             result = self.fn(*self.args, **self.kwargs)  #@58
  |         except threading._Blocked: raise
  |         except BaseException as exc: self.future.set_exception(exc)
  |         else: self.future.set_result(result)"# }

/-- the module for what will come of work -/
def futuresLibrary : Library :=
  { name := "concurrent.futures"
    file := "/usr/lib/python3.11/concurrent/futures/_base.py"
    source := r#"
  | import threading
  | from concurrent.futures.thread import _WorkItem
  | FIRST_COMPLETED, FIRST_EXCEPTION, ALL_COMPLETED = 'FIRST_COMPLETED', 'FIRST_EXCEPTION', 'ALL_COMPLETED'
  | class Error(Exception): pass
  | class CancelledError(Error): pass
  | class InvalidStateError(Error): pass
  | class BrokenExecutor(RuntimeError): pass
  | TimeoutError = TimeoutError
  | CancelledError.__module__ = 'concurrent.futures._base'
  | class Future:
  |     def __init__(self): self._state, self._result, self._exception, self._done_callbacks, self._run = 'PENDING', None, None, [], None
  |     def __repr__(self):
  |         if self._state == 'FINISHED':
  |             what = f'raised {type(self._exception).__name__}' if self._exception else f'returned {type(self._result).__name__}'
  |             return f'<Future at {id(self):#x} state=finished {what}>'
  |         return f'<Future at {id(self):#x} state={self._state.lower()}>'
  |     def cancel(self):
  |         if self._state in ('RUNNING', 'FINISHED'): return False
  |         self._state = 'CANCELLED'
  |         self._tell()
  |         return True
  |     def cancelled(self): return self._state == 'CANCELLED'
  |     def running(self): return self._state == 'RUNNING'
  |     def done(self): return self._state in ('CANCELLED', 'FINISHED')
  |     def _tell(self):
  |         for f in self._done_callbacks: f(self)
  |     def add_done_callback(self, fn):
  |         if self.done(): fn(self)
  |         else: self._done_callbacks.append(fn)
  |     def _settle(self, timeout):
  |         if self._run is not None and not self.done(): threading._until(self.done, timeout)
  |         if self._state == 'CANCELLED': raise CancelledError()
  |         if not self.done(): raise TimeoutError()
  |     def result(self, timeout=None):
  |         if self.done():
  |             return self.__get_result()  #@449
  |         self._settle(timeout)
  |         return self.__get_result()  #@456
  |     def __get_result(self):
  |         if self._state == 'CANCELLED': raise CancelledError()
  |         if self._exception:
  |             raise self._exception  #@401
  |         return self._result
  |     def exception(self, timeout=None):
  |         self._settle(timeout)
  |         return self._exception
  |     def set_running_or_notify_cancel(self):
  |         if self._state == 'CANCELLED': return False
  |         self._state = 'RUNNING'
  |         return True
  |     def set_result(self, result):
  |         if self.done(): raise InvalidStateError(f'{self._state}: {self!r}')
  |         self._result, self._state = result, 'FINISHED'
  |         self._tell()
  |     def set_exception(self, exception):
  |         if self.done(): raise InvalidStateError(f'{self._state}: {self!r}')
  |         self._exception, self._state = exception, 'FINISHED'
  |         self._tell()
  | class Executor:
  |     def submit(self, fn, /, *args, **kwargs): raise NotImplementedError()
  |     def map(self, fn, *iterables, timeout=None, chunksize=1):
  |         fs = [self.submit(fn, *args) for args in zip(*iterables)]
  |         def results():
  |             for f in fs:
  |                 yield f.result()  #@619
  |         return results()
  |     def shutdown(self, wait=True, *, cancel_futures=False): pass
  |     def __enter__(self): return self
  |     def __exit__(self, exc_type, exc_val, exc_tb):
  |         self.shutdown(wait=True)
  |         return False
  | class ThreadPoolExecutor(Executor):
  |     _counter = 0
  |     def __init__(self, max_workers=None, thread_name_prefix='', initializer=None, initargs=()):
  |         if max_workers is not None and max_workers <= 0: raise ValueError('max_workers must be greater than 0')
  |         self._max_workers, self._shut, self._threads, self._initializer, self._initargs = max_workers or 8, False, [], initializer, initargs
  |         self._prefix = thread_name_prefix or f'ThreadPoolExecutor-{ThreadPoolExecutor._counter}'
  |         ThreadPoolExecutor._counter += 1
  |     def submit(self, fn, /, *args, **kwargs):
  |         if self._shut: raise RuntimeError('cannot schedule new futures after shutdown')
  |         future = Future()
  |         worker = threading.Thread(target=_WorkItem(future, fn, args, kwargs).run, name=f'{self._prefix}_0', daemon=True)
  |         if self._initializer is not None:
  |             self._initializer(*self._initargs)
  |             self._initializer = None
  |         future._run = worker
  |         self._threads.append(worker)
  |         worker.start()
  |         return future
  |     def shutdown(self, wait=True, *, cancel_futures=False):
  |         self._shut = True
  |         if wait:
  |             for t in self._threads: t.join()
  | class ProcessPoolExecutor(ThreadPoolExecutor):
  |     def __init__(self, max_workers=None, mp_context=None, initializer=None, initargs=(), *, max_tasks_per_child=None):
  |         super().__init__(max_workers, '', initializer, initargs)
  | class _Both(tuple):
  |     done, not_done = property(lambda s: s[0]), property(lambda s: s[1])
  |     def __repr__(self): return f'DoneAndNotDoneFutures(done={self[0]!r}, not_done={self[1]!r})'
  | def wait(fs, timeout=None, return_when=ALL_COMPLETED):
  |     fs = set(fs)
  |     if return_when == ALL_COMPLETED or not any(f.done() for f in fs):
  |         for f in fs:
  |             if f._run is not None and not f.done(): threading._until(f.done, timeout)
  |     return _Both((({f for f in fs if f.done()}), {f for f in fs if not f.done()}))
  | def as_completed(fs, timeout=None):
  |     fs = list(dict.fromkeys(fs))
  |     for f in fs:
  |         if f.done(): yield f
  |     for f in [f for f in fs if not f.done()]:
  |         threading._until(f.done, timeout)
  |         yield f"# }

/-- the module for functions in programs of their own -/
def workersLibrary : Library :=
  { name := "multiprocessing"
    source := r#"
  | import os, threading, queue
  | from threading import Lock, RLock, Event, Condition, Semaphore, BoundedSemaphore, Barrier
  | from queue import Queue
  | JoinableQueue = SimpleQueue = Queue
  | class ProcessError(Exception): pass
  | class TimeoutError(ProcessError): pass
  | def cpu_count(): return os.cpu_count()
  | class Process(threading.Thread):
  |     def __init__(self, group=None, target=None, name=None, args=(), kwargs={}, *, daemon=None):
  |         super().__init__(group, target, name or 'Process', args, kwargs, daemon=daemon)
  |         self.exitcode, self.pid = None, None
  |     def start(self):
  |         self.pid = 4300
  |         super().start()
  |         self.exitcode = 0
  |     def terminate(self): pass
  |     kill = close = terminate
  | def current_process(): return _main
  | class _Main: name, pid, daemon, exitcode = 'MainProcess', os.getpid(), False, None
  | _main = _Main()
  | def active_children(): return []
  | def freeze_support(): pass
  | def set_start_method(method, force=False): pass
  | def get_start_method(allow_none=False): return 'fork'
  | def get_context(method=None):
  |     import sys
  |     return sys.modules['multiprocessing']
  | class AsyncResult:
  |     def __init__(self, found, failed): self._found, self._failed = found, failed
  |     def get(self, timeout=None):
  |         if self._failed: raise self._failed
  |         return self._found
  |     def wait(self, timeout=None): pass
  |     def ready(self): return True
  |     def successful(self): return self._failed is None
  | class Pool:
  |     def __init__(self, processes=None, initializer=None, initargs=(), maxtasksperchild=None):
  |         if processes is not None and processes < 1: raise ValueError('Number of processes must be at least 1')
  |         if initializer is not None: initializer(*initargs)
  |     def apply(self, func, args=(), kwds={}): return func(*args, **kwds)
  |     def map(self, func, iterable, chunksize=None): return [func(x) for x in iterable]
  |     def starmap(self, func, iterable, chunksize=None): return [func(*x) for x in iterable]
  |     def imap(self, func, iterable, chunksize=1): return iter([func(x) for x in iterable])
  |     imap_unordered = imap
  |     def apply_async(self, func, args=(), kwds={}, callback=None, error_callback=None):
  |         try: found, failed = func(*args, **kwds), None
  |         except Exception as e: found, failed = None, e
  |         if failed is None and callback: callback(found)
  |         if failed is not None and error_callback: error_callback(failed)
  |         return AsyncResult(found, failed)
  |     def map_async(self, func, iterable, chunksize=None, callback=None, error_callback=None):
  |         return self.apply_async(lambda: self.map(func, iterable), (), {}, callback, error_callback)
  |     def starmap_async(self, func, iterable, chunksize=None, callback=None, error_callback=None):
  |         return self.apply_async(lambda: self.starmap(func, iterable), (), {}, callback, error_callback)
  |     def close(self): pass
  |     join = terminate = close
  |     def __enter__(self): return self
  |     def __exit__(self, *exc): pass
  | class Value:
  |     def __init__(self, typecode, value=0, lock=True): self.value, self._lock = value, RLock()
  |     def get_lock(self): return self._lock
  | def Array(typecode, size, lock=True): return [0] * size if isinstance(size, int) else list(size)
  | class _Manager:
  |     def dict(self, *args, **kw): return dict(*args, **kw)
  |     def list(self, *args): return list(*args)
  |     def Queue(self, maxsize=0): return Queue(maxsize)
  |     def Lock(self): return Lock()
  |     def __enter__(self): return self
  |     def __exit__(self, *exc): pass
  |     def shutdown(self): pass
  | def Manager(): return _Manager()
  | class _End:
  |     def __init__(self, mine, other): self._mine, self._other = mine, other
  |     def send(self, obj): self._other.put(obj)
  |     def recv(self): return self._mine.get()
  |     def poll(self, timeout=0.0): return not self._mine.empty()
  |     def close(self): pass
  | def Pipe(duplex=True):
  |     a, b = Queue(), Queue()
  |     return _End(a, b), _End(b, a)"# }

/-- modules for work that goes on side by side -/
def togetherLibraries : List Library :=
  [troublesLibrary, roundsLibrary, runsLibrary, waitingLibrary, limitsLibrary, otherProgramsLibrary,
   togetherLibrary, threadsLibrary, queuesLibrary, concurrentLibrary, futureWorkLibrary, futuresLibrary,
   workersLibrary]

end IncludeAudit.Offside
