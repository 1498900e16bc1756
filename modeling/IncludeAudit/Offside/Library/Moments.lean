/-
Modules for moments, days and spans of time.

- `momentsLibraries`: the modules.
-/
import IncludeAudit.Offside.Library.Basic

namespace IncludeAudit.Offside

def clockLibrary : Library :=
  { name := "time"
    source := r#"
  | import sys
  | _now = 1735689600.25
  | _begun = _now
  | timezone = altzone = daylight = 0
  | tzname = ('UTC', 'UTC')
  | CLOCK_REALTIME, CLOCK_MONOTONIC, CLOCK_PROCESS_CPUTIME_ID, CLOCK_THREAD_CPUTIME_ID, CLOCK_BOOTTIME = 0, 1, 2, 3, 7
  | _days = ('Monday', 'Tuesday', 'Wednesday', 'Thursday', 'Friday', 'Saturday', 'Sunday')
  | _months = ('January', 'February', 'March', 'April', 'May', 'June', 'July', 'August', 'September', 'October', 'November', 'December')
  | class struct_time(tuple):
  |     __kind__ = 'time.struct_time'
  |     n_fields, n_sequence_fields, n_unnamed_fields = 11, 9, 0
  |     __match_args__ = ('tm_year', 'tm_mon', 'tm_mday', 'tm_hour', 'tm_min', 'tm_sec', 'tm_wday', 'tm_yday', 'tm_isdst')
  |     def __new__(cls, sequence, dict=None):
  |         values = tuple(sequence)
  |         if len(values) < 9: raise TypeError(f'time.struct_time() takes an at least 9-sequence ({len(values)}-sequence given)')
  |         if len(values) > 11: raise TypeError(f'time.struct_time() takes an at most 11-sequence ({len(values)}-sequence given)')
  |         self = tuple.__new__(cls, values[:9])
  |         self.tm_zone, self.tm_gmtoff = (values[9:] + (None, None))[:2]
  |         return self
  |     def __repr__(self): return 'time.struct_time(' + ', '.join(f'{n}={v!r}' for n, v in zip(self.__match_args__, self)) + ')'
  |     tm_year, tm_mon, tm_mday = property(lambda s: s[0]), property(lambda s: s[1]), property(lambda s: s[2])
  |     tm_hour, tm_min, tm_sec = property(lambda s: s[3]), property(lambda s: s[4]), property(lambda s: s[5])
  |     tm_wday, tm_yday, tm_isdst = property(lambda s: s[6]), property(lambda s: s[7]), property(lambda s: s[8])
  | struct_time.__module__ = 'time'
  | def _tick(more=1e-05):
  |     global _now
  |     _now += more
  |     return _now
  | def time(): return _tick()
  | def time_ns(): return int(_tick() * 1000000) * 1000
  | def monotonic(): return _tick() - _begun + 100000.0
  | def monotonic_ns(): return int(monotonic() * 1000000) * 1000
  | def perf_counter(): return _tick() - _begun + 100000.0
  | def perf_counter_ns(): return int(perf_counter() * 1000000) * 1000
  | def process_time(): return (_tick() - _begun) / 10 + 0.02
  | def process_time_ns(): return int(process_time() * 1000000) * 1000
  | thread_time, thread_time_ns = process_time, process_time_ns
  | def clock_gettime(clk_id): return time() if clk_id == 0 else monotonic()
  | def clock_getres(clk_id): return 1e-09
  | _alarms = []
  | def _pause(seconds):
  |     from os import _pass
  |     if seconds > 0:
  |         _pass(int(seconds * 1000))
  |         _tick(seconds)
  | def sleep(seconds, /):
  |     if not hasattr(seconds, '__index__') and not isinstance(seconds, float):
  |         raise TypeError(f"'{type(seconds).__name__}' object cannot be interpreted as an integer")
  |     if seconds < 0: raise ValueError('sleep length must be non-negative')
  |     stop = _now + seconds
  |     while _alarms and _alarms[0][0] <= stop:
  |         at, act = _alarms.pop(0)
  |         _pause(at - _now)
  |         act()
  |     _pause(stop - _now)
  | def _parts(day):
  |     day += 719468
  |     era, doe = divmod(day, 146097)
  |     yoe = (doe - doe // 1460 + doe // 36524 - doe // 146096) // 365
  |     doy = doe - (365 * yoe + yoe // 4 - yoe // 100)
  |     mp = (5 * doy + 2) // 153
  |     m = mp + 3 if mp < 10 else mp - 9
  |     return yoe + era * 400 + (m <= 2), m, doy - (153 * mp + 2) // 5 + 1
  | def _number(y, m, d):
  |     y, m = y + (m - 1) // 12, (m - 1) % 12 + 1
  |     y -= m <= 2
  |     era, yoe = divmod(y, 400)
  |     doy = (153 * (m - 3 if m > 2 else m + 9) + 2) // 5 + d - 1
  |     return era * 146097 + yoe * 365 + yoe // 4 - yoe // 100 + doy - 719468
  | def gmtime(seconds=None, /):
  |     n = int(time() if seconds is None else seconds // 1)
  |     day, rest = divmod(n, 86400)
  |     y, m, d = _parts(day)
  |     return struct_time((y, m, d, rest // 3600, rest // 60 % 60, rest % 60, (day + 3) % 7, day - _number(y, 1, 1) + 1, 0, 'GMT', 0))
  | def localtime(seconds=None, /): return struct_time(tuple(gmtime(seconds)) + ('UTC', 0))
  | def mktime(t, /):
  |     if not isinstance(t, tuple): raise TypeError('Tuple or struct_time argument required')
  |     if len(t) != 9: raise TypeError('mktime(): illegal time tuple argument')
  |     return float(_number(t[0], t[1], t[2]) * 86400 + t[3] * 3600 + t[4] * 60 + t[5])
  | def _checked(t, what):
  |     if not isinstance(t, tuple): raise TypeError('Tuple or struct_time argument required')
  |     if len(t) != 9: raise TypeError(what + '(): illegal time tuple argument')
  |     for value, low, high, part in ((t[1], 0, 12, 'month'), (t[2], 0, 31, 'day of month'), (t[3], 0, 23, 'hour'),
  |             (t[4], 0, 59, 'minute'), (t[5], 0, 61, 'seconds'), (t[7], 0, 366, 'day of year')):
  |         if not low <= value <= high: raise ValueError(part + ' out of range')
  |     return t[0], t[1] or 1, t[2] or 1, t[3], t[4], t[5], t[6] % 7, t[7] or 1
  | def asctime(t=None, /):
  |     y, m, d, h, n, s, w, j = _checked(localtime() if t is None else t, 'asctime')
  |     return f'{_days[w][:3]} {_months[m - 1][:3]} {d:2} {h:02}:{n:02}:{s:02} {y}'
  | def ctime(seconds=None, /): return asctime(localtime(seconds))
  | def _isoweek(y, w, j):
  |     week = (j - 1 - w + 10) // 7
  |     def weeks(y):
  |         first = (_number(y, 1, 1) + 3) % 7
  |         leap = y % 4 == 0 and (y % 100 != 0 or y % 400 == 0)
  |         return 53 if first == 3 or first == 2 and leap else 52
  |     if week < 1: return y - 1, weeks(y - 1)
  |     if week > weeks(y): return y + 1, 1
  |     return y, week
  | def strftime(format, t=None, /):
  |     return _format(format, _checked(localtime() if t is None else t, 'strftime'), getattr(t, 'tm_zone', None) or 'UTC', '+0000')
  | _whole = {'c': '%a %b %e %H:%M:%S %Y', 'D': '%m/%d/%y', 'x': '%m/%d/%y', 'F': '%Y-%m-%d', 'r': '%I:%M:%S %p', 'R': '%H:%M',
  |     'T': '%H:%M:%S', 'X': '%H:%M:%S', '+': '%+'}
  | def _format(format, parts, zone, ahead):
  |     y, m, d, h, n, s, w, j = parts
  |     out, i = [], 0
  |     while i < len(format):
  |         c = format[i]
  |         i += 1
  |         if c != '%':
  |             out.append(c)
  |             continue
  |         begun, flag, width = i, '', ''
  |         while i < len(format) and format[i] in '-_0^#':
  |             flag = format[i]
  |             i += 1
  |         while i < len(format) and format[i].isdigit():
  |             width += format[i]
  |             i += 1
  |         if i < len(format) and format[i] in 'EO': i += 1
  |         if i >= len(format):
  |             out.append('%' + format[begun:])
  |             break
  |         c = format[i]
  |         i += 1
  |         def num(value, size, fill='0'):
  |             if flag == '-': return str(value)
  |             fill = ' ' if flag == '_' else '0' if flag == '0' else fill
  |             return str(value).rjust(int(width or size), fill)
  |         if c == 'a': text = _days[w][:3]
  |         elif c == 'A': text = _days[w]
  |         elif c in 'bh': text = _months[m - 1][:3]
  |         elif c == 'B': text = _months[m - 1]
  |         elif c in _whole and c != '+': text = _format(_whole[c], parts, zone, ahead)
  |         elif c == 'C': text = num(y // 100, 2)
  |         elif c == 'd': text = num(d, 2)
  |         elif c == 'e': text = num(d, 2, ' ')
  |         elif c == 'g': text = num(_isoweek(y, w, j)[0] % 100, 2)
  |         elif c == 'G': text = num(_isoweek(y, w, j)[0], 1)
  |         elif c == 'H': text = num(h, 2)
  |         elif c == 'I': text = num(h % 12 or 12, 2)
  |         elif c == 'j': text = num(j, 3)
  |         elif c == 'k': text = num(h, 2, ' ')
  |         elif c == 'l': text = num(h % 12 or 12, 2, ' ')
  |         elif c == 'm': text = num(m, 2)
  |         elif c == 'M': text = num(n, 2)
  |         elif c == 'n': text = '\n'
  |         elif c == 't': text = '\t'
  |         elif c == '%': text = '%'
  |         elif c == 'p': text = 'AM' if h < 12 else 'PM'
  |         elif c == 'P': text = 'am' if h < 12 else 'pm'
  |         elif c == 's': text = str(int(mktime((y, m, d, h, n, s, 0, 0, 0))))
  |         elif c == 'S': text = num(s, 2)
  |         elif c == 'u': text = num(w + 1, 1)
  |         elif c == 'U': text = num((j + 6 - (w + 1) % 7) // 7, 2)
  |         elif c == 'V': text = num(_isoweek(y, w, j)[1], 2)
  |         elif c == 'w': text = num((w + 1) % 7, 1)
  |         elif c == 'W': text = num((j + 6 - w) // 7, 2)
  |         elif c == 'y': text = num(y % 100, 2)
  |         elif c == 'Y': text = num(y, 1)
  |         elif c == 'z': text = ahead[:1] + str(int(ahead[1:])) if flag == '-' else ahead
  |         elif c == 'Z': text = zone
  |         else: text = '%' + format[begun:i]
  |         out.append(text.upper() if flag == '^' else text)
  |     return ''.join(out)
  | _shapes = {'d': r'(?P<d>3[0-1]|[1-2]\d|0[1-9]|[1-9]| [1-9])', 'f': r'(?P<f>[0-9]{1,6})', 'H': r'(?P<H>2[0-3]|[0-1]\d|\d)',
  |     'I': r'(?P<I>1[0-2]|0[1-9]|[1-9])', 'G': r'(?P<G>\d\d\d\d)',
  |     'j': r'(?P<j>36[0-6]|3[0-5]\d|[1-2]\d\d|0[1-9]\d|00[1-9]|[1-9]\d|0[1-9]|[1-9])', 'm': r'(?P<m>1[0-2]|0[1-9]|[1-9])',
  |     'M': r'(?P<M>[0-5]\d|\d)', 'S': r'(?P<S>6[0-1]|[0-5]\d|\d)', 'U': r'(?P<U>5[0-3]|[0-4]\d|\d)', 'w': r'(?P<w>[0-6])',
  |     'u': r'(?P<u>[1-7])', 'V': r'(?P<V>5[0-3]|0[1-9]|[1-4]\d|\d)', 'y': r'(?P<y>\d\d)', 'Y': r'(?P<Y>\d\d\d\d)',
  |     'z': r'(?P<z>[+-]\d\d:?[0-5]\d(:?[0-5]\d(\.\d{1,6})?)?|(?-i:Z))', 'W': r'(?P<W>5[0-3]|[0-4]\d|\d)',
  |     'A': '(?P<A>' + '|'.join(sorted(_days, key=len, reverse=True)) + ')', 'a': '(?P<a>' + '|'.join(x[:3] for x in _days) + ')',
  |     'B': '(?P<B>' + '|'.join(sorted(_months, key=len, reverse=True)) + ')', 'b': '(?P<b>' + '|'.join(x[:3] for x in _months) + ')',
  |     'p': '(?P<p>am|pm)', 'Z': '(?P<Z>utc|gmt)', '%': '%'}
  | def _read(data_string, format):
  |     import re
  |     for i, arg in enumerate((data_string, format)):
  |         if not isinstance(arg, str): raise TypeError(f'strptime() argument {i} must be str, not {type(arg)}')
  |     full = format.replace('%c', '%a %b %d %H:%M:%S %Y').replace('%x', '%m/%d/%y').replace('%X', '%H:%M:%S')
  |     shape, i = '', 0
  |     while i < len(full):
  |         if full[i] == '%':
  |             if i + 1 == len(full): raise ValueError(f"stray % in format '{format}'") from None
  |             if full[i + 1] not in _shapes:
  |                 raise ValueError(f"'{full[i + 1]}' is a bad directive in format '{format}'") from None
  |             shape += _shapes[full[i + 1]]
  |             i += 2
  |         elif full[i].isspace():
  |             while i < len(full) and full[i].isspace(): i += 1
  |             shape += r'\s+'
  |         else:
  |             shape += re.sub(r'([\\.^$*+?\(\){}\[\]|])', r'\\\1', full[i])
  |             i += 1
  |     found = re.compile(shape, re.IGNORECASE).match(data_string)
  |     if not found: raise ValueError(f'time data {data_string!r} does not match format {format!r}')
  |     if len(data_string) != found.end(): raise ValueError(f'unconverted data remains: {data_string[found.end():]}')
  |     g = found.groupdict()
  |     year, month, day, hour, minute, second, fraction = None, 1, 1, 0, 0, 0, 0
  |     weekday = week = julian = isoyear = isoweek = ahead = zone = None
  |     aheadpart, starts = 0, None
  |     names = [x.lower() for x in _days]
  |     for k, v in g.items():
  |         if v is None: continue
  |         if k == 'y': year = int(v) + (2000 if int(v) <= 68 else 1900)
  |         elif k == 'Y': year = int(v)
  |         elif k == 'G': isoyear = int(v)
  |         elif k == 'm': month = int(v)
  |         elif k == 'B': month = [x.lower() for x in _months].index(v.lower()) + 1
  |         elif k == 'b': month = [x[:3].lower() for x in _months].index(v.lower()) + 1
  |         elif k == 'd': day = int(v)
  |         elif k == 'H': hour = int(v)
  |         elif k == 'I':
  |             hour = int(v) % 12 + (12 if (g.get('p') or '').lower() == 'pm' else 0)
  |         elif k == 'M': minute = int(v)
  |         elif k == 'S': second = int(v)
  |         elif k == 'f': fraction = int(v.ljust(6, '0'))
  |         elif k == 'A': weekday = names.index(v.lower())
  |         elif k == 'a': weekday = [x[:3] for x in names].index(v.lower())
  |         elif k == 'w': weekday = (int(v) - 1) % 7
  |         elif k == 'u': weekday = int(v) - 1
  |         elif k == 'j': julian = int(v)
  |         elif k in 'UW': week, starts = int(v), 6 if k == 'U' else 0
  |         elif k == 'V': isoweek = int(v)
  |         elif k == 'z':
  |             if v == 'Z': ahead = 0
  |             else:
  |                 if v[3] == ':':
  |                     v = v[:3] + v[4:]
  |                     if len(v) > 5:
  |                         if v[5] != ':': raise ValueError(f'Inconsistent use of : in {g["z"]}')
  |                         v = v[:5] + v[6:]
  |                 ahead = int(v[1:3]) * 3600 + int(v[3:5]) * 60 + int(v[5:7] or 0)
  |                 aheadpart = int((v[8:] or '0').ljust(6, '0'))
  |                 if v[0] == '-': ahead, aheadpart = -ahead, -aheadpart
  |         elif k == 'Z': zone = 0
  |     if isoyear is not None:
  |         if isoweek is None or weekday is None:
  |             raise ValueError("ISO year directive '%G' must be used with the ISO week directive '%V' and a weekday directive "
  |                 "('%A', '%a', '%w', or '%u').")
  |         if julian is not None:
  |             raise ValueError("Day of the year directive '%j' is not compatible with ISO year directive '%G'. Use '%Y' instead.")
  |     elif isoweek is not None:
  |         if year is None or weekday is None:
  |             raise ValueError("ISO week directive '%V' must be used with the ISO year directive '%G' and a weekday directive "
  |                 "('%A', '%a', '%w', or '%u').")
  |         raise ValueError("ISO week directive '%V' is incompatible with the year directive '%Y'. Use the ISO year '%G' instead.")
  |     leap = False
  |     if year is None and month == 2 and day == 29: year, leap = 1904, True
  |     elif year is None: year = 1900
  |     if julian is None and weekday is not None:
  |         if week is not None:
  |             first = (_number(year, 1, 1) + 3) % 7
  |             w, wd = (week, (weekday + 1) % 7) if starts == 6 else (week, weekday)
  |             if starts == 6: first = (first + 1) % 7
  |             lead = (7 - first) % 7
  |             julian = 1 + wd - first if w == 0 else 1 + lead + 7 * (w - 1) + wd
  |         elif isoyear is not None and isoweek is not None:
  |             fourth = _number(isoyear, 1, 4)
  |             number = fourth - (fourth + 3) % 7 + (isoweek - 1) * 7 + weekday
  |             year, month, day = _parts(number)
  |             julian = number - _number(year, 1, 1) + 1
  |         if julian is not None and julian <= 0:
  |             year -= 1
  |             julian += _number(year + 1, 1, 1) - _number(year, 1, 1)
  |     if julian is None:
  |         long = (31, 29 if year % 4 == 0 and (year % 100 != 0 or year % 400 == 0) else 28, 31, 30, 31, 30, 31, 31, 30, 31, 30, 31)
  |         if day > long[month - 1]: raise ValueError('day is out of range for month')
  |         julian = _number(year, month, day) - _number(year, 1, 1) + 1
  |     else: year, month, day = _parts(_number(year, 1, 1) + julian - 1)
  |     if weekday is None: weekday = (_number(year, month, day) + 3) % 7
  |     if leap: year = 1900
  |     return (year, month, day, hour, minute, second, weekday, julian, -1 if zone is None else zone), fraction, ahead, aheadpart
  | def strptime(string, format='%a %b %d %H:%M:%S %Y', /):
  |     parts, fraction, ahead, more = _read(string, format)
  |     return struct_time(parts + (None, ahead))
  | def tzset(): pass
  | def get_clock_info(name, /):
  |     import types
  |     if name not in ('time', 'monotonic', 'perf_counter', 'process_time', 'thread_time'): raise ValueError('unknown clock')
  |     kind = {'time': 'REALTIME', 'process_time': 'PROCESS_CPUTIME_ID', 'thread_time': 'THREAD_CPUTIME_ID'}.get(name, 'MONOTONIC')
  |     return types.SimpleNamespace(implementation=f'clock_gettime(CLOCK_{kind})', monotonic=name != 'time', adjustable=name == 'time',
  |         resolution=1e-09)"# }

def daysLibrary : Library :=
  { name := "datetime"
    source := r#"
  | import time as _time
  | from time import _number, _parts
  | __all__ = ('date', 'datetime', 'time', 'timedelta', 'timezone', 'tzinfo', 'MINYEAR', 'MAXYEAR', 'UTC')
  | MINYEAR, MAXYEAR = 1, 9999
  | _first = 719163
  | def _leap(y): return y % 4 == 0 and (y % 100 != 0 or y % 400 == 0)
  | def _long(y, m): return 29 if m == 2 and _leap(y) else (31, 28, 31, 30, 31, 30, 31, 31, 30, 31, 30, 31)[m - 1]
  | def _ordinal(y, m, d): return _number(y, m, d) + _first
  | def _day(n):
  |     if not 1 <= n <= 3652059: raise OverflowError('date value out of range')
  |     return _parts(n - _first)
  | def _whole(v):
  |     if isinstance(v, float): raise TypeError("'float' object cannot be interpreted as an integer")
  |     if not hasattr(v, '__index__'): raise TypeError(f"'{type(v).__name__}' object cannot be interpreted as an integer")
  |     return v.__index__()
  | def _rightday(y, m, d):
  |     y, m, d = _whole(y), _whole(m), _whole(d)
  |     if not MINYEAR <= y <= MAXYEAR: raise ValueError(f'year {y} is out of range')
  |     if not 1 <= m <= 12: raise ValueError('month must be in 1..12')
  |     if not 1 <= d <= _long(y, m): raise ValueError('day is out of range for month')
  |     return y, m, d
  | def _righttime(h, m, s, us, fold):
  |     h, m, s, us = _whole(h), _whole(m), _whole(s), _whole(us)
  |     if not 0 <= h <= 23: raise ValueError('hour must be in 0..23')
  |     if not 0 <= m <= 59: raise ValueError('minute must be in 0..59')
  |     if not 0 <= s <= 59: raise ValueError('second must be in 0..59')
  |     if not 0 <= us <= 999999: raise ValueError('microsecond must be in 0..999999')
  |     if fold not in (0, 1): raise ValueError('fold must be either 0 or 1')
  |     return h, m, s, us, fold
  | def _rightzone(tz):
  |     if tz is not None and not isinstance(tz, tzinfo):
  |         raise TypeError(f"tzinfo argument must be None or of a tzinfo subclass, not type '{type(tz).__name__}'")
  | def _half_even(a, b):
  |     q, r = divmod(a, b)
  |     return q + (2 * r > b or 2 * r == b and q % 2 == 1)
  | def _nearest(x):
  |     n = int(x // 1)
  |     r = x - n
  |     return n + (r > 0.5 or r == 0.5 and n % 2 == 1)
  | def _ahead(td):
  |     if td is None: return ''
  |     us = td // _us
  |     sign, us = ('-', -us) if us < 0 else ('+', us)
  |     s, us = divmod(us, 1000000)
  |     out = f'{sign}{s // 3600:02}:{s // 60 % 60:02}'
  |     if s % 60 or us: out += f':{s % 60:02}'
  |     return out + (f'.{us:06}' if us else '')
  | def _shown(obj, format, parts):
  |     out, i = '', 0
  |     while i < len(format):
  |         if format[i] == '%' and i + 1 < len(format):
  |             c = format[i + 1]
  |             if c == 'f': out += '%06d' % getattr(obj, 'microsecond', 0)
  |             elif c == 'z':
  |                 off = obj.utcoffset() if hasattr(obj, 'utcoffset') else None
  |                 out += _ahead(off).replace(':', '')
  |             elif c == 'Z':
  |                 name = obj.tzname() if hasattr(obj, 'tzname') else None
  |                 out += (name or '').replace('%', '%%')
  |             else: out += '%' + c
  |             i += 2
  |         else:
  |             out += format[i]
  |             i += 1
  |     return _time._format(out, parts, 'UTC', '+0000')
  | class timedelta:
  |     __kind__ = 'datetime.timedelta'
  |     def __new__(cls, days=0, seconds=0, microseconds=0, milliseconds=0, minutes=0, hours=0, weeks=0):
  |         total, rest = 0, 0.0
  |         for name, v, unit in (('microseconds', microseconds, 1), ('milliseconds', milliseconds, 1000), ('seconds', seconds, 1000000),
  |                 ('minutes', minutes, 60000000), ('hours', hours, 3600000000), ('days', days, 86400000000),
  |                 ('weeks', weeks, 604800000000)):
  |             if isinstance(v, int): total += v * unit
  |             elif isinstance(v, float):
  |                 n = int(v)
  |                 total += n * unit
  |                 f = (v - n) * unit
  |                 k = int(f)
  |                 total += k
  |                 rest += f - k
  |             else: raise TypeError(f'unsupported type for timedelta {name} component: {type(v).__name__}')
  |         if rest: total += round(rest + (total & 1)) - (total & 1)
  |         return cls._made(total)
  |     @classmethod
  |     def _made(cls, total):
  |         self = object.__new__(cls)
  |         s, self._microseconds = divmod(total, 1000000)
  |         self._days, self._seconds = divmod(s, 86400)
  |         if abs(self._days) > 999999999: raise OverflowError(f'days={self._days}; must have magnitude <= 999999999')
  |         return self
  |     days, seconds = property(lambda self: self._days), property(lambda self: self._seconds)
  |     microseconds = property(lambda self: self._microseconds)
  |     @property
  |     def _total(self): return (self._days * 86400 + self._seconds) * 1000000 + self._microseconds
  |     def total_seconds(self): return self._total / 1000000
  |     def __repr__(self):
  |         parts = [f'{n}={v}' for n, v in (('days', self._days), ('seconds', self._seconds), ('microseconds', self._microseconds)) if v]
  |         return f'{_named(self)}({", ".join(parts) or "0"})'
  |     def __str__(self):
  |         m, s = divmod(self._seconds, 60)
  |         out = f'{m // 60}:{m % 60:02}:{s:02}'
  |         if self._days: out = f'{self._days} day{"" if abs(self._days) == 1 else "s"}, ' + out
  |         return out + (f'.{self._microseconds:06}' if self._microseconds else '')
  |     def __add__(self, other): return timedelta._made(self._total + other._total) if isinstance(other, timedelta) else NotImplemented
  |     __radd__ = __add__
  |     def __sub__(self, other): return timedelta._made(self._total - other._total) if isinstance(other, timedelta) else NotImplemented
  |     def __rsub__(self, other): return timedelta._made(other._total - self._total) if isinstance(other, timedelta) else NotImplemented
  |     def __neg__(self): return timedelta._made(-self._total)
  |     def __pos__(self): return timedelta._made(self._total)
  |     def __abs__(self): return timedelta._made(abs(self._total))
  |     def __mul__(self, other):
  |         if isinstance(other, int): return timedelta._made(self._total * other)
  |         if isinstance(other, float):
  |             a, b = other.as_integer_ratio()
  |             return timedelta._made(_half_even(self._total * a, b))
  |         return NotImplemented
  |     __rmul__ = __mul__
  |     def __floordiv__(self, other):
  |         if isinstance(other, timedelta):
  |             if not other._total: raise ZeroDivisionError('integer division or modulo by zero')
  |             return self._total // other._total
  |         if isinstance(other, int):
  |             if not other: raise ZeroDivisionError('integer division or modulo by zero')
  |             return timedelta._made(self._total // other)
  |         return NotImplemented
  |     def __truediv__(self, other):
  |         if isinstance(other, timedelta):
  |             if not other._total: raise ZeroDivisionError('division by zero')
  |             return self._total / other._total
  |         if isinstance(other, int):
  |             if not other: raise ZeroDivisionError('integer division or modulo by zero')
  |             a, b = (self._total, other) if other > 0 else (-self._total, -other)
  |             return timedelta._made(_half_even(a, b))
  |         if isinstance(other, float):
  |             a, b = other.as_integer_ratio()
  |             if not a: raise ZeroDivisionError('division by zero')
  |             if a < 0: a, b = -a, -b
  |             return timedelta._made(_half_even(self._total * b, a))
  |         return NotImplemented
  |     def __mod__(self, other):
  |         if not isinstance(other, timedelta): return NotImplemented
  |         if not other._total: raise ZeroDivisionError('integer division or modulo by zero')
  |         return timedelta._made(self._total % other._total)
  |     def __divmod__(self, other):
  |         if not isinstance(other, timedelta): return NotImplemented
  |         if not other._total: raise ZeroDivisionError('integer division or modulo by zero')
  |         q, r = divmod(self._total, other._total)
  |         return q, timedelta._made(r)
  |     def __eq__(self, other): return self._total == other._total if isinstance(other, timedelta) else NotImplemented
  |     def __le__(self, other): return self._total <= other._total if isinstance(other, timedelta) else NotImplemented
  |     def __lt__(self, other): return self._total < other._total if isinstance(other, timedelta) else NotImplemented
  |     def __ge__(self, other): return self._total >= other._total if isinstance(other, timedelta) else NotImplemented
  |     def __gt__(self, other): return self._total > other._total if isinstance(other, timedelta) else NotImplemented
  |     def __hash__(self): return hash((self._days, self._seconds, self._microseconds))
  |     def __bool__(self): return self._total != 0
  |     def __reduce__(self): return (self.__class__, (self._days, self._seconds, self._microseconds))
  | def _named(obj):
  |     c = type(obj)
  |     return 'datetime.' + c.__qualname__ if c.__module__ == 'datetime' else c.__name__
  | _us = timedelta._made(1)
  | timedelta.min, timedelta.max = timedelta._made(-999999999 * 86400000000), timedelta._made(86400000000 * 1000000000 - 1)
  | timedelta.resolution = _us
  | class _Week(tuple):
  |     def __new__(cls, year, week, weekday): return tuple.__new__(cls, (year, week, weekday))
  |     year, week, weekday = property(lambda s: s[0]), property(lambda s: s[1]), property(lambda s: s[2])
  |     def __repr__(self): return f'datetime.IsoCalendarDate(year={self[0]}, week={self[1]}, weekday={self[2]})'
  | _Week.__name__ = _Week.__qualname__ = 'IsoCalendarDate'
  | def _asked(args, names, need, what):
  |     if len(args) < need: raise TypeError(f"function missing required argument '{names[len(args)]}' (pos {len(args) + 1})")
  | def _isoday(text):
  |     if not (text.isascii() and text[:4].isdigit()): return None
  |     if len(text) == 10 and text[4] == '-' == text[7] and text[5:7].isdigit() and text[8:].isdigit():
  |         return int(text[:4]), int(text[5:7]), int(text[8:])
  |     if len(text) == 8 and text.isdigit(): return int(text[:4]), int(text[4:6]), int(text[6:])
  |     plain = text.replace('-', '')
  |     if 'W' in text and plain[4:5] == 'W' and plain[5:].isdigit() and len(plain) in (7, 8) and \
  |             text in (plain, plain[:4] + '-' + plain[4:7] + ('-' + plain[7] if len(plain) == 8 else '')):
  |         return _fromweek(int(plain[:4]), int(plain[5:7]), int(plain[7:] or 1))
  |     return None
  | def _fromweek(year, week, day):
  |     if not MINYEAR <= year <= MAXYEAR: raise ValueError(f'Year is out of range: {year}')
  |     first = (_ordinal(year, 1, 1) + 6) % 7
  |     if not 0 < week < 53 and not (week == 53 and (first == 3 or first == 2 and _leap(year))):
  |         raise ValueError(f'Invalid week: {week}')
  |     if not 0 < day < 8: raise ValueError(f'Invalid weekday: {day} (range is [1, 7])')
  |     fourth = _ordinal(year, 1, 4)
  |     return _day(fourth - (fourth + 6) % 7 + (week - 1) * 7 + day - 1)
  | class date:
  |     __kind__ = 'datetime.date'
  |     def __new__(cls, *args, **named):
  |         names = ('year', 'month', 'day')
  |         if len(args) + len(named) > 3: raise TypeError(f'function takes at most 3 arguments ({len(args) + len(named)} given)')
  |         values = list(args)
  |         for i in range(len(args), 3):
  |             if names[i] not in named: raise TypeError(f"function missing required argument '{names[i]}' (pos {i + 1})")
  |             values.append(named.pop(names[i]))
  |         for k in named: raise TypeError(f"'{k}' is an invalid keyword argument for this function")
  |         self = object.__new__(cls)
  |         self._year, self._month, self._daynumber = _rightday(*values)
  |         return self
  |     year, month, day = property(lambda s: s._year), property(lambda s: s._month), property(lambda s: s._daynumber)
  |     @classmethod
  |     def fromtimestamp(cls, t): return cls(*_time.localtime(t)[:3])
  |     @classmethod
  |     def today(cls): return cls.fromtimestamp(_time.time())
  |     @classmethod
  |     def fromordinal(cls, n):
  |         if n < 1: raise ValueError('ordinal must be >= 1')
  |         if n > 3652059: raise ValueError('year is out of range')
  |         return cls(*_day(n))
  |     @classmethod
  |     def fromisoformat(cls, date_string):
  |         if not isinstance(date_string, str): raise TypeError('fromisoformat: argument must be str')
  |         found = _isoday(date_string) if len(date_string) in (7, 8, 10) else None
  |         if found is None: raise ValueError(f'Invalid isoformat string: {date_string!r}')
  |         return cls(*found)
  |     @classmethod
  |     def fromisocalendar(cls, year, week, day): return cls(*_fromweek(year, week, day))
  |     def __repr__(self): return f'{_named(self)}({self._year}, {self._month}, {self._daynumber})'
  |     def isoformat(self): return f'{self._year:04}-{self._month:02}-{self._daynumber:02}'
  |     __str__ = isoformat
  |     def _clock(self): return (0, 0, 0)
  |     def _fields(self):
  |         n = self.toordinal()
  |         return (self._year, self._month, self._daynumber) + self._clock() + ((n + 6) % 7, n - _ordinal(self._year, 1, 1) + 1)
  |     def ctime(self):
  |         y, m, d, h, n, s, w, j = self._fields()
  |         return f'{_time._days[w][:3]} {_time._months[m - 1][:3]} {d:2} {h:02}:{n:02}:{s:02} {y:04}'
  |     def strftime(self, format): return _shown(self, format, self._fields())
  |     def __format__(self, fmt):
  |         if not isinstance(fmt, str): raise TypeError('must be str, not %s' % type(fmt).__name__)
  |         return self.strftime(fmt) if fmt else str(self)
  |     def timetuple(self): return _time.struct_time(self._fields() + (-1,))
  |     def toordinal(self): return _ordinal(self._year, self._month, self._daynumber)
  |     def replace(self, year=None, month=None, day=None):
  |         return type(self)(self._year if year is None else year, self._month if month is None else month,
  |             self._daynumber if day is None else day)
  |     def weekday(self): return (self.toordinal() + 6) % 7
  |     def isoweekday(self): return self.toordinal() % 7 or 7
  |     def isocalendar(self):
  |         f = self._fields()
  |         year, week = _time._isoweek(f[0], f[6], f[7])
  |         return _Week(year, week, f[6] + 1)
  |     def _key(self): return (self._year, self._month, self._daynumber)
  |     def _same(self, other): return isinstance(other, date) and not isinstance(other, datetime)
  |     def __eq__(self, other): return self._key() == other._key() if self._same(other) else NotImplemented
  |     def __lt__(self, other): return self._key() < other._key() if self._same(other) else NotImplemented
  |     def __le__(self, other): return self._key() <= other._key() if self._same(other) else NotImplemented
  |     def __gt__(self, other): return self._key() > other._key() if self._same(other) else NotImplemented
  |     def __ge__(self, other): return self._key() >= other._key() if self._same(other) else NotImplemented
  |     def __hash__(self): return hash(self._key())
  |     def __add__(self, other):
  |         if isinstance(other, timedelta): return type(self)(*_day(self.toordinal() + other.days))
  |         return NotImplemented
  |     __radd__ = __add__
  |     def __sub__(self, other):
  |         if isinstance(other, timedelta): return self + timedelta._made(-other.days * 86400000000)
  |         if isinstance(other, date): return timedelta._made((self.toordinal() - other.toordinal()) * 86400000000)
  |         return NotImplemented
  |     def __reduce__(self): return (self.__class__, self._key())
  | date.min, date.max, date.resolution = date(1, 1, 1), date(9999, 12, 31), timedelta(days=1)
  | class tzinfo:
  |     __kind__ = 'datetime.tzinfo'
  |     def tzname(self, dt): raise NotImplementedError('a tzinfo subclass must implement tzname()')
  |     def utcoffset(self, dt): raise NotImplementedError('a tzinfo subclass must implement utcoffset()')
  |     def dst(self, dt): raise NotImplementedError('a tzinfo subclass must implement dst()')
  |     def fromutc(self, dt):
  |         off, dst = dt.utcoffset(), dt.dst()
  |         if off is None: raise ValueError('fromutc: non-None utcoffset() result required')
  |         if dst is None: raise ValueError('fromutc: non-None dst() result required')
  |         delta = off - dst
  |         if delta:
  |             dt += delta
  |             dst = dt.dst()
  |         return dt + dst
  | _missing = object()
  | class timezone(tzinfo):
  |     __kind__ = 'datetime.timezone'
  |     def __new__(cls, offset, name=_missing):
  |         if not isinstance(offset, timedelta):
  |             raise TypeError(f'timezone() argument 1 must be datetime.timedelta, not {type(offset).__name__}')
  |         if name is not _missing and not isinstance(name, str):
  |             raise TypeError(f'timezone() argument 2 must be str, not {type(name).__name__}')
  |         if name is _missing and not offset: return timezone.utc
  |         if not -86400000000 < offset._total < 86400000000:
  |             raise ValueError('offset must be a timedelta strictly between -timedelta(hours=24) and timedelta(hours=24), not '
  |                 + repr(offset) + '.')
  |         return cls._made(offset, None if name is _missing else name)
  |     @classmethod
  |     def _made(cls, offset, name):
  |         self = object.__new__(cls)
  |         self._offset, self._name = offset, name
  |         return self
  |     def __eq__(self, other): return self._offset == other._offset if isinstance(other, timezone) else NotImplemented
  |     def __hash__(self): return hash(self._offset)
  |     def __repr__(self):
  |         if self is timezone.utc: return 'datetime.timezone.utc'
  |         return f'datetime.timezone({self._offset!r}' + ('' if self._name is None else f', {self._name!r}') + ')'
  |     def __str__(self): return self.tzname(None)
  |     def utcoffset(self, dt): return self._offset
  |     def tzname(self, dt):
  |         if self._name is not None: return self._name
  |         return 'UTC' + _ahead(self._offset) if self._offset else 'UTC'
  |     def dst(self, dt): return None
  |     def fromutc(self, dt): return dt + self._offset
  | UTC = timezone.utc = timezone._made(timedelta(0), None)
  | timezone.min, timezone.max = timezone(-timedelta(hours=23, minutes=59)), timezone(timedelta(hours=23, minutes=59))
  | def _isotime(text):
  |     zone, main, sign = None, text, 0
  |     if text[-1:] == 'Z': zone, main = timezone.utc, text[:-1]
  |     else:
  |         for i, c in enumerate(text):
  |             if c in '+-':
  |                 found = _isoclock(text[i + 1:])
  |                 if found is None: return None
  |                 h, m, s, us = found
  |                 off = timedelta(hours=h, minutes=m, seconds=s, microseconds=us)
  |                 zone, main = timezone(-off if c == '-' else off), text[:i]
  |                 break
  |     found = _isoclock(main)
  |     return None if found is None else found + (zone,)
  | def _isoclock(text):
  |     if not text.isascii(): return None
  |     parts, rest, wide = [], text, text[2:3] == ':'
  |     for i in range(3):
  |         if not rest[:2].isdigit() or len(rest) < 2: return None
  |         parts.append(int(rest[:2]))
  |         rest = rest[2:]
  |         if not rest or i == 2: break
  |         if wide:
  |             if rest[0] != ':': return None
  |             rest = rest[1:]
  |         elif not rest[:1].isdigit(): return None
  |     us = 0
  |     if rest:
  |         if len(parts) < 3 or rest[0] not in '.,' or not rest[1:].isdigit(): return None
  |         us = int(rest[1:7].ljust(6, '0'))
  |     return tuple(parts + [0] * (3 - len(parts))) + (us,)
  | def _clocktext(h, m, s, us, timespec):
  |     shapes = {'hours': '{:02d}', 'minutes': '{:02d}:{:02d}', 'seconds': '{:02d}:{:02d}:{:02d}',
  |         'milliseconds': '{:02d}:{:02d}:{:02d}.{:03d}', 'microseconds': '{:02d}:{:02d}:{:02d}.{:06d}'}
  |     if timespec == 'auto': timespec = 'microseconds' if us else 'seconds'
  |     elif timespec == 'milliseconds': us //= 1000
  |     if timespec not in shapes: raise ValueError('Unknown timespec value')
  |     return shapes[timespec].format(h, m, s, us)
  | class time:
  |     __kind__ = 'datetime.time'
  |     def __new__(cls, hour=0, minute=0, second=0, microsecond=0, tzinfo=None, *, fold=0):
  |         self = object.__new__(cls)
  |         self._hour, self._minute, self._second, self._microsecond, self._fold = _righttime(hour, minute, second, microsecond, fold)
  |         _rightzone(tzinfo)
  |         self._tzinfo = tzinfo
  |         return self
  |     hour, minute, second = property(lambda s: s._hour), property(lambda s: s._minute), property(lambda s: s._second)
  |     microsecond, fold, tzinfo = property(lambda s: s._microsecond), property(lambda s: s._fold), property(lambda s: s._tzinfo)
  |     def _key(self):
  |         us = ((self._hour * 60 + self._minute) * 60 + self._second) * 1000000 + self._microsecond
  |         off = self.utcoffset()
  |         return us if off is None else us - off._total
  |     def _cmp(self, other, op):
  |         if not isinstance(other, time): return NotImplemented
  |         if (self.utcoffset() is None) != (other.utcoffset() is None):
  |             raise TypeError("can't compare offset-naive and offset-aware times")
  |         return op(self._key(), other._key())
  |     def __eq__(self, other):
  |         if not isinstance(other, time): return NotImplemented
  |         return (self.utcoffset() is None) == (other.utcoffset() is None) and self._key() == other._key()
  |     def __lt__(self, other): return self._cmp(other, lambda a, b: a < b)
  |     def __le__(self, other): return self._cmp(other, lambda a, b: a <= b)
  |     def __gt__(self, other): return self._cmp(other, lambda a, b: a > b)
  |     def __ge__(self, other): return self._cmp(other, lambda a, b: a >= b)
  |     def __hash__(self): return hash(self._key())
  |     def isoformat(self, timespec='auto'):
  |         return _clocktext(self._hour, self._minute, self._second, self._microsecond, timespec) + _ahead(self.utcoffset())
  |     __str__ = isoformat
  |     def __repr__(self):
  |         out = f'{_named(self)}({self._hour}, {self._minute}'
  |         if self._microsecond: out += f', {self._second}, {self._microsecond}'
  |         elif self._second: out += f', {self._second}'
  |         return out + (f', tzinfo={self._tzinfo!r}' if self._tzinfo is not None else '') + (', fold=1)' if self._fold else ')')
  |     @classmethod
  |     def fromisoformat(cls, time_string):
  |         if not isinstance(time_string, str): raise TypeError('fromisoformat: argument must be str')
  |         found = _isotime(time_string.removeprefix('T'))
  |         if found is None: raise ValueError(f'Invalid isoformat string: {time_string!r}')
  |         return cls(*found)
  |     def strftime(self, format):
  |         return _shown(self, format, (1900, 1, 1, self._hour, self._minute, self._second, 0, 1))
  |     def __format__(self, fmt):
  |         if not isinstance(fmt, str): raise TypeError('must be str, not %s' % type(fmt).__name__)
  |         return self.strftime(fmt) if fmt else str(self)
  |     def utcoffset(self): return None if self._tzinfo is None else self._tzinfo.utcoffset(None)
  |     def tzname(self): return None if self._tzinfo is None else self._tzinfo.tzname(None)
  |     def dst(self): return None if self._tzinfo is None else self._tzinfo.dst(None)
  |     def replace(self, hour=None, minute=None, second=None, microsecond=None, tzinfo=_missing, *, fold=None):
  |         return type(self)(self._hour if hour is None else hour, self._minute if minute is None else minute,
  |             self._second if second is None else second, self._microsecond if microsecond is None else microsecond,
  |             self._tzinfo if tzinfo is _missing else tzinfo, fold=self._fold if fold is None else fold)
  | time.min, time.max, time.resolution = time(), time(23, 59, 59, 999999), _us
  | class datetime(date):
  |     __kind__ = 'datetime.datetime'
  |     def __new__(cls, year=_missing, month=_missing, day=_missing, hour=0, minute=0, second=0, microsecond=0, tzinfo=None, *, fold=0):
  |         for i, (n, v) in enumerate((('year', year), ('month', month), ('day', day))):
  |             if v is _missing: raise TypeError(f"function missing required argument '{n}' (pos {i + 1})")
  |         self = object.__new__(cls)
  |         self._year, self._month, self._daynumber = _rightday(year, month, day)
  |         self._hour, self._minute, self._second, self._microsecond, self._fold = _righttime(hour, minute, second, microsecond, fold)
  |         _rightzone(tzinfo)
  |         self._tzinfo = tzinfo
  |         return self
  |     hour, minute, second = property(lambda s: s._hour), property(lambda s: s._minute), property(lambda s: s._second)
  |     microsecond, fold, tzinfo = property(lambda s: s._microsecond), property(lambda s: s._fold), property(lambda s: s._tzinfo)
  |     @classmethod
  |     def _fromus(cls, us, tz=None):
  |         s, us = divmod(us, 1000000)
  |         n, s = divmod(s, 86400)
  |         return cls(*_day(n), s // 3600, s // 60 % 60, s % 60, us, tz)
  |     @classmethod
  |     def fromtimestamp(cls, timestamp, tz=None):
  |         _rightzone(tz)
  |         us = _nearest(timestamp * 1000000) if isinstance(timestamp, int) else _stamp(timestamp)
  |         n = us // 86400000000 + _first
  |         if not 1 <= n <= 3652059: raise ValueError(f'year {_parts(us // 86400000000)[0]} is out of range')
  |         found = cls._fromus(us + _first * 86400000000, tz)
  |         return found if tz is None else tz.fromutc(found)
  |     @classmethod
  |     def utcfromtimestamp(cls, t): return cls.fromtimestamp(t)
  |     @classmethod
  |     def now(cls, tz=None): return cls.fromtimestamp(_time.time(), tz)
  |     @classmethod
  |     def utcnow(cls): return cls.fromtimestamp(_time.time())
  |     @classmethod
  |     def combine(cls, date, time, tzinfo=True):
  |         if tzinfo is True: tzinfo = time.tzinfo
  |         return cls(date.year, date.month, date.day, time.hour, time.minute, time.second, time.microsecond, tzinfo, fold=time.fold)
  |     @classmethod
  |     def fromisoformat(cls, date_string):
  |         if not isinstance(date_string, str): raise TypeError('fromisoformat: argument must be str')
  |         wrong = ValueError(f'Invalid isoformat string: {date_string!r}')
  |         size = 10
  |         if date_string[4:5] == 'W' or date_string[4:6] == '-W':
  |             size = next((i for i, c in enumerate(date_string) if c not in '0123456789-W'), len(date_string))
  |             if date_string[size - 1:size] == '-': size -= 1
  |         elif date_string[4:5] != '-': size = 8
  |         day = _isoday(date_string[:size])
  |         if day is None or len(date_string) < 7: raise wrong
  |         rest = date_string[size + 1:]
  |         clock = (0, 0, 0, 0, None)
  |         if len(date_string) > size:
  |             clock = _isotime(rest) if rest else None
  |             if clock is None: raise wrong
  |         return cls(*day, *clock)
  |     @classmethod
  |     def strptime(cls, date_string, format):
  |         for i, arg in enumerate((date_string, format)):
  |             if not isinstance(arg, str): raise TypeError(f'strptime() argument {i + 1} must be str, not {type(arg).__name__}')
  |         parts, us, ahead, more = _time._read(date_string, format)
  |         zone = None if ahead is None else timezone(timedelta(seconds=ahead, microseconds=more))
  |         return cls(*parts[:6], us, zone)
  |     def _clock(self): return (self._hour, self._minute, self._second)
  |     def _local(self): return ((self.toordinal() * 86400) + self._hour * 3600 + self._minute * 60 + self._second) * 1000000 + self._microsecond
  |     def timetuple(self):
  |         dst = self.dst()
  |         return _time.struct_time(self._fields() + (-1 if dst is None else int(bool(dst)),))
  |     def timestamp(self):
  |         off = self.utcoffset()
  |         us = self._local() - _first * 86400000000 - (0 if off is None else off._total)
  |         return us / 1000000
  |     def utctimetuple(self):
  |         off = self.utcoffset()
  |         return _time.struct_time((self - off if off else self)._fields() + (0,))
  |     def date(self): return date(self._year, self._month, self._daynumber)
  |     def time(self): return time(self._hour, self._minute, self._second, self._microsecond, fold=self._fold)
  |     def timetz(self): return time(self._hour, self._minute, self._second, self._microsecond, self._tzinfo, fold=self._fold)
  |     def replace(self, year=None, month=None, day=None, hour=None, minute=None, second=None, microsecond=None, tzinfo=_missing, *,
  |             fold=None):
  |         given = (year, month, day, hour, minute, second, microsecond)
  |         own = (self._year, self._month, self._daynumber, self._hour, self._minute, self._second, self._microsecond)
  |         return type(self)(*[o if g is None else g for g, o in zip(given, own)], self._tzinfo if tzinfo is _missing else tzinfo,
  |             fold=self._fold if fold is None else fold)
  |     def astimezone(self, tz=None):
  |         _rightzone(tz)
  |         if tz is None: tz = timezone._made(timedelta(0), 'UTC')
  |         off = self.utcoffset()
  |         if self._tzinfo is tz: return self
  |         utc = (self if not off else self - off).replace(tzinfo=tz)
  |         return tz.fromutc(utc)
  |     def isoformat(self, sep='T', timespec='auto'):
  |         if not isinstance(sep, str) or len(sep) != 1:
  |             raise TypeError('isoformat() argument 1 must be a unicode character, not ' + type(sep).__name__)
  |         return f'{self._year:04}-{self._month:02}-{self._daynumber:02}{sep}' + \
  |             _clocktext(self._hour, self._minute, self._second, self._microsecond, timespec) + _ahead(self.utcoffset())
  |     def __str__(self): return self.isoformat(' ')
  |     def __repr__(self):
  |         parts = [self._year, self._month, self._daynumber, self._hour, self._minute, self._second, self._microsecond]
  |         while len(parts) > 5 and not parts[-1]: parts.pop()
  |         out = ', '.join(map(str, parts)) + (f', tzinfo={self._tzinfo!r}' if self._tzinfo is not None else '')
  |         return f'{_named(self)}({out}' + (', fold=1)' if self._fold else ')')
  |     def utcoffset(self): return None if self._tzinfo is None else self._tzinfo.utcoffset(self)
  |     def tzname(self): return None if self._tzinfo is None else self._tzinfo.tzname(self)
  |     def dst(self): return None if self._tzinfo is None else self._tzinfo.dst(self)
  |     def _moment(self):
  |         off = self.utcoffset()
  |         return self._local() - (0 if off is None else off._total)
  |     def _cmp(self, other, op):
  |         if not isinstance(other, datetime):
  |             if isinstance(other, date): raise TypeError("can't compare datetime.datetime to datetime.date")
  |             return NotImplemented
  |         if (self.utcoffset() is None) != (other.utcoffset() is None):
  |             raise TypeError("can't compare offset-naive and offset-aware datetimes")
  |         return op(self._moment(), other._moment())
  |     def __eq__(self, other):
  |         if not isinstance(other, datetime): return False if isinstance(other, date) else NotImplemented
  |         return (self.utcoffset() is None) == (other.utcoffset() is None) and self._moment() == other._moment()
  |     def __lt__(self, other): return self._cmp(other, lambda a, b: a < b)
  |     def __le__(self, other): return self._cmp(other, lambda a, b: a <= b)
  |     def __gt__(self, other): return self._cmp(other, lambda a, b: a > b)
  |     def __ge__(self, other): return self._cmp(other, lambda a, b: a >= b)
  |     def __hash__(self): return hash(self._moment())
  |     def __add__(self, other):
  |         if not isinstance(other, timedelta): return NotImplemented
  |         return type(self)._fromus(self._local() + other._total, self._tzinfo)
  |     __radd__ = __add__
  |     def __sub__(self, other):
  |         if isinstance(other, timedelta): return self + -other
  |         if not isinstance(other, datetime): return NotImplemented
  |         if (self.utcoffset() is None) != (other.utcoffset() is None):
  |             raise TypeError("can't subtract offset-naive and offset-aware datetimes")
  |         if self._tzinfo is other._tzinfo: return timedelta._made(self._local() - other._local())
  |         return timedelta._made(self._moment() - other._moment())
  |     def __reduce__(self): return (self.__class__, (self._year, self._month, self._daynumber) + self._clock() + (self._microsecond,))
  | def _stamp(t):
  |     a, b = t.as_integer_ratio()
  |     return _half_even(a * 1000000, b)
  | datetime.min, datetime.max, datetime.resolution = datetime(1, 1, 1), datetime(9999, 12, 31, 23, 59, 59, 999999), _us"# }

/-- the module for months and years as tables -/
def calendarsLibrary : Library :=
  { name := "calendar"
    source := r#"
  | import datetime, sys
  | MONDAY, TUESDAY, WEDNESDAY, THURSDAY, FRIDAY, SATURDAY, SUNDAY = range(7)
  | January, February = 1, 2
  | error = ValueError
  | class IllegalMonthError(ValueError):
  |     def __init__(self, month): self.month = month
  |     def __str__(self): return 'bad month number %r; must be 1-12' % self.month
  | class IllegalWeekdayError(ValueError):
  |     def __init__(self, weekday): self.weekday = weekday
  |     def __str__(self): return 'bad weekday number %r; must be 0 (Monday) to 6 (Sunday)' % self.weekday
  | mdays = [0, 31, 28, 31, 30, 31, 30, 31, 31, 30, 31, 30, 31]
  | day_name = ['Monday', 'Tuesday', 'Wednesday', 'Thursday', 'Friday', 'Saturday', 'Sunday']
  | day_abbr = [n[:3] for n in day_name]
  | month_name = ['', 'January', 'February', 'March', 'April', 'May', 'June', 'July', 'August', 'September', 'October', 'November',
  |     'December']
  | month_abbr = [n[:3] for n in month_name]
  | def isleap(year): return year % 4 == 0 and (year % 100 != 0 or year % 400 == 0)
  | def leapdays(y1, y2):
  |     y1, y2 = y1 - 1, y2 - 1
  |     return (y2 // 4 - y1 // 4) - (y2 // 100 - y1 // 100) + (y2 // 400 - y1 // 400)
  | def weekday(year, month, day):
  |     if not 1 <= year <= 9999: year = 2000 + year % 400
  |     return datetime.date(year, month, day).weekday()
  | def _monthlen(year, month): return mdays[month] + (month == 2 and isleap(year))
  | def monthrange(year, month):
  |     if not 1 <= month <= 12: raise IllegalMonthError(month)
  |     return weekday(year, month, 1), _monthlen(year, month)
  | class Calendar:
  |     def __init__(self, firstweekday=0): self.firstweekday = firstweekday
  |     def getfirstweekday(self): return self._firstweekday % 7
  |     def setfirstweekday(self, firstweekday): self._firstweekday = firstweekday
  |     firstweekday = property(getfirstweekday, setfirstweekday)
  |     def iterweekdays(self):
  |         for i in range(self.firstweekday, self.firstweekday + 7): yield i % 7
  |     def itermonthdates(self, year, month):
  |         for y, m, d in self.itermonthdays3(year, month): yield datetime.date(y, m, d)
  |     def itermonthdays(self, year, month):
  |         first, count = monthrange(year, month)
  |         for _ in range((first - self.firstweekday) % 7): yield 0
  |         yield from range(1, count + 1)
  |         for _ in range((self.firstweekday - first - count) % 7): yield 0
  |     def itermonthdays2(self, year, month):
  |         for i, d in enumerate(self.itermonthdays(year, month), self.firstweekday): yield d, i % 7
  |     def itermonthdays3(self, year, month):
  |         first, count = monthrange(year, month)
  |         before, after = (first - self.firstweekday) % 7, (self.firstweekday - first - count) % 7
  |         y, m = (year - 1, 12) if month == 1 else (year, month - 1)
  |         end = _monthlen(y, m) + 1
  |         for d in range(end - before, end): yield y, m, d
  |         for d in range(1, count + 1): yield year, month, d
  |         y, m = (year + 1, 1) if month == 12 else (year, month + 1)
  |         for d in range(1, after + 1): yield y, m, d
  |     def itermonthdays4(self, year, month):
  |         for i, (y, m, d) in enumerate(self.itermonthdays3(year, month)): yield y, m, d, (self.firstweekday + i) % 7
  |     def _weeks(self, days): return [days[i:i + 7] for i in range(0, len(days), 7)]
  |     def monthdatescalendar(self, year, month): return self._weeks(list(self.itermonthdates(year, month)))
  |     def monthdays2calendar(self, year, month): return self._weeks(list(self.itermonthdays2(year, month)))
  |     def monthdayscalendar(self, year, month): return self._weeks(list(self.itermonthdays(year, month)))
  |     def _year(self, shown, year, width):
  |         months = [shown(year, i) for i in range(1, 13)]
  |         return [months[i:i + width] for i in range(0, 12, width)]
  |     def yeardatescalendar(self, year, width=3): return self._year(self.monthdatescalendar, year, width)
  |     def yeardays2calendar(self, year, width=3): return self._year(self.monthdays2calendar, year, width)
  |     def yeardayscalendar(self, year, width=3): return self._year(self.monthdayscalendar, year, width)
  | class TextCalendar(Calendar):
  |     def prweek(self, theweek, width): print(self.formatweek(theweek, width), end='')
  |     def formatday(self, day, weekday, width): return ('' if day == 0 else '%2i' % day).center(width)
  |     def formatweek(self, theweek, width): return ' '.join(self.formatday(d, wd, width) for d, wd in theweek)
  |     def formatweekday(self, day, width): return (day_name if width >= 9 else day_abbr)[day][:width].center(width)
  |     def formatweekheader(self, width): return ' '.join(self.formatweekday(i, width) for i in self.iterweekdays())
  |     def formatmonthname(self, theyear, themonth, width, withyear=True):
  |         s = month_name[themonth]
  |         return ('%s %r' % (s, theyear) if withyear else s).center(width)
  |     def prmonth(self, theyear, themonth, w=0, l=0): print(self.formatmonth(theyear, themonth, w, l), end='')
  |     def formatmonth(self, theyear, themonth, w=0, l=0):
  |         w, l = max(2, w), max(1, l)
  |         s = self.formatmonthname(theyear, themonth, 7 * (w + 1) - 1).rstrip() + '\n' * l + self.formatweekheader(w).rstrip() + '\n' * l
  |         for week in self.monthdays2calendar(theyear, themonth): s += self.formatweek(week, w).rstrip() + '\n' * l
  |         return s
  |     def formatyear(self, theyear, w=2, l=1, c=6, m=3):
  |         w, l, c = max(2, w), max(1, l), max(2, c)
  |         width = (w + 1) * 7 - 1
  |         v = [repr(theyear).center(width * m + c * (m - 1)).rstrip(), '\n' * l]
  |         header = self.formatweekheader(w)
  |         for i, row in enumerate(self.yeardays2calendar(theyear, m)):
  |             months = range(m * i + 1, min(m * (i + 1) + 1, 13))
  |             v += ['\n' * l, formatstring((self.formatmonthname(theyear, k, width, False) for k in months), width, c).rstrip(),
  |                 '\n' * l, formatstring((header for k in months), width, c).rstrip(), '\n' * l]
  |             for j in range(max(len(cal) for cal in row)):
  |                 weeks = ['' if j >= len(cal) else self.formatweek(cal[j], w) for cal in row]
  |                 v += [formatstring(weeks, width, c).rstrip(), '\n' * l]
  |         return ''.join(v)
  |     def pryear(self, theyear, w=0, l=0, c=6, m=3): print(self.formatyear(theyear, w, l, c, m), end='')
  | class HTMLCalendar(Calendar):
  |     cssclasses = ['mon', 'tue', 'wed', 'thu', 'fri', 'sat', 'sun']
  |     cssclasses_weekday_head = cssclasses
  |     cssclass_noday, cssclass_month_head, cssclass_month, cssclass_year_head, cssclass_year = 'noday', 'month', 'month', 'year', 'year'
  |     def formatday(self, day, weekday):
  |         if day == 0: return '<td class="%s">&nbsp;</td>' % self.cssclass_noday
  |         return '<td class="%s">%d</td>' % (self.cssclasses[weekday], day)
  |     def formatweek(self, theweek): return '<tr>%s</tr>' % ''.join(self.formatday(d, wd) for d, wd in theweek)
  |     def formatweekday(self, day): return '<th class="%s">%s</th>' % (self.cssclasses_weekday_head[day], day_abbr[day])
  |     def formatweekheader(self): return '<tr>%s</tr>' % ''.join(self.formatweekday(i) for i in self.iterweekdays())
  |     def formatmonthname(self, theyear, themonth, withyear=True):
  |         s = '%s %s' % (month_name[themonth], theyear) if withyear else '%s' % month_name[themonth]
  |         return '<tr><th colspan="7" class="%s">%s</th></tr>' % (self.cssclass_month_head, s)
  |     def formatmonth(self, theyear, themonth, withyear=True):
  |         v = ['<table border="0" cellpadding="0" cellspacing="0" class="%s">' % self.cssclass_month,
  |             self.formatmonthname(theyear, themonth, withyear=withyear), self.formatweekheader()]
  |         v += [self.formatweek(week) for week in self.monthdays2calendar(theyear, themonth)] + ['</table>', '']
  |         return '\n'.join(v)
  | def formatstring(cols, colwidth=20, spacing=6): return (' ' * spacing).join(c.center(colwidth) for c in cols)
  | def format(cols, colwidth=20, spacing=6): print(formatstring(cols, colwidth, spacing))
  | c = TextCalendar()
  | firstweekday = c.getfirstweekday
  | def setfirstweekday(firstweekday):
  |     if not 0 <= firstweekday <= 6: raise IllegalWeekdayError(firstweekday)
  |     c.firstweekday = firstweekday
  | monthcalendar, prweek, week, weekheader, prmonth, month = c.monthdayscalendar, c.prweek, c.formatweek, c.formatweekheader, \
  |     c.prmonth, c.formatmonth
  | calendar, prcal = c.formatyear, c.pryear
  | EPOCH = 1970
  | def timegm(tuple):
  |     year, month, day, hour, minute, second = tuple[:6]
  |     days = datetime.date(year, month, 1).toordinal() - 719163 + day - 1
  |     return ((days * 24 + hour) * 60 + minute) * 60 + second"# }

/-- modules for moments, days and spans of time -/
def momentsLibraries : List Library :=
  [clockLibrary, daysLibrary, calendarsLibrary]

end IncludeAudit.Offside
