/-
Modules for values written as text and read again.

- `documentsLibraries`: the modules.
-/
import IncludeAudit.Offside.Library.Exchange

namespace IncludeAudit.Offside

/-- the module for values as text -/
def exchangeLibrary : Library :=
  { name := "json"
    file := "/usr/lib/python3.11/json/__init__.py"
    source := r#"
  | import codecs
  | from json.decoder import JSONDecoder, JSONDecodeError
  | from json.encoder import JSONEncoder
  | __all__ = ['dump', 'dumps', 'load', 'loads', 'JSONDecoder', 'JSONDecodeError', 'JSONEncoder']
  | _default_encoder = JSONEncoder()
  | _default_decoder = JSONDecoder()
  | def _encoder(skipkeys, ensure_ascii, check_circular, allow_nan, cls, indent, separators, default, sort_keys, kw):
  |     return (JSONEncoder if cls is None else cls)(skipkeys=skipkeys, ensure_ascii=ensure_ascii, check_circular=check_circular,
  |         allow_nan=allow_nan, indent=indent, separators=separators, default=default, sort_keys=sort_keys, **kw)
  | def dump(obj, fp, *, skipkeys=False, ensure_ascii=True, check_circular=True, allow_nan=True, cls=None, indent=None,
  |         separators=None, default=None, sort_keys=False, **kw):
  |     encoder = _encoder(skipkeys, ensure_ascii, check_circular, allow_nan, cls, indent, separators, default, sort_keys, kw)
  |     iterable = encoder.iterencode(obj)
  |     for chunk in iterable:  #@179
  |         fp.write(chunk)
  | def dumps(obj, *, skipkeys=False, ensure_ascii=True, check_circular=True, allow_nan=True, cls=None, indent=None,
  |         separators=None, default=None, sort_keys=False, **kw):
  |     if not skipkeys and ensure_ascii and check_circular and allow_nan and cls is None and indent is None and \
  |             separators is None and default is None and not sort_keys and not kw:
  |         return _default_encoder.encode(obj)  #@231
  |     if cls is None: cls = JSONEncoder
  |     return cls(
  |         skipkeys=skipkeys, ensure_ascii=ensure_ascii, check_circular=check_circular, allow_nan=allow_nan, indent=indent,
  |         separators=separators, default=default, sort_keys=sort_keys,
  |         **kw).encode(obj)  #@238
  | def detect_encoding(b):
  |     if b.startswith((codecs.BOM_UTF32_BE, codecs.BOM_UTF32_LE)): return 'utf-32'
  |     if b.startswith((codecs.BOM_UTF16_BE, codecs.BOM_UTF16_LE)): return 'utf-16'
  |     if b.startswith(codecs.BOM_UTF8): return 'utf-8-sig'
  |     if len(b) >= 4:
  |         if not b[0]: return 'utf-16-be' if b[1] else 'utf-32-be'
  |         if not b[1]: return 'utf-16-le' if b[2] or b[3] else 'utf-32-le'
  |     elif len(b) == 2:
  |         if not b[0]: return 'utf-16-be'
  |         if not b[1]: return 'utf-16-le'
  |     return 'utf-8'
  | def load(fp, *, cls=None, object_hook=None, parse_float=None, parse_int=None, parse_constant=None, object_pairs_hook=None, **kw):
  |     return loads(fp.read(),  #@293
  |         cls=cls, object_hook=object_hook, parse_float=parse_float, parse_int=parse_int, parse_constant=parse_constant,
  |         object_pairs_hook=object_pairs_hook, **kw)
  | def loads(s, *, cls=None, object_hook=None, parse_float=None, parse_int=None, parse_constant=None, object_pairs_hook=None, **kw):
  |     if isinstance(s, str):
  |         if s.startswith('\ufeff'):
  |             raise JSONDecodeError("Unexpected UTF-8 BOM (decode using utf-8-sig)",  #@335
  |                 s, 0)
  |     else:
  |         if not isinstance(s, (bytes, bytearray)):
  |             raise TypeError(f'the JSON object must be str, bytes or bytearray, '  #@339
  |                 f'not {s.__class__.__name__}')
  |         s = s.decode(detect_encoding(s), 'surrogatepass')  #@341
  |     if cls is None and object_hook is None and parse_int is None and parse_float is None and parse_constant is None and \
  |             object_pairs_hook is None and not kw:
  |         return _default_decoder.decode(s)  #@346
  |     if cls is None: cls = JSONDecoder
  |     if object_hook is not None: kw['object_hook'] = object_hook
  |     if object_pairs_hook is not None: kw['object_pairs_hook'] = object_pairs_hook
  |     if parse_float is not None: kw['parse_float'] = parse_float
  |     if parse_int is not None: kw['parse_int'] = parse_int
  |     if parse_constant is not None: kw['parse_constant'] = parse_constant
  |     return cls(**kw).decode(s)  #@359"# }

/-- the module for values read from text -/
def exchangeReadingLibrary : Library :=
  { name := "json.decoder"
    functions := "read"
    run := Exchange.function
    file := "/usr/lib/python3.11/json/decoder.py"
    source := r#"
  | __all__ = ['JSONDecoder', 'JSONDecodeError']
  | class JSONDecodeError(ValueError):
  |     def __init__(self, msg, doc, pos):
  |         lineno = doc.count('\n', 0, pos) + 1
  |         colno = pos - doc.rfind('\n', 0, pos)
  |         ValueError.__init__(self, '%s: line %d column %d (char %d)' % (msg, lineno, colno, pos))
  |         self.msg, self.doc, self.pos, self.lineno, self.colno = msg, doc, pos, lineno, colno
  |     def __reduce__(self): return self.__class__, (self.msg, self.doc, self.pos)
  | def _behind(s, place):
  |     while place < len(s) and s[place] in ' \t\n\r': place += 1
  |     return place
  | class JSONDecoder:
  |     def __init__(self, *, object_hook=None, parse_float=None, parse_int=None, parse_constant=None, strict=True,
  |             object_pairs_hook=None):
  |         self.object_hook, self.parse_float, self.parse_int = object_hook, parse_float or float, parse_int or int
  |         self.parse_constant, self.strict, self.object_pairs_hook = parse_constant, strict, object_pairs_hook
  |         self._number = parse_float, parse_int
  |     def scan_once(self, s, idx):
  |         found = read(s, idx, self.strict, self.object_hook, self.object_pairs_hook, self._number[0], self._number[1],
  |             self.parse_constant)
  |         if found[0] is True: return found[1:]
  |         if found[0] is None: raise StopIteration(found[1])
  |         raise JSONDecodeError(found[0], s, found[1])
  |     def decode(self, s):
  |         obj, end = self.raw_decode(s, idx=_w(s, 0).end())  #@337
  |         end = _behind(s, end)
  |         if end != len(s):
  |             raise JSONDecodeError("Extra data", s, end)  #@340
  |         return obj
  |     def raw_decode(self, s, idx=0):
  |         try:
  |             obj, end = self.scan_once(s, idx)  #@353
  |         except StopIteration as err:
  |             raise JSONDecodeError("Expecting value", s, err.value) from None  #@355
  |         return obj, end
  | class _w:
  |     def __init__(self, s, place): self.place = _behind(s, place)
  |     def end(self): return self.place"# }

/-- the module for values written as text -/
def exchangeWritingLibrary : Library :=
  { name := "json.encoder"
    functions := "write quoted"
    run := Exchange.function
    file := "/usr/lib/python3.11/json/encoder.py"
    source := r#"
  | __all__ = ['JSONEncoder']
  | def encode_basestring(s): return quoted(s, False)
  | def encode_basestring_ascii(s): return quoted(s, True)
  | class JSONEncoder:
  |     item_separator, key_separator = ', ', ': '
  |     def __init__(self, *, skipkeys=False, ensure_ascii=True, check_circular=True, allow_nan=True, sort_keys=False, indent=None,
  |             separators=None, default=None):
  |         self.skipkeys, self.ensure_ascii, self.check_circular, self.allow_nan = skipkeys, ensure_ascii, check_circular, allow_nan
  |         self.sort_keys, self.indent = sort_keys, indent
  |         if separators is not None: self.item_separator, self.key_separator = separators
  |         elif indent is not None: self.item_separator = ','
  |         if default is not None: self.default = default
  |     def default(self, o):
  |         raise TypeError(f'Object of type {o.__class__.__name__} '  #@180
  |             f'is not JSON serializable')
  |     def encode(self, o):
  |         if isinstance(o, str): return quoted(o, self.ensure_ascii)
  |         chunks = self.iterencode(o, _one_shot=True)  #@200
  |         if not isinstance(chunks, (list, tuple)):
  |             chunks = list(chunks)  #@202
  |         return ''.join(chunks)
  |     def iterencode(self, o, _one_shot=False):
  |         _iterencode = self._whole if _one_shot and self.indent is None else _parts(self)
  |         return _iterencode(o, 0)  #@258
  |     def _whole(self, o, depth):
  |         return [write(o, self.skipkeys, self.ensure_ascii, self.check_circular, self.allow_nan, None, self.item_separator,
  |             self.key_separator, self.sort_keys, self.default)]
  | def _parts(own):
  |     markers = {} if own.check_circular else None
  |     ascii, _indent, _default = own.ensure_ascii, own.indent, own.default
  |     if _indent is not None and not isinstance(_indent, str): _indent = ' ' * _indent
  |     def _floatstr(o):
  |         if o != o: text = 'NaN'
  |         elif o in (float('inf'), -float('inf')): text = 'Infinity' if o > 0 else '-Infinity'
  |         else: return float.__repr__(o)
  |         if not own.allow_nan:
  |             raise ValueError(  #@239
  |                 "Out of range float values are not JSON compliant: " +
  |                 repr(o))
  |         return text
  |     def plain(o):
  |         if isinstance(o, str): return quoted(o, ascii)
  |         if o is None: return 'null'
  |         if o is True: return 'true'
  |         if o is False: return 'false'
  |         if isinstance(o, int): return int.__repr__(o)
  |         if isinstance(o, float): return _floatstr(o)
  |     def entered(o):
  |         if markers is None: return
  |         if id(o) in markers: return True
  |         markers[id(o)] = o
  |     def left(o):
  |         if markers is not None: del markers[id(o)]
  |     def _iterencode_list(lst, _current_indent_level):
  |         if not lst:
  |             yield '[]'
  |             return
  |         if entered(lst):
  |             raise ValueError("Circular reference detected")  #@291
  |         line, separator = '', own.item_separator
  |         if _indent is not None:
  |             line = '\n' + _indent * (_current_indent_level + 1)
  |             separator += line
  |         buf = '[' + line
  |         for value in lst:
  |             text = plain(value)
  |             if text is not None:
  |                 yield buf + text
  |             else:
  |                 yield buf
  |                 if isinstance(value, (list, tuple)): chunks = _iterencode_list(value, _current_indent_level + (_indent is not None))
  |                 elif isinstance(value, dict): chunks = _iterencode_dict(value, _current_indent_level + (_indent is not None))
  |                 else: chunks = _iterencode(value, _current_indent_level + (_indent is not None))
  |                 yield from chunks  #@326
  |             buf = separator
  |         if _indent is not None: yield '\n' + _indent * _current_indent_level
  |         yield ']'
  |         left(lst)
  |     def _iterencode_dict(dct, _current_indent_level):
  |         if not dct:
  |             yield '{}'
  |             return
  |         if entered(dct):
  |             raise ValueError("Circular reference detected")  #@340
  |         yield '{'
  |         item_separator = own.item_separator
  |         if _indent is not None:
  |             line = '\n' + _indent * (_current_indent_level + 1)
  |             item_separator += line
  |             yield line
  |         first = True
  |         if own.sort_keys:
  |             items = sorted(dct.items())  #@354
  |         else:
  |             items = dct.items()
  |         for key, value in items:
  |             if isinstance(key, str): pass
  |             elif isinstance(key, float): key = _floatstr(key)
  |             elif key is None or isinstance(key, int): key = plain(key)
  |             elif own.skipkeys: continue
  |             else:
  |                 raise TypeError(f'keys must be str, int, float, bool or None, '  #@377
  |                     f'not {key.__class__.__name__}')
  |             if not first: yield item_separator
  |             first = False
  |             yield quoted(key, ascii)
  |             yield own.key_separator
  |             text = plain(value)
  |             if text is not None:
  |                 yield text
  |             else:
  |                 if isinstance(value, (list, tuple)): chunks = _iterencode_list(value, _current_indent_level + (_indent is not None))
  |                 elif isinstance(value, dict): chunks = _iterencode_dict(value, _current_indent_level + (_indent is not None))
  |                 else: chunks = _iterencode(value, _current_indent_level + (_indent is not None))
  |                 yield from chunks  #@406
  |         if _indent is not None: yield '\n' + _indent * _current_indent_level
  |         yield '}'
  |         left(dct)
  |     def _iterencode(o, _current_indent_level):
  |         text = plain(o)
  |         if text is not None:
  |             yield text
  |         elif isinstance(o, (list, tuple)):
  |             yield from _iterencode_list(o, _current_indent_level)  #@430
  |         elif isinstance(o, dict):
  |             yield from _iterencode_dict(o, _current_indent_level)  #@432
  |         else:
  |             if entered(o):
  |                 raise ValueError("Circular reference detected")  #@437
  |             given = o
  |             o = _default(o)  #@439
  |             yield from _iterencode(o, _current_indent_level)  #@440
  |             left(given)
  |     return _iterencode"# }

/-- the module for the reading of values, by its second name -/
def exchangeScanningLibrary : Library :=
  { name := "json.scanner"
    source := r#"
  | def make_scanner(context): return context.scan_once"# }

/-- the module for a tool that writes values anew -/
def exchangeToolLibrary : Library :=
  { name := "json.tool"
    file := "/usr/lib/python3.11/json/tool.py"
    source := r#"
  | import argparse, json, sys
  | from pathlib import Path
  | def main():
  |     parser = argparse.ArgumentParser(prog='python -m json.tool', description='A simple command line interface for json module '
  |         'to validate and pretty-print JSON objects.')
  |     add = parser.add_argument
  |     add('infile', nargs='?', type=argparse.FileType(encoding='utf-8'), help='a JSON file to be validated or pretty-printed',
  |         default=sys.stdin)
  |     add('outfile', nargs='?', type=Path, help='write the output of infile to outfile', default=None)
  |     add('--sort-keys', action='store_true', default=False, help='sort the output of dictionaries alphabetically by key')
  |     add('--no-ensure-ascii', dest='ensure_ascii', action='store_false', help='disable escaping of non-ASCII characters')
  |     add('--json-lines', action='store_true', default=False, help='parse input using the JSON Lines format. '
  |         'Use with --no-indent or --compact to produce valid JSON Lines output.')
  |     add = parser.add_mutually_exclusive_group().add_argument
  |     add('--indent', default=4, type=int, help='separate items with newlines and use this number of spaces for indentation')
  |     add('--tab', action='store_const', dest='indent', const='\t', help='separate items with newlines and use tabs for indentation')
  |     add('--no-indent', action='store_const', dest='indent', const=None, help='separate items with spaces rather than newlines')
  |     add('--compact', action='store_true', help='suppress all whitespace separation (most compact)')
  |     options = parser.parse_args()
  |     style = {'sort_keys': options.sort_keys, 'indent': options.indent, 'ensure_ascii': options.ensure_ascii}
  |     if options.compact: style.update(indent=None, separators=(',', ':'))
  |     with options.infile as infile:
  |         try:
  |             objs = (json.loads(line) for line in infile) if options.json_lines else (json.load(infile),)
  |             out = sys.stdout if options.outfile is None else options.outfile.open('w', encoding='utf-8')
  |             with out as outfile:
  |                 for obj in objs:
  |                     json.dump(obj, outfile, **style)
  |                     outfile.write('\n')
  |         except ValueError as e: raise SystemExit(e)
  | if __name__ == '__main__': main()"# }

/-- the module for rows of cells -/
def tablesLibrary : Library :=
  { name := "csv"
    file := "/usr/lib/python3.11/csv.py"
    source := r#"
  | QUOTE_MINIMAL, QUOTE_ALL, QUOTE_NONNUMERIC, QUOTE_NONE = 0, 1, 2, 3
  | __all__ = ['QUOTE_MINIMAL', 'QUOTE_ALL', 'QUOTE_NONNUMERIC', 'QUOTE_NONE', 'Error', 'Dialect', 'excel', 'excel_tab',
  |     'field_size_limit', 'reader', 'writer', 'register_dialect', 'get_dialect', 'list_dialects', 'Sniffer', 'unregister_dialect',
  |     'DictReader', 'DictWriter', 'unix_dialect']
  | class Error(Exception): __module__ = '_csv'
  | class Dialect:
  |     _name, _valid = '', False
  |     delimiter = quotechar = escapechar = doublequote = skipinitialspace = lineterminator = quoting = None
  |     def __init__(self):
  |         try: _Style(self, {})
  |         except TypeError as e: raise Error(str(e))
  | class excel(Dialect):
  |     delimiter, quotechar, doublequote, skipinitialspace, lineterminator, quoting = ',', '"', True, False, '\r\n', QUOTE_MINIMAL
  | class excel_tab(excel): delimiter = '\t'
  | class unix_dialect(Dialect):
  |     delimiter, quotechar, doublequote, skipinitialspace, lineterminator, quoting = ',', '"', True, False, '\n', QUOTE_ALL
  | _usual = dict(delimiter=',', quotechar='"', escapechar=None, doublequote=True, skipinitialspace=False, lineterminator='\r\n',
  |     quoting=QUOTE_MINIMAL, strict=False)
  | class _Style:
  |     def __init__(self, dialect, more):
  |         for name in more:
  |             if name not in _usual: raise TypeError(f"'{name}' is an invalid keyword argument for this function")
  |         for name, usual in _usual.items():
  |             found = more.get(name, getattr(dialect, name, None) if dialect is not None else None)
  |             if found is None and not (name in more and name in ('quotechar', 'escapechar')): found = usual
  |             if name == 'quotechar' and dialect is not None and name not in more and getattr(dialect, name, '"') is None: found = None
  |             setattr(self, name, found)
  |         for name in ('delimiter', 'escapechar', 'quotechar'):
  |             c = getattr(self, name)
  |             if c is None and name != 'delimiter': continue
  |             if not isinstance(c, str): raise TypeError(f'"{name}" must be string, not {type(c).__name__}' if name == 'delimiter'
  |                 else f'"{name}" must be string or None, not {type(c).__name__}')
  |             if len(c) != 1: raise TypeError(f'"{name}" must be a 1-character string')
  |         if not isinstance(self.quoting, int): raise TypeError('"quoting" must be an integer')
  |         if not 0 <= self.quoting <= 3: raise TypeError('bad "quoting" value')
  |         if self.quotechar is None and self.quoting != QUOTE_NONE:
  |             if 'quoting' in more: raise TypeError('quotechar must be set if quoting enabled')
  |             self.quoting = QUOTE_NONE
  |         if self.lineterminator is None: raise TypeError('lineterminator must be set')
  | _dialects = {}
  | def register_dialect(name, dialect=None, **more):
  |     if not isinstance(name, str): raise TypeError('dialect name must be a string')
  |     _dialects[name] = _Style(_dialects[dialect] if isinstance(dialect, str) else dialect, more)
  | def unregister_dialect(name):
  |     if name not in _dialects: raise Error('unknown dialect')
  |     del _dialects[name]
  | def get_dialect(name):
  |     if name not in _dialects: raise Error('unknown dialect')
  |     return _dialects[name]
  | def list_dialects(): return list(_dialects)
  | register_dialect('excel', excel)
  | register_dialect('excel-tab', excel_tab)
  | register_dialect('unix', unix_dialect)
  | _limit = 131072
  | def field_size_limit(*new):
  |     global _limit
  |     old = _limit
  |     if new:
  |         if not isinstance(new[0], int): raise TypeError('limit must be an integer')
  |         _limit = new[0]
  |     return old
  | def _style(dialect, more):
  |     return _Style(get_dialect(dialect) if isinstance(dialect, str) else dialect, more)
  | class reader:
  |     def __init__(self, iterable, /, dialect=None, **more):
  |         self._rows, self.dialect, self.line_num = iter(iterable), _style(dialect, more), 0
  |     def __iter__(self): return self
  |     def __next__(self):
  |         d, fields, field, state, numeric = self.dialect, [], [], 'start', False
  |         def save():
  |             nonlocal field, numeric
  |             text = ''.join(field)
  |             fields.append(float(text) if numeric else text)
  |             field, numeric = [], False
  |         while True:
  |             try: line = next(self._rows)
  |             except StopIteration:
  |                 if field or state in ('quoted', 'escaped quoted'):
  |                     if d.strict: raise Error('unexpected end of data')
  |                     save()
  |                     return fields
  |                 raise
  |             if not isinstance(line, str):
  |                 raise Error(f'iterator should return strings, not {type(line).__name__} (the file should be opened in text mode)')
  |             self.line_num += 1
  |             for c in line + '\0':
  |                 end = c == '\0'
  |                 if state == 'start':
  |                     if end: continue
  |                     if c in '\r\n':
  |                         state = 'eaten'
  |                         continue
  |                     state = 'field start'
  |                 if state == 'field start':
  |                     if c in '\r\n\0':
  |                         save()
  |                         state = 'start' if end else 'eaten'
  |                     elif c == d.quotechar and d.quoting != QUOTE_NONE: state = 'quoted'
  |                     elif c == d.escapechar: state = 'escaped'
  |                     elif c == ' ' and d.skipinitialspace: pass
  |                     elif c == d.delimiter: save()
  |                     else:
  |                         if d.quoting == QUOTE_NONNUMERIC: numeric = True
  |                         field.append(c)
  |                         state = 'field'
  |                 elif state == 'escaped':
  |                     if end: c = '\n'
  |                     field.append(c)
  |                     state = 'field'
  |                     if end: state = 'after escape'
  |                 elif state in ('field', 'after escape'):
  |                     if state == 'after escape' and end: continue
  |                     if c in '\r\n\0':
  |                         save()
  |                         state = 'start' if end else 'eaten'
  |                     elif c == d.escapechar: state = 'escaped'
  |                     elif c == d.delimiter:
  |                         save()
  |                         state = 'field start'
  |                     else:
  |                         field.append(c)
  |                         state = 'field'
  |                 elif state == 'quoted':
  |                     if end: pass
  |                     elif c == d.escapechar: state = 'escaped quoted'
  |                     elif c == d.quotechar and d.quoting != QUOTE_NONE: state = 'quote' if d.doublequote else 'field'
  |                     else: field.append(c)
  |                 elif state == 'escaped quoted':
  |                     field.append('\n' if end else c)
  |                     state = 'quoted'
  |                 elif state == 'quote':
  |                     if d.quoting != QUOTE_NONE and c == d.quotechar:
  |                         field.append(c)
  |                         state = 'quoted'
  |                     elif c == d.delimiter:
  |                         save()
  |                         state = 'field start'
  |                     elif c in '\r\n\0':
  |                         save()
  |                         state = 'start' if end else 'eaten'
  |                     elif not d.strict:
  |                         field.append(c)
  |                         state = 'field'
  |                     else: raise Error(f"'{d.delimiter}' expected after '{d.quotechar}'")
  |                 elif state == 'eaten':
  |                     if c in '\r\n': pass
  |                     elif end: state = 'start'
  |                     else:
  |                         raise Error("new-line character seen in unquoted field - do you need to open the file with newline=''?")
  |                 if len(field) > _limit: raise Error(f'field larger than field limit ({_limit})')
  |             if state == 'start': return fields
  | class writer:
  |     def __init__(self, fileobj, /, dialect=None, **more):
  |         if not hasattr(fileobj, 'write'): raise TypeError('argument 1 must have a "write" method')
  |         self._write, self.dialect = fileobj.write, _style(dialect, more)
  |     def writerow(self, row, /):
  |         try: row = list(row)
  |         except TypeError: raise Error(f'iterable expected, not {type(row).__name__}') from None
  |         d, out = self.dialect, []
  |         special = {d.delimiter, d.escapechar, d.quotechar, '\r', '\n'} | set(d.lineterminator)
  |         for v in row:
  |             text = v if isinstance(v, str) else '' if v is None else repr(v) if isinstance(v, float) else str(v)
  |             quoted = d.quoting == QUOTE_ALL or d.quoting == QUOTE_NONNUMERIC and not isinstance(v, (int, float))
  |             parts = []
  |             for c in text:
  |                 if c in special:
  |                     escape = False
  |                     if d.quoting == QUOTE_NONE: escape = True
  |                     elif c == d.quotechar:
  |                         if d.doublequote: parts.append(d.quotechar)
  |                         else: escape = True
  |                     elif c == d.escapechar: escape = True
  |                     if not escape: quoted = True
  |                     else:
  |                         if d.escapechar is None: raise Error('need to escape, but no escapechar set')
  |                         parts.append(d.escapechar)
  |                 parts.append(c)
  |             if not text and len(row) == 1:
  |                 if d.quoting == QUOTE_NONE: raise Error('single empty field record must be quoted')
  |                 quoted = True
  |             text = ''.join(parts)
  |             out.append(d.quotechar + text + d.quotechar if quoted else text)
  |         return self._write(d.delimiter.join(out) + d.lineterminator)
  |     def writerows(self, rows, /):
  |         for row in rows: self.writerow(row)
  | class DictReader:
  |     def __init__(self, f, fieldnames=None, restkey=None, restval=None, dialect='excel', *args, **kwds):
  |         self._fieldnames = list(fieldnames) if fieldnames is not None and iter(fieldnames) is fieldnames else fieldnames
  |         self.restkey, self.restval, self.dialect, self.line_num = restkey, restval, dialect, 0
  |         self.reader = reader(f, dialect, *args, **kwds)
  |     def __iter__(self): return self
  |     @property
  |     def fieldnames(self):
  |         if self._fieldnames is None:
  |             try: self._fieldnames = next(self.reader)
  |             except StopIteration: pass
  |         self.line_num = self.reader.line_num
  |         return self._fieldnames
  |     @fieldnames.setter
  |     def fieldnames(self, value): self._fieldnames = value
  |     def __next__(self):
  |         if self.line_num == 0: self.fieldnames
  |         row = next(self.reader)
  |         self.line_num = self.reader.line_num
  |         while row == []: row = next(self.reader)
  |         found = dict(zip(self.fieldnames, row))
  |         n = len(self.fieldnames)
  |         if n < len(row): found[self.restkey] = row[n:]
  |         for key in self.fieldnames[len(row):]: found[key] = self.restval
  |         return found
  | class DictWriter:
  |     def __init__(self, f, fieldnames, restval='', extrasaction='raise', dialect='excel', *args, **kwds):
  |         self.fieldnames = list(fieldnames) if iter(fieldnames) is fieldnames else fieldnames
  |         self.restval, self.extrasaction = restval, extrasaction
  |         if extrasaction.lower() not in ('raise', 'ignore'):
  |             raise ValueError("extrasaction (%s) must be 'raise' or 'ignore'" % extrasaction)
  |         self.writer = writer(f, dialect, *args, **kwds)
  |     def writeheader(self): return self.writerow(dict(zip(self.fieldnames, self.fieldnames)))
  |     def _row(self, rowdict):
  |         if self.extrasaction == 'raise':
  |             wrong = rowdict.keys() - self.fieldnames
  |             if wrong: raise ValueError('dict contains fields not in fieldnames: ' + ', '.join([repr(x) for x in wrong]))
  |         return [rowdict.get(key, self.restval) for key in self.fieldnames]
  |     def writerow(self, rowdict): return self.writer.writerow(self._row(rowdict))
  |     def writerows(self, rowdicts): return self.writer.writerows(map(self._row, rowdicts))
  | class Sniffer:
  |     preferred = [',', '\t', ';', ' ', ':']
  |     def sniff(self, sample, delimiters=None):
  |         lines = [l for l in sample.splitlines() if l]
  |         best = None
  |         for c in delimiters or self.preferred + ['|']:
  |             counts = {l.count(c) for l in lines}
  |             if len(counts) == 1 and counts != {0}:
  |                 best = c
  |                 break
  |         if best is None: raise Error('Could not determine delimiter')
  |         space = all((best + ' ') in l for l in lines)
  |         class dialect(Dialect):
  |             _name, lineterminator, quoting = 'sniffed', '\r\n', QUOTE_MINIMAL
  |         dialect.delimiter, dialect.quotechar, dialect.doublequote, dialect.skipinitialspace = best, '"', False, space
  |         return dialect
  |     def has_header(self, sample):
  |         import io
  |         rows = list(reader(io.StringIO(sample), self.sniff(sample)))
  |         def number(t):
  |             try: complex(t)
  |             except ValueError: return False
  |             return True
  |         head, votes = rows[0], 0
  |         for i in range(len(head)):
  |             column = [r[i] for r in rows[1:21] if len(r) == len(head)]
  |             if column and all(map(number, column)): votes += -1 if number(head[i]) else 1
  |             elif column and len({len(x) for x in column}) == 1: votes += 1 if len(head[i]) != len(column[0]) else -1
  |         return votes > 0"# }

/-- modules for values written as text and read again -/
def documentsLibraries : List Library :=
  [exchangeLibrary, exchangeReadingLibrary, exchangeWritingLibrary, exchangeScanningLibrary, exchangeToolLibrary,
   tablesLibrary]

end IncludeAudit.Offside
