/-
Modules for the languages that people and programs speak.

- `languagesLibraries`: the modules.
-/
import IncludeAudit.Offside.Library.Basic

namespace IncludeAudit.Offside

/-- the module for words with a meaning of their own -/
def reservedLibrary : Library :=
  { name := "keyword"
    source := r#"
  | kwlist = ['False', 'None', 'True', 'and', 'as', 'assert', 'async', 'await', 'break', 'class', 'continue', 'def', 'del', 'elif',
  |     'else', 'except', 'finally', 'for', 'from', 'global', 'if', 'import', 'in', 'is', 'lambda', 'nonlocal', 'not', 'or', 'pass',
  |     'raise', 'return', 'try', 'while', 'with', 'yield']
  | softkwlist = ['_', 'case', 'match']
  | iskeyword, issoftkeyword = frozenset(kwlist).__contains__, frozenset(softkwlist).__contains__"# }

/-- the module for values that sources are -/
def literalsLibrary : Library :=
  { name := "ast"
    source := r#"
  | import _ground
  | def literal_eval(node_or_string):
  |     if not isinstance(node_or_string, str):
  |         raise ValueError(f'malformed node or string: {node_or_string!r}')
  |     text = node_or_string.lstrip(' \t')
  |     compile(text, '<unknown>', 'eval')
  |     return _ground.literal(text)"# }

/-- the module for messages in other languages -/
def messagesLibrary : Library :=
  { name := "gettext"
    source := r#"
  | class NullTranslations:
  |     def __init__(self, fp=None): self._fallback = None
  |     def gettext(self, message): return message
  |     def ngettext(self, msgid1, msgid2, n): return msgid1 if n == 1 else msgid2
  |     def pgettext(self, context, message): return message
  |     def npgettext(self, context, msgid1, msgid2, n): return msgid1 if n == 1 else msgid2
  |     def add_fallback(self, fallback): self._fallback = fallback
  |     def info(self): return {}
  |     def charset(self): return None
  |     def install(self, names=None):
  |         import builtins
  |         builtins.__dict__['_'] = self.gettext
  | class GNUTranslations(NullTranslations): pass
  | _domain = 'messages'
  | def find(domain, localedir=None, languages=None, all=False): return [] if all else None
  | def translation(domain, localedir=None, languages=None, class_=None, fallback=False):
  |     if fallback: return NullTranslations()
  |     raise FileNotFoundError(2, 'No translation file found for domain', domain)
  | def install(domain, localedir=None, *, names=None): NullTranslations().install(names)
  | def textdomain(domain=None):
  |     global _domain
  |     if domain is not None: _domain = domain
  |     return _domain
  | def bindtextdomain(domain, localedir=None): return localedir or '/usr/share/locale'
  | def gettext(message): return message
  | def dgettext(domain, message): return message
  | def ngettext(msgid1, msgid2, n): return msgid1 if n == 1 else msgid2
  | def dngettext(domain, msgid1, msgid2, n): return msgid1 if n == 1 else msgid2
  | def pgettext(context, message): return message
  | def npgettext(context, msgid1, msgid2, n): return msgid1 if n == 1 else msgid2"# }

/-- the module for the customs of a place -/
def customsLibrary : Library :=
  { name := "locale"
    source := r#"
  | LC_CTYPE, LC_NUMERIC, LC_TIME, LC_COLLATE, LC_MONETARY, LC_MESSAGES, LC_ALL, CHAR_MAX = 0, 1, 2, 3, 4, 5, 6, 127
  | CODESET = 14
  | class Error(Exception): pass
  | def setlocale(category, locale=None):
  |     if isinstance(locale, tuple): locale = '.'.join(x for x in locale if x)
  |     if locale in (None, '', 'C', 'POSIX', 'C.UTF-8', 'C.utf8'): return 'C' if not locale or locale == 'POSIX' else locale
  |     raise Error('unsupported locale setting')
  | def getlocale(category=LC_CTYPE): return ('en_US', 'UTF-8') if category == 0 else (None, None)
  | def getdefaultlocale(envvars=()): return (None, None)
  | def getpreferredencoding(do_setlocale=True): return 'utf-8'
  | def getencoding(): return 'UTF-8'
  | def nl_langinfo(key): return 'UTF-8' if key == CODESET else ''
  | def localeconv():
  |     return {'int_curr_symbol': '', 'currency_symbol': '', 'mon_decimal_point': '', 'mon_thousands_sep': '', 'mon_grouping': [],
  |         'positive_sign': '', 'negative_sign': '', 'int_frac_digits': 127, 'frac_digits': 127, 'p_cs_precedes': 127,
  |         'p_sep_by_space': 127, 'n_cs_precedes': 127, 'n_sep_by_space': 127, 'p_sign_posn': 127, 'n_sign_posn': 127,
  |         'decimal_point': '.', 'thousands_sep': '', 'grouping': []}
  | def strcoll(a, b): return (a > b) - (a < b)
  | def strxfrm(s): return s
  | def format_string(f, val, grouping=False, monetary=False): return f % val
  | def currency(val, symbol=True, grouping=False, international=False): raise ValueError("Currency formatting is not possible using the 'C' locale.")
  | def str(val): return '%.12g' % val
  | def atof(string, func=float): return func(string)
  | def atoi(string): return int(string)
  | def delocalize(string): return string
  | def normalize(localename): return localename
  | def resetlocale(category=LC_ALL): pass"# }

/-- the module for characters that have names -/
def entitiesLibrary : Library :=
  { name := "html"
    source := r#"
  | import re as _re
  | def escape(s, quote=True):
  |     s = s.replace('&', '&amp;').replace('<', '&lt;').replace('>', '&gt;')
  |     return s.replace('"', '&quot;').replace("'", '&#x27;') if quote else s
  | _legacy = {name: chr(160 + i) for i, name in enumerate((
  |     'nbsp iexcl cent pound curren yen brvbar sect uml copy ordf laquo not shy reg macr deg plusmn sup2 sup3 acute '
  |     'micro para middot cedil sup1 ordm raquo frac14 frac12 frac34 iquest Agrave Aacute Acirc Atilde Auml Aring AElig '
  |     'Ccedil Egrave Eacute Ecirc Euml Igrave Iacute Icirc Iuml ETH Ntilde Ograve Oacute Ocirc Otilde Ouml times Oslash '
  |     'Ugrave Uacute Ucirc Uuml Yacute THORN szlig agrave aacute acirc atilde auml aring aelig ccedil egrave eacute '
  |     'ecirc euml igrave iacute icirc iuml eth ntilde ograve oacute ocirc otilde ouml divide oslash ugrave uacute ucirc '
  |     'uuml yacute thorn yuml').split())}
  | _legacy |= {'amp': '&', 'lt': '<', 'gt': '>', 'quot': '"', 'AMP': '&', 'LT': '<', 'GT': '>', 'QUOT': '"', 'COPY': '\xa9', 'REG': '\xae'}
  | _names = _legacy | {'hellip': '\u2026', 'mdash': '\u2014', 'ndash': '\u2013', 'lsquo': '\u2018', 'rsquo': '\u2019',
  |     'ldquo': '\u201c', 'rdquo': '\u201d', 'euro': '\u20ac', 'trade': '\u2122', 'bull': '\u2022', 'larr': '\u2190',
  |     'uarr': '\u2191', 'rarr': '\u2192', 'darr': '\u2193'}
  | def _replace(m):
  |     s = m.group(1)
  |     if s[0] == '#':
  |         num = int(s[2:].rstrip(';'), 16) if s[1] in 'xX' else int(s[1:].rstrip(';'))
  |         if num == 0 or 0xD800 <= num <= 0xDFFF or num > 0x10FFFF: return '\ufffd'
  |         return chr(num)
  |     if s in _legacy: return _legacy[s]
  |     if s[-1] == ';' and s[:-1] in _names: return _names[s[:-1]]
  |     for x in range(len(s) - 1, 1, -1):
  |         if s[:x] in _legacy: return _legacy[s[:x]] + s[x:]
  |     return '&' + s
  | _shape = _re.compile(r'&(#[0-9]+;?|#[xX][0-9a-fA-F]+;?|[^\t\n\f <&#;]{1,32};?)')
  | def unescape(s): return _shape.sub(_replace, s) if '&' in s else s"# }

/-- the module for addresses, by the first part of their name -/
def addressesLibrary : Library :=
  { name := "urllib" }

def addressPartsLibrary : Library :=
  { name := "urllib.parse"
    source := r#"
  | import re
  | from collections import namedtuple
  | uses_netloc = ['', 'ftp', 'http', 'gopher', 'nntp', 'telnet', 'imap', 'wais', 'file', 'mms', 'https', 'shttp', 'snews', 'prospero',
  |     'rtsp', 'rtspu', 'rsync', 'svn', 'svn+ssh', 'sftp', 'nfs', 'git', 'git+ssh', 'ws', 'wss']
  | uses_relative = ['', 'ftp', 'http', 'gopher', 'nntp', 'imap', 'wais', 'file', 'https', 'shttp', 'mms', 'prospero', 'rtsp', 'rtspu',
  |     'sftp', 'svn', 'svn+ssh', 'ws', 'wss']
  | uses_params = ['', 'ftp', 'hdl', 'prospero', 'http', 'imap', 'https', 'shttp', 'rtsp', 'rtspu', 'sip', 'sips', 'mms', 'sftp', 'tel']
  | class _Net:
  |     def _user(self):
  |         userinfo, have, host = self.netloc.rpartition('@')
  |         if not have: return None, None, host
  |         name, have, password = userinfo.partition(':')
  |         return name, password if have else None, host
  |     username, password = property(lambda self: self._user()[0]), property(lambda self: self._user()[1])
  |     def _place(self):
  |         host = self._user()[2]
  |         _, have, bracketed = host.partition('[')
  |         if have:
  |             name, _, port = bracketed.partition(']')
  |             _, _, port = port.partition(':')
  |         else: name, _, port = host.partition(':')
  |         return name, port or None
  |     @property
  |     def hostname(self):
  |         name = self._place()[0]
  |         if not name: return None
  |         head, percent, zone = name.partition('%')
  |         return head.lower() + percent + zone
  |     @property
  |     def port(self):
  |         port = self._place()[1]
  |         if port is not None:
  |             if not (port.isdigit() and port.isascii()): raise ValueError(f'Port could not be cast to integer value as {port!r}')
  |             port = int(port)
  |             if not 0 <= port <= 65535: raise ValueError('Port out of range 0-65535')
  |         return port
  | class DefragResult(namedtuple('DefragResult', 'url fragment')):
  |     def geturl(self): return self.url + '#' + self.fragment if self.fragment else self.url
  | class SplitResult(namedtuple('SplitResult', 'scheme netloc path query fragment'), _Net):
  |     def geturl(self): return urlunsplit(self)
  | class ParseResult(namedtuple('ParseResult', 'scheme netloc path params query fragment'), _Net):
  |     def geturl(self): return urlunparse(self)
  | def _params(url):
  |     if '/' in url:
  |         i = url.find(';', url.rfind('/'))
  |         if i < 0: return url, ''
  |     else: i = url.find(';')
  |     return url[:i], url[i + 1:]
  | def urlparse(url, scheme='', allow_fragments=True):
  |     scheme, netloc, url, query, fragment = urlsplit(url, scheme, allow_fragments)
  |     url, params = _params(url) if scheme in uses_params and ';' in url else (url, '')
  |     return ParseResult(scheme, netloc, url, params, query, fragment)
  | _letters = 'abcdefghijklmnopqrstuvwxyzABCDEFGHIJKLMNOPQRSTUVWXYZ0123456789+-.'
  | def urlsplit(url, scheme='', allow_fragments=True):
  |     url = url.lstrip(''.join(map(chr, range(33))))
  |     for b in '\t\r\n': url, scheme = url.replace(b, ''), scheme.replace(b, '')
  |     netloc = query = fragment = ''
  |     i = url.find(':')
  |     if i > 0 and url[0].isascii() and url[0].isalpha() and all(c in _letters for c in url[:i]): scheme, url = url[:i].lower(), url[i + 1:]
  |     if url[:2] == '//':
  |         delim = min([len(url)] + [j for j in (url.find(c, 2) for c in '/?#') if j >= 0])
  |         netloc, url = url[2:delim], url[delim:]
  |         if ('[' in netloc) != (']' in netloc): raise ValueError('Invalid IPv6 URL')
  |     if allow_fragments and '#' in url: url, fragment = url.split('#', 1)
  |     if '?' in url: url, query = url.split('?', 1)
  |     return SplitResult(scheme, netloc, url, query, fragment)
  | def urlunparse(components):
  |     scheme, netloc, url, params, query, fragment = components
  |     return urlunsplit((scheme, netloc, '%s;%s' % (url, params) if params else url, query, fragment))
  | def urlunsplit(components):
  |     scheme, netloc, url, query, fragment = components
  |     if netloc or scheme and scheme in uses_netloc and url[:2] != '//':
  |         if url and url[:1] != '/': url = '/' + url
  |         url = '//' + (netloc or '') + url
  |     if scheme: url = scheme + ':' + url
  |     if query: url = url + '?' + query
  |     return url + '#' + fragment if fragment else url
  | def urljoin(base, url, allow_fragments=True):
  |     if not base: return url
  |     if not url: return base
  |     bscheme, bnetloc, bpath, bparams, bquery, bfragment = urlparse(base, '', allow_fragments)
  |     scheme, netloc, path, params, query, fragment = urlparse(url, bscheme, allow_fragments)
  |     if scheme != bscheme or scheme not in uses_relative: return url
  |     if scheme in uses_netloc:
  |         if netloc: return urlunparse((scheme, netloc, path, params, query, fragment))
  |         netloc = bnetloc
  |     if not path and not params:
  |         return urlunparse((scheme, netloc, bpath, bparams, query or bquery, fragment))
  |     base_parts = bpath.split('/')
  |     if base_parts[-1] != '': del base_parts[-1]
  |     if path[:1] == '/': segments = path.split('/')
  |     else:
  |         segments = base_parts + path.split('/')
  |         segments[1:-1] = filter(None, segments[1:-1])
  |     resolved = []
  |     for seg in segments:
  |         if seg == '..':
  |             try: resolved.pop()
  |             except IndexError: pass
  |         elif seg != '.': resolved.append(seg)
  |     if segments[-1] in ('.', '..'): resolved.append('')
  |     return urlunparse((scheme, netloc, '/'.join(resolved) or '/', params, query, fragment))
  | def urldefrag(url):
  |     if '#' not in url: return DefragResult(url, '')
  |     s, n, p, a, q, frag = urlparse(url)
  |     return DefragResult(urlunparse((s, n, p, a, q, '')), frag)
  | def unquote_to_bytes(string):
  |     if not string: return b''
  |     if isinstance(string, str): string = string.encode()
  |     bits = string.split(b'%')
  |     out = [bits[0]]
  |     for item in bits[1:]:
  |         try: out += [bytes([int(item[:2], 16)]) if len(item[:2]) == 2 and item[:2].isalnum() else None, item[2:]]
  |         except ValueError: out += [b'%', item]
  |         if None in out: out[-2:] = [b'%', item]
  |     return b''.join(out)
  | def unquote(string, encoding='utf-8', errors='replace'):
  |     if isinstance(string, bytes): return unquote_to_bytes(string).decode(encoding, errors)
  |     if '%' not in string: return string
  |     bits = re.split('([\x00-\x7f]+)', string)
  |     out = [bits[0]]
  |     for i in range(1, len(bits), 2): out += [unquote_to_bytes(bits[i]).decode(encoding, errors), bits[i + 1]]
  |     return ''.join(out)
  | def unquote_plus(string, encoding='utf-8', errors='replace'): return unquote(string.replace('+', ' '), encoding, errors)
  | _safe = frozenset(b'ABCDEFGHIJKLMNOPQRSTUVWXYZabcdefghijklmnopqrstuvwxyz0123456789_.-~')
  | def quote_from_bytes(bs, safe='/'):
  |     if not isinstance(bs, (bytes, bytearray)): raise TypeError('quote_from_bytes() expected bytes')
  |     safe = _safe | frozenset(safe.encode('ascii', 'ignore') if isinstance(safe, str) else bytes([c for c in safe if c < 128]))
  |     return ''.join(chr(c) if c in safe else '%{:02X}'.format(c) for c in bs)
  | def quote(string, safe='/', encoding=None, errors=None):
  |     if isinstance(string, str): string = string.encode(encoding or 'utf-8', errors or 'strict')
  |     elif encoding is not None: raise TypeError("quote() doesn't support 'encoding' for bytes")
  |     elif errors is not None: raise TypeError("quote() doesn't support 'errors' for bytes")
  |     return quote_from_bytes(string, safe)
  | def quote_plus(string, safe='', encoding=None, errors=None):
  |     space = ' ' if isinstance(string, str) else b' '
  |     if space not in string: return quote(string, safe, encoding, errors)
  |     return quote(string, safe + (' ' if isinstance(safe, str) else b' '), encoding, errors).replace(' ', '+')
  | def urlencode(query, doseq=False, safe='', encoding=None, errors=None, quote_via=quote_plus):
  |     if hasattr(query, 'items'): query = query.items()
  |     else:
  |         try:
  |             if len(query) and not isinstance(query[0], tuple): raise TypeError
  |         except TypeError as err: raise TypeError('not a valid non-string sequence or mapping object') from err
  |     def one(x): return quote_via(x, safe) if isinstance(x, bytes) else quote_via(str(x), safe, encoding, errors)
  |     out = []
  |     for k, v in query:
  |         if doseq and not isinstance(v, (str, bytes)) and hasattr(v, '__len__'):
  |             for elt in v: out.append(one(k) + '=' + one(elt))
  |         else: out.append(one(k) + '=' + one(v))
  |     return '&'.join(out)
  | def parse_qsl(qs, keep_blank_values=False, strict_parsing=False, encoding='utf-8', errors='replace', max_num_fields=None, separator='&'):
  |     if not qs: return []
  |     out = []
  |     for part in qs.split(separator):
  |         if not part and not strict_parsing: continue
  |         nv = part.split('=', 1)
  |         if len(nv) != 2:
  |             if strict_parsing: raise ValueError('bad query field: %r' % (part,))
  |             if not keep_blank_values: continue
  |             nv.append('')
  |         if len(nv[1]) or keep_blank_values:
  |             out.append((unquote(nv[0].replace('+', ' '), encoding, errors), unquote(nv[1].replace('+', ' '), encoding, errors)))
  |     return out
  | def parse_qs(qs, keep_blank_values=False, strict_parsing=False, encoding='utf-8', errors='replace', max_num_fields=None, separator='&'):
  |     found = {}
  |     for name, value in parse_qsl(qs, keep_blank_values, strict_parsing, encoding, errors, max_num_fields, separator):
  |         found.setdefault(name, []).append(value)
  |     return found"# }

/-- the module for settings in sections -/
def settingFilesLibrary : Library :=
  { name := "configparser"
    file := "/usr/lib/python3.11/configparser.py"
    source := r#"
  | import re, itertools, functools, io, os
  | from collections import ChainMap as _ChainMap, OrderedDict as _default_dict
  | from collections.abc import MutableMapping
  | __all__ = ['NoSectionError', 'DuplicateOptionError', 'DuplicateSectionError', 'NoOptionError', 'InterpolationError',
  |     'InterpolationDepthError', 'InterpolationMissingOptionError', 'InterpolationSyntaxError', 'ParsingError',
  |     'MissingSectionHeaderError', 'ConfigParser', 'SafeConfigParser', 'RawConfigParser', 'Interpolation', 'BasicInterpolation',
  |     'ExtendedInterpolation', 'LegacyInterpolation', 'SectionProxy', 'ConverterMapping', 'DEFAULTSECT', 'MAX_INTERPOLATION_DEPTH']
  | DEFAULTSECT, MAX_INTERPOLATION_DEPTH = 'DEFAULT', 10
  | class Error(Exception):
  |     def __init__(self, msg=''):
  |         self.message = msg
  |         Exception.__init__(self, msg)
  |     def __repr__(self): return self.message
  |     __str__ = __repr__
  | class NoSectionError(Error):
  |     def __init__(self, section):
  |         Error.__init__(self, 'No section: %r' % (section,))
  |         self.section = section
  |         self.args = (section,)
  | class DuplicateSectionError(Error):
  |     def __init__(self, section, source=None, lineno=None):
  |         msg = [repr(section), ' already exists']
  |         if source is not None:
  |             message = ['While reading from ', repr(source)]
  |             if lineno is not None: message.append(' [line {0:2d}]'.format(lineno))
  |             msg = message + [': section '] + msg
  |         else: msg.insert(0, 'Section ')
  |         Error.__init__(self, ''.join(msg))
  |         self.section, self.source, self.lineno = section, source, lineno
  |         self.args = (section, source, lineno)
  | class DuplicateOptionError(Error):
  |     def __init__(self, section, option, source=None, lineno=None):
  |         msg = [repr(option), ' in section ', repr(section), ' already exists']
  |         if source is not None:
  |             message = ['While reading from ', repr(source)]
  |             if lineno is not None: message.append(' [line {0:2d}]'.format(lineno))
  |             msg = message + [': option '] + msg
  |         else: msg.insert(0, 'Option ')
  |         Error.__init__(self, ''.join(msg))
  |         self.section, self.option, self.source, self.lineno = section, option, source, lineno
  |         self.args = (section, option, source, lineno)
  | class NoOptionError(Error):
  |     def __init__(self, option, section):
  |         Error.__init__(self, 'No option %r in section: %r' % (option, section))
  |         self.option, self.section = option, section
  |         self.args = (option, section)
  | class InterpolationError(Error):
  |     def __init__(self, option, section, msg):
  |         Error.__init__(self, msg)
  |         self.option, self.section = option, section
  |         self.args = (option, section, msg)
  | class InterpolationMissingOptionError(InterpolationError):
  |     def __init__(self, option, section, rawval, reference):
  |         msg = ('Bad value substitution: option {!r} in section {!r} contains an interpolation key {!r} which is not a valid option name. '
  |             'Raw value: {!r}'.format(option, section, reference, rawval))
  |         InterpolationError.__init__(self, option, section, msg)
  |         self.reference = reference
  |         self.args = (option, section, rawval, reference)
  | class InterpolationSyntaxError(InterpolationError): pass
  | class InterpolationDepthError(InterpolationError):
  |     def __init__(self, option, section, rawval):
  |         msg = ('Recursion limit exceeded in value substitution: option {!r} in section {!r} contains an interpolation key which cannot '
  |             'be substituted in {} steps. Raw value: {!r}'.format(option, section, MAX_INTERPOLATION_DEPTH, rawval))
  |         InterpolationError.__init__(self, option, section, msg)
  |         self.args = (option, section, rawval)
  | class ParsingError(Error):
  |     def __init__(self, source=None, filename=None):
  |         source = source if source is not None else filename
  |         Error.__init__(self, 'Source contains parsing errors: %r' % source)
  |         self.source, self.errors = source, []
  |         self.args = (source,)
  |     def append(self, lineno, line):
  |         self.errors.append((lineno, line))
  |         self.message += '\n\t[line %2d]: %s' % (lineno, line)
  | class MissingSectionHeaderError(ParsingError):
  |     def __init__(self, filename, lineno, line):
  |         Error.__init__(self, 'File contains no section headers.\nfile: %r, line: %d\n%r' % (filename, lineno, line))
  |         self.source, self.lineno, self.line = filename, lineno, line
  |         self.args = (filename, lineno, line)
  | _UNSET = object()
  | class Interpolation:
  |     def before_get(self, parser, section, option, value, defaults): return value
  |     def before_set(self, parser, section, option, value): return value
  |     def before_read(self, parser, section, option, value): return value
  |     def before_write(self, parser, section, option, value): return value
  | class BasicInterpolation(Interpolation):
  |     def before_get(self, parser, section, option, value, defaults):
  |         out = []
  |         self._interpolate_some(parser, option, out, value, section, defaults, 1)
  |         return ''.join(out)
  |     def before_set(self, parser, section, option, value):
  |         rest = re.sub(r'%\(([^)]+)\)s', '', value.replace('%%', ''))
  |         if '%' in rest: raise ValueError('invalid interpolation syntax in %r at position %d' % (value, rest.find('%')))
  |         return value
  |     def _interpolate_some(self, parser, option, accum, rest, section, map, depth):
  |         rawval = parser.get(section, option, raw=True, fallback=rest)
  |         if depth > MAX_INTERPOLATION_DEPTH: raise InterpolationDepthError(option, section, rawval)
  |         while rest:
  |             p = rest.find('%')
  |             if p < 0:
  |                 accum.append(rest)
  |                 return
  |             if p > 0:
  |                 accum.append(rest[:p])
  |                 rest = rest[p:]
  |             c = rest[1:2]
  |             if c == '%':
  |                 accum.append('%')
  |                 rest = rest[2:]
  |             elif c == '(':
  |                 m = re.match(r'%\(([^)]+)\)s', rest)
  |                 if m is None: raise InterpolationSyntaxError(option, section, 'bad interpolation variable reference %r' % rest)
  |                 var, rest = parser.optionxform(m.group(1)), rest[m.end():]
  |                 try: v = map[var]
  |                 except KeyError: raise InterpolationMissingOptionError(option, section, rawval, var) from None
  |                 if '%' in v: self._interpolate_some(parser, option, accum, v, section, map, depth + 1)
  |                 else: accum.append(v)
  |             else: raise InterpolationSyntaxError(option, section, "'%%' must be followed by '%%' or '(', found: %r" % (rest,))
  | class ExtendedInterpolation(Interpolation):
  |     def before_get(self, parser, section, option, value, defaults):
  |         out = []
  |         self._interpolate_some(parser, option, out, value, section, defaults, 1)
  |         return ''.join(out)
  |     def before_set(self, parser, section, option, value):
  |         rest = re.sub(r'\$\{([^}]+)\}', '', value.replace('$$', ''))
  |         if '$' in rest: raise ValueError('invalid interpolation syntax in %r at position %d' % (value, rest.find('$')))
  |         return value
  |     def _interpolate_some(self, parser, option, accum, rest, section, map, depth):
  |         rawval = parser.get(section, option, raw=True, fallback=rest)
  |         if depth > MAX_INTERPOLATION_DEPTH: raise InterpolationDepthError(option, section, rawval)
  |         while rest:
  |             p = rest.find('$')
  |             if p < 0:
  |                 accum.append(rest)
  |                 return
  |             if p > 0:
  |                 accum.append(rest[:p])
  |                 rest = rest[p:]
  |             c = rest[1:2]
  |             if c == '$':
  |                 accum.append('$')
  |                 rest = rest[2:]
  |             elif c == '{':
  |                 m = re.match(r'\$\{([^}]+)\}', rest)
  |                 if m is None: raise InterpolationSyntaxError(option, section, 'bad interpolation variable reference %r' % rest)
  |                 path, rest = m.group(1).split(':'), rest[m.end():]
  |                 sect, opt = section, option
  |                 try:
  |                     if len(path) == 1:
  |                         opt = parser.optionxform(path[0])
  |                         v = map[opt]
  |                     elif len(path) == 2:
  |                         sect, opt = path[0], parser.optionxform(path[1])
  |                         v = parser.get(sect, opt, raw=True)
  |                     else: raise InterpolationSyntaxError(option, section, "More than one ':' found: %r" % (rest,))
  |                 except (KeyError, NoSectionError, NoOptionError):
  |                     raise InterpolationMissingOptionError(option, section, rawval, ':'.join(path)) from None
  |                 if '$' in v:
  |                     self._interpolate_some(parser, opt, accum, v, sect, dict(parser.items(sect, raw=True)), depth + 1)
  |                 else: accum.append(v)
  |             else: raise InterpolationSyntaxError(option, section, "'$' must be followed by '$' or '{', found: %r" % (rest,))
  | class LegacyInterpolation(Interpolation): pass
  | class RawConfigParser(MutableMapping):
  |     _SECT_TMPL, NONSPACECRE = r'\[(?P<header>.+)\]', re.compile(r'\S')
  |     SECTCRE = re.compile(_SECT_TMPL)
  |     _DEFAULT_INTERPOLATION = Interpolation()
  |     BOOLEAN_STATES = {'1': True, 'yes': True, 'true': True, 'on': True, '0': False, 'no': False, 'false': False, 'off': False}
  |     def __init__(self, defaults=None, dict_type=dict, allow_no_value=False, *, delimiters=('=', ':'), comment_prefixes=('#', ';'),
  |             inline_comment_prefixes=None, strict=True, empty_lines_in_values=True, default_section=DEFAULTSECT, interpolation=_UNSET,
  |             converters=_UNSET):
  |         self._dict, self._sections, self._defaults, self._proxies = dict_type, dict_type(), dict_type(), dict_type()
  |         self._delimiters, self._allow_no_value, self._strict = tuple(delimiters), allow_no_value, strict
  |         d = '|'.join(re.escape(d) for d in delimiters)
  |         shape = r'(?P<option>.*?)\s*(?:(?P<vi>{delim})\s*(?P<value>.*))?$' if allow_no_value else \
  |             r'(?P<option>.*?)\s*(?P<vi>{delim})\s*(?P<value>.*)$'
  |         self._optcre = re.compile(shape.format(delim=d))
  |         self._comment_prefixes, self._inline_comment_prefixes = tuple(comment_prefixes or ()), tuple(inline_comment_prefixes or ())
  |         self._empty_lines_in_values, self.default_section = empty_lines_in_values, default_section
  |         self._interpolation = self._DEFAULT_INTERPOLATION if interpolation is _UNSET else Interpolation() if interpolation is None else \
  |             interpolation
  |         self._converters = {'int': int, 'float': float, 'boolean': self._convert_to_boolean}
  |         if converters is not _UNSET: self._converters.update(converters)
  |         for name, conv in self._converters.items():
  |             if not hasattr(self, 'get' + name): setattr(self, 'get' + name, functools.partial(self._get_conv, conv=conv))
  |         self._proxies[default_section] = SectionProxy(self, default_section)
  |         if defaults: self.read_dict({default_section: defaults})
  |     def defaults(self): return self._defaults
  |     def sections(self): return list(self._sections.keys())
  |     def add_section(self, section):
  |         if section in self._sections: raise DuplicateSectionError(section)
  |         if section == self.default_section: raise ValueError('Invalid section name: %r' % section)
  |         self._sections[section] = self._dict()
  |         self._proxies[section] = SectionProxy(self, section)
  |     def has_section(self, section): return section in self._sections
  |     def options(self, section):
  |         if section not in self._sections: raise NoSectionError(section) from None
  |         return list({**self._sections[section], **self._defaults}.keys())
  |     def read(self, filenames, encoding=None):
  |         if isinstance(filenames, (str, bytes, os.PathLike)): filenames = [filenames]
  |         read_ok = []
  |         for filename in filenames:
  |             try:
  |                 with open(filename, encoding=encoding) as fp: self._read(fp, filename)
  |             except OSError: continue
  |             read_ok.append(os.fspath(filename))
  |         return read_ok
  |     def read_file(self, f, source=None):
  |         if source is None: source = getattr(f, 'name', '<???>')
  |         self._read(f, source)
  |     def read_string(self, string, source='<string>'): self.read_file(io.StringIO(string), source)
  |     def read_dict(self, dictionary, source='<dict>'):
  |         added = set()
  |         for section, keys in dictionary.items():
  |             section = str(section)
  |             try: self.add_section(section)
  |             except (DuplicateSectionError, ValueError):
  |                 if self._strict and section in added: raise
  |             added.add(section)
  |             for key, value in keys.items():
  |                 key = self.optionxform(str(key))
  |                 if value is not None: value = str(value)
  |                 if self._strict and (section, key) in added: raise DuplicateOptionError(section, key, source)
  |                 added.add((section, key))
  |                 self.set(section, key, value)
  |     def get(self, section, option, *, raw=False, vars=None, fallback=_UNSET):
  |         try: d = self._unify_values(section, vars)
  |         except NoSectionError:
  |             if fallback is _UNSET: raise
  |             return fallback
  |         option = self.optionxform(option)
  |         if option not in d:
  |             if fallback is _UNSET: raise NoOptionError(option, section)
  |             return fallback
  |         value = d[option]
  |         return value if raw or value is None else self._interpolation.before_get(self, section, option, value, d)
  |     def _get_conv(self, section, option, conv=None, *, raw=False, vars=None, fallback=_UNSET):
  |         try: return conv(self.get(section, option, raw=raw, vars=vars))
  |         except (NoSectionError, NoOptionError):
  |             if fallback is _UNSET: raise
  |             return fallback
  |     def getint(self, section, option, *, raw=False, vars=None, fallback=_UNSET):
  |         return self._get_conv(section, option, int, raw=raw, vars=vars, fallback=fallback)
  |     def getfloat(self, section, option, *, raw=False, vars=None, fallback=_UNSET):
  |         return self._get_conv(section, option, float, raw=raw, vars=vars, fallback=fallback)
  |     def getboolean(self, section, option, *, raw=False, vars=None, fallback=_UNSET):
  |         return self._get_conv(section, option, self._convert_to_boolean, raw=raw, vars=vars, fallback=fallback)
  |     def items(self, section=_UNSET, raw=False, vars=None):
  |         if section is _UNSET: return super().items()
  |         d = self._defaults.copy()
  |         if section in self._sections: d.update(self._sections[section])
  |         elif section != self.default_section: raise NoSectionError(section)
  |         keys = list(d.keys())
  |         if vars:
  |             for key, value in vars.items(): d[self.optionxform(key)] = value
  |         return [(o, d[o] if raw or d[o] is None else self._interpolation.before_get(self, section, o, d[o], d)) for o in keys]
  |     def popitem(self):
  |         for key in self.sections():
  |             value = self[key]
  |             del self[key]
  |             return key, value
  |         raise KeyError
  |     def optionxform(self, optionstr): return optionstr.lower()
  |     def has_option(self, section, option):
  |         option = self.optionxform(option)
  |         if not section or section == self.default_section: return option in self._defaults
  |         return section in self._sections and (option in self._sections[section] or option in self._defaults)
  |     def set(self, section, option, value=None):
  |         if value: value = self._interpolation.before_set(self, section, option, value)
  |         if not section or section == self.default_section: sect = self._defaults
  |         elif section in self._sections: sect = self._sections[section]
  |         else: raise NoSectionError(section) from None
  |         sect[self.optionxform(option)] = value
  |     def write(self, fp, space_around_delimiters=True):
  |         d = ' {} '.format(self._delimiters[0]) if space_around_delimiters else self._delimiters[0]
  |         if self._defaults: self._write_section(fp, self.default_section, self._defaults.items(), d)
  |         for section in self._sections: self._write_section(fp, section, self._sections[section].items(), d)
  |     def _write_section(self, fp, name, items, delimiter):
  |         fp.write('[{}]\n'.format(name))
  |         for key, value in items:
  |             value = self._interpolation.before_write(self, name, key, value)
  |             value = delimiter + str(value).replace('\n', '\n\t') if value is not None or not self._allow_no_value else ''
  |             fp.write('{}{}\n'.format(key, value))
  |         fp.write('\n')
  |     def remove_option(self, section, option):
  |         if not section or section == self.default_section: sect = self._defaults
  |         elif section in self._sections: sect = self._sections[section]
  |         else: raise NoSectionError(section) from None
  |         option = self.optionxform(option)
  |         existed = option in sect
  |         if existed: del sect[option]
  |         return existed
  |     def remove_section(self, section):
  |         existed = section in self._sections
  |         if existed:
  |             del self._sections[section]
  |             del self._proxies[section]
  |         return existed
  |     def __getitem__(self, key):
  |         if key != self.default_section and not self.has_section(key): raise KeyError(key)
  |         return self._proxies[key]
  |     def __setitem__(self, key, value):
  |         if key in self and self[key] is value: return
  |         if key == self.default_section: self._defaults.clear()
  |         elif key in self._sections: self._sections[key].clear()
  |         self.read_dict({key: value})
  |     def __delitem__(self, key):
  |         if key == self.default_section: raise ValueError('Cannot remove the default section.')
  |         if not self.has_section(key): raise KeyError(key)
  |         self.remove_section(key)
  |     def __contains__(self, key): return key == self.default_section or self.has_section(key)
  |     def __len__(self): return len(self._sections) + 1
  |     def __iter__(self): return itertools.chain((self.default_section,), self._sections.keys())
  |     def _read(self, fp, fpname):
  |         added, cursect, sectname, optname, lineno, indent_level, e = set(), None, None, None, 0, 0, None
  |         for lineno, line in enumerate(fp, start=1):
  |             comment_start = None
  |             places = [i for p in self._inline_comment_prefixes for i in [m.start() for m in re.finditer(re.escape(p), line)]
  |                 if i == 0 or line[i - 1].isspace()]
  |             if places: comment_start = min(places)
  |             for p in self._comment_prefixes:
  |                 if line.strip().startswith(p):
  |                     comment_start = 0
  |                     break
  |             value = line[:comment_start].strip()
  |             if not value:
  |                 if self._empty_lines_in_values:
  |                     if comment_start is None and cursect is not None and optname and cursect[optname] is not None:
  |                         cursect[optname].append('')
  |                 else: indent_level = 10 ** 9
  |                 continue
  |             first = self.NONSPACECRE.search(line)
  |             cur_indent = first.start() if first else 0
  |             if cursect is not None and optname and cur_indent > indent_level: cursect[optname].append(value)
  |             else:
  |                 indent_level = cur_indent
  |                 mo = self.SECTCRE.match(value)
  |                 if mo:
  |                     sectname = mo.group('header')
  |                     if sectname in self._sections:
  |                         if self._strict and sectname in added: raise DuplicateSectionError(sectname, fpname, lineno)
  |                         cursect = self._sections[sectname]
  |                         added.add(sectname)
  |                     elif sectname == self.default_section: cursect = self._defaults
  |                     else:
  |                         cursect = self._dict()
  |                         self._sections[sectname] = cursect
  |                         self._proxies[sectname] = SectionProxy(self, sectname)
  |                         added.add(sectname)
  |                     optname = None
  |                 elif cursect is None: raise MissingSectionHeaderError(fpname, lineno, line)
  |                 else:
  |                     mo = self._optcre.match(value)
  |                     if mo:
  |                         optname, vi, optval = mo.group('option', 'vi', 'value')
  |                         if not optname: e = self._handle_error(e, fpname, lineno, line)
  |                         optname = self.optionxform(optname.rstrip())
  |                         if self._strict and (sectname, optname) in added:
  |                             raise DuplicateOptionError(sectname, optname, fpname, lineno)
  |                         added.add((sectname, optname))
  |                         cursect[optname] = [optval.strip()] if optval is not None else None
  |                     else: e = self._handle_error(e, fpname, lineno, line)
  |         for section, options in itertools.chain(((self.default_section, self._defaults),), self._sections.items()):
  |             for name, val in options.items():
  |                 if isinstance(val, list): val = '\n'.join(val).rstrip()
  |                 options[name] = self._interpolation.before_read(self, section, name, val)
  |         if e: raise e
  |     def _handle_error(self, exc, fpname, lineno, line):
  |         if not exc: exc = ParsingError(fpname)
  |         exc.append(lineno, repr(line))
  |         return exc
  |     def _unify_values(self, section, vars):
  |         own = {}
  |         if section in self._sections: own = self._sections[section]
  |         elif section != self.default_section: raise NoSectionError(section) from None
  |         given = {self.optionxform(k): None if v is None else str(v) for k, v in vars.items()} if vars else {}
  |         return _ChainMap(given, own, self._defaults)
  |     def _convert_to_boolean(self, value):
  |         if value.lower() not in self.BOOLEAN_STATES: raise ValueError('Not a boolean: %s' % value)
  |         return self.BOOLEAN_STATES[value.lower()]
  |     converters = property(lambda self: self._converters)
  | class ConfigParser(RawConfigParser):
  |     _DEFAULT_INTERPOLATION = BasicInterpolation()
  |     def _check(self, section='', option='', value=''):
  |         if not isinstance(section, str): raise TypeError('section names must be strings')
  |         if not isinstance(option, str): raise TypeError('option keys must be strings')
  |         if (not self._allow_no_value or value) and not isinstance(value, str): raise TypeError('option values must be strings')
  |     def set(self, section, option, value=None):
  |         self._check(option=option, value=value)
  |         super().set(section, option, value)
  |     def add_section(self, section):
  |         self._check(section=section)
  |         super().add_section(section)
  | class SafeConfigParser(ConfigParser): pass
  | class SectionProxy(MutableMapping):
  |     def __init__(self, parser, name):
  |         self._parser, self._name = parser, name
  |         for conv in parser.converters: setattr(self, 'get' + conv, functools.partial(self.get, _impl=getattr(parser, 'get' + conv)))
  |     def __repr__(self): return '<Section: {}>'.format(self._name)
  |     def __getitem__(self, key):
  |         if not self._parser.has_option(self._name, key): raise KeyError(key)
  |         return self._parser.get(self._name, key)
  |     def __setitem__(self, key, value):
  |         if isinstance(self._parser, ConfigParser): self._parser._check(option=key, value=value)
  |         return self._parser.set(self._name, key, value)
  |     def __delitem__(self, key):
  |         if not (self._parser.has_option(self._name, key) and self._parser.remove_option(self._name, key)): raise KeyError(key)
  |     def __contains__(self, key): return self._parser.has_option(self._name, key)
  |     def _options(self):
  |         return self._parser.options(self._name) if self._name != self._parser.default_section else list(self._parser.defaults())
  |     def __len__(self): return len(self._options())
  |     def __iter__(self): return self._options().__iter__()
  |     parser, name = property(lambda self: self._parser), property(lambda self: self._name)
  |     def get(self, option, fallback=None, *, raw=False, vars=None, _impl=None, **kwargs):
  |         return (_impl or self._parser.get)(self._name, option, raw=raw, vars=vars, fallback=fallback, **kwargs)"# }

/-- modules for the languages that people and programs speak -/
def languagesLibraries : List Library :=
  [reservedLibrary, literalsLibrary, messagesLibrary, customsLibrary, entitiesLibrary, addressesLibrary,
   addressPartsLibrary, settingFilesLibrary]

end IncludeAudit.Offside
