/-
Modules for the words of a command and for other programs.

- `commandsLibraries`: the modules.
-/
import IncludeAudit.Offside.Library.Basic

namespace IncludeAudit.Offside

/-- the module for the words that a program is given -/
def argumentsLibrary : Library :=
  { name := "argparse"
    file := "/usr/lib/python3.11/argparse.py"
    source := r#"
  | import os, re, sys
  | __all__ = ['ArgumentParser', 'ArgumentError', 'ArgumentTypeError', 'BooleanOptionalAction', 'FileType', 'HelpFormatter',
  |     'ArgumentDefaultsHelpFormatter', 'RawDescriptionHelpFormatter', 'RawTextHelpFormatter', 'MetavarTypeHelpFormatter',
  |     'Namespace', 'Action', 'ONE_OR_MORE', 'OPTIONAL', 'PARSER', 'REMAINDER', 'SUPPRESS', 'ZERO_OR_MORE']
  | SUPPRESS = '==SUPPRESS=='
  | OPTIONAL, ZERO_OR_MORE, ONE_OR_MORE, PARSER, REMAINDER = '?', '*', '+', 'A...', '...'
  | _rest_name = '_unrecognized_args'
  | class _Shown:
  |     def __repr__(self):
  |         named, odd = [], {}
  |         for name, value in self._get_kwargs():
  |             if name.isidentifier(): named.append('%s=%r' % (name, value))
  |             else: odd[name] = value
  |         shown = [repr(a) for a in self._get_args()] + named + (['**%r' % odd] if odd else [])
  |         return '%s(%s)' % (type(self).__name__, ', '.join(shown))
  |     def _get_kwargs(self): return list(self.__dict__.items())
  |     def _get_args(self): return []
  | _AttributeHolder = _Shown
  | def _copy_items(items):
  |     if items is None: return []
  |     if type(items) is list: return items[:]
  |     import copy
  |     return copy.copy(items)
  | def _plain(text): return re.sub(r'\s+', ' ', text, flags=re.ASCII).strip()
  | class HelpFormatter:
  |     def __init__(self, prog, indent_increment=2, max_help_position=24, width=None):
  |         if width is None:
  |             import shutil
  |             width = shutil.get_terminal_size().columns - 2
  |         self._prog, self._indent_increment, self._width = prog, indent_increment, width
  |         self._max_help_position = min(max_help_position, max(width - 20, indent_increment * 2))
  |         self._current_indent = self._level = self._action_max_length = 0
  |         self._root_section = self._current_section = self._Section(self, None)
  |     def _indent(self):
  |         self._current_indent += self._indent_increment
  |         self._level += 1
  |     def _dedent(self):
  |         self._current_indent -= self._indent_increment
  |         self._level -= 1
  |     class _Section:
  |         def __init__(self, formatter, parent, heading=None):
  |             self.formatter, self.parent, self.heading, self.items = formatter, parent, heading, []
  |         def format_help(self):
  |             if self.parent is not None: self.formatter._indent()
  |             inner = self.formatter._join_parts([func(*args) for func, args in self.items])
  |             if self.parent is not None: self.formatter._dedent()
  |             if not inner: return ''
  |             if self.heading is not SUPPRESS and self.heading is not None:
  |                 heading = ' ' * self.formatter._current_indent + '%s:\n' % self.heading
  |             else: heading = ''
  |             return self.formatter._join_parts(['\n', heading, inner, '\n'])
  |     def _add_item(self, func, args): self._current_section.items.append((func, args))
  |     def start_section(self, heading):
  |         self._indent()
  |         section = self._Section(self, self._current_section, heading)
  |         self._add_item(section.format_help, [])
  |         self._current_section = section
  |     def end_section(self):
  |         self._current_section = self._current_section.parent
  |         self._dedent()
  |     def add_text(self, text):
  |         if text is not SUPPRESS and text is not None: self._add_item(self._format_text, [text])
  |     def add_usage(self, usage, actions, groups, prefix=None):
  |         if usage is not SUPPRESS: self._add_item(self._format_usage, (usage, actions, groups, prefix))
  |     def add_argument(self, action):
  |         if action.help is SUPPRESS: return
  |         shown = [self._format_action_invocation(action)]
  |         for below in self._iter_indented_subactions(action): shown.append(self._format_action_invocation(below))
  |         self._action_max_length = max(self._action_max_length, max(map(len, shown)) + self._current_indent)
  |         self._add_item(self._format_action, [action])
  |     def add_arguments(self, actions):
  |         for action in actions: self.add_argument(action)
  |     def format_help(self):
  |         help = self._root_section.format_help()
  |         return re.sub('\n\n\n+', '\n\n', help).strip('\n') + '\n' if help else help
  |     def _join_parts(self, part_strings): return ''.join([p for p in part_strings if p and p is not SUPPRESS])
  |     def _format_usage(self, usage, actions, groups, prefix):
  |         if prefix is None: prefix = 'usage: '
  |         prog = '%s' % self._prog
  |         if usage is not None: usage = usage % dict(prog=self._prog)
  |         elif not actions: usage = prog
  |         else:
  |             optionals = [a for a in actions if a.option_strings]
  |             positionals = [a for a in actions if not a.option_strings]
  |             usage = ' '.join([s for s in [prog, self._format_actions_usage(optionals + positionals, groups)] if s])
  |             width = self._width - self._current_indent
  |             if len(prefix) + len(usage) > width:
  |                 part = r'\(.*?\)+(?=\s|$)|\[.*?\]+(?=\s|$)|\S+'
  |                 opts = re.findall(part, self._format_actions_usage(optionals, groups))
  |                 poss = re.findall(part, self._format_actions_usage(positionals, groups))
  |                 def rows(parts, indent, prefix=None):
  |                     lines, line = [], []
  |                     size = len(indent if prefix is None else prefix) - 1
  |                     for p in parts:
  |                         if size + 1 + len(p) > width and line:
  |                             lines.append(indent + ' '.join(line))
  |                             line, size = [], len(indent) - 1
  |                         line.append(p)
  |                         size += len(p) + 1
  |                     if line: lines.append(indent + ' '.join(line))
  |                     if prefix is not None: lines[0] = lines[0][len(indent):]
  |                     return lines
  |                 if len(prefix) + len(prog) <= 0.75 * width:
  |                     indent = ' ' * (len(prefix) + len(prog) + 1)
  |                     if opts: lines = rows([prog] + opts, indent, prefix) + rows(poss, indent)
  |                     elif poss: lines = rows([prog] + poss, indent, prefix)
  |                     else: lines = [prog]
  |                 else:
  |                     indent = ' ' * len(prefix)
  |                     lines = rows(opts + poss, indent)
  |                     if len(lines) > 1: lines = rows(opts, indent) + rows(poss, indent)
  |                     lines = [prog] + lines
  |                 usage = '\n'.join(lines)
  |         return '%s%s\n\n' % (prefix, usage)
  |     def _format_actions_usage(self, actions, groups):
  |         grouped, inserts = set(), {}
  |         for group in groups:
  |             inner = group._group_actions
  |             if not inner: raise ValueError(f'empty group {group}')
  |             if inner[0] not in actions: continue
  |             start = actions.index(inner[0])
  |             end = start + len(inner)
  |             if actions[start:end] != inner: continue
  |             grouped.update(inner)
  |             exposed = len([a for a in inner if a.help is not SUPPRESS])
  |             if not exposed: continue
  |             if not group.required:
  |                 inserts[start] = inserts[start] + ' [' if start in inserts else '['
  |                 inserts[end] = inserts[end] + ']' if end in inserts else ']'
  |             elif exposed > 1:
  |                 inserts[start] = inserts[start] + ' (' if start in inserts else '('
  |                 inserts[end] = inserts[end] + ')' if end in inserts else ')'
  |             for i in range(start + 1, end): inserts[i] = '|'
  |         parts = []
  |         for i, action in enumerate(actions):
  |             if action.help is SUPPRESS:
  |                 parts.append(None)
  |                 if inserts.get(i) == '|': inserts.pop(i)
  |                 elif inserts.get(i + 1) == '|': inserts.pop(i + 1)
  |             elif not action.option_strings:
  |                 part = self._format_args(action, self._get_default_metavar_for_positional(action))
  |                 if action in grouped and part[0] == '[' and part[-1] == ']': part = part[1:-1]
  |                 parts.append(part)
  |             else:
  |                 if action.nargs == 0: part = action.format_usage()
  |                 else:
  |                     part = '%s %s' % (action.option_strings[0],
  |                         self._format_args(action, self._get_default_metavar_for_optional(action)))
  |                 parts.append('[%s]' % part if not action.required and action not in grouped else part)
  |         for i in sorted(inserts, reverse=True): parts[i:i] = [inserts[i]]
  |         text = ' '.join([p for p in parts if p is not None])
  |         text = re.sub(r'([\[(]) ', r'\1', text)
  |         text = re.sub(r' ([\])])', r'\1', text)
  |         return re.sub(r'[\[(] *[\])]', '', text).strip()
  |     def _format_text(self, text):
  |         if '%(prog)' in text: text = text % dict(prog=self._prog)
  |         return self._fill_text(text, max(self._width - self._current_indent, 11), ' ' * self._current_indent) + '\n\n'
  |     def _format_action(self, action):
  |         place = min(self._action_max_length + 2, self._max_help_position)
  |         width = self._action_width = place - self._current_indent - 2
  |         header, indent = self._format_action_invocation(action), ' ' * self._current_indent
  |         first = place
  |         if not action.help or len(header) > width: header = indent + header + '\n'
  |         else:
  |             header = indent + header.ljust(width) + '  '
  |             first = 0
  |         parts = [header]
  |         if action.help and action.help.strip():
  |             text = self._expand_help(action)
  |             if text:
  |                 lines = self._split_lines(text, max(self._width - place, 11))
  |                 parts.append(' ' * first + lines[0] + '\n')
  |                 parts += [' ' * place + line + '\n' for line in lines[1:]]
  |         elif not header.endswith('\n'): parts.append('\n')
  |         for below in self._iter_indented_subactions(action): parts.append(self._format_action(below))
  |         return self._join_parts(parts)
  |     def _format_action_invocation(self, action):
  |         if not action.option_strings:
  |             metavar, = self._metavar_formatter(action, self._get_default_metavar_for_positional(action))(1)
  |             return metavar
  |         if action.nargs == 0: return ', '.join(action.option_strings)
  |         args = self._format_args(action, self._get_default_metavar_for_optional(action))
  |         return ', '.join(['%s %s' % (s, args) for s in action.option_strings])
  |     def _metavar_formatter(self, action, default_metavar):
  |         if action.metavar is not None: result = action.metavar
  |         elif action.choices is not None: result = '{%s}' % ','.join([str(c) for c in action.choices])
  |         else: result = default_metavar
  |         def format(tuple_size): return result if isinstance(result, tuple) else (result,) * tuple_size
  |         return format
  |     def _format_args(self, action, default_metavar):
  |         get, n = self._metavar_formatter(action, default_metavar), action.nargs
  |         if n is None: return '%s' % get(1)
  |         if n == OPTIONAL: return '[%s]' % get(1)
  |         if n == ZERO_OR_MORE:
  |             shown = get(1)
  |             return '[%s [%s ...]]' % shown if len(shown) == 2 else '[%s ...]' % shown
  |         if n == ONE_OR_MORE: return '%s [%s ...]' % get(2)
  |         if n == REMAINDER: return '...'
  |         if n == PARSER: return '%s ...' % get(1)
  |         if n == SUPPRESS: return ''
  |         try: formats = ['%s' for _ in range(n)]
  |         except TypeError: raise ValueError('invalid nargs value') from None
  |         return ' '.join(formats) % get(n)
  |     def _expand_help(self, action):
  |         params = {k: v for k, v in dict(vars(action), prog=self._prog).items() if v is not SUPPRESS}
  |         for name in list(params):
  |             if hasattr(params[name], '__name__'): params[name] = params[name].__name__
  |         if params.get('choices') is not None: params['choices'] = ', '.join([str(c) for c in params['choices']])
  |         return self._get_help_string(action) % params
  |     def _iter_indented_subactions(self, action):
  |         if hasattr(action, '_get_subactions'):
  |             self._indent()
  |             yield from action._get_subactions()
  |             self._dedent()
  |     def _split_lines(self, text, width):
  |         import textwrap
  |         return textwrap.wrap(_plain(text), width)
  |     def _fill_text(self, text, width, indent):
  |         import textwrap
  |         return textwrap.fill(_plain(text), width, initial_indent=indent, subsequent_indent=indent)
  |     def _get_help_string(self, action): return action.help
  |     def _get_default_metavar_for_optional(self, action): return action.dest.upper()
  |     def _get_default_metavar_for_positional(self, action): return action.dest
  | class RawDescriptionHelpFormatter(HelpFormatter):
  |     def _fill_text(self, text, width, indent): return ''.join(indent + line for line in text.splitlines(keepends=True))
  | class RawTextHelpFormatter(RawDescriptionHelpFormatter):
  |     def _split_lines(self, text, width): return text.splitlines()
  | class ArgumentDefaultsHelpFormatter(HelpFormatter):
  |     def _get_help_string(self, action):
  |         help = action.help or ''
  |         if '%(default)' not in help and action.default is not SUPPRESS:
  |             if action.option_strings or action.nargs in [OPTIONAL, ZERO_OR_MORE]: help += ' (default: %(default)s)'
  |         return help
  | class MetavarTypeHelpFormatter(HelpFormatter):
  |     def _get_default_metavar_for_optional(self, action): return action.type.__name__
  |     def _get_default_metavar_for_positional(self, action): return action.type.__name__
  | def _get_action_name(argument):
  |     if argument is None: return None
  |     if argument.option_strings: return '/'.join(argument.option_strings)
  |     if argument.metavar not in (None, SUPPRESS): return argument.metavar
  |     if argument.dest not in (None, SUPPRESS): return argument.dest
  |     return '{' + ','.join(argument.choices) + '}' if argument.choices else None
  | class ArgumentError(Exception):
  |     def __init__(self, argument, message): self.argument_name, self.message = _get_action_name(argument), message
  |     def __str__(self):
  |         return '%s' % self.message if self.argument_name is None else 'argument %s: %s' % (self.argument_name, self.message)
  | class ArgumentTypeError(Exception): pass
  | class Action(_Shown):
  |     def __init__(self, option_strings, dest, nargs=None, const=None, default=None, type=None, choices=None, required=False,
  |             help=None, metavar=None):
  |         self.option_strings, self.dest, self.nargs, self.const, self.default = option_strings, dest, nargs, const, default
  |         self.type, self.choices, self.required, self.help, self.metavar = type, choices, required, help, metavar
  |     def _get_kwargs(self):
  |         return [(n, getattr(self, n)) for n in ('option_strings', 'dest', 'nargs', 'const', 'default', 'type', 'choices',
  |             'required', 'help', 'metavar')]
  |     def format_usage(self): return self.option_strings[0]
  |     def __call__(self, parser, namespace, values, option_string=None): raise NotImplementedError('.__call__() not defined')
  | class BooleanOptionalAction(Action):
  |     def __init__(self, option_strings, dest, default=None, type=None, choices=None, required=False, help=None, metavar=None):
  |         both = []
  |         for s in option_strings: both += [s, '--no-' + s[2:]] if s.startswith('--') else [s]
  |         if help is not None and default is not None and default is not SUPPRESS: help += ' (default: %(default)s)'
  |         super().__init__(both, dest, 0, None, default, type, choices, required, help, metavar)
  |     def __call__(self, parser, namespace, values, option_string=None):
  |         if option_string in self.option_strings: setattr(namespace, self.dest, not option_string.startswith('--no-'))
  |     def format_usage(self): return ' | '.join(self.option_strings)
  | class _StoreAction(Action):
  |     _refusal = ('nargs for store actions must be != 0; if you have nothing to store, actions such as store '
  |         'true or store const may be more appropriate')
  |     def __init__(self, option_strings, dest, nargs=None, const=None, default=None, type=None, choices=None, required=False,
  |             help=None, metavar=None):
  |         if nargs == 0: raise ValueError(self._refusal)
  |         if const is not None and nargs != OPTIONAL: raise ValueError('nargs must be %r to supply const' % OPTIONAL)
  |         super().__init__(option_strings, dest, nargs, const, default, type, choices, required, help, metavar)
  |     def __call__(self, parser, namespace, values, option_string=None): setattr(namespace, self.dest, values)
  | class _AppendAction(_StoreAction):
  |     _refusal = ('nargs for append actions must be != 0; if arg strings are not supplying the value to append, '
  |         'the append const action may be more appropriate')
  |     def __call__(self, parser, namespace, values, option_string=None):
  |         setattr(namespace, self.dest, _copy_items(getattr(namespace, self.dest, None)) + [values])
  | class _ExtendAction(_AppendAction):
  |     def __call__(self, parser, namespace, values, option_string=None):
  |         items = _copy_items(getattr(namespace, self.dest, None))
  |         items.extend(values)
  |         setattr(namespace, self.dest, items)
  | class _StoreConstAction(Action):
  |     def __init__(self, option_strings, dest, const=None, default=None, required=False, help=None, metavar=None):
  |         super().__init__(option_strings, dest, 0, const, default, None, None, required, help)
  |     def __call__(self, parser, namespace, values, option_string=None): setattr(namespace, self.dest, self.const)
  | class _StoreTrueAction(_StoreConstAction):
  |     def __init__(self, option_strings, dest, default=False, required=False, help=None):
  |         super().__init__(option_strings, dest, True, default, required, help)
  | class _StoreFalseAction(_StoreConstAction):
  |     def __init__(self, option_strings, dest, default=True, required=False, help=None):
  |         super().__init__(option_strings, dest, False, default, required, help)
  | class _AppendConstAction(Action):
  |     def __init__(self, option_strings, dest, const=None, default=None, required=False, help=None, metavar=None):
  |         super().__init__(option_strings, dest, 0, const, default, None, None, required, help, metavar)
  |     def __call__(self, parser, namespace, values, option_string=None):
  |         items = _copy_items(getattr(namespace, self.dest, None))
  |         items.append(self.const)
  |         setattr(namespace, self.dest, items)
  | class _CountAction(Action):
  |     def __init__(self, option_strings, dest, default=None, required=False, help=None):
  |         super().__init__(option_strings, dest, 0, None, default, None, None, required, help)
  |     def __call__(self, parser, namespace, values, option_string=None):
  |         count = getattr(namespace, self.dest, None)
  |         setattr(namespace, self.dest, (0 if count is None else count) + 1)
  | class _HelpAction(Action):
  |     def __init__(self, option_strings, dest=SUPPRESS, default=SUPPRESS, help=None):
  |         super().__init__(option_strings, dest, 0, None, default, None, None, False, help)
  |     def __call__(self, parser, namespace, values, option_string=None):
  |         parser.print_help()
  |         parser.exit()
  | class _VersionAction(Action):
  |     def __init__(self, option_strings, version=None, dest=SUPPRESS, default=SUPPRESS,
  |             help="show program's version number and exit"):
  |         super().__init__(option_strings, dest, 0, None, default, None, None, False, help)
  |         self.version = version
  |     def __call__(self, parser, namespace, values, option_string=None):
  |         formatter = parser._get_formatter()
  |         formatter.add_text(parser.version if self.version is None else self.version)
  |         parser._print_message(formatter.format_help(), sys.stdout)
  |         parser.exit()
  | class _Choice(Action):
  |     def __init__(self, name, aliases, help):
  |         super().__init__([], name, help=help, metavar=name + ' (%s)' % ', '.join(aliases) if aliases else name)
  | class _SubParsersAction(Action):
  |     _ChoicesPseudoAction = _Choice
  |     def __init__(self, option_strings, prog, parser_class, dest=SUPPRESS, required=False, help=None, metavar=None):
  |         self._prog_prefix, self._parser_class, self._name_parser_map, self._choices_actions = prog, parser_class, {}, []
  |         super().__init__(option_strings, dest, PARSER, None, None, None, self._name_parser_map, required, help, metavar)
  |     def add_parser(self, name, **kwargs):
  |         if kwargs.get('prog') is None: kwargs['prog'] = '%s %s' % (self._prog_prefix, name)
  |         aliases = kwargs.pop('aliases', ())
  |         if name in self._name_parser_map: raise ArgumentError(self, 'conflicting subparser: %s' % name)
  |         for alias in aliases:
  |             if alias in self._name_parser_map: raise ArgumentError(self, 'conflicting subparser alias: %s' % alias)
  |         if 'help' in kwargs: self._choices_actions.append(self._ChoicesPseudoAction(name, aliases, kwargs.pop('help')))
  |         parser = self._name_parser_map[name] = self._parser_class(**kwargs)
  |         for alias in aliases: self._name_parser_map[alias] = parser
  |         return parser
  |     def _get_subactions(self): return self._choices_actions
  |     def __call__(self, parser, namespace, values, option_string=None):
  |         name, rest = values[0], values[1:]
  |         if self.dest is not SUPPRESS: setattr(namespace, self.dest, name)
  |         if name not in self._name_parser_map:
  |             raise ArgumentError(self, 'unknown parser %r (choices: %s)' % (name, ', '.join(self._name_parser_map)))
  |         inner, rest = self._name_parser_map[name].parse_known_args(rest, None)
  |         for key, value in vars(inner).items(): setattr(namespace, key, value)
  |         if rest: vars(namespace).setdefault(_rest_name, []).extend(rest)
  | class FileType:
  |     def __init__(self, mode='r', bufsize=-1, encoding=None, errors=None):
  |         self._mode, self._bufsize, self._encoding, self._errors = mode, bufsize, encoding, errors
  |     def __call__(self, string):
  |         if string == '-':
  |             if 'r' in self._mode: return sys.stdin.buffer if 'b' in self._mode else sys.stdin
  |             if any(c in self._mode for c in 'wax'): return sys.stdout.buffer if 'b' in self._mode else sys.stdout
  |             raise ValueError('argument "-" with mode %r' % self._mode)
  |         try: return open(string, self._mode, self._bufsize, self._encoding, self._errors)
  |         except OSError as e: raise ArgumentTypeError("can't open '%s': %s" % (string, e))
  |     def __repr__(self):
  |         shown = [repr(a) for a in (self._mode, self._bufsize) if a != -1]
  |         shown += ['%s=%r' % (k, v) for k, v in (('encoding', self._encoding), ('errors', self._errors)) if v is not None]
  |         return '%s(%s)' % (type(self).__name__, ', '.join(shown))
  | class Namespace(_Shown):
  |     def __init__(self, **kwargs):
  |         for name in kwargs: setattr(self, name, kwargs[name])
  |     def __eq__(self, other): return vars(self) == vars(other) if isinstance(other, Namespace) else NotImplemented
  |     def __contains__(self, key): return key in self.__dict__
  | class _ActionsContainer:
  |     def __init__(self, description, prefix_chars, argument_default, conflict_handler):
  |         self.description, self.argument_default, self.prefix_chars = description, argument_default, prefix_chars
  |         self.conflict_handler = conflict_handler
  |         self._registries = {'action': {None: _StoreAction, 'store': _StoreAction, 'store_const': _StoreConstAction,
  |             'store_true': _StoreTrueAction, 'store_false': _StoreFalseAction, 'append': _AppendAction,
  |             'append_const': _AppendConstAction, 'count': _CountAction, 'help': _HelpAction, 'version': _VersionAction,
  |             'parsers': _SubParsersAction, 'extend': _ExtendAction}}
  |         self._get_handler()
  |         self._actions, self._option_string_actions, self._action_groups = [], {}, []
  |         self._mutually_exclusive_groups, self._defaults, self._has_negative_number_optionals = [], {}, []
  |         self._negative_number_matcher = re.compile(r'^-\d+$|^-\d*\.\d+$')
  |     def register(self, registry_name, value, object): self._registries.setdefault(registry_name, {})[value] = object
  |     def _registry_get(self, registry_name, value, default=None): return self._registries[registry_name].get(value, default)
  |     def set_defaults(self, **kwargs):
  |         self._defaults.update(kwargs)
  |         for action in self._actions:
  |             if action.dest in kwargs: action.default = kwargs[action.dest]
  |     def get_default(self, dest):
  |         for action in self._actions:
  |             if action.dest == dest and action.default is not None: return action.default
  |         return self._defaults.get(dest, None)
  |     def add_argument(self, *args, **kwargs):
  |         if not args or len(args) == 1 and args[0][0] not in self.prefix_chars:
  |             if args and 'dest' in kwargs: raise ValueError('dest supplied twice for positional argument')
  |             kwargs = self._get_positional_kwargs(*args, **kwargs)
  |         else: kwargs = self._get_optional_kwargs(*args, **kwargs)
  |         if 'default' not in kwargs:
  |             if kwargs['dest'] in self._defaults: kwargs['default'] = self._defaults[kwargs['dest']]
  |             elif self.argument_default is not None: kwargs['default'] = self.argument_default
  |         action_class = self._pop_action_class(kwargs)
  |         if not callable(action_class): raise ValueError('unknown action "%s"' % (action_class,))
  |         action = action_class(**kwargs)
  |         type_func = self._registry_get('type', action.type, action.type)
  |         if not callable(type_func): raise ValueError('%r is not callable' % (type_func,))
  |         if type_func is FileType:
  |             raise ValueError('%r is a FileType class object, instance of it must be passed' % (type_func,))
  |         if hasattr(self, '_get_formatter'):
  |             try: self._get_formatter()._format_args(action, None)
  |             except TypeError: raise ValueError('length of metavar tuple does not match nargs')
  |         return self._add_action(action)
  |     def add_argument_group(self, *args, **kwargs):
  |         group = _ArgumentGroup(self, *args, **kwargs)
  |         self._action_groups.append(group)
  |         return group
  |     def add_mutually_exclusive_group(self, **kwargs):
  |         group = _MutuallyExclusiveGroup(self, **kwargs)
  |         self._mutually_exclusive_groups.append(group)
  |         return group
  |     def _add_action(self, action):
  |         self._check_conflict(action)
  |         self._actions.append(action)
  |         action.container = self
  |         for s in action.option_strings: self._option_string_actions[s] = action
  |         if any(self._negative_number_matcher.match(s) for s in action.option_strings):
  |             if not self._has_negative_number_optionals: self._has_negative_number_optionals.append(True)
  |         return action
  |     def _remove_action(self, action): self._actions.remove(action)
  |     def _add_container_actions(self, container):
  |         titled = {}
  |         for group in self._action_groups:
  |             if group.title in titled: raise ValueError('cannot merge actions - two groups are named %r' % (group.title))
  |             titled[group.title] = group
  |         homes = {}
  |         for group in container._action_groups:
  |             if group.title not in titled:
  |                 titled[group.title] = self.add_argument_group(title=group.title, description=group.description,
  |                     conflict_handler=group.conflict_handler)
  |             for action in group._group_actions: homes[action] = titled[group.title]
  |         for group in container._mutually_exclusive_groups:
  |             mutex = self.add_mutually_exclusive_group(required=group.required)
  |             for action in group._group_actions: homes[action] = mutex
  |         for action in container._actions: homes.get(action, self)._add_action(action)
  |     def _get_positional_kwargs(self, dest, **kwargs):
  |         if 'required' in kwargs: raise TypeError("'required' is an invalid argument for positionals")
  |         if kwargs.get('nargs') not in [OPTIONAL, ZERO_OR_MORE]: kwargs['required'] = True
  |         if kwargs.get('nargs') == ZERO_OR_MORE and 'default' not in kwargs: kwargs['required'] = True
  |         return dict(kwargs, dest=dest, option_strings=[])
  |     def _get_optional_kwargs(self, *args, **kwargs):
  |         long = []
  |         for s in args:
  |             if s[0] not in self.prefix_chars:
  |                 raise ValueError('invalid option string %r: must start with a character %r' % (s, self.prefix_chars))
  |             if len(s) > 1 and s[1] in self.prefix_chars: long.append(s)
  |         dest = kwargs.pop('dest', None)
  |         if dest is None:
  |             dest = (long or args)[0].lstrip(self.prefix_chars)
  |             if not dest: raise ValueError('dest= is required for options like %r' % args[-1])
  |             dest = dest.replace('-', '_')
  |         return dict(kwargs, dest=dest, option_strings=list(args))
  |     def _pop_action_class(self, kwargs, default=None):
  |         action = kwargs.pop('action', default)
  |         return self._registry_get('action', action, action)
  |     def _get_handler(self):
  |         try: return getattr(self, '_handle_conflict_%s' % self.conflict_handler)
  |         except AttributeError: raise ValueError('invalid conflict_resolution value: %r' % self.conflict_handler)
  |     def _check_conflict(self, action):
  |         known = [(s, self._option_string_actions[s]) for s in action.option_strings if s in self._option_string_actions]
  |         if known: self._get_handler()(action, known)
  |     def _handle_conflict_error(self, action, conflicting_actions):
  |         raise ArgumentError(action, 'conflicting option string%s: %s' % ('' if len(conflicting_actions) == 1 else 's',
  |             ', '.join([s for s, a in conflicting_actions])))
  |     def _handle_conflict_resolve(self, action, conflicting_actions):
  |         for s, action in conflicting_actions:
  |             action.option_strings.remove(s)
  |             self._option_string_actions.pop(s, None)
  |             if not action.option_strings: action.container._remove_action(action)
  | class _ArgumentGroup(_ActionsContainer):
  |     def __init__(self, container, title=None, description=None, **kwargs):
  |         kwargs.setdefault('conflict_handler', container.conflict_handler)
  |         kwargs.setdefault('prefix_chars', container.prefix_chars)
  |         kwargs.setdefault('argument_default', container.argument_default)
  |         super().__init__(description=description, **kwargs)
  |         self.title, self._group_actions = title, []
  |         for shared in ('_registries', '_actions', '_option_string_actions', '_defaults', '_has_negative_number_optionals',
  |                 '_mutually_exclusive_groups'):
  |             setattr(self, shared, getattr(container, shared))
  |     def _add_action(self, action):
  |         action = super()._add_action(action)
  |         self._group_actions.append(action)
  |         return action
  |     def _remove_action(self, action):
  |         super()._remove_action(action)
  |         self._group_actions.remove(action)
  | class _MutuallyExclusiveGroup(_ArgumentGroup):
  |     def __init__(self, container, required=False):
  |         super().__init__(container)
  |         self.required, self._container = required, container
  |     def _add_action(self, action):
  |         if action.required: raise ValueError('mutually exclusive arguments must be optional')
  |         action = self._container._add_action(action)
  |         self._group_actions.append(action)
  |         return action
  |     def _remove_action(self, action):
  |         self._container._remove_action(action)
  |         self._group_actions.remove(action)
  | class ArgumentParser(_Shown, _ActionsContainer):
  |     def __init__(self, prog=None, usage=None, description=None, epilog=None, parents=[], formatter_class=HelpFormatter,
  |             prefix_chars='-', fromfile_prefix_chars=None, argument_default=None, conflict_handler='error', add_help=True,
  |             allow_abbrev=True, exit_on_error=True):
  |         _ActionsContainer.__init__(self, description, prefix_chars, argument_default, conflict_handler)
  |         self.prog = os.path.basename(sys.argv[0]) if prog is None else prog
  |         self.usage, self.epilog, self.formatter_class, self.fromfile_prefix_chars = usage, epilog, formatter_class, fromfile_prefix_chars
  |         self.add_help, self.allow_abbrev, self.exit_on_error = add_help, allow_abbrev, exit_on_error
  |         self._positionals = self.add_argument_group('positional arguments')
  |         self._optionals = self.add_argument_group('options')
  |         self._subparsers = None
  |         self.register('type', None, lambda string: string)
  |         p = '-' if '-' in prefix_chars else prefix_chars[0]
  |         if self.add_help:
  |             self.add_argument(p + 'h', p * 2 + 'help', action='help', default=SUPPRESS, help='show this help message and exit')
  |         for parent in parents:
  |             self._add_container_actions(parent)
  |             self._defaults.update(getattr(parent, '_defaults', {}))
  |     def _get_kwargs(self):
  |         return [(n, getattr(self, n)) for n in ('prog', 'usage', 'description', 'formatter_class', 'conflict_handler', 'add_help')]
  |     def add_subparsers(self, **kwargs):
  |         if self._subparsers is not None: self.error('cannot have multiple subparser arguments')
  |         kwargs.setdefault('parser_class', type(self))
  |         if 'title' in kwargs or 'description' in kwargs:
  |             self._subparsers = self.add_argument_group(kwargs.pop('title', 'subcommands'), kwargs.pop('description', None))
  |         else: self._subparsers = self._positionals
  |         if kwargs.get('prog') is None:
  |             formatter = self._get_formatter()
  |             formatter.add_usage(self.usage, self._get_positional_actions(), self._mutually_exclusive_groups, '')
  |             kwargs['prog'] = formatter.format_help().strip()
  |         action = self._pop_action_class(kwargs, 'parsers')(option_strings=[], **kwargs)
  |         self._subparsers._add_action(action)
  |         return action
  |     def _add_action(self, action):
  |         (self._optionals if action.option_strings else self._positionals)._add_action(action)
  |         return action
  |     def _get_optional_actions(self): return [a for a in self._actions if a.option_strings]
  |     def _get_positional_actions(self): return [a for a in self._actions if not a.option_strings]
  |     def parse_args(self, args=None, namespace=None):
  |         args, rest = self.parse_known_args(args, namespace)
  |         if rest: self.error('unrecognized arguments: %s' % ' '.join(rest))
  |         return args
  |     def parse_known_args(self, args=None, namespace=None):
  |         args = sys.argv[1:] if args is None else list(args)
  |         if namespace is None: namespace = Namespace()
  |         for action in self._actions:
  |             if action.dest is not SUPPRESS and not hasattr(namespace, action.dest) and action.default is not SUPPRESS:
  |                 setattr(namespace, action.dest, action.default)
  |         for dest in self._defaults:
  |             if not hasattr(namespace, dest): setattr(namespace, dest, self._defaults[dest])
  |         if self.exit_on_error:
  |             try: namespace, args = self._parse_known_args(args, namespace)
  |             except ArgumentError as err: self.error(str(err))
  |         else: namespace, args = self._parse_known_args(args, namespace)
  |         if hasattr(namespace, _rest_name):
  |             args.extend(getattr(namespace, _rest_name))
  |             delattr(namespace, _rest_name)
  |         return namespace, args
  |     def _parse_known_args(self, arg_strings, namespace):
  |         if self.fromfile_prefix_chars is not None: arg_strings = self._read_args_from_files(arg_strings)
  |         conflicts = {}
  |         for group in self._mutually_exclusive_groups:
  |             for action in group._group_actions:
  |                 conflicts.setdefault(action, []).extend([a for a in group._group_actions if a is not action])
  |         options, pattern = {}, ''
  |         for i, s in enumerate(arg_strings):
  |             if s == '--':
  |                 pattern += '-' + 'A' * (len(arg_strings) - i - 1)
  |                 break
  |             found = self._parse_optional(s)
  |             if found is not None: options[i] = found
  |             pattern += 'A' if found is None else 'O'
  |         seen, given, extras = set(), set(), []
  |         def take(action, strings, option_string=None):
  |             seen.add(action)
  |             values = self._get_values(action, strings)
  |             if values is not action.default:
  |                 given.add(action)
  |                 for other in conflicts.get(action, []):
  |                     if other in given: raise ArgumentError(action, 'not allowed with argument %s' % _get_action_name(other))
  |             if values is not SUPPRESS: action(self, namespace, values, option_string)
  |         def consume_optional(start):
  |             action, option_string, explicit = options[start]
  |             found = []
  |             while True:
  |                 if action is None:
  |                     extras.append(arg_strings[start])
  |                     return start + 1
  |                 if explicit is None:
  |                     n = self._match_argument(action, pattern[start + 1:])
  |                     stop = start + 1 + n
  |                     found.append((action, arg_strings[start + 1:stop], option_string))
  |                     break
  |                 n = self._match_argument(action, 'A')
  |                 if n == 0 and option_string[1] not in self.prefix_chars and explicit != '':
  |                     found.append((action, [], option_string))
  |                     option_string = option_string[0] + explicit[0]
  |                     if option_string not in self._option_string_actions:
  |                         raise ArgumentError(action, 'ignored explicit argument %r' % explicit)
  |                     action = self._option_string_actions[option_string]
  |                     explicit = explicit[1:] or None
  |                 elif n == 1:
  |                     stop = start + 1
  |                     found.append((action, [explicit], option_string))
  |                     break
  |                 else: raise ArgumentError(action, 'ignored explicit argument %r' % explicit)
  |             for action, args, option_string in found: take(action, args, option_string)
  |             return stop
  |         positionals = self._get_positional_actions()
  |         def consume_positionals(start):
  |             counts = self._match_arguments_partial(positionals, pattern[start:])
  |             for action, n in zip(positionals, counts):
  |                 args = arg_strings[start:start + n]
  |                 start += n
  |                 take(action, args)
  |             positionals[:] = positionals[len(counts):]
  |             return start
  |         start, last = 0, max(options) if options else -1
  |         while start <= last:
  |             following = min([i for i in options if i >= start])
  |             if start != following:
  |                 stop = consume_positionals(start)
  |                 if stop > start:
  |                     start = stop
  |                     continue
  |                 start = stop
  |             if start not in options:
  |                 extras.extend(arg_strings[start:following])
  |                 start = following
  |             start = consume_optional(start)
  |         stop = consume_positionals(start)
  |         extras.extend(arg_strings[stop:])
  |         missing = []
  |         for action in self._actions:
  |             if action in seen: continue
  |             if action.required: missing.append(_get_action_name(action))
  |             elif isinstance(action.default, str) and hasattr(namespace, action.dest) and \
  |                     action.default is getattr(namespace, action.dest):
  |                 setattr(namespace, action.dest, self._get_value(action, action.default))
  |         if missing: self.error('the following arguments are required: %s' % ', '.join(missing))
  |         for group in self._mutually_exclusive_groups:
  |             if group.required and not any(a in given for a in group._group_actions):
  |                 self.error('one of the arguments %s is required' % ' '.join([_get_action_name(a) for a in group._group_actions
  |                     if a.help is not SUPPRESS]))
  |         return namespace, extras
  |     def _read_args_from_files(self, arg_strings):
  |         found = []
  |         for s in arg_strings:
  |             if not s or s[0] not in self.fromfile_prefix_chars: found.append(s)
  |             else:
  |                 try:
  |                     with open(s[1:]) as f:
  |                         inner = [a for line in f.read().splitlines() for a in self.convert_arg_line_to_args(line)]
  |                     found.extend(self._read_args_from_files(inner))
  |                 except OSError as err: self.error(str(err))
  |         return found
  |     def convert_arg_line_to_args(self, arg_line): return [arg_line]
  |     def _match_argument(self, action, pattern):
  |         found = re.match(self._get_nargs_pattern(action), pattern)
  |         if found is None:
  |             message = {None: 'expected one argument', OPTIONAL: 'expected at most one argument',
  |                 ONE_OR_MORE: 'expected at least one argument'}.get(action.nargs)
  |             if message is None: message = 'expected %s argument%s' % (action.nargs, '' if action.nargs == 1 else 's')
  |             raise ArgumentError(action, message)
  |         return len(found.group(1))
  |     def _match_arguments_partial(self, actions, pattern):
  |         for i in range(len(actions), 0, -1):
  |             found = re.match(''.join([self._get_nargs_pattern(a) for a in actions[:i]]), pattern)
  |             if found is not None: return [len(s) for s in found.groups()]
  |         return []
  |     def _parse_optional(self, s):
  |         if not s or s[0] not in self.prefix_chars: return None
  |         if s in self._option_string_actions: return self._option_string_actions[s], s, None
  |         if len(s) == 1: return None
  |         if '=' in s:
  |             name, explicit = s.split('=', 1)
  |             if name in self._option_string_actions: return self._option_string_actions[name], name, explicit
  |         found = self._get_option_tuples(s)
  |         if len(found) > 1:
  |             self.error('ambiguous option: %s could match %s' % (s, ', '.join([name for action, name, explicit in found])))
  |         if found: return found[0]
  |         if self._negative_number_matcher.match(s) and not self._has_negative_number_optionals: return None
  |         return None if ' ' in s else (None, s, None)
  |     def _get_option_tuples(self, s):
  |         chars, known = self.prefix_chars, self._option_string_actions
  |         if s[1] in chars:
  |             if not self.allow_abbrev: return []
  |             front, explicit = s.split('=', 1) if '=' in s else (s, None)
  |             return [(known[name], name, explicit) for name in known if name.startswith(front)]
  |         found = []
  |         for name in known:
  |             if name == s[:2]: found.append((known[name], name, s[2:]))
  |             elif name.startswith(s): found.append((known[name], name, None))
  |         return found
  |     def _get_nargs_pattern(self, action):
  |         n = action.nargs
  |         patterns = {None: '(-*A-*)', OPTIONAL: '(-*A?-*)', ZERO_OR_MORE: '(-*[A-]*)', ONE_OR_MORE: '(-*A[A-]*)',
  |             REMAINDER: '([-AO]*)', PARSER: '(-*A[-AO]*)', SUPPRESS: '(-*-*)'}
  |         found = patterns[n] if n in patterns else '(-*%s-*)' % '-*'.join('A' * n)
  |         return found.replace('-*', '').replace('-', '') if action.option_strings else found
  |     def parse_intermixed_args(self, args=None, namespace=None):
  |         args, rest = self.parse_known_intermixed_args(args, namespace)
  |         if rest: self.error('unrecognized arguments: %s' % ' '.join(rest))
  |         return args
  |     def parse_known_intermixed_args(self, args=None, namespace=None):
  |         positionals, optionals = self._get_positional_actions(), self._get_optional_actions()
  |         for a in positionals:
  |             if a.nargs in [PARSER, REMAINDER]: raise TypeError('parse_intermixed_args: positional arg with nargs=%s' % a.nargs)
  |         if any(a in positionals for g in self._mutually_exclusive_groups for a in g._group_actions):
  |             raise TypeError('parse_intermixed_args: positional in mutuallyExclusiveGroup')
  |         usage = self.usage
  |         kept = [(a, a.nargs, a.default) for a in positionals]
  |         try:
  |             if self.usage is None: self.usage = self.format_usage()[7:]
  |             try:
  |                 for a in positionals: a.nargs = a.default = SUPPRESS
  |                 namespace, rest = self.parse_known_args(args, namespace)
  |                 for a in positionals:
  |                     if hasattr(namespace, a.dest) and getattr(namespace, a.dest) == []: delattr(namespace, a.dest)
  |             finally:
  |                 for a, nargs, default in kept: a.nargs, a.default = nargs, default
  |             needed = [(x, x.required) for x in optionals + self._mutually_exclusive_groups]
  |             try:
  |                 for x, _ in needed: x.required = False
  |                 return self.parse_known_args(rest, namespace)
  |             finally:
  |                 for x, required in needed: x.required = required
  |         finally: self.usage = usage
  |     def _get_values(self, action, arg_strings):
  |         if action.nargs not in [PARSER, REMAINDER] and '--' in arg_strings: arg_strings.remove('--')
  |         if not arg_strings and action.nargs == OPTIONAL:
  |             value = action.const if action.option_strings else action.default
  |             if isinstance(value, str):
  |                 value = self._get_value(action, value)
  |                 self._check_value(action, value)
  |         elif not arg_strings and action.nargs == ZERO_OR_MORE and not action.option_strings:
  |             value = arg_strings if action.default is None else action.default
  |             self._check_value(action, value)
  |         elif len(arg_strings) == 1 and action.nargs in [None, OPTIONAL]:
  |             value = self._get_value(action, arg_strings[0])
  |             self._check_value(action, value)
  |         elif action.nargs == SUPPRESS: value = SUPPRESS
  |         else:
  |             value = [self._get_value(action, v) for v in arg_strings]
  |             if action.nargs == PARSER: self._check_value(action, value[0])
  |             elif action.nargs != REMAINDER:
  |                 for v in value: self._check_value(action, v)
  |         return value
  |     def _get_value(self, action, arg_string):
  |         type_func = self._registry_get('type', action.type, action.type)
  |         if not callable(type_func): raise ArgumentError(action, '%r is not callable' % type_func)
  |         try: return type_func(arg_string)
  |         except ArgumentTypeError as err: raise ArgumentError(action, str(err))
  |         except (TypeError, ValueError):
  |             name = getattr(action.type, '__name__', repr(action.type))
  |             raise ArgumentError(action, 'invalid %s value: %r' % (name, arg_string))
  |     def _check_value(self, action, value):
  |         if action.choices is not None and value not in action.choices:
  |             raise ArgumentError(action, 'invalid choice: %r (choose from %s)' % (value, ', '.join(map(repr, action.choices))))
  |     def format_usage(self):
  |         formatter = self._get_formatter()
  |         formatter.add_usage(self.usage, self._actions, self._mutually_exclusive_groups)
  |         return formatter.format_help()
  |     def format_help(self):
  |         formatter = self._get_formatter()
  |         formatter.add_usage(self.usage, self._actions, self._mutually_exclusive_groups)
  |         formatter.add_text(self.description)
  |         for group in self._action_groups:
  |             formatter.start_section(group.title)
  |             formatter.add_text(group.description)
  |             formatter.add_arguments(group._group_actions)
  |             formatter.end_section()
  |         formatter.add_text(self.epilog)
  |         return formatter.format_help()
  |     def _get_formatter(self): return self.formatter_class(prog=self.prog)
  |     def print_usage(self, file=None): self._print_message(self.format_usage(), sys.stdout if file is None else file)
  |     def print_help(self, file=None): self._print_message(self.format_help(), sys.stdout if file is None else file)
  |     def _print_message(self, message, file=None):
  |         if message: (file or sys.stderr).write(message)
  |     def exit(self, status=0, message=None):
  |         if message: self._print_message(message, sys.stderr)
  |         sys.exit(status)
  |     def error(self, message):
  |         self.print_usage(sys.stderr)
  |         self.exit(2, '%s: error: %s\n' % (self.prog, message))"# }

/-- the module for the words that a program is given, in an older way -/
def optionsLibrary : Library :=
  { name := "optparse"
    file := "/usr/lib/python3.11/optparse.py"
    source := r#"
  | import os, sys, textwrap
  | __all__ = ['Option', 'make_option', 'SUPPRESS_HELP', 'SUPPRESS_USAGE', 'Values', 'OptionContainer', 'OptionGroup',
  |     'OptionParser', 'HelpFormatter', 'IndentedHelpFormatter', 'TitledHelpFormatter', 'OptParseError', 'OptionError',
  |     'OptionConflictError', 'OptionValueError', 'BadOptionError', 'check_choice']
  | SUPPRESS_HELP, SUPPRESS_USAGE, NO_DEFAULT = 'SUPPRESSHELP', 'SUPPRESSUSAGE', ('NO', 'DEFAULT')
  | def _shown(self): return '<%s at 0x%x: %s>' % (self.__class__.__name__, id(self), self)
  | class OptParseError(Exception):
  |     def __init__(self, msg): self.msg = msg
  |     def __str__(self): return self.msg
  | class OptionError(OptParseError):
  |     def __init__(self, msg, option): self.msg, self.option_id = msg, str(option)
  |     def __str__(self): return 'option %s: %s' % (self.option_id, self.msg) if self.option_id else self.msg
  | class OptionConflictError(OptionError): pass
  | class OptionValueError(OptParseError): pass
  | class BadOptionError(OptParseError):
  |     def __init__(self, opt_str): self.opt_str = opt_str
  |     def __str__(self): return 'no such option: %s' % self.opt_str
  | class AmbiguousOptionError(BadOptionError):
  |     def __init__(self, opt_str, possibilities): self.opt_str, self.possibilities = opt_str, possibilities
  |     def __str__(self): return 'ambiguous option: %s (%s?)' % (self.opt_str, ', '.join(self.possibilities))
  | class HelpFormatter:
  |     NO_DEFAULT_VALUE = 'none'
  |     def __init__(self, indent_increment, max_help_position, width, short_first):
  |         if width is None:
  |             try: width = int(os.environ['COLUMNS'])
  |             except (KeyError, ValueError): width = 80
  |             width -= 2
  |         self.parser, self.indent_increment, self.width, self.short_first = None, indent_increment, width, short_first
  |         self.help_position = self.max_help_position = min(max_help_position, max(width - 20, indent_increment * 2))
  |         self.current_indent, self.level, self.help_width = 0, 0, None
  |         self.default_tag, self.option_strings, self._short_opt_fmt, self._long_opt_fmt = '%default', {}, '%s %s', '%s=%s'
  |     def set_parser(self, parser): self.parser = parser
  |     def set_short_opt_delimiter(self, delim):
  |         if delim not in ('', ' '): raise ValueError('invalid metavar delimiter for short options: %r' % delim)
  |         self._short_opt_fmt = '%s' + delim + '%s'
  |     def set_long_opt_delimiter(self, delim):
  |         if delim not in ('=', ' '): raise ValueError('invalid metavar delimiter for long options: %r' % delim)
  |         self._long_opt_fmt = '%s' + delim + '%s'
  |     def indent(self):
  |         self.current_indent += self.indent_increment
  |         self.level += 1
  |     def dedent(self):
  |         self.current_indent -= self.indent_increment
  |         self.level -= 1
  |     def format_usage(self, usage): raise NotImplementedError('subclasses must implement')
  |     def format_heading(self, heading): raise NotImplementedError('subclasses must implement')
  |     def _format_text(self, text):
  |         indent = ' ' * self.current_indent
  |         return textwrap.fill(text, max(self.width - self.current_indent, 11), initial_indent=indent, subsequent_indent=indent)
  |     def format_description(self, description): return self._format_text(description) + '\n' if description else ''
  |     def format_epilog(self, epilog): return '\n' + self._format_text(epilog) + '\n' if epilog else ''
  |     def expand_default(self, option):
  |         if self.parser is None or not self.default_tag: return option.help
  |         value = self.parser.defaults.get(option.dest)
  |         if value is NO_DEFAULT or value is None: value = self.NO_DEFAULT_VALUE
  |         return option.help.replace(self.default_tag, str(value))
  |     def format_option(self, option):
  |         opts, indent = self.option_strings[option], ' ' * self.current_indent
  |         width = self.help_position - self.current_indent - 2
  |         if len(opts) > width: opts, first = indent + opts + '\n', self.help_position
  |         else: opts, first = indent + opts.ljust(width) + '  ', 0
  |         if not option.help: return opts if opts[-1] == '\n' else opts + '\n'
  |         lines = textwrap.wrap(self.expand_default(option), self.help_width)
  |         return opts + ' ' * first + lines[0] + '\n' + ''.join([' ' * self.help_position + l + '\n' for l in lines[1:]])
  |     def _store(self, options):
  |         for opt in options: self.option_strings[opt] = self.format_option_strings(opt)
  |         return max([len(self.option_strings[opt]) + self.current_indent for opt in options], default=0)
  |     def store_option_strings(self, parser):
  |         self.indent()
  |         most = self._store(parser.option_list)
  |         self.indent()
  |         for group in parser.option_groups: most = max(most, self._store(group.option_list))
  |         self.dedent()
  |         self.dedent()
  |         self.help_position = min(most + 2, self.max_help_position)
  |         self.help_width = max(self.width - self.help_position, 11)
  |     def format_option_strings(self, option):
  |         short, long = option._short_opts, option._long_opts
  |         if option.takes_value():
  |             metavar = option.metavar or option.dest.upper()
  |             short = [self._short_opt_fmt % (s, metavar) for s in short]
  |             long = [self._long_opt_fmt % (s, metavar) for s in long]
  |         return ', '.join(short + long if self.short_first else long + short)
  | class IndentedHelpFormatter(HelpFormatter):
  |     def __init__(self, indent_increment=2, max_help_position=24, width=None, short_first=1):
  |         HelpFormatter.__init__(self, indent_increment, max_help_position, width, short_first)
  |     def format_usage(self, usage): return 'Usage: %s\n' % usage
  |     def format_heading(self, heading): return ' ' * self.current_indent + heading + ':\n'
  | class TitledHelpFormatter(HelpFormatter):
  |     def __init__(self, indent_increment=0, max_help_position=24, width=None, short_first=0):
  |         HelpFormatter.__init__(self, indent_increment, max_help_position, width, short_first)
  |     def format_usage(self, usage): return '%s  %s\n' % (self.format_heading('Usage'), usage)
  |     def format_heading(self, heading): return '%s\n%s\n' % (heading, '=-'[self.level] * len(heading))
  | def _whole(val):
  |     if val[:2].lower() == '0x': return int(val, 16)
  |     if val[:2].lower() == '0b': return int(val[2:] or '0', 2)
  |     return int(val, 8 if val[:1] == '0' else 10)
  | _kinds = {'int': (_whole, 'integer'), 'long': (_whole, 'integer'), 'float': (float, 'floating-point'), 'complex': (complex, 'complex')}
  | def check_builtin(option, opt, value):
  |     make, what = _kinds[option.type]
  |     try: return make(value)
  |     except ValueError: raise OptionValueError('option %s: invalid %s value: %r' % (opt, what, value))
  | def check_choice(option, opt, value):
  |     if value in option.choices: return value
  |     raise OptionValueError('option %s: invalid choice: %r (choose from %s)' % (opt, value, ', '.join(map(repr, option.choices))))
  | class Option:
  |     ATTRS = ['action', 'type', 'dest', 'default', 'nargs', 'const', 'choices', 'callback', 'callback_args', 'callback_kwargs',
  |         'help', 'metavar']
  |     ACTIONS = ('store', 'store_const', 'store_true', 'store_false', 'append', 'append_const', 'count', 'callback', 'help', 'version')
  |     STORE_ACTIONS = ('store', 'store_const', 'store_true', 'store_false', 'append', 'append_const', 'count')
  |     TYPED_ACTIONS, ALWAYS_TYPED_ACTIONS, CONST_ACTIONS = ('store', 'append', 'callback'), ('store', 'append'), ('store_const', 'append_const')
  |     TYPES = ('string', 'int', 'long', 'float', 'complex', 'choice')
  |     TYPE_CHECKER = {'int': check_builtin, 'long': check_builtin, 'float': check_builtin, 'complex': check_builtin,
  |         'choice': check_choice}
  |     CHECK_METHODS = None
  |     def __init__(self, *opts, **attrs):
  |         self._short_opts, self._long_opts = [], []
  |         opts = [o for o in opts if o]
  |         if not opts: raise TypeError('at least one option string must be supplied')
  |         self._set_opt_strings(opts)
  |         self._set_attrs(attrs)
  |         for checker in self.CHECK_METHODS: checker(self)
  |     def _set_opt_strings(self, opts):
  |         for opt in opts:
  |             if len(opt) < 2:
  |                 raise OptionError('invalid option string %r: must be at least two characters long' % opt, self)
  |             if len(opt) == 2:
  |                 if opt[0] != '-' or opt[1] == '-':
  |                     raise OptionError('invalid short option string %r: must be of the form -x, (x any non-dash char)' % opt, self)
  |                 self._short_opts.append(opt)
  |             else:
  |                 if opt[:2] != '--' or opt[2] == '-':
  |                     raise OptionError('invalid long option string %r: must start with --, followed by non-dash' % opt, self)
  |                 self._long_opts.append(opt)
  |     def _set_attrs(self, attrs):
  |         for attr in self.ATTRS: setattr(self, attr, attrs.pop(attr, NO_DEFAULT if attr == 'default' else None))
  |         if attrs: raise OptionError('invalid keyword arguments: %s' % ', '.join(sorted(attrs)), self)
  |     def _check_action(self):
  |         if self.action is None: self.action = 'store'
  |         elif self.action not in self.ACTIONS: raise OptionError('invalid action: %r' % self.action, self)
  |     def _check_type(self):
  |         if self.type is None:
  |             if self.action in self.ALWAYS_TYPED_ACTIONS: self.type = 'string' if self.choices is None else 'choice'
  |             return
  |         if isinstance(self.type, type): self.type = self.type.__name__
  |         if self.type == 'str': self.type = 'string'
  |         if self.type not in self.TYPES: raise OptionError('invalid option type: %r' % self.type, self)
  |         if self.action not in self.TYPED_ACTIONS: raise OptionError('must not supply a type for action %r' % self.action, self)
  |     def _check_choice(self):
  |         if self.type == 'choice':
  |             if self.choices is None: raise OptionError("must supply a list of choices for type 'choice'", self)
  |             if not isinstance(self.choices, (tuple, list)):
  |                 raise OptionError("choices must be a list of strings ('%s' supplied)" % type(self.choices).__name__, self)
  |         elif self.choices is not None: raise OptionError('must not supply choices for type %r' % self.type, self)
  |     def _check_dest(self):
  |         if self.dest is None and (self.action in self.STORE_ACTIONS or self.type is not None):
  |             self.dest = self._long_opts[0][2:].replace('-', '_') if self._long_opts else self._short_opts[0][1]
  |     def _check_const(self):
  |         if self.action not in self.CONST_ACTIONS and self.const is not None:
  |             raise OptionError("'const' must not be supplied for action %r" % self.action, self)
  |     def _check_nargs(self):
  |         if self.action in self.TYPED_ACTIONS:
  |             if self.nargs is None: self.nargs = 1
  |         elif self.nargs is not None: raise OptionError("'nargs' must not be supplied for action %r" % self.action, self)
  |     def _check_callback(self):
  |         if self.action == 'callback':
  |             if not callable(self.callback): raise OptionError('callback not callable: %r' % self.callback, self)
  |             if self.callback_args is not None and not isinstance(self.callback_args, tuple):
  |                 raise OptionError('callback_args, if supplied, must be a tuple: not %r' % self.callback_args, self)
  |             if self.callback_kwargs is not None and not isinstance(self.callback_kwargs, dict):
  |                 raise OptionError('callback_kwargs, if supplied, must be a dict: not %r' % self.callback_kwargs, self)
  |         elif self.callback is not None:
  |             raise OptionError('callback supplied (%r) for non-callback option' % self.callback, self)
  |         elif self.callback_args is not None: raise OptionError('callback_args supplied for non-callback option', self)
  |         elif self.callback_kwargs is not None: raise OptionError('callback_kwargs supplied for non-callback option', self)
  |     CHECK_METHODS = [_check_action, _check_type, _check_choice, _check_dest, _check_const, _check_nargs, _check_callback]
  |     def __str__(self): return '/'.join(self._short_opts + self._long_opts)
  |     __repr__ = _shown
  |     def takes_value(self): return self.type is not None
  |     def get_opt_string(self): return (self._long_opts or self._short_opts)[0]
  |     def check_value(self, opt, value):
  |         checker = self.TYPE_CHECKER.get(self.type)
  |         return value if checker is None else checker(self, opt, value)
  |     def convert_value(self, opt, value):
  |         if value is None: return None
  |         return self.check_value(opt, value) if self.nargs == 1 else tuple([self.check_value(opt, v) for v in value])
  |     def process(self, opt, value, values, parser):
  |         return self.take_action(self.action, self.dest, opt, self.convert_value(opt, value), values, parser)
  |     def take_action(self, action, dest, opt, value, values, parser):
  |         if action == 'store': setattr(values, dest, value)
  |         elif action == 'store_const': setattr(values, dest, self.const)
  |         elif action == 'store_true': setattr(values, dest, True)
  |         elif action == 'store_false': setattr(values, dest, False)
  |         elif action == 'append': values.ensure_value(dest, []).append(value)
  |         elif action == 'append_const': values.ensure_value(dest, []).append(self.const)
  |         elif action == 'count': setattr(values, dest, values.ensure_value(dest, 0) + 1)
  |         elif action == 'callback': self.callback(self, opt, value, parser, *(self.callback_args or ()), **(self.callback_kwargs or {}))
  |         elif action == 'help':
  |             parser.print_help()
  |             parser.exit()
  |         elif action == 'version':
  |             parser.print_version()
  |             parser.exit()
  |         else: raise ValueError('unknown action %r' % self.action)
  |         return 1
  | class Values:
  |     def __init__(self, defaults=None):
  |         for name, value in (defaults or {}).items(): setattr(self, name, value)
  |     def __str__(self): return str(self.__dict__)
  |     __repr__ = _shown
  |     def __eq__(self, other):
  |         if isinstance(other, Values): return self.__dict__ == other.__dict__
  |         return self.__dict__ == other if isinstance(other, dict) else NotImplemented
  |     def _update_careful(self, dict):
  |         for name in dir(self):
  |             if dict.get(name) is not None: setattr(self, name, dict[name])
  |     def _update_loose(self, dict): self.__dict__.update(dict)
  |     def ensure_value(self, attr, value):
  |         if getattr(self, attr, None) is None: setattr(self, attr, value)
  |         return getattr(self, attr)
  | class OptionContainer:
  |     def __init__(self, option_class, conflict_handler, description):
  |         self._create_option_list()
  |         self.option_class = option_class
  |         self.set_conflict_handler(conflict_handler)
  |         self.set_description(description)
  |     def _create_option_mappings(self): self._short_opt, self._long_opt, self.defaults = {}, {}, {}
  |     def _share_option_mappings(self, parser):
  |         self._short_opt, self._long_opt, self.defaults = parser._short_opt, parser._long_opt, parser.defaults
  |     def set_conflict_handler(self, handler):
  |         if handler not in ('error', 'resolve'): raise ValueError('invalid conflict_resolution value %r' % handler)
  |         self.conflict_handler = handler
  |     def set_description(self, description): self.description = description
  |     def get_description(self): return self.description
  |     def destroy(self): del self._short_opt, self._long_opt, self.defaults
  |     def _check_conflict(self, option):
  |         known = [(o, self._short_opt[o]) for o in option._short_opts if o in self._short_opt]
  |         known += [(o, self._long_opt[o]) for o in option._long_opts if o in self._long_opt]
  |         if known and self.conflict_handler == 'error':
  |             raise OptionConflictError('conflicting option string(s): %s' % ', '.join([k[0] for k in known]), option)
  |         for opt, other in known:
  |             if opt.startswith('--'):
  |                 other._long_opts.remove(opt)
  |                 del self._long_opt[opt]
  |             else:
  |                 other._short_opts.remove(opt)
  |                 del self._short_opt[opt]
  |             if not (other._short_opts or other._long_opts): other.container.option_list.remove(other)
  |     def add_option(self, *args, **kwargs):
  |         if isinstance(args[0], str): option = self.option_class(*args, **kwargs)
  |         elif len(args) == 1 and not kwargs:
  |             option = args[0]
  |             if not isinstance(option, Option): raise TypeError('not an Option instance: %r' % option)
  |         else: raise TypeError('invalid arguments')
  |         self._check_conflict(option)
  |         self.option_list.append(option)
  |         option.container = self
  |         for opt in option._short_opts: self._short_opt[opt] = option
  |         for opt in option._long_opts: self._long_opt[opt] = option
  |         if option.dest is not None:
  |             if option.default is not NO_DEFAULT: self.defaults[option.dest] = option.default
  |             elif option.dest not in self.defaults: self.defaults[option.dest] = None
  |         return option
  |     def add_options(self, option_list):
  |         for option in option_list: self.add_option(option)
  |     def get_option(self, opt_str): return self._short_opt.get(opt_str) or self._long_opt.get(opt_str)
  |     def has_option(self, opt_str): return opt_str in self._short_opt or opt_str in self._long_opt
  |     def remove_option(self, opt_str):
  |         option = self.get_option(opt_str)
  |         if option is None: raise ValueError('no such option %r' % opt_str)
  |         for opt in option._short_opts: del self._short_opt[opt]
  |         for opt in option._long_opts: del self._long_opt[opt]
  |         option.container.option_list.remove(option)
  |     def format_option_help(self, formatter):
  |         return ''.join([formatter.format_option(o) for o in self.option_list if o.help is not SUPPRESS_HELP])
  |     def format_description(self, formatter): return formatter.format_description(self.get_description())
  |     def format_help(self, formatter):
  |         parts = [self.format_description(formatter)] if self.description else []
  |         return '\n'.join(parts + ([self.format_option_help(formatter)] if self.option_list else []))
  | class OptionGroup(OptionContainer):
  |     def __init__(self, parser, title, description=None):
  |         self.parser = parser
  |         OptionContainer.__init__(self, parser.option_class, parser.conflict_handler, description)
  |         self.title = title
  |     def _create_option_list(self):
  |         self.option_list = []
  |         self._share_option_mappings(self.parser)
  |     def set_title(self, title): self.title = title
  |     def format_help(self, formatter):
  |         text = formatter.format_heading(self.title)
  |         formatter.indent()
  |         text += OptionContainer.format_help(self, formatter)
  |         formatter.dedent()
  |         return text
  | class OptionParser(OptionContainer):
  |     standard_option_list = []
  |     def __init__(self, usage=None, option_list=None, option_class=Option, version=None, conflict_handler='error',
  |             description=None, formatter=None, add_help_option=True, prog=None, epilog=None):
  |         OptionContainer.__init__(self, option_class, conflict_handler, description)
  |         self.set_usage(usage)
  |         self.prog, self.version, self.allow_interspersed_args, self.process_default_values = prog, version, True, True
  |         self.formatter = IndentedHelpFormatter() if formatter is None else formatter
  |         self.formatter.set_parser(self)
  |         self.epilog = epilog
  |         self._populate_option_list(option_list, add_help=add_help_option)
  |         self.rargs = self.largs = self.values = None
  |     def _create_option_list(self):
  |         self.option_list, self.option_groups = [], []
  |         self._create_option_mappings()
  |     def _add_help_option(self): self.add_option('-h', '--help', action='help', help='show this help message and exit')
  |     def _add_version_option(self): self.add_option('--version', action='version', help="show program's version number and exit")
  |     def _populate_option_list(self, option_list, add_help=True):
  |         self.add_options(self.standard_option_list or [])
  |         self.add_options(option_list or [])
  |         if self.version: self._add_version_option()
  |         if add_help: self._add_help_option()
  |     def set_usage(self, usage):
  |         if usage is None: self.usage = '%prog [options]'
  |         elif usage is SUPPRESS_USAGE: self.usage = None
  |         elif usage.lower().startswith('usage: '): self.usage = usage[7:]
  |         else: self.usage = usage
  |     def enable_interspersed_args(self): self.allow_interspersed_args = True
  |     def disable_interspersed_args(self): self.allow_interspersed_args = False
  |     def set_process_default_values(self, process): self.process_default_values = process
  |     def set_default(self, dest, value): self.defaults[dest] = value
  |     def set_defaults(self, **kwargs): self.defaults.update(kwargs)
  |     def _get_all_options(self): return self.option_list + [o for g in self.option_groups for o in g.option_list]
  |     def get_default_values(self):
  |         defaults = self.defaults.copy()
  |         if self.process_default_values:
  |             for option in self._get_all_options():
  |                 default = defaults.get(option.dest)
  |                 if isinstance(default, str): defaults[option.dest] = option.check_value(option.get_opt_string(), default)
  |         return Values(defaults)
  |     def add_option_group(self, *args, **kwargs):
  |         if isinstance(args[0], str): group = OptionGroup(self, *args, **kwargs)
  |         elif len(args) == 1 and not kwargs:
  |             group = args[0]
  |             if not isinstance(group, OptionGroup): raise TypeError('not an OptionGroup instance: %r' % group)
  |             if group.parser is not self: raise ValueError('invalid OptionGroup (wrong parser)')
  |         else: raise TypeError('invalid arguments')
  |         self.option_groups.append(group)
  |         return group
  |     def get_option_group(self, opt_str):
  |         option = self.get_option(opt_str)
  |         return option.container if option and option.container is not self else None
  |     def _get_args(self, args): return sys.argv[1:] if args is None else args[:]
  |     def parse_args(self, args=None, values=None):
  |         rargs = self._get_args(args)
  |         if values is None: values = self.get_default_values()
  |         self.rargs, self.largs, self.values = rargs, [], values
  |         try: self._process_args(self.largs, rargs, values)
  |         except (BadOptionError, OptionValueError) as err: self.error(str(err))
  |         return self.check_values(values, self.largs + rargs)
  |     def check_values(self, values, args): return values, args
  |     def _process_args(self, largs, rargs, values):
  |         while rargs:
  |             arg = rargs[0]
  |             if arg == '--':
  |                 del rargs[0]
  |                 return
  |             if arg[0:2] == '--': self._process_long_opt(rargs, values)
  |             elif arg[:1] == '-' and len(arg) > 1: self._process_short_opts(rargs, values)
  |             elif self.allow_interspersed_args: largs.append(rargs.pop(0))
  |             else: return
  |     def _match_long_opt(self, opt):
  |         if opt in self._long_opt: return opt
  |         found = sorted([word for word in self._long_opt if word.startswith(opt)])
  |         if not found: raise BadOptionError(opt)
  |         if len(found) > 1: raise AmbiguousOptionError(opt, found)
  |         return found[0]
  |     def _taken(self, opt, nargs, rargs):
  |         if len(rargs) < nargs: self.error('%s option requires %d argument%s' % (opt, nargs, '' if nargs == 1 else 's'))
  |         if nargs == 1: return rargs.pop(0)
  |         value = tuple(rargs[:nargs])
  |         del rargs[:nargs]
  |         return value
  |     def _process_long_opt(self, rargs, values):
  |         opt, explicit, given = rargs.pop(0).partition('=')
  |         if explicit: rargs.insert(0, given)
  |         opt = self._match_long_opt(opt)
  |         option, value = self._long_opt[opt], None
  |         if option.takes_value(): value = self._taken(opt, option.nargs, rargs)
  |         elif explicit: self.error('%s option does not take a value' % opt)
  |         option.process(opt, value, values, self)
  |     def _process_short_opts(self, rargs, values):
  |         arg = rargs.pop(0)
  |         for i, ch in enumerate(arg[1:], 2):
  |             opt = '-' + ch
  |             option, value, stop = self._short_opt.get(opt), None, False
  |             if not option: raise BadOptionError(opt)
  |             if option.takes_value():
  |                 if i < len(arg):
  |                     rargs.insert(0, arg[i:])
  |                     stop = True
  |                 value = self._taken(opt, option.nargs, rargs)
  |             option.process(opt, value, values, self)
  |             if stop: break
  |     def get_prog_name(self): return os.path.basename(sys.argv[0]) if self.prog is None else self.prog
  |     def expand_prog_name(self, s): return s.replace('%prog', self.get_prog_name())
  |     def get_description(self): return self.expand_prog_name(self.description)
  |     def exit(self, status=0, msg=None):
  |         if msg: sys.stderr.write(msg)
  |         sys.exit(status)
  |     def error(self, msg):
  |         self.print_usage(sys.stderr)
  |         self.exit(2, '%s: error: %s\n' % (self.get_prog_name(), msg))
  |     def get_usage(self): return self.formatter.format_usage(self.expand_prog_name(self.usage)) if self.usage else ''
  |     def print_usage(self, file=None):
  |         if self.usage: print(self.get_usage(), file=file)
  |     def get_version(self): return self.expand_prog_name(self.version) if self.version else ''
  |     def print_version(self, file=None):
  |         if self.version: print(self.get_version(), file=file)
  |     def format_option_help(self, formatter=None):
  |         formatter = self.formatter if formatter is None else formatter
  |         formatter.store_option_strings(self)
  |         parts = [formatter.format_heading('Options')]
  |         formatter.indent()
  |         if self.option_list: parts += [OptionContainer.format_option_help(self, formatter), '\n']
  |         for group in self.option_groups: parts += [group.format_help(formatter), '\n']
  |         formatter.dedent()
  |         return ''.join(parts[:-1])
  |     def format_epilog(self, formatter): return formatter.format_epilog(self.epilog)
  |     def format_help(self, formatter=None):
  |         formatter = self.formatter if formatter is None else formatter
  |         parts = [self.get_usage() + '\n'] if self.usage else []
  |         if self.description: parts.append(self.format_description(formatter) + '\n')
  |         return ''.join(parts + [self.format_option_help(formatter), self.format_epilog(formatter)])
  |     def print_help(self, file=None): (sys.stdout if file is None else file).write(self.format_help())
  | make_option = Option"# }

/-- the module for words with letters -/
def shortOptionsLibrary : Library :=
  { name := "getopt"
    file := "/usr/lib/python3.11/getopt.py"
    source := r#"
  | import os
  | __all__ = ['GetoptError', 'error', 'getopt', 'gnu_getopt']
  | class GetoptError(Exception):
  |     opt = msg = ''
  |     def __init__(self, msg, opt=''):
  |         self.msg, self.opt = msg, opt
  |         Exception.__init__(self, msg, opt)
  |     def __str__(self): return self.msg
  | error = GetoptError
  | def getopt(args, shortopts, longopts=[]):
  |     opts = []
  |     longopts = [longopts] if isinstance(longopts, str) else list(longopts)
  |     while args and args[0].startswith('-') and args[0] != '-':
  |         if args[0] == '--':
  |             args = args[1:]
  |             break
  |         opts, args = _one(opts, args, shortopts, longopts)
  |     return opts, args
  | def _one(opts, args, shortopts, longopts):
  |     if args[0].startswith('--'): return _long(opts, args[0][2:], longopts, args[1:])
  |     return _short(opts, args[0][1:], shortopts, args[1:])
  | def gnu_getopt(args, shortopts, longopts=[]):
  |     opts, rest = [], []
  |     longopts = [longopts] if isinstance(longopts, str) else list(longopts)
  |     in_order = shortopts.startswith('+') or bool(os.environ.get('POSIXLY_CORRECT'))
  |     if shortopts.startswith('+'): shortopts = shortopts[1:]
  |     while args:
  |         if args[0] == '--':
  |             rest += args[1:]
  |             break
  |         if args[0][:1] == '-' and args[0] != '-': opts, args = _one(opts, args, shortopts, longopts)
  |         elif in_order:
  |             rest += args
  |             break
  |         else:
  |             rest.append(args[0])
  |             args = args[1:]
  |     return opts, rest
  | def _long(opts, opt, longopts, args):
  |     opt, explicit, value = opt.partition('=')
  |     wants, opt = long_has_args(opt, longopts)
  |     if wants and not explicit:
  |         if not args: raise GetoptError('option --%s requires argument' % opt, opt)
  |         value, args = args[0], args[1:]
  |     elif not wants and explicit: raise GetoptError('option --%s must not have an argument' % opt, opt)
  |     opts.append(('--' + opt, value))
  |     return opts, args
  | def long_has_args(opt, longopts):
  |     found = [o for o in longopts if o.startswith(opt)]
  |     if not found: raise GetoptError('option --%s not recognized' % opt, opt)
  |     if opt in found: return False, opt
  |     if opt + '=' in found: return True, opt
  |     if len(found) > 1: raise GetoptError('option --%s not a unique prefix' % opt, opt)
  |     return found[0].endswith('='), found[0].rstrip('=') if found[0].endswith('=') else found[0]
  | def _short(opts, letters, shortopts, args):
  |     while letters:
  |         opt, letters = letters[0], letters[1:]
  |         value = ''
  |         if short_has_arg(opt, shortopts):
  |             if letters == '':
  |                 if not args: raise GetoptError('option -%s requires argument' % opt, opt)
  |                 letters, args = args[0], args[1:]
  |             value, letters = letters, ''
  |         opts.append(('-' + opt, value))
  |     return opts, args
  | def short_has_arg(opt, shortopts):
  |     for i in range(len(shortopts)):
  |         if opt == shortopts[i] != ':': return shortopts.startswith(':', i + 1)
  |     raise GetoptError('option -%s not recognized' % opt, opt)"# }

def programsLibrary : Library :=
  { name := "subprocess"
    file := "/usr/lib/python3.11/subprocess.py"
    source := r#"
  | import io, os, sys, time as _time
  | def _now(): return _time._now
  | _pause = _time._pause
  | __all__ = ['Popen', 'PIPE', 'STDOUT', 'call', 'check_call', 'getstatusoutput', 'getoutput', 'check_output', 'run',
  |     'CalledProcessError', 'DEVNULL', 'SubprocessError', 'TimeoutExpired', 'CompletedProcess', 'list2cmdline']
  | PIPE, STDOUT, DEVNULL = -1, -2, -3
  | class SubprocessError(Exception): pass
  | class CalledProcessError(SubprocessError):
  |     def __init__(self, returncode, cmd, output=None, stderr=None):
  |         self.returncode, self.cmd, self.output, self.stderr = returncode, cmd, output, stderr
  |     def __str__(self):
  |         if self.returncode and self.returncode < 0:
  |             import signal
  |             try: return "Command '%s' died with %r." % (self.cmd, signal.Signals(-self.returncode))
  |             except ValueError: return "Command '%s' died with unknown signal %d." % (self.cmd, -self.returncode)
  |         return "Command '%s' returned non-zero exit status %d." % (self.cmd, self.returncode)
  |     @property
  |     def stdout(self): return self.output
  |     @stdout.setter
  |     def stdout(self, value): self.output = value
  | class TimeoutExpired(SubprocessError):
  |     def __init__(self, cmd, timeout, output=None, stderr=None):
  |         self.cmd, self.timeout, self.output, self.stderr = cmd, timeout, output, stderr
  |     def __str__(self): return "Command '%s' timed out after %s seconds" % (self.cmd, self.timeout)
  |     stdout = property(lambda self: self.output)
  | def call(*popenargs, timeout=None, **kwargs):
  |     with Popen(*popenargs, **kwargs) as p:  #@389
  |         try:
  |             return p.wait(timeout=timeout)  #@391
  |         except:
  |             p.kill()
  |             raise
  | def check_call(*popenargs, **kwargs):
  |     retcode = call(*popenargs, **kwargs)  #@408
  |     if retcode:
  |         cmd = kwargs.get('args')
  |         if cmd is None: cmd = popenargs[0]
  |         raise CalledProcessError(retcode, cmd)  #@413
  |     return 0
  | def check_output(*popenargs, timeout=None, **kwargs):
  |     for kw in ('stdout', 'check'):
  |         if kw in kwargs:
  |             raise ValueError(f'{kw} argument not allowed, it will be overridden.')  #@455
  |     if 'input' in kwargs and kwargs['input'] is None:
  |         text = kwargs.get('universal_newlines') or kwargs.get('text') or kwargs.get('encoding') or kwargs.get('errors')
  |         kwargs['input'] = '' if text else b''
  |     return run(*popenargs, stdout=PIPE, timeout=timeout, check=True,  #@466
  |         **kwargs).stdout
  | class CompletedProcess:
  |     def __init__(self, args, returncode, stdout=None, stderr=None):
  |         self.args, self.returncode, self.stdout, self.stderr = args, returncode, stdout, stderr
  |     def __repr__(self):
  |         parts = [f'args={self.args!r}', f'returncode={self.returncode!r}']
  |         if self.stdout is not None: parts.append(f'stdout={self.stdout!r}')
  |         if self.stderr is not None: parts.append(f'stderr={self.stderr!r}')
  |         return f'{type(self).__name__}({", ".join(parts)})'
  |     def __class_getitem__(cls, item):
  |         from types import GenericAlias
  |         return GenericAlias(cls, item)
  |     def check_returncode(self):
  |         if self.returncode:
  |             raise CalledProcessError(self.returncode, self.args, self.stdout,  #@502
  |                 self.stderr)
  | def run(*popenargs, input=None, capture_output=False, timeout=None, check=False, **kwargs):
  |     if input is not None:
  |         if kwargs.get('stdin') is not None:
  |             raise ValueError('stdin and input arguments may not both be used.')  #@536
  |         kwargs['stdin'] = PIPE
  |     if capture_output:
  |         if kwargs.get('stdout') is not None or kwargs.get('stderr') is not None:
  |             raise ValueError('stdout and stderr arguments may not be used '  #@541
  |                 'with capture_output.')
  |         kwargs['stdout'] = PIPE
  |         kwargs['stderr'] = PIPE
  |     with Popen(*popenargs, **kwargs) as process:  #@548
  |         try:
  |             stdout, stderr = process.communicate(input, timeout=timeout)  #@550
  |         except TimeoutExpired:
  |             process.kill()
  |             process.wait()
  |             raise
  |         retcode = process.poll()
  |         if check and retcode:
  |             raise CalledProcessError(retcode, process.args,  #@571
  |                 output=stdout, stderr=stderr)
  |     return CompletedProcess(process.args, retcode, stdout, stderr)
  | def list2cmdline(seq):
  |     result = []
  |     for arg in map(os.fsdecode, seq):
  |         quote = ' ' in arg or '\t' in arg or not arg
  |         slashes, out = 0, ''
  |         for c in arg:
  |             if c == '\\': slashes += 1
  |             elif c == '"':
  |                 out += '\\' * (slashes * 2) + '\\"'
  |                 slashes = 0
  |             else:
  |                 out += '\\' * slashes + c
  |                 slashes = 0
  |         out += '\\' * slashes
  |         result.append('"' + out + '\\' * slashes + '"' if quote else out)
  |     return ' '.join(result)
  | def getstatusoutput(cmd, *, encoding=None, errors=None):
  |     try: data, status = check_output(cmd, shell=True, text=True, stderr=STDOUT, encoding=encoding, errors=errors), 0
  |     except CalledProcessError as ex: data, status = ex.output, ex.returncode
  |     return status, data[:-1] if data[-1:] == '\n' else data
  | def getoutput(cmd, *, encoding=None, errors=None): return getstatusoutput(cmd, encoding=encoding, errors=errors)[1]
  | class _Source:
  |     def __init__(self, process, which): self._process, self._which, self._made, self.closed = process, which, None, False
  |     @property
  |     def _file(self):
  |         if self._made is None:
  |             self._process._finish()
  |             found = self._process._found[self._which]
  |             self._made = io.StringIO(found) if isinstance(found, str) else io.BytesIO(found)
  |         if self.closed: raise ValueError('I/O operation on closed file.' if self._process.text_mode else 'read of closed file')
  |         return self._made
  |     def __getattr__(self, name): return getattr(self._file, name)
  |     def __iter__(self): return iter(self._file)
  |     def __next__(self): return next(self._file)
  |     def __enter__(self): return self
  |     def __exit__(self, *exc): self.close()
  |     def close(self): self.closed = True
  |     def fileno(self): return 5 + self._which
  |     name = property(lambda self: self.fileno())
  |     encoding = property(lambda self: 'utf-8')
  | class _Sink:
  |     def __init__(self, process): self._process, self._parts, self.closed = process, [], False
  |     def write(self, data):
  |         if self.closed: raise ValueError('write to closed file')
  |         if self._process.text_mode:
  |             if not isinstance(data, str): raise TypeError(f'write() argument must be str, not {type(data).__name__}')
  |             self._parts.append(data.encode(self._process._encoding, self._process._errors))
  |         else:
  |             if isinstance(data, str): raise TypeError("a bytes-like object is required, not 'str'")
  |             self._parts.append(bytes(data))
  |         return len(data)
  |     def writelines(self, lines):
  |         for line in lines: self.write(line)
  |     def flush(self): pass
  |     def writable(self): return True
  |     def fileno(self): return 4
  |     def __enter__(self): return self
  |     def __exit__(self, *exc): self.close()
  |     def close(self):
  |         if not self.closed:
  |             self.closed = True
  |             self._process._finish()
  |     @property
  |     def buffer(self):
  |         inner = _Sink(self._process)
  |         inner.write = lambda data: self._parts.append(bytes(data)) or len(data)
  |         return inner
  | def _channel(f):
  |     if f is None or isinstance(f, int): return f
  |     if f is sys.stdout or f is sys.__stdout__: return 1
  |     if f is sys.stderr or f is sys.__stderr__: return 2
  |     return f
  | class Popen:
  |     def __init__(self, args, bufsize=-1, executable=None, stdin=None, stdout=None, stderr=None, preexec_fn=None, close_fds=True,
  |             shell=False, cwd=None, env=None, universal_newlines=None, startupinfo=None, creationflags=0, restore_signals=True,
  |             start_new_session=False, pass_fds=(), *, user=None, group=None, extra_groups=None, encoding=None, errors=None,
  |             text=None, umask=-1, pipesize=-1, process_group=None):
  |         if not isinstance(bufsize, int):
  |             raise TypeError('bufsize must be an integer')  #@822
  |         if text is not None and universal_newlines is not None and bool(universal_newlines) != bool(text):
  |             raise SubprocessError('Cannot disambiguate when both text '  #@868
  |                 'and universal_newlines are supplied but '
  |                 'different. Pass one or the other.')
  |         self.args, self.pid, self.returncode, self.encoding, self.errors = args, 4300, None, encoding, errors
  |         self.stdin = self.stdout = self.stderr = self._found = None
  |         self.text_mode = bool(encoding or errors or text or universal_newlines)
  |         self.universal_newlines = self.text_mode
  |         self._encoding, self._errors = encoding or 'utf-8', errors or 'strict'
  |         self._out, self._err, self._in, self._cwd = _channel(stdout), _channel(stderr), stdin, cwd
  |         self._env = None if env is None else [(os.fsencode(k), os.fsencode(v)) for k, v in env.items()]
  |         self._execute_child(args, executable, preexec_fn, close_fds,  #@1024
  |             shell)
  |     def _execute_child(self, args, executable, preexec_fn, close_fds, shell):
  |         if isinstance(args, (str, bytes)): args = [args]
  |         elif isinstance(args, os.PathLike):
  |             if shell:
  |                 raise TypeError('path-like args is not allowed when '  #@1769
  |                     'shell is true')
  |             args = [args]
  |         else: args = list(args)
  |         if shell:
  |             args = ['/bin/sh', '-c'] + args
  |             if executable: args[0] = executable
  |         elif executable is not None: args[0] = executable
  |         self._command = [os.fsencode(a) for a in args]
  |         self._name = args[0] if args else None
  |         if self._in is PIPE: self.stdin = _Sink(self)
  |         if self._out is PIPE: self.stdout = _Source(self, 0)
  |         if self._err is PIPE: self.stderr = _Source(self, 1)
  |         if preexec_fn is not None: preexec_fn()
  |         try:
  |             if self.stdin is None: self._finish()
  |             else: self._look()
  |             return
  |         except OSError as e:
  |             child_exception_type, errno_num, err_msg, err_filename = OSError, e.errno, e.strerror, e.filename
  |         if isinstance(err_filename, bytes): err_filename = os.fsdecode(err_filename)
  |         raise child_exception_type(errno_num, err_msg, err_filename)  #@1901
  |     def _look(self):
  |         if self._cwd is not None: os.stat(self._cwd)
  |         name = os.fsdecode(self._command[0])
  |         path = dict(self._env).get(b'PATH', b'') if self._env is not None else os.environb.get(b'PATH', b'/bin:/usr/bin')
  |         places = [name] if '/' in name else [os.path.join(p or '.', name) for p in os.fsdecode(path).split(':')]
  |         if self._cwd is not None: places = [os.path.join(self._cwd, p) for p in places]
  |         for p in places:
  |             if os.path.isfile(p):
  |                 if os.access(p, os.X_OK): return
  |                 raise PermissionError(13, os.strerror(13), name)
  |         raise FileNotFoundError(2, os.strerror(2), name)
  |     def _input(self):
  |         f = self._in
  |         if f is None: return None
  |         if f is PIPE: return b''.join(self.stdin._parts)
  |         if f is DEVNULL: return b''
  |         if isinstance(f, int): return None if f == 0 else os.read(f, 1 << 30)
  |         if f is sys.stdin or f is sys.__stdin__: return None
  |         data = getattr(f, 'buffer', f).read()
  |         return data.encode() if isinstance(data, str) else data
  |     def _finish(self):
  |         if self._found is not None: return
  |         out, err = self._out, self._err
  |         joined = err is STDOUT or err is not None and err is not PIPE and err is not DEVNULL and err == (1 if out is None else out)
  |         if out == 2 and err is None: joined = True
  |         captured = not (out is None or out == 1)
  |         complaints = 2 if joined else 0 if err is None or err == 2 else 1
  |         status, signal, o, e, spent = os._run(self._command, self._input(), captured, complaints, self._env, self._cwd)
  |         self._status = status if signal is None else -signal
  |         self._end = None if spent == 0 else _now() + spent / 1000
  |         for to, data, usual in ((out, o, 1), (None if joined else err, e, 2)):
  |             if to is None or to is PIPE or to is DEVNULL or to is STDOUT or to == usual: continue
  |             if isinstance(to, int): os.write(to, data)
  |             else:
  |                 to.flush()
  |                 getattr(to, 'buffer', to).write(data)
  |                 to.flush()
  |         self._found = o, e
  |         if self.text_mode:
  |             self._found = tuple([d.decode(self._encoding, self._errors).replace('\r\n', '\n').replace('\r', '\n') for d in (o, e)])
  |     def _left(self): return 0 if self._end is None else max(0, self._end - _now())
  |     def poll(self):
  |         if self.returncode is None and (self.stdin is None or self.stdin.closed):
  |             self._finish()
  |             if self._left() == 0: self.returncode = self._status
  |         return self.returncode
  |     def wait(self, timeout=None):
  |         if self.returncode is not None: return self.returncode
  |         self._finish()
  |         left = self._left()
  |         if timeout is not None and left > timeout:
  |             _pause(timeout)
  |             return self._wait(timeout=timeout)  #@1262
  |         _pause(left)
  |         self.returncode = self._status
  |         return self.returncode
  |     def _wait(self, timeout):
  |         raise TimeoutExpired(self.args, timeout)  #@1991
  |     def _communicate(self, input, endtime, orig_timeout):
  |         stdout = stderr = None
  |         _pause(orig_timeout)
  |         self._check_timeout(endtime, orig_timeout, stdout, stderr)  #@2062
  |     def _check_timeout(self, endtime, orig_timeout, stdout, stderr):
  |         raise TimeoutExpired(  #@1251
  |             self.args, orig_timeout)
  |     def communicate(self, input=None, timeout=None):
  |         if self.stdin is not None and input is not None:
  |             if self.text_mode: self.stdin._parts.append(input.encode(self._encoding, self._errors))
  |             else:
  |                 if isinstance(input, str): raise TypeError("memoryview: a bytes-like object is required, not 'str'")
  |                 self.stdin._parts.append(bytes(input))
  |         if self.stdin is not None: self.stdin.close()
  |         if timeout is not None and self.returncode is None:
  |             self._finish()
  |             if self._left() > timeout:
  |                 if self.stdin is self.stdout is self.stderr is None:
  |                     self.wait(timeout=timeout)
  |                 endtime = None
  |                 stdout, stderr = self._communicate(input, endtime, timeout)  #@1207
  |         self.wait()
  |         return tuple([None if f is None else f.read() if not f.closed else f._made and '' for f in (self.stdout, self.stderr)])
  |     def send_signal(self, sig):
  |         self.poll()
  |         if self.returncode is None and self._left() > 0: self._end, self._status = None, -sig
  |     def terminate(self): self.send_signal(15)
  |     def kill(self): self.send_signal(9)
  |     def __enter__(self): return self
  |     def __exit__(self, *exc):
  |         for f in (self.stdout, self.stderr, self.stdin):
  |             if f is not None: f.close()
  |         self.wait()
  |     def __repr__(self):
  |         shown = f'<{type(self).__name__}: returncode: {self.returncode} args: {self.args!r}>'
  |         return shown[:76] + '...>' if len(shown) > 80 else shown"# }

/-- modules for the words of a command and for other programs -/
def commandsLibraries : List Library :=
  [argumentsLibrary, optionsLibrary, shortOptionsLibrary, programsLibrary]

end IncludeAudit.Offside
