/-
The module for patterns of text, and those that are close to it.

- `patternsLibraries`: the modules.
-/
import IncludeAudit.Offside.Library.Basic

namespace IncludeAudit.Offside

def patternFunctions : String :=
  "compile match fullmatch search findall finditer split sub subn escape purge"

/-- the classes that belong to patterns -/
def patternValues : Eval (List (Text × Value)) :=
  return [("Pattern", .base .pattern), ("Match", .base .match_), ("error", .base .patternError)]

/-- the module for patterns of text -/
def patternsLibrary : Library :=
  { name := "re"
    functions := patternFunctions
    run := patternFunction
    values := patternValues
    source := r#"
  | class RegexFlag(int):
  |     def _text(self):
  |         left, names = int(self), []
  |         for name, n in _flags.items():
  |             if left & n:
  |                 names.append('re.' + name)
  |                 left &= ~n
  |         if left: names.append(hex(left))
  |         return '|'.join(names) or 're.NOFLAG'
  |     __repr__ = __str__ = _text
  |     def __format__(self, spec): return format(str(self), spec)
  |     def __or__(self, other): return RegexFlag(int(self) | int(other)) if isinstance(other, int) else NotImplemented
  |     def __and__(self, other): return RegexFlag(int(self) & int(other)) if isinstance(other, int) else NotImplemented
  |     def __xor__(self, other): return RegexFlag(int(self) ^ int(other)) if isinstance(other, int) else NotImplemented
  |     def __invert__(self): return RegexFlag(511 & ~int(self))
  |     __ror__, __rand__, __rxor__ = __or__, __and__, __xor__
  |     name = property(lambda self: '|'.join(n for n, v in _flags.items() if self & v) or None)
  |     value = property(lambda self: int(self))
  |     def __contains__(self, other): return int(self) & int(other) == int(other)
  | _flags = {'ASCII': 256, 'IGNORECASE': 2, 'LOCALE': 4, 'UNICODE': 32, 'MULTILINE': 8, 'DOTALL': 16, 'VERBOSE': 64,
  |     'TEMPLATE': 1, 'DEBUG': 128}
  | for _name, _n in _flags.items(): globals()[_name] = globals()[_name[0] if _name != 'VERBOSE' else 'X'] = RegexFlag(_n)
  | S = DOTALL
  | NOFLAG = RegexFlag(0)
  | RegexFlag.NOFLAG = NOFLAG
  | for _name, _n in _flags.items(): setattr(RegexFlag, _name, RegexFlag(_n))
  | del _name, _n, D
  | __all__ = ['match', 'fullmatch', 'search', 'sub', 'subn', 'split', 'findall', 'finditer', 'compile', 'purge', 'template',
  |     'escape', 'error', 'Pattern', 'Match', 'A', 'I', 'L', 'M', 'S', 'X', 'U', 'ASCII', 'IGNORECASE', 'LOCALE', 'MULTILINE',
  |     'DOTALL', 'VERBOSE', 'UNICODE', 'NOFLAG', 'RegexFlag']
  | template = compile"# }

/-- the module for patterns of text, and those that are close to it -/
def patternsLibraries : List Library :=
  [patternsLibrary]

end IncludeAudit.Offside
