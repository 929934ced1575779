import FlowCanvas.Text.Letters
import FlowCanvas.Text.WordCharacter

/-!
# Words in listings

The words of a listing that are coloured for what they are and not as names. Such a word ends where
no word character follows it, so that a mark over its last letter is no part of it; a name takes the
marks that follow. Which words count depends on where they stand: some begin statements, some stand
in expressions, and those of things that come with the language count unless a point stands before
them.
-/

namespace FlowCanvas.Token

open Text

/-- The words of a text. -/
def wordsOf (s : String) : List (List Char) :=
  ((s.toList.splitBy fun c d => isBlank c == isBlank d).filter fun w => !w.all isBlank)

/-- The words of statements. The longer one of two comes first. -/
def statementWords : List (List Char) :=
  "yield from".toList :: wordsOf
    "assert async await break continue del elif else except finally for global if lambda pass
raise nonlocal return try while yield as with True False None"

/-- The words of expressions, and the names of methods and fields that the language gives a meaning.
-/
def expressionWords : List (List Char) :=
  "async for".toList :: "yield from".toList :: wordsOf
    "in is and or not await else for if lambda yield True False None
__annotations__ __bases__ __class__ __closure__ __code__ __defaults__ __dict__ __doc__ __file__
__func__ __globals__ __kwdefaults__ __module__ __mro__ __name__ __objclass__ __qualname__
__self__ __slots__ __weakref__"

/-- The names of methods that the language gives a meaning. -/
def methodWords : List (List Char) := wordsOf
  "__abs__ __add__ __aenter__ __aexit__ __aiter__ __and__ __anext__ __await__ __bool__ __bytes__
__call__ __complex__ __contains__ __del__ __delattr__ __delete__ __delitem__ __dir__ __divmod__
__enter__ __eq__ __exit__ __float__ __floordiv__ __format__ __ge__ __get__ __getattr__
__getattribute__ __getitem__ __gt__ __hash__ __iadd__ __iand__ __ifloordiv__ __ilshift__
__imatmul__ __imod__ __imul__ __index__ __init__ __instancecheck__ __int__ __invert__ __ior__
__ipow__ __irshift__ __isub__ __iter__ __itruediv__ __ixor__ __le__ __len__ __length_hint__
__lshift__ __lt__ __matmul__ __missing__ __mod__ __mul__ __ne__ __neg__ __new__ __next__ __or__
__pos__ __pow__ __prepare__ __radd__ __rand__ __rdivmod__ __repr__ __reversed__ __rfloordiv__
__rlshift__ __rmatmul__ __rmod__ __rmul__ __ror__ __round__ __rpow__ __rrshift__ __rshift__
__rsub__ __rtruediv__ __rxor__ __set__ __setattr__ __setitem__ __str__ __sub__ __subclasscheck__
__truediv__ __xor__"

/-- The names of what comes with the language: functions and types, the words for what a method
works on, and the kinds of errors. -/
def givenWords : List (List Char) := wordsOf
  "__import__ abs aiter all any bin bool bytearray breakpoint bytes callable chr classmethod compile
complex delattr dict dir divmod enumerate eval filter float format frozenset getattr globals
hasattr hash hex id input int isinstance issubclass iter len list locals map max memoryview min
next object oct open ord pow print property range repr reversed round set setattr slice sorted
staticmethod str sum super tuple type vars zip
self Ellipsis NotImplemented cls
ArithmeticError AssertionError AttributeError BaseException BufferError BytesWarning
DeprecationWarning EOFError EnvironmentError Exception FloatingPointError FutureWarning
GeneratorExit IOError ImportError ImportWarning IndentationError IndexError KeyError
KeyboardInterrupt LookupError MemoryError NameError NotImplementedError OSError OverflowError
PendingDeprecationWarning ReferenceError ResourceWarning RuntimeError RuntimeWarning
StopIteration SyntaxError SyntaxWarning SystemError SystemExit TabError TypeError
UnboundLocalError UnicodeDecodeError UnicodeEncodeError UnicodeError UnicodeTranslateError
UnicodeWarning UserWarning ValueError VMSError Warning WindowsError ZeroDivisionError
BlockingIOError ChildProcessError ConnectionError BrokenPipeError ConnectionAbortedError
ConnectionRefusedError ConnectionResetError FileExistsError FileNotFoundError InterruptedError
IsADirectoryError NotADirectoryError PermissionError ProcessLookupError TimeoutError
StopAsyncIteration ModuleNotFoundError RecursionError EncodingWarning"

/-- The words that may not follow a word that opens a choice between patterns: they show that it is
a name there. -/
def barringWords : List (List Char) := wordsOf
  "and as assert async await break class continue def del elif else except finally for from global
if import in is lambda nonlocal not or pass raise return try while with yield"

/-- The length of the word of a list that a text starts with, if no word character follows it. -/
def wordLength (words : List (List Char)) (s : List Char) : Nat :=
  match words.find? fun w => w.isPrefixOf s && endsWord (s.drop w.length) with
  | some w => w.length
  | none => 0

/-- The length of the name that a text starts with. -/
def nameLength : List Char → Nat
  | [] => 0
  | c :: rest => if isLetter c then 1 + (rest.takeWhile isInner).length else 0

/-- The length of the blanks that a text starts with. -/
def blankLength (s : List Char) : Nat := (s.takeWhile isBlank).length

/-- The length of a word in an expression that is coloured for what it is; `before` is the character
before it. -/
def expressionWordLength (before : Option Char) (s : List Char) : Nat :=
  let plain := wordLength expressionWords s
  if 0 < plain then plain
  else
    let given := if before = some '.' then 0 else wordLength givenWords s
    if 0 < given then given else wordLength methodWords s

end FlowCanvas.Token
