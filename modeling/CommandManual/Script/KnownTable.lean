/-!
The members of the classes that every command file knows: for each class the
lines that list its members. A line has a letter for what the members are: `w`
and `m` are methods that are wrapped for an object, `b` native functions, `c`
native class methods, `f`, `s` and `k` functions, static methods and class
methods, `g`, `d` and `p` members that are computed for an object, `v` plain
values, and `i` what an object itself holds. What is computed or held is given
with its kind.
-/

namespace CommandManual.Script

def knownTable : List (String × List (Char × String)) :=
  [("object",
      [('w', "__repr__ __hash__ __str__ __getattribute__ __setattr__ __delattr__ __lt__"),
        ('w', "__le__ __eq__ __ne__ __gt__ __ge__ __init__"),
        ('m', "__reduce_ex__ __reduce__ __getstate__ __format__ __sizeof__ __dir__"),
        ('b', "__new__"),
        ('c', "__subclasshook__ __init_subclass__"),
        ('g', "__class__=object"),
        ('v', "__doc__=str")]),
    ("int",
      [('w', "__repr__ __hash__ __getattribute__ __lt__ __le__ __eq__ __ne__ __gt__ __ge__"),
        ('w', "__add__ __radd__ __sub__ __rsub__ __mul__ __rmul__ __mod__ __rmod__ __divmod__"),
        ('w', "__rdivmod__ __pow__ __rpow__ __neg__ __pos__ __abs__ __bool__ __invert__"),
        ('w', "__lshift__ __rlshift__ __rshift__ __rrshift__ __and__ __rand__ __xor__ __rxor__"),
        ('w', "__or__ __ror__ __int__ __float__ __floordiv__ __rfloordiv__ __truediv__"),
        ('w', "__rtruediv__ __index__"),
        ('m', "conjugate bit_length bit_count to_bytes as_integer_ratio __trunc__ __floor__"),
        ('m', "__ceil__ __round__ __getnewargs__ __format__ __sizeof__"),
        ('b', "__new__"),
        ('c', "from_bytes"),
        ('g', "real=int imag=int numerator=int denominator=int"),
        ('v', "__doc__=str")]),
    ("bool",
      [('w', "__repr__ __and__ __rand__ __xor__ __rxor__ __or__ __ror__"),
        ('b', "__new__"),
        ('v', "__doc__=str")]),
    ("memoryview",
      [('w', "__repr__ __hash__ __getattribute__ __lt__ __le__ __eq__ __ne__ __gt__ __ge__"),
        ('w', "__iter__ __len__ __getitem__ __setitem__ __delitem__"),
        ('m', "release tobytes hex tolist cast toreadonly __enter__ __exit__"),
        ('b', "__new__"),
        ('g', "obj=object nbytes=object readonly=object itemsize=object format=object"),
        ('g', "ndim=object shape=object strides=object suboffsets=object c_contiguous=object"),
        ('g', "f_contiguous=object contiguous=object"),
        ('v', "__doc__=str")]),
    ("bytearray",
      [('w', "__repr__ __str__ __getattribute__ __lt__ __le__ __eq__ __ne__ __gt__ __ge__"),
        ('w', "__iter__ __init__ __mod__ __rmod__ __len__ __getitem__ __setitem__ __delitem__"),
        ('w', "__add__ __mul__ __rmul__ __contains__ __iadd__ __imul__"),
        ('m', "__alloc__ __reduce__ __reduce_ex__ __sizeof__ append capitalize center clear"),
        ('m', "copy count decode endswith expandtabs extend find hex index insert isalnum"),
        ('m', "isalpha isascii isdigit islower isspace istitle isupper join ljust lower lstrip"),
        ('m', "partition pop remove replace removeprefix removesuffix reverse rfind rindex"),
        ('m', "rjust rpartition rsplit rstrip split splitlines startswith strip swapcase title"),
        ('m', "translate upper zfill"),
        ('b', "__new__"),
        ('c', "fromhex"),
        ('s', "maketrans"),
        ('v', "__doc__=str __hash__=NoneType")]),
    ("bytes",
      [('w', "__repr__ __hash__ __str__ __getattribute__ __lt__ __le__ __eq__ __ne__ __gt__"),
        ('w', "__ge__ __iter__ __mod__ __rmod__ __len__ __getitem__ __add__ __mul__ __rmul__"),
        ('w', "__contains__"),
        ('m', "__getnewargs__ __bytes__ capitalize center count decode endswith expandtabs"),
        ('m', "find hex index isalnum isalpha isascii isdigit islower isspace istitle isupper"),
        ('m', "join ljust lower lstrip partition replace removeprefix removesuffix rfind"),
        ('m', "rindex rjust rpartition rsplit rstrip split splitlines startswith strip"),
        ('m', "swapcase title translate upper zfill"),
        ('b', "__new__"),
        ('c', "fromhex"),
        ('s', "maketrans"),
        ('v', "__doc__=str")]),
    ("classmethod",
      [('w', "__repr__ __get__ __init__"),
        ('b', "__new__"),
        ('g', "__isabstractmethod__=bool __dict__=dict"),
        ('d', "__func__=function __wrapped__=function"),
        ('v', "__doc__=str"),
        ('i', "__module__=str __name__=str __qualname__=str __doc__=str __annotations__=dict")]),
    ("complex",
      [('w', "__repr__ __hash__ __getattribute__ __lt__ __le__ __eq__ __ne__ __gt__ __ge__"),
        ('w', "__add__ __radd__ __sub__ __rsub__ __mul__ __rmul__ __pow__ __rpow__ __neg__"),
        ('w', "__pos__ __abs__ __bool__ __truediv__ __rtruediv__"),
        ('m', "conjugate __complex__ __getnewargs__ __format__"),
        ('b', "__new__"),
        ('d', "real=object imag=object"),
        ('v', "__doc__=str")]),
    ("dict",
      [('w', "__repr__ __getattribute__ __lt__ __le__ __eq__ __ne__ __gt__ __ge__ __iter__"),
        ('w', "__init__ __or__ __ror__ __ior__ __len__ __setitem__ __delitem__"),
        ('m', "__getitem__ __contains__ __sizeof__ get setdefault pop popitem keys items"),
        ('m', "values update clear copy __reversed__"),
        ('b', "__new__"),
        ('c', "fromkeys __class_getitem__"),
        ('v', "__hash__=NoneType __doc__=str")]),
    ("enumerate",
      [('w', "__getattribute__ __iter__ __next__"),
        ('m', "__reduce__"),
        ('b', "__new__"),
        ('c', "__class_getitem__"),
        ('v', "__doc__=str")]),
    ("filter",
      [('w', "__getattribute__ __iter__ __next__"),
        ('m', "__reduce__"),
        ('b', "__new__"),
        ('v', "__doc__=str")]),
    ("float",
      [('w', "__repr__ __hash__ __getattribute__ __lt__ __le__ __eq__ __ne__ __gt__ __ge__"),
        ('w', "__add__ __radd__ __sub__ __rsub__ __mul__ __rmul__ __mod__ __rmod__ __divmod__"),
        ('w', "__rdivmod__ __pow__ __rpow__ __neg__ __pos__ __abs__ __bool__ __int__ __float__"),
        ('w', "__floordiv__ __rfloordiv__ __truediv__ __rtruediv__"),
        ('m', "conjugate __trunc__ __floor__ __ceil__ __round__ as_integer_ratio hex"),
        ('m', "is_integer __getnewargs__ __format__"),
        ('b', "__new__"),
        ('c', "fromhex __getformat__"),
        ('g', "real=float imag=float"),
        ('v', "__doc__=str")]),
    ("frozenset",
      [('w', "__repr__ __hash__ __getattribute__ __lt__ __le__ __eq__ __ne__ __gt__ __ge__"),
        ('w', "__iter__ __sub__ __rsub__ __and__ __rand__ __xor__ __rxor__ __or__ __ror__"),
        ('w', "__len__"),
        ('m', "__contains__ copy difference intersection isdisjoint issubset issuperset"),
        ('m', "__reduce__ __sizeof__ symmetric_difference union"),
        ('b', "__new__"),
        ('c', "__class_getitem__"),
        ('v', "__doc__=str")]),
    ("property",
      [('w', "__getattribute__ __get__ __set__ __delete__ __init__"),
        ('m', "getter setter deleter __set_name__"),
        ('b', "__new__"),
        ('g', "__isabstractmethod__=bool"),
        ('d', "fget=function fset=NoneType fdel=NoneType __doc__=str")]),
    ("list",
      [('w', "__repr__ __getattribute__ __lt__ __le__ __eq__ __ne__ __gt__ __ge__ __iter__"),
        ('w', "__init__ __len__ __setitem__ __delitem__ __add__ __mul__ __rmul__ __contains__"),
        ('w', "__iadd__ __imul__"),
        ('m', "__getitem__ __reversed__ __sizeof__ clear copy append insert extend pop remove"),
        ('m', "index count reverse sort"),
        ('b', "__new__"),
        ('c', "__class_getitem__"),
        ('v', "__hash__=NoneType __doc__=str")]),
    ("map",
      [('w', "__getattribute__ __iter__ __next__"),
        ('m', "__reduce__"),
        ('b', "__new__"),
        ('v', "__doc__=str")]),
    ("range",
      [('w', "__repr__ __hash__ __getattribute__ __lt__ __le__ __eq__ __ne__ __gt__ __ge__"),
        ('w', "__iter__ __bool__ __len__ __getitem__ __contains__"),
        ('m', "__reversed__ __reduce__ count index"),
        ('b', "__new__"),
        ('d', "start=object stop=object step=object"),
        ('v', "__doc__=str")]),
    ("reversed",
      [('w', "__getattribute__ __iter__ __next__"),
        ('m', "__length_hint__ __reduce__ __setstate__"),
        ('b', "__new__"),
        ('v', "__doc__=str")]),
    ("set",
      [('w', "__repr__ __getattribute__ __lt__ __le__ __eq__ __ne__ __gt__ __ge__ __iter__"),
        ('w', "__init__ __sub__ __rsub__ __and__ __rand__ __xor__ __rxor__ __or__ __ror__"),
        ('w', "__isub__ __iand__ __ixor__ __ior__ __len__"),
        ('m', "__contains__ add clear copy discard difference difference_update intersection"),
        ('m', "intersection_update isdisjoint issubset issuperset pop __reduce__ remove"),
        ('m', "__sizeof__ symmetric_difference symmetric_difference_update union update"),
        ('b', "__new__"),
        ('c', "__class_getitem__"),
        ('v', "__hash__=NoneType __doc__=str")]),
    ("slice",
      [('w', "__repr__ __getattribute__ __lt__ __le__ __eq__ __ne__ __gt__ __ge__"),
        ('m', "indices __reduce__"),
        ('b', "__new__"),
        ('d', "start=object stop=object step=object"),
        ('v', "__hash__=NoneType __doc__=str")]),
    ("staticmethod",
      [('w', "__repr__ __call__ __get__ __init__"),
        ('b', "__new__"),
        ('g', "__isabstractmethod__=bool __dict__=dict"),
        ('d', "__func__=function __wrapped__=function"),
        ('v', "__doc__=str"),
        ('i', "__module__=str __name__=str __qualname__=str __doc__=str __annotations__=dict")]),
    ("str",
      [('w', "__repr__ __hash__ __str__ __getattribute__ __lt__ __le__ __eq__ __ne__ __gt__"),
        ('w', "__ge__ __iter__ __mod__ __rmod__ __len__ __getitem__ __add__ __mul__ __rmul__"),
        ('w', "__contains__"),
        ('m', "encode replace split rsplit join capitalize casefold title center count"),
        ('m', "expandtabs find partition index ljust lower lstrip rfind rindex rjust rstrip"),
        ('m', "rpartition splitlines strip swapcase translate upper startswith endswith"),
        ('m', "removeprefix removesuffix isascii islower isupper istitle isspace isdecimal"),
        ('m', "isdigit isnumeric isalpha isalnum isidentifier isprintable zfill format"),
        ('m', "format_map __format__ __sizeof__ __getnewargs__"),
        ('b', "__new__"),
        ('s', "maketrans"),
        ('v', "__doc__=str")]),
    ("super",
      [('w', "__repr__ __getattribute__ __get__ __init__"),
        ('b', "__new__"),
        ('d', "__thisclass__=object __self__=object __self_class__=object"),
        ('v', "__doc__=str")]),
    ("tuple",
      [('w', "__repr__ __hash__ __getattribute__ __lt__ __le__ __eq__ __ne__ __gt__ __ge__"),
        ('w', "__iter__ __len__ __getitem__ __add__ __mul__ __rmul__ __contains__"),
        ('m', "__getnewargs__ index count"),
        ('b', "__new__"),
        ('c', "__class_getitem__"),
        ('v', "__doc__=str")]),
    ("type",
      [('w', "__repr__ __call__ __getattribute__ __setattr__ __delattr__ __init__ __or__"),
        ('w', "__ror__"),
        ('m', "mro __subclasses__ __instancecheck__ __subclasscheck__ __dir__ __sizeof__"),
        ('b', "__new__"),
        ('c', "__prepare__"),
        ('g', "__name__=str __qualname__=str __bases__=tuple __module__=str"),
        ('g', "__abstractmethods__= __dict__=mappingproxy __doc__=NoneType"),
        ('g', "__text_signature__=NoneType __annotations__=dict"),
        ('d', "__basicsize__=int __itemsize__=int __flags__=int __weakrefoffset__=int"),
        ('d', "__base__=type __dictoffset__=int __mro__=tuple")]),
    ("zip",
      [('w', "__getattribute__ __iter__ __next__"),
        ('m', "__reduce__ __setstate__"),
        ('b', "__new__"),
        ('v', "__doc__=str")]),
    ("BaseException",
      [('w', "__repr__ __str__ __getattribute__ __setattr__ __delattr__ __init__"),
        ('m', "__reduce__ __setstate__ with_traceback add_note"),
        ('b', "__new__"),
        ('g', "__dict__=object args=object __traceback__=object __context__=object"),
        ('g', "__cause__=object"),
        ('d', "__suppress_context__=object"),
        ('v', "__doc__=str")]),
    ("BaseExceptionGroup",
      [('w', "__str__ __init__"),
        ('m', "derive split subgroup"),
        ('b', "__new__"),
        ('c', "__class_getitem__"),
        ('d', "message=object exceptions=object"),
        ('v', "__doc__=str")]),
    ("Exception",
      [('w', "__init__"),
        ('b', "__new__"),
        ('v', "__doc__=str")]),
    ("GeneratorExit",
      [('w', "__init__"),
        ('b', "__new__"),
        ('v', "__doc__=str")]),
    ("KeyboardInterrupt",
      [('w', "__init__"),
        ('b', "__new__"),
        ('v', "__doc__=str")]),
    ("SystemExit",
      [('w', "__init__"),
        ('d', "code=object"),
        ('v', "__doc__=str")]),
    ("ArithmeticError",
      [('w', "__init__"),
        ('b', "__new__"),
        ('v', "__doc__=str")]),
    ("AssertionError",
      [('w', "__init__"),
        ('b', "__new__"),
        ('v', "__doc__=str")]),
    ("AttributeError",
      [('w', "__str__ __init__"),
        ('d', "name=object obj=object"),
        ('v', "__doc__=str")]),
    ("BufferError",
      [('w', "__init__"),
        ('b', "__new__"),
        ('v', "__doc__=str")]),
    ("EOFError",
      [('w', "__init__"),
        ('b', "__new__"),
        ('v', "__doc__=str")]),
    ("ImportError",
      [('w', "__str__ __init__"),
        ('m', "__reduce__"),
        ('d', "msg=object name=object path=object"),
        ('v', "__doc__=str")]),
    ("LookupError",
      [('w', "__init__"),
        ('b', "__new__"),
        ('v', "__doc__=str")]),
    ("MemoryError",
      [('w', "__init__"),
        ('b', "__new__"),
        ('v', "__doc__=str")]),
    ("NameError",
      [('w', "__str__ __init__"),
        ('d', "name=object"),
        ('v', "__doc__=str")]),
    ("OSError",
      [('w', "__str__ __init__"),
        ('m', "__reduce__"),
        ('b', "__new__"),
        ('g', "characters_written=object"),
        ('d', "errno=object strerror=object filename=object filename2=object"),
        ('v', "__doc__=str")]),
    ("ReferenceError",
      [('w', "__init__"),
        ('b', "__new__"),
        ('v', "__doc__=str")]),
    ("RuntimeError",
      [('w', "__init__"),
        ('b', "__new__"),
        ('v', "__doc__=str")]),
    ("StopAsyncIteration",
      [('w', "__init__"),
        ('b', "__new__"),
        ('v', "__doc__=str")]),
    ("StopIteration",
      [('w', "__init__"),
        ('d', "value=object"),
        ('v', "__doc__=str")]),
    ("SyntaxError",
      [('w', "__str__ __init__"),
        ('d', "msg=object filename=object lineno=object offset=object text=object"),
        ('d', "end_lineno=object end_offset=object print_file_and_line=object"),
        ('v', "__doc__=str")]),
    ("SystemError",
      [('w', "__init__"),
        ('b', "__new__"),
        ('v', "__doc__=str")]),
    ("TypeError",
      [('w', "__init__"),
        ('b', "__new__"),
        ('v', "__doc__=str")]),
    ("ValueError",
      [('w', "__init__"),
        ('b', "__new__"),
        ('v', "__doc__=str")]),
    ("Warning",
      [('w', "__init__"),
        ('b', "__new__"),
        ('v', "__doc__=str")]),
    ("FloatingPointError",
      [('w', "__init__"),
        ('b', "__new__"),
        ('v', "__doc__=str")]),
    ("OverflowError",
      [('w', "__init__"),
        ('b', "__new__"),
        ('v', "__doc__=str")]),
    ("ZeroDivisionError",
      [('w', "__init__"),
        ('b', "__new__"),
        ('v', "__doc__=str")]),
    ("BytesWarning",
      [('w', "__init__"),
        ('b', "__new__"),
        ('v', "__doc__=str")]),
    ("DeprecationWarning",
      [('w', "__init__"),
        ('b', "__new__"),
        ('v', "__doc__=str")]),
    ("EncodingWarning",
      [('w', "__init__"),
        ('b', "__new__"),
        ('v', "__doc__=str")]),
    ("FutureWarning",
      [('w', "__init__"),
        ('b', "__new__"),
        ('v', "__doc__=str")]),
    ("ImportWarning",
      [('w', "__init__"),
        ('b', "__new__"),
        ('v', "__doc__=str")]),
    ("PendingDeprecationWarning",
      [('w', "__init__"),
        ('b', "__new__"),
        ('v', "__doc__=str")]),
    ("ResourceWarning",
      [('w', "__init__"),
        ('b', "__new__"),
        ('v', "__doc__=str")]),
    ("RuntimeWarning",
      [('w', "__init__"),
        ('b', "__new__"),
        ('v', "__doc__=str")]),
    ("SyntaxWarning",
      [('w', "__init__"),
        ('b', "__new__"),
        ('v', "__doc__=str")]),
    ("UnicodeWarning",
      [('w', "__init__"),
        ('b', "__new__"),
        ('v', "__doc__=str")]),
    ("UserWarning",
      [('w', "__init__"),
        ('b', "__new__"),
        ('v', "__doc__=str")]),
    ("BlockingIOError",
      [('w', "__init__"),
        ('v', "__doc__=str")]),
    ("ChildProcessError",
      [('w', "__init__"),
        ('v', "__doc__=str")]),
    ("ConnectionError",
      [('w', "__init__"),
        ('v', "__doc__=str")]),
    ("FileExistsError",
      [('w', "__init__"),
        ('v', "__doc__=str")]),
    ("FileNotFoundError",
      [('w', "__init__"),
        ('v', "__doc__=str")]),
    ("InterruptedError",
      [('w', "__init__"),
        ('v', "__doc__=str")]),
    ("IsADirectoryError",
      [('w', "__init__"),
        ('v', "__doc__=str")]),
    ("NotADirectoryError",
      [('w', "__init__"),
        ('v', "__doc__=str")]),
    ("PermissionError",
      [('w', "__init__"),
        ('v', "__doc__=str")]),
    ("ProcessLookupError",
      [('w', "__init__"),
        ('v', "__doc__=str")]),
    ("TimeoutError",
      [('w', "__init__"),
        ('v', "__doc__=str")]),
    ("IndentationError",
      [('w', "__init__"),
        ('v', "__doc__=str")]),
    ("IndexError",
      [('w', "__init__"),
        ('b', "__new__"),
        ('v', "__doc__=str")]),
    ("KeyError",
      [('w', "__str__ __init__"),
        ('v', "__doc__=str")]),
    ("ModuleNotFoundError",
      [('w', "__init__"),
        ('v', "__doc__=str")]),
    ("NotImplementedError",
      [('w', "__init__"),
        ('b', "__new__"),
        ('v', "__doc__=str")]),
    ("RecursionError",
      [('w', "__init__"),
        ('b', "__new__"),
        ('v', "__doc__=str")]),
    ("UnboundLocalError",
      [('w', "__init__"),
        ('v', "__doc__=str")]),
    ("UnicodeError",
      [('w', "__init__"),
        ('b', "__new__"),
        ('v', "__doc__=str")]),
    ("BrokenPipeError",
      [('w', "__init__"),
        ('v', "__doc__=str")]),
    ("ConnectionAbortedError",
      [('w', "__init__"),
        ('v', "__doc__=str")]),
    ("ConnectionRefusedError",
      [('w', "__init__"),
        ('v', "__doc__=str")]),
    ("ConnectionResetError",
      [('w', "__init__"),
        ('v', "__doc__=str")]),
    ("TabError",
      [('w', "__init__"),
        ('v', "__doc__=str")]),
    ("UnicodeDecodeError",
      [('w', "__str__ __init__"),
        ('b', "__new__"),
        ('d', "encoding=object object=object start=object end=object reason=object"),
        ('v', "__doc__=str")]),
    ("UnicodeEncodeError",
      [('w', "__str__ __init__"),
        ('b', "__new__"),
        ('d', "encoding=object object=object start=object end=object reason=object"),
        ('v', "__doc__=str")]),
    ("UnicodeTranslateError",
      [('w', "__str__ __init__"),
        ('b', "__new__"),
        ('d', "encoding=object object=object start=object end=object reason=object"),
        ('v', "__doc__=str")]),
    ("ExceptionGroup",
      [('g', "__weakref__=object"),
        ('v', "__module__=str __doc__=NoneType")]),
    ("NoneType",
      [('w', "__repr__ __bool__"),
        ('b', "__new__"),
        ('v', "__doc__=NoneType")]),
    ("function",
      [('w', "__repr__ __call__ __get__"),
        ('b', "__new__"),
        ('g', "__code__=code __defaults__=NoneType __kwdefaults__=NoneType"),
        ('g', "__annotations__=dict __dict__=dict __name__=str __qualname__=str"),
        ('d', "__closure__=NoneType __doc__=str __globals__=dict __module__=str"),
        ('d', "__builtins__=dict")]),
    ("method",
      [('w', "__repr__ __hash__ __call__ __getattribute__ __setattr__ __delattr__ __lt__"),
        ('w', "__le__ __eq__ __ne__ __gt__ __ge__"),
        ('m', "__reduce__"),
        ('b', "__new__"),
        ('g', "__doc__=str"),
        ('d', "__func__=function __self__=type")]),
    ("partial",
      [('w', "__repr__ __call__ __getattribute__ __setattr__ __delattr__"),
        ('m', "__reduce__ __setstate__"),
        ('b', "__new__"),
        ('c', "__class_getitem__"),
        ('g', "__dict__=dict"),
        ('d', "func=builtin_function_or_method args=tuple keywords=dict"),
        ('d', "__vectorcalloffset__=int"),
        ('v', "__doc__=str __module__=str")]),
    ("module",
      [('w', "__repr__ __getattribute__ __setattr__ __delattr__ __init__"),
        ('m', "__dir__"),
        ('b', "__new__"),
        ('g', "__annotations__=dict"),
        ('d', "__dict__=dict"),
        ('v', "__doc__=str")]),
    ("getset_descriptor",
      [('w', "__repr__ __getattribute__ __get__ __set__ __delete__"),
        ('g', "__doc__=str __qualname__=str"),
        ('d', "__objclass__=type __name__=str")]),
    ("wrapper_descriptor",
      [('w', "__repr__ __call__ __getattribute__ __get__"),
        ('m', "__reduce__"),
        ('g', "__doc__=str __qualname__=str __text_signature__=str"),
        ('d', "__objclass__=type __name__=str")]),
    ("method_descriptor",
      [('w', "__repr__ __call__ __getattribute__ __get__"),
        ('m', "__reduce__"),
        ('g', "__doc__=str __qualname__=str __text_signature__=str"),
        ('d', "__objclass__=type __name__=str")]),
    ("classmethod_descriptor",
      [('w', "__repr__ __call__ __getattribute__ __get__"),
        ('g', "__doc__=str __qualname__=str __text_signature__=str"),
        ('d', "__objclass__=type __name__=str")]),
    ("method-wrapper",
      [('w', "__repr__ __hash__ __call__ __getattribute__ __lt__ __le__ __eq__ __ne__ __gt__"),
        ('w', "__ge__"),
        ('m', "__reduce__"),
        ('g', "__objclass__=type __name__=str __qualname__=str __doc__=str"),
        ('g', "__text_signature__=str"),
        ('d', "__self__=int")]),
    ("builtin_function_or_method",
      [('w', "__repr__ __hash__ __call__ __getattribute__ __lt__ __le__ __eq__ __ne__ __gt__"),
        ('w', "__ge__"),
        ('m', "__reduce__"),
        ('g', "__doc__=str __name__=str __qualname__=str __self__=str __text_signature__=str"),
        ('d', "__module__=NoneType")]),
    ("member_descriptor",
      [('w', "__repr__ __getattribute__ __get__ __set__ __delete__"),
        ('m', "__reduce__"),
        ('g', "__doc__=NoneType __qualname__=str"),
        ('d', "__objclass__=type __name__=str")]),
    ("mappingproxy",
      [('w', "__repr__ __str__ __getattribute__ __lt__ __le__ __eq__ __ne__ __gt__ __ge__"),
        ('w', "__iter__ __or__ __ror__ __ior__ __len__ __getitem__ __contains__"),
        ('m', "get keys values items copy __reversed__"),
        ('b', "__new__"),
        ('c', "__class_getitem__"),
        ('v', "__doc__=NoneType __hash__=NoneType")]),
    ("ModuleSpec",
      [('f', "__init__ __repr__ __eq__"),
        ('g', "__dict__=dict __weakref__=NoneType"),
        ('p', "cached=str parent=str has_location=bool"),
        ('v', "__module__=str __doc__=str __hash__=NoneType"),
        ('i', "name=str loader=SourceFileLoader origin=str loader_state=NoneType"),
        ('i', "submodule_search_locations=NoneType _uninitialized_submodules=list"),
        ('i', "_set_fileattr=bool _cached=str")]),
    ("_LoaderBasics",
      [('f', "is_package create_module exec_module load_module"),
        ('g', "__dict__=object __weakref__=object"),
        ('v', "__module__=str __doc__=str")]),
    ("SourceLoader",
      [('f', "path_mtime path_stats _cache_bytecode set_data get_source source_to_code"),
        ('f', "get_code"),
        ('v', "__module__=str __doc__=NoneType")]),
    ("FileLoader",
      [('f', "__init__ __eq__ __hash__ load_module get_filename get_data get_resource_reader"),
        ('g', "__dict__=object __weakref__=object"),
        ('v', "__module__=str __doc__=str")]),
    ("SourceFileLoader",
      [('f', "path_stats _cache_bytecode set_data"),
        ('v', "__module__=str __doc__=str"),
        ('i', "name=str path=str")]),
    ("code",
      [('w', "__repr__ __hash__ __getattribute__ __lt__ __le__ __eq__ __ne__ __gt__ __ge__"),
        ('m', "__sizeof__ co_lines co_positions replace _varname_from_oparg"),
        ('b', "__new__"),
        ('g', "co_lnotab=bytes _co_code_adaptive=bytes co_varnames=tuple co_cellvars=tuple"),
        ('g', "co_freevars=tuple co_code=bytes"),
        ('d', "co_argcount=int co_posonlyargcount=int co_kwonlyargcount=int co_stacksize=int"),
        ('d', "co_flags=int co_nlocals=int co_consts=tuple co_names=tuple co_filename=str"),
        ('d', "co_name=str co_qualname=str co_firstlineno=int co_linetable=bytes"),
        ('d', "co_exceptiontable=bytes"),
        ('v', "__doc__=str")]),
    ("ellipsis",
      [('w', "__repr__ __getattribute__"),
        ('m', "__reduce__"),
        ('b', "__new__"),
        ('v', "__doc__=NoneType")]),
    ("NotImplementedType",
      [('w', "__repr__ __bool__"),
        ('m', "__reduce__"),
        ('b', "__new__"),
        ('v', "__doc__=NoneType")])]

end CommandManual.Script
