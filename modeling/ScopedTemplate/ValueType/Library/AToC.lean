/-!
# Modules from `a` to `c`

Each row is a module and types that it shows; see `ValueType.Registry` for how a type is written.
-/

namespace ScopedTemplate.ValueType.Library

def aToC : List (String × String) := [
  ("abc", "ABC ABCMeta __loader__=FrozenImporter abstractclassmethod abstractproperty"),
  ("abc", "abstractstaticmethod"),
  ("aifc", "Aifc_read Aifc_write Chunk Error _aifc_params"),
  ("argparse", "Action ArgumentDefaultsHelpFormatter ArgumentError ArgumentParser"),
  ("argparse", "ArgumentTypeError BooleanOptionalAction FileType HelpFormatter"),
  ("argparse", "MetavarTypeHelpFormatter Namespace RawDescriptionHelpFormatter"),
  ("argparse", "RawTextHelpFormatter _ActionsContainer _AppendAction _AppendConstAction"),
  ("argparse", "_ArgumentGroup _AttributeHolder _CountAction _ExtendAction _HelpAction"),
  ("argparse", "_MutuallyExclusiveGroup _StoreAction _StoreConstAction _StoreFalseAction"),
  ("argparse", "_StoreTrueAction _SubParsersAction _VersionAction"),
  ("array", "ArrayType=array array"),
  ("ast", "AST Add And AnnAssign Assert Assign AsyncFor AsyncFunctionDef AsyncWith Attribute"),
  ("ast", "AugAssign AugLoad AugStore Await BinOp BitAnd BitOr BitXor BoolOp Break Bytes Call"),
  ("ast", "ClassDef Compare Constant Continue Del Delete Dict DictComp Div Ellipsis Eq"),
  ("ast", "ExceptHandler Expr Expression ExtSlice FloorDiv For FormattedValue FunctionDef"),
  ("ast", "FunctionType GeneratorExp Global Gt GtE If IfExp Import ImportFrom In Index"),
  ("ast", "IntEnum Interactive Invert Is IsNot JoinedStr LShift Lambda List ListComp Load Lt"),
  ("ast", "LtE MatMult Match MatchAs MatchClass MatchMapping MatchOr MatchSequence"),
  ("ast", "MatchSingleton MatchStar MatchValue Mod Module Mult Name NameConstant NamedExpr"),
  ("ast", "NodeTransformer NodeVisitor Nonlocal Not NotEq NotIn Num Or Param Pass Pow RShift"),
  ("ast", "Raise Return Set SetComp Slice Starred Store Str Sub Subscript Suite Try TryStar"),
  ("ast", "Tuple TypeIgnore UAdd USub UnaryOp While With Yield YieldFrom _ABC _Precedence"),
  ("ast", "_Unparser alias arg arguments auto boolop cmpop comprehension excepthandler expr"),
  ("ast", "expr_context keyword match_case mod nullcontext operator pattern slice stmt"),
  ("ast", "type_ignore unaryop withitem"),
  ("asynchat", "async_chat deque simple_producer"),
  ("asyncio", "AbstractChildWatcher AbstractEventLoop AbstractEventLoopPolicy AbstractServer"),
  ("asyncio", "Barrier BaseEventLoop BaseProtocol BaseTransport BoundedSemaphore"),
  ("asyncio", "BrokenBarrierError BufferedProtocol CancelledError Condition DatagramProtocol"),
  ("asyncio", "DatagramTransport DefaultEventLoopPolicy=_UnixDefaultEventLoopPolicy Event"),
  ("asyncio", "FastChildWatcher Future Handle IncompleteReadError InvalidStateError LifoQueue"),
  ("asyncio", "LimitOverrunError Lock MultiLoopChildWatcher PidfdChildWatcher PriorityQueue"),
  ("asyncio", "Protocol Queue QueueEmpty QueueFull ReadTransport Runner SafeChildWatcher"),
  ("asyncio", "SelectorEventLoop=_UnixSelectorEventLoop Semaphore SendfileNotAvailableError"),
  ("asyncio", "Server StreamReader StreamReaderProtocol StreamWriter SubprocessProtocol"),
  ("asyncio", "SubprocessTransport Task TaskGroup ThreadedChildWatcher Timeout TimeoutError"),
  ("asyncio", "TimerHandle Transport WriteTransport"),
  ("asyncio.base_events", "BaseEventLoop Server _SendfileFallbackProtocol"),
  ("asyncio.base_futures", ""),
  ("asyncio.base_subprocess", "BaseSubprocessTransport ReadSubprocessPipeProto"),
  ("asyncio.base_subprocess", "WriteSubprocessPipeProto"),
  ("asyncio.base_tasks", ""),
  ("asyncio.constants", "_SendfileMode"),
  ("asyncio.coroutines", ""),
  ("asyncio.events", "AbstractEventLoop AbstractEventLoopPolicy AbstractServer"),
  ("asyncio.events", "BaseDefaultEventLoopPolicy Handle TimerHandle _RunningLoop"),
  ("asyncio.exceptions", "BrokenBarrierError CancelledError IncompleteReadError"),
  ("asyncio.exceptions", "InvalidStateError LimitOverrunError SendfileNotAvailableError"),
  ("asyncio.exceptions", "TimeoutError"),
  ("asyncio.format_helpers", ""),
  ("asyncio.futures", "Future GenericAlias _CFuture=Future _PyFuture=Future"),
  ("asyncio.locks", "Barrier BoundedSemaphore Condition Event Lock Semaphore _BarrierState"),
  ("asyncio.locks", "_ContextManagerMixin"),
  ("asyncio.log", ""),
  ("asyncio.mixins", "_LoopBoundMixin"),
  ("asyncio.proactor_events", "BaseProactorEventLoop _ProactorBasePipeTransport"),
  ("asyncio.proactor_events", "_ProactorBaseWritePipeTransport _ProactorDatagramTransport"),
  ("asyncio.proactor_events", "_ProactorDuplexPipeTransport _ProactorReadPipeTransport"),
  ("asyncio.proactor_events", "_ProactorSocketTransport _ProactorWritePipeTransport"),
  ("asyncio.protocols", "BaseProtocol BufferedProtocol DatagramProtocol Protocol"),
  ("asyncio.protocols", "SubprocessProtocol"),
  ("asyncio.queues", "GenericAlias LifoQueue PriorityQueue Queue QueueEmpty QueueFull"),
  ("asyncio.runners", "Runner _State"),
  ("asyncio.selector_events", "BaseSelectorEventLoop _SelectorDatagramTransport"),
  ("asyncio.selector_events", "_SelectorSocketTransport _SelectorTransport"),
  ("asyncio.sslproto", "AppProtocolState SSLProtocol SSLProtocolState _SSLProtocolTransport"),
  ("asyncio.staggered", ""),
  ("asyncio.streams", "FlowControlMixin StreamReader StreamReaderProtocol StreamWriter"),
  ("asyncio.subprocess", "Process SubprocessStreamProtocol"),
  ("asyncio.taskgroups", "TaskGroup"),
  ("asyncio.tasks", "GenericAlias Task _CTask=Task _GatheringFuture _PyTask=Task"),
  ("asyncio.threads", ""),
  ("asyncio.timeouts", "Timeout TracebackType=traceback _State"),
  ("asyncio.transports", "BaseTransport DatagramTransport ReadTransport SubprocessTransport"),
  ("asyncio.transports", "Transport WriteTransport _FlowControlMixin"),
  ("asyncio.trsock", "TransportSocket"),
  ("asyncio.unix_events", "AbstractChildWatcher BaseChildWatcher"),
  ("asyncio.unix_events", "DefaultEventLoopPolicy=_UnixDefaultEventLoopPolicy"),
  ("asyncio.unix_events", "FastChildWatcher MultiLoopChildWatcher PidfdChildWatcher"),
  ("asyncio.unix_events", "SafeChildWatcher SelectorEventLoop=_UnixSelectorEventLoop"),
  ("asyncio.unix_events", "ThreadedChildWatcher _UnixDefaultEventLoopPolicy"),
  ("asyncio.unix_events", "_UnixReadPipeTransport _UnixSelectorEventLoop"),
  ("asyncio.unix_events", "_UnixSubprocessTransport _UnixWritePipeTransport"),
  ("asyncore", "ExitNow dispatcher dispatcher_with_send file_dispatcher file_wrapper"),
  ("atexit", "__loader__=BuiltinImporter"),
  ("audioop", "error"),
  ("base64", ""),
  ("bdb", "Bdb BdbQuit Breakpoint Tdb"),
  ("binascii", "Error Incomplete"),
  ("bisect", ""),
  ("builtins", "ArithmeticError AssertionError AttributeError BaseException"),
  ("builtins", "BaseExceptionGroup BlockingIOError BrokenPipeError BufferError BytesWarning"),
  ("builtins", "ChildProcessError ConnectionAbortedError ConnectionError"),
  ("builtins", "ConnectionRefusedError ConnectionResetError DeprecationWarning EOFError"),
  ("builtins", "EncodingWarning EnvironmentError=OSError Exception ExceptionGroup"),
  ("builtins", "FileExistsError FileNotFoundError FloatingPointError FutureWarning"),
  ("builtins", "GeneratorExit IOError=OSError ImportError ImportWarning IndentationError"),
  ("builtins", "IndexError InterruptedError IsADirectoryError KeyError KeyboardInterrupt"),
  ("builtins", "LookupError MemoryError ModuleNotFoundError NameError NotADirectoryError"),
  ("builtins", "NotImplementedError OSError OverflowError PendingDeprecationWarning"),
  ("builtins", "PermissionError ProcessLookupError RecursionError ReferenceError"),
  ("builtins", "ResourceWarning RuntimeError RuntimeWarning StopAsyncIteration StopIteration"),
  ("builtins", "SyntaxError SyntaxWarning SystemError SystemExit TabError TimeoutError"),
  ("builtins", "TypeError UnboundLocalError UnicodeDecodeError UnicodeEncodeError"),
  ("builtins", "UnicodeError UnicodeTranslateError UnicodeWarning UserWarning ValueError"),
  ("builtins", "Warning ZeroDivisionError __loader__=BuiltinImporter bool bytearray bytes"),
  ("builtins", "classmethod complex dict enumerate filter float frozenset int list map"),
  ("builtins", "memoryview object property range reversed set slice staticmethod str super"),
  ("builtins", "tuple type zip"),
  ("bz2", "BZ2Compressor BZ2Decompressor BZ2File"),
  ("cProfile", "Profile"),
  ("calendar", "Calendar HTMLCalendar IllegalMonthError IllegalWeekdayError"),
  ("calendar", "LocaleHTMLCalendar LocaleTextCalendar TextCalendar _localized_day"),
  ("calendar", "_localized_month different_locale error=ValueError repeat"),
  ("cgi", "BytesIO FeedParser FieldStorage Mapping@collections.abc Message MiniFieldStorage"),
  ("cgi", "StringIO TextIOWrapper"),
  ("cgitb", "Hook"),
  ("chunk", "Chunk"),
  ("cmath", ""),
  ("cmd", "Cmd"),
  ("code", "CommandCompiler InteractiveConsole InteractiveInterpreter"),
  ("codecs", "BufferedIncrementalDecoder BufferedIncrementalEncoder Codec CodecInfo"),
  ("codecs", "IncrementalDecoder IncrementalEncoder StreamReader StreamReaderWriter"),
  ("codecs", "StreamRecoder StreamWriter __loader__=FrozenImporter"),
  ("codeop", "CommandCompiler Compile"),
  ("collections", "ChainMap Counter OrderedDict UserDict UserList UserString _Link"),
  ("collections", "_OrderedDictItemsView _OrderedDictKeysView _OrderedDictValuesView"),
  ("collections", "_chain=chain _itemgetter=itemgetter _repeat=repeat _starmap=starmap"),
  ("collections", "_tuplegetter defaultdict deque"),
  ("collections.abc", "AsyncGenerator AsyncIterable AsyncIterator Awaitable ByteString"),
  ("collections.abc", "Callable Collection Container Coroutine Generator Hashable ItemsView"),
  ("collections.abc", "Iterable Iterator KeysView Mapping MappingView MutableMapping"),
  ("collections.abc", "MutableSequence MutableSet Reversible Sequence Set Sized ValuesView"),
  ("collections.abc", "_CallableGenericAlias"),
  ("colorsys", ""),
  ("compileall", "Path partial"),
  ("concurrent", ""),
  ("concurrent.futures", "BrokenExecutor CancelledError Executor Future InvalidStateError"),
  ("concurrent.futures", "ProcessPoolExecutor ThreadPoolExecutor TimeoutError"),
  ("concurrent.futures._base", "BrokenExecutor CancelledError DoneAndNotDoneFutures Error"),
  ("concurrent.futures._base", "Executor Future InvalidStateError TimeoutError"),
  ("concurrent.futures._base", "_AcquireFutures _AllCompletedWaiter _AsCompletedWaiter"),
  ("concurrent.futures._base", "_FirstCompletedWaiter _Waiter"),
  ("concurrent.futures.process", "BrokenProcessPool ProcessPoolExecutor Queue _CallItem"),
  ("concurrent.futures.process", "_ExceptionWithTraceback _ExecutorManagerThread"),
  ("concurrent.futures.process", "_RemoteTraceback _ResultItem _SafeQueue _ThreadWakeup"),
  ("concurrent.futures.process", "_WorkItem partial"),
  ("concurrent.futures.thread", "BrokenThreadPool ThreadPoolExecutor _WorkItem"),
  ("configparser", "BasicInterpolation ConfigParser ConverterMapping DuplicateOptionError"),
  ("configparser", "DuplicateSectionError Error ExtendedInterpolation Interpolation"),
  ("configparser", "InterpolationDepthError InterpolationError"),
  ("configparser", "InterpolationMissingOptionError InterpolationSyntaxError"),
  ("configparser", "LegacyInterpolation MissingSectionHeaderError"),
  ("configparser", "MutableMapping@collections.abc NoOptionError NoSectionError ParsingError"),
  ("configparser", "RawConfigParser SafeConfigParser SectionProxy _ChainMap=ChainMap"),
  ("configparser", "_default_dict=dict@builtins"),
  ("contextlib", "AbstractAsyncContextManager AbstractContextManager AsyncContextDecorator"),
  ("contextlib", "AsyncExitStack ContextDecorator ExitStack GenericAlias"),
  ("contextlib", "MethodType=method@builtins _AsyncGeneratorContextManager _BaseExitStack"),
  ("contextlib", "_GeneratorContextManager _GeneratorContextManagerBase _RedirectStream"),
  ("contextlib", "aclosing chdir closing deque nullcontext redirect_stderr redirect_stdout"),
  ("contextlib", "suppress"),
  ("contextvars", "Context ContextVar Token"),
  ("copy", "Error error=Error"),
  ("copyreg", "_new_type=builtin_function_or_method@builtins"),
  ("crypt", "_Method _SystemRandom=SystemRandom"),
  ("csv", "Dialect DictReader DictWriter Error Sniffer StringIO _Dialect=Dialect excel"),
  ("csv", "excel_tab unix_dialect"),
  ("ctypes", "ArgumentError Array BigEndianStructure BigEndianUnion CDLL LibraryLoader"),
  ("ctypes", "LittleEndianStructure=Structure LittleEndianUnion=Union PyDLL Structure Union"),
  ("ctypes", "_CFuncPtr=CFuncPtr _Pointer _SimpleCData c_bool c_byte c_char c_char_p c_double"),
  ("ctypes", "c_float c_int c_int16=c_short c_int32=c_int c_int64=c_long c_int8=c_byte c_long"),
  ("ctypes", "c_longdouble c_longlong=c_long c_short c_size_t=c_ulong c_ssize_t=c_long"),
  ("ctypes", "c_ubyte c_uint c_uint16=c_ushort c_uint32=c_uint c_uint64=c_ulong"),
  ("ctypes", "c_uint8=c_ubyte c_ulong c_ulonglong=c_ulong c_ushort c_void_p c_voidp=c_void_p"),
  ("ctypes", "c_wchar c_wchar_p py_object"),
  ("ctypes._aix", "Popen c_void_p"),
  ("ctypes._endian", "ArgumentError Array BigEndianStructure BigEndianUnion CDLL"),
  ("ctypes._endian", "LibraryLoader LittleEndianStructure=Structure LittleEndianUnion=Union"),
  ("ctypes._endian", "PyDLL Structure Union _array_type=PyCArrayType _swapped_meta"),
  ("ctypes._endian", "_swapped_struct_meta _swapped_union_meta c_bool c_byte c_char c_char_p"),
  ("ctypes._endian", "c_double c_float c_int c_long c_longdouble c_longlong=c_long c_short"),
  ("ctypes._endian", "c_size_t=c_ulong c_ssize_t=c_long c_ubyte c_uint c_ulong"),
  ("ctypes._endian", "c_ulonglong=c_ulong c_ushort c_void_p c_voidp=c_void_p c_wchar"),
  ("ctypes._endian", "c_wchar_p py_object"),
  ("ctypes.macholib", ""),
  ("ctypes.macholib.dyld", "accumulate chain combinations combinations_with_replacement"),
  ("ctypes.macholib.dyld", "compress count cycle dropwhile filterfalse groupby islice"),
  ("ctypes.macholib.dyld", "pairwise permutations product repeat starmap takewhile"),
  ("ctypes.macholib.dyld", "zip_longest"),
  ("ctypes.macholib.dylib", ""),
  ("ctypes.macholib.framework", ""),
  ("ctypes.util", ""),
  ("ctypes.wintypes", "ATOM=c_ushort BOOL=c_long BOOLEAN=c_byte BYTE=c_byte CHAR=c_char"),
  ("ctypes.wintypes", "COLORREF=c_ulong DOUBLE=c_double DWORD=c_ulong FILETIME FLOAT=c_float"),
  ("ctypes.wintypes", "HACCEL=c_void_p HANDLE=c_void_p HBITMAP=c_void_p HBRUSH=c_void_p"),
  ("ctypes.wintypes", "HCOLORSPACE=c_void_p HDC=c_void_p HDESK=c_void_p HDWP=c_void_p"),
  ("ctypes.wintypes", "HENHMETAFILE=c_void_p HFONT=c_void_p HGDIOBJ=c_void_p HGLOBAL=c_void_p"),
  ("ctypes.wintypes", "HHOOK=c_void_p HICON=c_void_p HINSTANCE=c_void_p HKEY=c_void_p"),
  ("ctypes.wintypes", "HKL=c_void_p HLOCAL=c_void_p HMENU=c_void_p HMETAFILE=c_void_p"),
  ("ctypes.wintypes", "HMODULE=c_void_p HMONITOR=c_void_p HPALETTE=c_void_p HPEN=c_void_p"),
  ("ctypes.wintypes", "HRGN=c_void_p HRSRC=c_void_p HSTR=c_void_p HTASK=c_void_p"),
  ("ctypes.wintypes", "HWINSTA=c_void_p HWND=c_void_p INT=c_int LANGID=c_ushort"),
  ("ctypes.wintypes", "LARGE_INTEGER=c_long LCID=c_ulong LCTYPE=c_ulong LGRPID=c_ulong"),
  ("ctypes.wintypes", "LONG=c_long LPARAM=c_long LPBOOL=LP_c_long LPBYTE=LP_c_byte"),
  ("ctypes.wintypes", "LPCOLESTR=c_wchar_p LPCOLORREF=LP_c_ulong LPCSTR=c_char_p"),
  ("ctypes.wintypes", "LPCVOID=c_void_p LPCWSTR=c_wchar_p LPDWORD=LP_c_ulong"),
  ("ctypes.wintypes", "LPFILETIME=LP_FILETIME LPHANDLE=LP_c_void_p LPHKL=LP_c_void_p"),
  ("ctypes.wintypes", "LPINT=LP_c_int LPLONG=LP_c_long LPMSG=LP_MSG LPOLESTR=c_wchar_p"),
  ("ctypes.wintypes", "LPPOINT=LP_POINT LPRECT=LP_RECT LPRECTL=LP_RECT"),
  ("ctypes.wintypes", "LPSC_HANDLE=LP_c_void_p LPSIZE=LP_SIZE LPSIZEL=LP_SIZE LPSTR=c_char_p"),
  ("ctypes.wintypes", "LPUINT=LP_c_uint LPVOID=c_void_p"),
  ("ctypes.wintypes", "LPWIN32_FIND_DATAA=LP_WIN32_FIND_DATAA"),
  ("ctypes.wintypes", "LPWIN32_FIND_DATAW=LP_WIN32_FIND_DATAW LPWORD=LP_c_ushort"),
  ("ctypes.wintypes", "LPWSTR=c_wchar_p MSG OLESTR=c_wchar_p PBOOL=LP_c_long"),
  ("ctypes.wintypes", "PBOOLEAN=LP_c_byte PBYTE=LP_c_byte PCHAR=LP_c_char PDWORD=LP_c_ulong"),
  ("ctypes.wintypes", "PFILETIME=LP_FILETIME PFLOAT=LP_c_float PHANDLE=LP_c_void_p"),
  ("ctypes.wintypes", "PHKEY=LP_c_void_p PINT=LP_c_int PLARGE_INTEGER=LP_c_long"),
  ("ctypes.wintypes", "PLCID=LP_c_ulong PLONG=LP_c_long PMSG=LP_MSG POINT POINTL=POINT"),
  ("ctypes.wintypes", "PPOINT=LP_POINT PPOINTL=LP_POINT PRECT=LP_RECT PRECTL=LP_RECT"),
  ("ctypes.wintypes", "PSHORT=LP_c_short PSIZE=LP_SIZE PSIZEL=LP_SIZE"),
  ("ctypes.wintypes", "PSMALL_RECT=LP__SMALL_RECT PUINT=LP_c_uint PULARGE_INTEGER=LP_c_ulong"),
  ("ctypes.wintypes", "PULONG=LP_c_ulong PUSHORT=LP_c_ushort PWCHAR=LP_c_wchar"),
  ("ctypes.wintypes", "PWIN32_FIND_DATAA=LP_WIN32_FIND_DATAA"),
  ("ctypes.wintypes", "PWIN32_FIND_DATAW=LP_WIN32_FIND_DATAW PWORD=LP_c_ushort RECT"),
  ("ctypes.wintypes", "RECTL=RECT SC_HANDLE=c_void_p SERVICE_STATUS_HANDLE=c_void_p"),
  ("ctypes.wintypes", "SHORT=c_short SIZE SIZEL=SIZE SMALL_RECT=_SMALL_RECT UINT=c_uint"),
  ("ctypes.wintypes", "ULARGE_INTEGER=c_ulong ULONG=c_ulong USHORT=c_ushort VARIANT_BOOL"),
  ("ctypes.wintypes", "WCHAR=c_wchar WIN32_FIND_DATAA WIN32_FIND_DATAW WORD=c_ushort"),
  ("ctypes.wintypes", "WPARAM=c_ulong _COORD _FILETIME=FILETIME _LARGE_INTEGER=c_long"),
  ("ctypes.wintypes", "_POINTL=POINT _RECTL=RECT _SMALL_RECT _ULARGE_INTEGER=c_ulong"),
  ("ctypes.wintypes", "tagMSG=MSG tagPOINT=POINT tagRECT=RECT tagSIZE=SIZE"),
  ("curses", "error window"),
  ("curses.ascii", ""),
  ("curses.has_key", ""),
  ("curses.panel", "error panel"),
  ("curses.textpad", "Textbox")]

end ScopedTemplate.ValueType.Library
