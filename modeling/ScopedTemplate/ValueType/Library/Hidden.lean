/-!
# Modules whose names begin with an underscore

Each row is a module and types that it shows; see `ValueType.Registry` for how a type is written.
-/

namespace ScopedTemplate.ValueType.Library

def hidden : List (String × String) := [
  ("__future__", "_Feature"),
  ("_abc", "__loader__=BuiltinImporter"),
  ("_aix_support", ""),
  ("_ast", "AST Add And AnnAssign Assert Assign AsyncFor AsyncFunctionDef AsyncWith Attribute"),
  ("_ast", "AugAssign Await BinOp BitAnd BitOr BitXor BoolOp Break Call ClassDef Compare"),
  ("_ast", "Constant Continue Del Delete Dict DictComp Div Eq ExceptHandler Expr Expression"),
  ("_ast", "FloorDiv For FormattedValue FunctionDef FunctionType GeneratorExp Global Gt GtE"),
  ("_ast", "If IfExp Import ImportFrom In Interactive Invert Is IsNot JoinedStr LShift Lambda"),
  ("_ast", "List ListComp Load Lt LtE MatMult Match MatchAs MatchClass MatchMapping MatchOr"),
  ("_ast", "MatchSequence MatchSingleton MatchStar MatchValue Mod Module Mult Name NamedExpr"),
  ("_ast", "Nonlocal Not NotEq NotIn Or Pass Pow RShift Raise Return Set SetComp Slice"),
  ("_ast", "Starred Store Sub Subscript Try TryStar Tuple TypeIgnore UAdd USub UnaryOp While"),
  ("_ast", "With Yield YieldFrom __loader__=BuiltinImporter alias arg arguments boolop cmpop"),
  ("_ast", "comprehension excepthandler expr expr_context keyword match_case mod operator"),
  ("_ast", "pattern stmt type_ignore unaryop withitem"),
  ("_asyncio", "Future Task"),
  ("_bisect", ""),
  ("_blake2", "blake2b blake2s"),
  ("_bootsubprocess", "Popen"),
  ("_bz2", "BZ2Compressor BZ2Decompressor"),
  ("_codecs", "__loader__=BuiltinImporter"),
  ("_codecs_cn", ""),
  ("_codecs_hk", ""),
  ("_codecs_iso2022", ""),
  ("_codecs_jp", ""),
  ("_codecs_kr", ""),
  ("_codecs_tw", ""),
  ("_collections", "OrderedDict __loader__=BuiltinImporter _deque_iterator"),
  ("_collections", "_deque_reverse_iterator _tuplegetter defaultdict deque"),
  ("_collections_abc", "ABCMeta@abc AsyncGenerator@collections.abc"),
  ("_collections_abc", "AsyncIterable@collections.abc AsyncIterator@collections.abc"),
  ("_collections_abc", "Awaitable@collections.abc ByteString@collections.abc"),
  ("_collections_abc", "Callable@collections.abc Collection@collections.abc"),
  ("_collections_abc", "Container@collections.abc Coroutine@collections.abc"),
  ("_collections_abc", "EllipsisType=ellipsis FunctionType=function@builtins"),
  ("_collections_abc", "Generator@collections.abc GenericAlias Hashable@collections.abc"),
  ("_collections_abc", "ItemsView@collections.abc Iterable@collections.abc"),
  ("_collections_abc", "Iterator@collections.abc KeysView@collections.abc"),
  ("_collections_abc", "Mapping@collections.abc MappingView@collections.abc"),
  ("_collections_abc", "MutableMapping@collections.abc MutableSequence@collections.abc"),
  ("_collections_abc", "MutableSet@collections.abc Reversible@collections.abc"),
  ("_collections_abc", "Sequence@collections.abc Set@collections.abc Sized@collections.abc"),
  ("_collections_abc", "ValuesView@collections.abc _CallableGenericAlias@collections.abc"),
  ("_collections_abc", "__loader__=FrozenImporter async_generator bytearray_iterator"),
  ("_collections_abc", "bytes_iterator coroutine dict_itemiterator dict_items"),
  ("_collections_abc", "dict_keyiterator dict_keys dict_valueiterator dict_values generator"),
  ("_collections_abc", "list_iterator list_reverseiterator longrange_iterator mappingproxy"),
  ("_collections_abc", "range_iterator set_iterator str_iterator=str_ascii_iterator"),
  ("_collections_abc", "tuple_iterator zip_iterator=zip"),
  ("_compat_pickle", ""),
  ("_compression", "BaseStream DecompressReader"),
  ("_contextvars", "Context ContextVar Token"),
  ("_crypt", ""),
  ("_csv", "Dialect Error Reader=reader Writer=writer"),
  ("_ctypes", "ArgumentError Array CFuncPtr Structure Union _Pointer _SimpleCData"),
  ("_curses", "error window"),
  ("_curses_panel", "error panel"),
  ("_datetime", "date datetime time timedelta timezone tzinfo"),
  ("_dbm", "error"),
  ("_decimal", "Clamped Context ConversionSyntax Decimal DecimalException DecimalTuple"),
  ("_decimal", "DivisionByZero DivisionImpossible DivisionUndefined FloatOperation Inexact"),
  ("_decimal", "InvalidContext InvalidOperation Overflow Rounded Subnormal Underflow"),
  ("_elementtree", "Element ParseError TreeBuilder XMLParser"),
  ("_frozen_importlib", "BuiltinImporter FrozenImporter ModuleSpec _DeadlockError"),
  ("_frozen_importlib", "_DummyModuleLock _ImportLockContext _ModuleLock _ModuleLockManager"),
  ("_frozen_importlib", "__loader__=FrozenImporter"),
  ("_frozen_importlib_external", "ExtensionFileLoader FileFinder FileLoader NamespaceLoader"),
  ("_frozen_importlib_external", "PathFinder SourceFileLoader SourceLoader"),
  ("_frozen_importlib_external", "SourcelessFileLoader WindowsRegistryFinder _LoaderBasics"),
  ("_frozen_importlib_external", "_NamespaceLoader=NamespaceLoader _NamespacePath"),
  ("_frozen_importlib_external", "__loader__=FrozenImporter _code_type=code"),
  ("_functools", "__loader__=BuiltinImporter _lru_cache_wrapper partial"),
  ("_gdbm", "error"),
  ("_hashlib", "HASH HASHXOF HMAC UnsupportedDigestmodError"),
  ("_heapq", ""),
  ("_imp", "__loader__=BuiltinImporter"),
  ("_io", "BlockingIOError BufferedRWPair BufferedRandom BufferedReader BufferedWriter"),
  ("_io", "BytesIO FileIO IncrementalNewlineDecoder StringIO TextIOWrapper"),
  ("_io", "UnsupportedOperation _BufferedIOBase _IOBase _RawIOBase _TextIOBase"),
  ("_io", "__loader__=BuiltinImporter"),
  ("_json", "make_encoder=Encoder make_scanner=Scanner"),
  ("_locale", "Error __loader__=BuiltinImporter"),
  ("_lsprof", "Profiler profiler_entry profiler_subentry"),
  ("_lzma", "LZMACompressor LZMADecompressor LZMAError"),
  ("_markupbase", "ParserBase"),
  ("_md5", "MD5Type=md5"),
  ("_multibytecodec", "MultibyteIncrementalDecoder MultibyteIncrementalEncoder"),
  ("_multibytecodec", "MultibyteStreamReader MultibyteStreamWriter"),
  ("_multiprocessing", "SemLock"),
  ("_opcode", ""),
  ("_operator", "__loader__=BuiltinImporter attrgetter itemgetter methodcaller"),
  ("_osx_support", ""),
  ("_pickle", "PickleBuffer PickleError Pickler PicklingError Unpickler UnpicklingError"),
  ("_posixshmem", ""),
  ("_posixsubprocess", ""),
  ("_py_abc", "ABCMeta WeakSet"),
  ("_pydecimal", "Clamped Context ConversionSyntax Decimal DecimalException DecimalTuple"),
  ("_pydecimal", "DivisionByZero DivisionImpossible DivisionUndefined FloatOperation Inexact"),
  ("_pydecimal", "InvalidContext InvalidOperation Overflow Rounded Subnormal Underflow"),
  ("_pydecimal", "_ContextManager _Log10Memoize _WorkRep"),
  ("_pyio", "BlockingIOError BufferedIOBase BufferedRWPair BufferedRandom BufferedReader"),
  ("_pyio", "BufferedWriter BytesIO FileIO IOBase IncrementalNewlineDecoder RawIOBase"),
  ("_pyio", "StringIO TextIOBase TextIOWrapper UnsupportedOperation _BufferedIOMixin"),
  ("_queue", "Empty SimpleQueue"),
  ("_random", "Random"),
  ("_sha1", "SHA1Type=sha1"),
  ("_sha256", "SHA224Type=sha224 SHA256Type=sha256"),
  ("_sha3", "sha3_224 sha3_256 sha3_384 sha3_512 shake_128 shake_256"),
  ("_sha512", "SHA384Type=sha512"),
  ("_signal", "ItimerError=itimer_error __loader__=BuiltinImporter struct_siginfo"),
  ("_sitebuiltins", "Quitter _Helper _Printer __loader__=FrozenImporter"),
  ("_socket", "SocketType=socket error=OSError gaierror herror socket timeout=TimeoutError"),
  ("_sqlite3", "Blob Connection Cursor DataError DatabaseError Error IntegrityError"),
  ("_sqlite3", "InterfaceError InternalError NotSupportedError OperationalError"),
  ("_sqlite3", "PrepareProtocol ProgrammingError Row Warning"),
  ("_sre", "__loader__=BuiltinImporter"),
  ("_ssl", "Certificate MemoryBIO SSLCertVerificationError SSLEOFError SSLError SSLSession"),
  ("_ssl", "SSLSyscallError SSLWantReadError SSLWantWriteError SSLZeroReturnError _SSLContext"),
  ("_ssl", "_SSLSocket"),
  ("_stat", "__loader__=BuiltinImporter"),
  ("_statistics", ""),
  ("_string", "__loader__=BuiltinImporter"),
  ("_strptime", "LocaleTime TimeRE datetime_date=date datetime_timedelta=timedelta"),
  ("_strptime", "datetime_timezone=timezone"),
  ("_struct", "Struct error"),
  ("_symtable", "__loader__=BuiltinImporter"),
  ("_thread", "LockType=lock RLock _ExceptHookArgs __loader__=BuiltinImporter _local"),
  ("_thread", "error=RuntimeError"),
  ("_threading_local", "_localimpl local ref=ReferenceType"),
  ("_tokenize", "TokenizerIter"),
  ("_tracemalloc", "__loader__=BuiltinImporter"),
  ("_typing", ""),
  ("_uuid", ""),
  ("_warnings", "__loader__=BuiltinImporter"),
  ("_weakref", "CallableProxyType ProxyType ReferenceType __loader__=BuiltinImporter"),
  ("_weakref", "ref=ReferenceType"),
  ("_weakrefset", "GenericAlias WeakSet _IterationGuard ref=ReferenceType"),
  ("_zoneinfo", "ZoneInfo")]

end ScopedTemplate.ValueType.Library
