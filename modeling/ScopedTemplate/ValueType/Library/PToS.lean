/-!
# Modules from `p` to `s`

Each row is a module and types that it shows; see `ValueType.Registry` for how a type is written.
-/

namespace ScopedTemplate.ValueType.Library

def pToS : List (String × String) := [
  ("pathlib", "Path PosixPath PurePath PurePosixPath PureWindowsPath Sequence@collections.abc"),
  ("pathlib", "WindowsPath _Flavour _PathParents _PosixFlavour _PreciseSelector"),
  ("pathlib", "_RecursiveWildcardSelector _Selector _TerminatingSelector _WildcardSelector"),
  ("pathlib", "_WindowsFlavour attrgetter"),
  ("pdb", "Pdb Restart _ModuleTarget _ScriptTarget _rstr"),
  ("pickle", "FunctionType=function@builtins PickleBuffer PickleError Pickler PicklingError"),
  ("pickle", "Unpickler UnpicklingError _Framer _Pickler _Stop _Unframer _Unpickler islice"),
  ("pickle", "partial"),
  ("pickletools", "ArgumentDescriptor OpcodeInfo StackObject _Example"),
  ("pipes", "Template"),
  ("pkgutil", "ImpImporter ImpLoader ModuleInfo ModuleType=module zipimporter"),
  ("platform", "_Processor uname_result"),
  ("plistlib", "BytesIO InvalidFileException PlistFormat UID _BinaryPlistParser"),
  ("plistlib", "_BinaryPlistWriter _DumbXMLWriter _PlistParser _PlistWriter"),
  ("poplib", "POP3 POP3_SSL error_proto"),
  ("posix", "DirEntry __loader__=BuiltinImporter error=OSError sched_param stat_result"),
  ("posix", "statvfs_result terminal_size times_result uname_result waitid_result"),
  ("posixpath", "__loader__=FrozenImporter"),
  ("pprint", "PrettyPrinter _StringIO=StringIO _safe_key"),
  ("profile", "Profile _Utils"),
  ("pstats", "FunctionProfile SortKey Stats StatsProfile StrEnum TupleComp"),
  ("pty", ""),
  ("pwd", "__loader__=BuiltinImporter struct_passwd"),
  ("py_compile", "PyCompileError PycInvalidationMode"),
  ("pyclbr", "Class Function _ModuleBrowser _Object"),
  ("pydoc", "Doc ErrorDuringImport HTMLDoc HTMLRepr Helper ModuleScanner Repr TextDoc"),
  ("pydoc", "TextRepr _PlainTextDoc deque"),
  ("pydoc_data", ""),
  ("pydoc_data.topics", ""),
  ("pyexpat", "ExpatError XMLParserType=xmlparser error=ExpatError"),
  ("pyexpat.errors", ""),
  ("pyexpat.model", ""),
  ("queue", "Empty Full LifoQueue PriorityQueue Queue SimpleQueue _PySimpleQueue deque"),
  ("quopri", ""),
  ("random", "Random SystemRandom _Sequence=Sequence@collections.abc _Set=Set@collections.abc"),
  ("random", "_accumulate=accumulate _repeat=repeat"),
  ("re", "Match Pattern RegexFlag Scanner error"),
  ("re._casefix", ""),
  ("re._compiler", "error"),
  ("re._constants", "_NamedIntConstant error"),
  ("re._parser", "State SubPattern Tokenizer error"),
  ("readline", ""),
  ("reprlib", "Repr islice"),
  ("resource", "error=OSError struct_rusage"),
  ("rlcompleter", "Completer"),
  ("runpy", "ModuleType=module _Error _ModifiedArgv0 _TempModule __loader__=FrozenImporter"),
  ("sched", "Event count scheduler"),
  ("secrets", "SystemRandom"),
  ("select", "epoll error=OSError"),
  ("selectors", "ABCMeta@abc BaseSelector DefaultSelector=EpollSelector EpollSelector"),
  ("selectors", "Mapping@collections.abc PollSelector SelectSelector SelectorKey"),
  ("selectors", "_BaseSelectorImpl _PollLikeSelector _SelectorMapping"),
  ("shelve", "BsdDbShelf BytesIO DbfilenameShelf Pickler Shelf Unpickler _ClosedDict"),
  ("shlex", "StringIO deque shlex"),
  ("shutil", "Error ExecError ReadError RegistryError SameFileError SpecialFileError"),
  ("shutil", "_GiveupOnFastCopy _ntuple_diskusage=usage"),
  ("signal", "Handlers ItimerError=itimer_error Sigmasks Signals _IntEnum=IntEnum"),
  ("signal", "struct_siginfo"),
  ("site", "__loader__=FrozenImporter"),
  ("smtpd", "DebuggingServer Devnull Options PureProxy SMTPChannel SMTPServer"),
  ("smtplib", "LMTP SMTP SMTPAuthenticationError SMTPConnectError SMTPDataError SMTPException"),
  ("smtplib", "SMTPHeloError SMTPNotSupportedError SMTPRecipientsRefused"),
  ("smtplib", "SMTPResponseException SMTPSenderRefused SMTPServerDisconnected SMTP_SSL"),
  ("sndhdr", "SndHeaders"),
  ("socket", "AddressFamily AddressInfo IntEnum IntFlag MsgFlag SocketIO SocketKind"),
  ("socket", "SocketType=socket _GiveupOnSendfile error=OSError gaierror herror socket"),
  ("socket", "timeout=TimeoutError"),
  ("socketserver", "BaseRequestHandler BaseServer BufferedIOBase DatagramRequestHandler"),
  ("socketserver", "ForkingMixIn ForkingTCPServer ForkingUDPServer StreamRequestHandler"),
  ("socketserver", "TCPServer ThreadingMixIn ThreadingTCPServer ThreadingUDPServer"),
  ("socketserver", "ThreadingUnixDatagramServer ThreadingUnixStreamServer UDPServer"),
  ("socketserver", "UnixDatagramServer UnixStreamServer _NoThreads"),
  ("socketserver", "_ServerSelector=PollSelector _SocketWriter _Threads"),
  ("spwd", "struct_spwd"),
  ("sqlite3", "Binary=memoryview Blob Connection Cursor DataError DatabaseError Date=date"),
  ("sqlite3", "Error IntegrityError InterfaceError InternalError NotSupportedError"),
  ("sqlite3", "OperationalError PrepareProtocol ProgrammingError Row Time=time"),
  ("sqlite3", "Timestamp=datetime Warning"),
  ("sqlite3.dbapi2", "Binary=memoryview Blob Connection Cursor DataError DatabaseError"),
  ("sqlite3.dbapi2", "Date=date Error IntegrityError InterfaceError InternalError"),
  ("sqlite3.dbapi2", "NotSupportedError OperationalError PrepareProtocol ProgrammingError Row"),
  ("sqlite3.dbapi2", "Time=time Timestamp=datetime Warning"),
  ("sqlite3.dump", ""),
  ("sre_compile", "error"),
  ("sre_constants", "_NamedIntConstant error"),
  ("sre_parse", "State SubPattern Tokenizer error"),
  ("ssl", "AlertDescription CertificateError=SSLCertVerificationError DefaultVerifyPaths"),
  ("ssl", "MemoryBIO Options Purpose SSLCertVerificationError SSLContext SSLEOFError SSLError"),
  ("ssl", "SSLErrorNumber SSLObject SSLSession SSLSocket SSLSyscallError SSLWantReadError"),
  ("ssl", "SSLWantWriteError SSLZeroReturnError TLSVersion VerifyFlags VerifyMode _ASN1Object"),
  ("ssl", "_Enum=Enum _IntEnum=IntEnum _IntFlag=IntFlag _SSLContext _SSLMethod _TLSAlertType"),
  ("ssl", "_TLSContentType _TLSMessageType socket socket_error=OSError"),
  ("stat", "__loader__=FrozenImporter"),
  ("statistics", "Counter Decimal Fraction LinearRegression NormalDist StatisticsError"),
  ("statistics", "defaultdict groupby repeat"),
  ("string", "Formatter Template _ChainMap=ChainMap"),
  ("stringprep", ""),
  ("struct", "Struct error"),
  ("subflow", "AnalysisResult@subflow.engine.result CacheEntry@subflow.engine.cache"),
  ("subflow", "ConfigLoader@subflow.engine.config"),
  ("subflow", "CyclicDependencyError@subflow.engine.exceptions"),
  ("subflow", "DependencyFn@subflow.engine.dependency DependencyGraph@subflow.engine.graph"),
  ("subflow", "Environment@subflow.engine.environment"),
  ("subflow", "EnvironmentProxy@subflow.engine.resolver.proxies Ref@subflow.engine.terms"),
  ("subflow", "ResolutionCache@subflow.engine.cache ResolutionError@subflow.engine.exceptions"),
  ("subflow", "ResolverConfig@subflow.engine.config"),
  ("subflow", "SubstitutionError@subflow.engine.exceptions"),
  ("subflow", "SubstitutionResolver@subflow.engine.resolver.resolver"),
  ("subflow", "TransformRule@subflow.engine.resolver.rules"),
  ("subflow", "UnresolvedReferenceError@subflow.engine.exceptions"),
  ("subflow.engine", "AnalysisResult@subflow.engine.result"),
  ("subflow.engine", "AnalysisStatus@subflow.engine.result CacheEntry@subflow.engine.cache"),
  ("subflow.engine", "ConfigLoader@subflow.engine.config"),
  ("subflow.engine", "CyclicDependencyError@subflow.engine.exceptions"),
  ("subflow.engine", "DependencyFn@subflow.engine.dependency"),
  ("subflow.engine", "DependencyGraph@subflow.engine.graph"),
  ("subflow.engine", "Environment@subflow.engine.environment"),
  ("subflow.engine", "EnvironmentProxy@subflow.engine.resolver.proxies"),
  ("subflow.engine", "Ref@subflow.engine.terms ResolutionCache@subflow.engine.cache"),
  ("subflow.engine", "ResolutionError@subflow.engine.exceptions"),
  ("subflow.engine", "ResolverConfig@subflow.engine.config"),
  ("subflow.engine", "SubstitutionError@subflow.engine.exceptions"),
  ("subflow.engine", "SubstitutionResolver@subflow.engine.resolver.resolver"),
  ("subflow.engine", "TransformRule@subflow.engine.resolver.rules"),
  ("subflow.engine", "UnresolvedReferenceError@subflow.engine.exceptions"),
  ("subflow.engine.cache", "Any@typing CacheEntry Callable@collections.abc"),
  ("subflow.engine.cache", "CyclicDependencyError@subflow.engine.exceptions"),
  ("subflow.engine.cache", "Environment@subflow.engine.environment Hashable@collections.abc"),
  ("subflow.engine.cache", "ResolutionCache"),
  ("subflow.engine.config", "Any@typing BaseModel@pydantic.main ConfigDict@pydantic.config"),
  ("subflow.engine.config", "ConfigLoader Path@pathlib ResolverConfig"),
  ("subflow.engine.context_vars", "ContextVar@_contextvars Iterator@collections.abc"),
  ("subflow.engine.context_vars", "ResolutionCache@subflow.engine.cache"),
  ("subflow.engine.dependency", "Any@typing Callable@collections.abc DependencyFn"),
  ("subflow.engine.dependency", "Iterable@collections.abc Mapping@collections.abc"),
  ("subflow.engine.dependency", "Ref@subflow.engine.terms"),
  ("subflow.engine.environment", "Any@typing Environment Hashable@collections.abc"),
  ("subflow.engine.environment", "Iterator@collections.abc Mapping@collections.abc _Identity"),
  ("subflow.engine.exceptions", "CyclicDependencyError Iterable@collections.abc"),
  ("subflow.engine.exceptions", "Mapping@collections.abc ResolutionError SubstitutionError"),
  ("subflow.engine.exceptions", "UnresolvedReferenceError"),
  ("subflow.engine.graph", "AnalysisResult@subflow.engine.result Any@typing"),
  ("subflow.engine.graph", "DependencyFn@subflow.engine.dependency DependencyGraph"),
  ("subflow.engine.graph", "Mapping@collections.abc"),
  ("subflow.engine.graph", "TermClassifier@subflow.engine.resolver.classifier"),
  ("subflow.engine.graph", "deque@collections"),
  ("subflow.engine.resolver", "ApplicationRule@subflow.engine.resolver.substitution_rules"),
  ("subflow.engine.resolver", "CallableRule@subflow.engine.resolver.substitution_rules"),
  ("subflow.engine.resolver", "CollectionRule@subflow.engine.resolver.substitution_rules"),
  ("subflow.engine.resolver", "EnvironmentProxy@subflow.engine.resolver.proxies"),
  ("subflow.engine.resolver", "FixpointRule@subflow.engine.resolver.substitution_rules"),
  ("subflow.engine.resolver", "LookupRule@subflow.engine.resolver.substitution_rules"),
  ("subflow.engine.resolver", "NestedDefaultsRule@subflow.engine.resolver.substitution_rules"),
  ("subflow.engine.resolver", "PassThroughRule@subflow.engine.resolver.substitution_rules"),
  ("subflow.engine.resolver", "RemovalRule@subflow.engine.resolver.substitution_rules"),
  ("subflow.engine.resolver", "RuleContext@subflow.engine.resolver.rules"),
  ("subflow.engine.resolver", "RuleType@subflow.engine.resolver.rules"),
  ("subflow.engine.resolver", "SubstitutionResolver@subflow.engine.resolver.resolver"),
  ("subflow.engine.resolver", "TermClassifier@subflow.engine.resolver.classifier"),
  ("subflow.engine.resolver", "TermKind@subflow.engine.resolver.classifier"),
  ("subflow.engine.resolver", "TransformRule@subflow.engine.resolver.rules"),
  ("subflow.engine.resolver.classifier", "Any@typing DependencyFn@subflow.engine.dependency"),
  ("subflow.engine.resolver.classifier", "Enum@enum Iterable@collections.abc"),
  ("subflow.engine.resolver.classifier", "Ref@subflow.engine.terms TermClassifier TermKind"),
  ("subflow.engine.resolver.proxies", "Any@typing EnvironmentProxy Iterator@collections.abc"),
  ("subflow.engine.resolver.proxies", "Mapping@collections.abc"),
  ("subflow.engine.resolver.resolver", "Any@typing"),
  ("subflow.engine.resolver.resolver", "CyclicDependencyError@subflow.engine.exceptions"),
  ("subflow.engine.resolver.resolver", "DependencyFn@subflow.engine.dependency"),
  ("subflow.engine.resolver.resolver", "Environment@subflow.engine.environment"),
  ("subflow.engine.resolver.resolver", "Iterable@collections.abc Mapping@collections.abc"),
  ("subflow.engine.resolver.resolver", "ResolutionCache@subflow.engine.cache"),
  ("subflow.engine.resolver.resolver", "ResolutionError@subflow.engine.exceptions"),
  ("subflow.engine.resolver.resolver", "ResolverConfig@subflow.engine.config"),
  ("subflow.engine.resolver.resolver", "RuleContext@subflow.engine.resolver.rules"),
  ("subflow.engine.resolver.resolver", "SubstitutionResolver"),
  ("subflow.engine.resolver.resolver", "TermClassifier@subflow.engine.resolver.classifier"),
  ("subflow.engine.resolver.resolver", "TransformRule@subflow.engine.resolver.rules"),
  ("subflow.engine.resolver.resolver", "UnresolvedReferenceError@subflow.engine.exceptions"),
  ("subflow.engine.resolver.rules", "ABC@abc Any@typing Enum@enum RuleContext RuleType"),
  ("subflow.engine.resolver.rules", "TransformRule"),
  ("subflow.engine.resolver.substitution_rules", "Any@typing ApplicationRule CallableRule"),
  ("subflow.engine.resolver.substitution_rules", "CollectionRule"),
  ("subflow.engine.resolver.substitution_rules", "EnvironmentProxy@subflow.engine.resolver.proxies"),
  ("subflow.engine.resolver.substitution_rules", "FixpointRule LookupRule NestedDefaultsRule"),
  ("subflow.engine.resolver.substitution_rules", "PassThroughRule RemovalRule"),
  ("subflow.engine.resolver.substitution_rules", "ResolutionError@subflow.engine.exceptions"),
  ("subflow.engine.resolver.substitution_rules", "RuleContext@subflow.engine.resolver.rules"),
  ("subflow.engine.resolver.substitution_rules", "RuleType@subflow.engine.resolver.rules"),
  ("subflow.engine.resolver.substitution_rules", "TermKind@subflow.engine.resolver.classifier"),
  ("subflow.engine.resolver.substitution_rules", "TransformRule@subflow.engine.resolver.rules"),
  ("subflow.engine.result", "AnalysisResult AnalysisStatus Any@typing Enum@enum"),
  ("subflow.engine.result", "Generic@typing TypeVar@typing"),
  ("subflow.engine.template", "Any@typing Mapping@collections.abc"),
  ("subflow.engine.terms", "Any@typing Ref _RemoveType"),
  ("subflow.formatting", "Any@typing DependencyFn@subflow.engine.dependency"),
  ("subflow.formatting", "DependencyGraph@subflow.engine.graph Iterable@collections.abc"),
  ("subflow.formatting", "Mapping@collections.abc"),
  ("subflow.logging_config", ""),
  ("subprocess", "CalledProcessError CompletedProcess Popen SubprocessError TimeoutExpired"),
  ("subprocess", "_PopenSelector=PollSelector"),
  ("sunau", "Au_read Au_write Error _sunau_params"),
  ("symtable", "Class Function Symbol SymbolTable SymbolTableFactory"),
  ("sys", "__loader__=BuiltinImporter"),
  ("sysconfig", ""),
  ("syslog", "")]

end ScopedTemplate.ValueType.Library
