/-!
# Modules from `i` to `o`

Each row is a module and types that it shows; see `ValueType.Registry` for how a type is written.
-/

namespace ScopedTemplate.ValueType.Library

def iToO : List (String × String) := [
  ("imaplib", "IMAP4 IMAP4_SSL IMAP4_stream _Authenticator datetime timedelta timezone"),
  ("imghdr", "PathLike"),
  ("imp", "NullImporter SourcelessFileLoader _HackedGetData _LoadCompiledCompatibility"),
  ("imp", "_LoadSourceCompatibility"),
  ("importlib", ""),
  ("importlib._abc", "Loader"),
  ("importlib._bootstrap", "BuiltinImporter FrozenImporter ModuleSpec _DeadlockError"),
  ("importlib._bootstrap", "_DummyModuleLock _ImportLockContext _ModuleLock"),
  ("importlib._bootstrap", "_ModuleLockManager __loader__=FrozenImporter"),
  ("importlib._bootstrap_external", "ExtensionFileLoader FileFinder FileLoader"),
  ("importlib._bootstrap_external", "NamespaceLoader PathFinder SourceFileLoader SourceLoader"),
  ("importlib._bootstrap_external", "SourcelessFileLoader WindowsRegistryFinder _LoaderBasics"),
  ("importlib._bootstrap_external", "_NamespaceLoader=NamespaceLoader _NamespacePath"),
  ("importlib._bootstrap_external", "__loader__=FrozenImporter _code_type=code"),
  ("importlib.abc", "ExecutionLoader FileLoader Finder InspectLoader Loader MetaPathFinder"),
  ("importlib.abc", "PathEntryFinder ResourceLoader ResourceReader SourceLoader Traversable"),
  ("importlib.abc", "TraversableResources"),
  ("importlib.machinery", "BuiltinImporter ExtensionFileLoader FileFinder FrozenImporter"),
  ("importlib.machinery", "ModuleSpec NamespaceLoader PathFinder SourceFileLoader"),
  ("importlib.machinery", "SourcelessFileLoader WindowsRegistryFinder"),
  ("importlib.machinery", "__loader__=FrozenImporter"),
  ("importlib.metadata", "Deprecated DeprecatedList DeprecatedTuple Distribution"),
  ("importlib.metadata", "DistributionFinder EntryPoint EntryPoints FastPath FileHash"),
  ("importlib.metadata", "FreezableDefaultDict Lookup MetaPathFinder MetadataPathFinder"),
  ("importlib.metadata", "PackageMetadata PackageNotFoundError PackagePath Pair"),
  ("importlib.metadata", "PathDistribution Prepared Sectioned SelectableGroups SimplePath"),
  ("importlib.metadata", "starmap suppress"),
  ("importlib.metadata._adapters", "FoldedCase Message"),
  ("importlib.metadata._collections", "FreezableDefaultDict Pair"),
  ("importlib.metadata._functools", ""),
  ("importlib.metadata._itertools", "filterfalse"),
  ("importlib.metadata._meta", "Any@typing PackageMetadata Protocol@typing SimplePath"),
  ("importlib.metadata._meta", "TypeVar@typing"),
  ("importlib.metadata._text", "FoldedCase"),
  ("importlib.readers", "FileReader MultiplexedPath NamespaceReader ZipReader"),
  ("importlib.resources", "Resource=str@builtins ResourceReader"),
  ("importlib.resources._adapters", "CompatibilityFiles SpecLoaderAdapter TextIOWrapper"),
  ("importlib.resources._adapters", "TraversableResourcesLoader suppress"),
  ("importlib.resources._common", "ResourceReader Traversable"),
  ("importlib.resources._itertools", "TypeVar@typing filterfalse"),
  ("importlib.resources._legacy", "Any@typing BinaryIO@typing Resource=str@builtins"),
  ("importlib.resources._legacy", "TextIO@typing"),
  ("importlib.resources.abc", "Any@typing BinaryIO@typing Protocol@typing ResourceReader"),
  ("importlib.resources.abc", "Text=str@builtins Traversable TraversableResources"),
  ("importlib.resources.readers", "FileReader MultiplexedPath NamespaceReader ZipReader"),
  ("importlib.resources.simple", "BinaryIO@typing ResourceContainer ResourceHandle"),
  ("importlib.resources.simple", "SimpleReader Traversable TraversableReader"),
  ("importlib.resources.simple", "TraversableResources"),
  ("importlib.simple", "ResourceContainer ResourceHandle SimpleReader TraversableReader"),
  ("importlib.util", "LazyLoader Loader _LazyModule __loader__=FrozenImporter"),
  ("inspect", "ArgInfo Arguments Attribute BlockFinder BoundArguments ClassFoundException"),
  ("inspect", "ClosureVars EndOfBlock FrameInfo FullArgSpec OrderedDict Parameter Signature"),
  ("inspect", "Traceback _ClassFinder _FrameInfo _ParameterKind _Traceback _empty _void"),
  ("inspect", "attrgetter"),
  ("io", "BlockingIOError BufferedIOBase BufferedRWPair BufferedRandom BufferedReader"),
  ("io", "BufferedWriter BytesIO FileIO IOBase IncrementalNewlineDecoder RawIOBase StringIO"),
  ("io", "TextIOBase TextIOWrapper UnsupportedOperation __loader__=FrozenImporter"),
  ("ipaddress", "AddressValueError IPv4Address IPv4Interface IPv4Network IPv6Address"),
  ("ipaddress", "IPv6Interface IPv6Network NetmaskValueError _BaseAddress _BaseConstants"),
  ("ipaddress", "_BaseNetwork _BaseV4 _BaseV6 _IPAddressBase _IPv4Constants _IPv6Constants"),
  ("itertools", "__loader__=BuiltinImporter _grouper _tee _tee_dataobject accumulate chain"),
  ("itertools", "combinations combinations_with_replacement compress count cycle dropwhile"),
  ("itertools", "filterfalse groupby islice pairwise permutations product repeat starmap"),
  ("itertools", "takewhile zip_longest"),
  ("json", "JSONDecodeError JSONDecoder JSONEncoder"),
  ("json.decoder", "JSONDecodeError JSONDecoder"),
  ("json.encoder", "JSONEncoder c_make_encoder=Encoder"),
  ("json.scanner", "c_make_scanner=Scanner make_scanner=Scanner"),
  ("json.tool", "Path"),
  ("keyword", ""),
  ("linecache", ""),
  ("locale", "Error _builtin_str=str@builtins"),
  ("logging", "BufferingFormatter FileHandler Filter Filterer Formatter GenericAlias Handler"),
  ("logging", "LogRecord Logger LoggerAdapter Manager NullHandler PercentStyle PlaceHolder"),
  ("logging", "RootLogger StrFormatStyle StreamHandler StringTemplateStyle Template"),
  ("logging", "_StderrHandler _logRecordFactory=LogRecord _loggerClass=Logger"),
  ("logging.config", "BaseConfigurator ConvertingDict ConvertingList ConvertingMixin"),
  ("logging.config", "ConvertingTuple DictConfigurator StreamRequestHandler"),
  ("logging.config", "ThreadingTCPServer dictConfigClass=DictConfigurator"),
  ("logging.handlers", "BaseRotatingHandler BufferingHandler DatagramHandler HTTPHandler"),
  ("logging.handlers", "MemoryHandler NTEventLogHandler QueueHandler QueueListener"),
  ("logging.handlers", "RotatingFileHandler SMTPHandler SocketHandler SysLogHandler"),
  ("logging.handlers", "TimedRotatingFileHandler WatchedFileHandler"),
  ("lzma", "LZMACompressor LZMADecompressor LZMAError LZMAFile"),
  ("mailbox", "Babyl BabylMessage Error ExternalClashError FormatError GenericAlias MH"),
  ("mailbox", "MHMessage MMDF MMDFMessage Mailbox Maildir MaildirMessage Message"),
  ("mailbox", "NoSuchMailboxError NotEmptyError _PartialFile _ProxyFile _mboxMMDF"),
  ("mailbox", "_mboxMMDFMessage _singlefileMailbox mbox mboxMessage"),
  ("mailcap", "UnsafeMailcapInput"),
  ("marshal", "__loader__=BuiltinImporter"),
  ("math", ""),
  ("mimetypes", "MimeTypes"),
  ("mmap", "error=OSError mmap"),
  ("modulefinder", "Module ModuleFinder"),
  ("multiprocessing", "AuthenticationError BufferTooShort Process ProcessError TimeoutError"),
  ("multiprocessing.connection", "AuthenticationError BufferTooShort Connection"),
  ("multiprocessing.connection", "ConnectionWrapper Listener SocketListener XmlListener"),
  ("multiprocessing.connection", "_ConnectionBase _ForkingPickler=ForkingPickler"),
  ("multiprocessing.connection", "_WaitSelector=PollSelector"),
  ("multiprocessing.context", "AuthenticationError BaseContext BufferTooShort DefaultContext"),
  ("multiprocessing.context", "ForkContext ForkProcess ForkServerContext ForkServerProcess"),
  ("multiprocessing.context", "Process ProcessError SpawnContext SpawnProcess TimeoutError"),
  ("multiprocessing.dummy", "Barrier BoundedSemaphore Condition DummyProcess Event"),
  ("multiprocessing.dummy", "JoinableQueue=Queue Namespace Process=DummyProcess Queue"),
  ("multiprocessing.dummy", "Semaphore Value dict@builtins list@builtins"),
  ("multiprocessing.dummy.connection", "Connection Listener Queue"),
  ("multiprocessing.forkserver", "ForkServer"),
  ("multiprocessing.heap", "Arena BufferWrapper Heap defaultdict"),
  ("multiprocessing.managers", "AcquirerProxy ArrayProxy BarrierProxy BaseListProxy"),
  ("multiprocessing.managers", "BaseManager BasePoolProxy=PoolProxy BaseProxy ConditionProxy"),
  ("multiprocessing.managers", "DictProxy EventProxy IteratorProxy ListProxy Namespace"),
  ("multiprocessing.managers", "NamespaceProxy PoolProxy ProcessError ProcessLocalSet"),
  ("multiprocessing.managers", "RemoteError Server SharedMemoryManager SharedMemoryServer"),
  ("multiprocessing.managers", "State SyncManager Token Value ValueProxy _SharedMemoryTracker"),
  ("multiprocessing.pool", "ApplyResult AsyncResult=ApplyResult ExceptionWithTraceback"),
  ("multiprocessing.pool", "IMapIterator IMapUnorderedIterator MapResult MaybeEncodingError"),
  ("multiprocessing.pool", "Pool RemoteTraceback ThreadPool TimeoutError _PoolCache"),
  ("multiprocessing.popen_fork", "Popen"),
  ("multiprocessing.popen_forkserver", "Popen _DupFd"),
  ("multiprocessing.popen_spawn_posix", "Popen _DupFd"),
  ("multiprocessing.process", "AuthenticationString BaseProcess WeakSet _ParentProcess"),
  ("multiprocessing.queues", "Empty Finalize Full JoinableQueue Queue SimpleQueue"),
  ("multiprocessing.queues", "_ForkingPickler=ForkingPickler"),
  ("multiprocessing.reduction", "ABCMeta@abc AbstractReducer ForkingPickler _C"),
  ("multiprocessing.resource_sharer", "DupFd _ResourceSharer"),
  ("multiprocessing.resource_tracker", "ReentrantCallError ResourceTracker"),
  ("multiprocessing.shared_memory", "ShareableList SharedMemory partial"),
  ("multiprocessing.sharedctypes", "Synchronized SynchronizedArray SynchronizedBase"),
  ("multiprocessing.sharedctypes", "SynchronizedString _ForkingPickler=ForkingPickler"),
  ("multiprocessing.spawn", ""),
  ("multiprocessing.synchronize", "Barrier BoundedSemaphore Condition Event Lock RLock"),
  ("multiprocessing.synchronize", "SemLock Semaphore"),
  ("multiprocessing.util", "Finalize ForkAwareLocal ForkAwareThreadLock"),
  ("netrc", "NetrcParseError _netrclex netrc"),
  ("nntplib", "ArticleInfo GroupInfo NNTP NNTPDataError NNTPError NNTPPermanentError"),
  ("nntplib", "NNTPProtocolError NNTPReplyError NNTPTemporaryError NNTP_SSL"),
  ("ntpath", "__loader__=FrozenImporter"),
  ("nturl2path", ""),
  ("numbers", "ABCMeta@abc Complex Integral Number Rational Real"),
  ("opcode", ""),
  ("operator", "attrgetter itemgetter methodcaller"),
  ("optparse", "AmbiguousOptionError BadOptionError HelpFormatter IndentedHelpFormatter"),
  ("optparse", "OptParseError Option OptionConflictError OptionContainer OptionError"),
  ("optparse", "OptionGroup OptionParser OptionValueError TitledHelpFormatter Values"),
  ("optparse", "make_option=Option"),
  ("os", "DirEntry GenericAlias Mapping@collections.abc MutableMapping@collections.abc"),
  ("os", "PathLike _Environ __loader__=FrozenImporter _wrap_close error=OSError sched_param"),
  ("os", "stat_result statvfs_result terminal_size times_result uname_result waitid_result"),
  ("os.path", "__loader__=FrozenImporter"),
  ("ossaudiodev", "OSSAudioError error=OSSAudioError")]

end ScopedTemplate.ValueType.Library
