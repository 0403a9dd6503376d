/-!
# Modules from `t` to `z`

Each row is a module and types that it shows; see `ValueType.Registry` for how a type is written.
-/

namespace ScopedTemplate.ValueType.Library

def tToZ : List (String × String) := [
  ("tabnanny", "NannyNag Whitespace"),
  ("tarfile", "AbsoluteLinkError AbsolutePathError CompressionError EOFHeaderError"),
  ("tarfile", "EmptyHeaderError ExFileObject ExtractError FilterError HeaderError"),
  ("tarfile", "InvalidHeaderError LinkOutsideDestinationError OutsideDestinationError"),
  ("tarfile", "ReadError SpecialFileError StreamError SubsequentHeaderError TarError TarFile"),
  ("tarfile", "TarInfo TruncatedHeaderError _FileInFile _LowLevelFile _Stream _StreamProxy"),
  ("telnetlib", "Telnet _TelnetSelector=PollSelector"),
  ("tempfile", "SpooledTemporaryFile TemporaryDirectory _Random=Random _RandomNameSequence"),
  ("tempfile", "_TemporaryFileCloser _TemporaryFileWrapper"),
  ("termios", "error"),
  ("textwrap", "TextWrapper"),
  ("threading", "Barrier BoundedSemaphore BrokenBarrierError Condition Event"),
  ("threading", "ExceptHookArgs=_ExceptHookArgs Semaphore Thread ThreadError=RuntimeError"),
  ("threading", "Timer WeakSet _CRLock=RLock _DummyThread _MainThread _PyRLock=_RLock _RLock"),
  ("threading", "_count=count _deque=deque _islice=islice local=_local"),
  ("time", "__loader__=BuiltinImporter struct_time"),
  ("timeit", "Timer"),
  ("token", ""),
  ("tokenize", "StopTokenizing TextIOWrapper TokenError TokenInfo Untokenizer"),
  ("tomllib", "TOMLDecodeError"),
  ("tomllib._parser", "Any@typing BinaryIO@typing Flags Iterable@collections.abc"),
  ("tomllib._parser", "MappingProxyType=mappingproxy NestedDict Output Pos=int@builtins"),
  ("tomllib._parser", "TOMLDecodeError"),
  ("tomllib._re", "Any@typing date datetime time timedelta timezone tzinfo"),
  ("tomllib._types", "Any@typing Pos=int@builtins"),
  ("trace", "CoverageResults Trace _Ignore"),
  ("traceback", "FrameSummary StackSummary TracebackException _Anchors _ExceptionPrintContext"),
  ("traceback", "_Sentinel suppress"),
  ("tracemalloc", "BaseFilter DomainFilter Filter Frame Iterable@collections.abc"),
  ("tracemalloc", "Sequence@collections.abc Snapshot Statistic StatisticDiff Trace Traceback"),
  ("tracemalloc", "_Traces"),
  ("tty", "error"),
  ("types", "AsyncGeneratorType=async_generator"),
  ("types", "BuiltinFunctionType=builtin_function_or_method@builtins"),
  ("types", "BuiltinMethodType=builtin_function_or_method@builtins CellType=cell"),
  ("types", "ClassMethodDescriptorType=classmethod_descriptor CodeType=code"),
  ("types", "CoroutineType=coroutine DynamicClassAttribute EllipsisType=ellipsis"),
  ("types", "FrameType=frame FunctionType=function@builtins GeneratorType=generator"),
  ("types", "GenericAlias GetSetDescriptorType=getset_descriptor LambdaType=function@builtins"),
  ("types", "MappingProxyType=mappingproxy MemberDescriptorType=member_descriptor"),
  ("types", "MethodDescriptorType=method_descriptor MethodType=method@builtins"),
  ("types", "MethodWrapperType=method-wrapper ModuleType=module NoneType@builtins"),
  ("types", "NotImplementedType SimpleNamespace TracebackType=traceback UnionType"),
  ("types", "WrapperDescriptorType=wrapper_descriptor _GeneratorWrapper"),
  ("typing", "ABCMeta@abc Annotated Any BinaryIO ForwardRef Generic GenericAlias IO"),
  ("typing", "MethodDescriptorType=method_descriptor MethodWrapperType=method-wrapper"),
  ("typing", "NamedTupleMeta NewType ParamSpec ParamSpecArgs ParamSpecKwargs Protocol"),
  ("typing", "SupportsAbs SupportsBytes SupportsComplex SupportsFloat SupportsIndex"),
  ("typing", "SupportsInt SupportsRound Text=str@builtins TextIO TypeVar TypeVarTuple"),
  ("typing", "WrapperDescriptorType=wrapper_descriptor _AnnotatedAlias _AnyMeta"),
  ("typing", "_BaseGenericAlias _BoundVarianceMixin _CallableGenericAlias _CallableType"),
  ("typing", "_ConcatenateGenericAlias _DeprecatedType _Final _GenericAlias _Immutable"),
  ("typing", "_LiteralGenericAlias _LiteralSpecialForm _NamedTuple=NamedTuple _NotIterable"),
  ("typing", "_PickleUsingNameMixin _ProtocolMeta _SpecialForm _SpecialGenericAlias"),
  ("typing", "_TupleType _TypedDict=TypedDict _TypedDictMeta _TypingEllipsis"),
  ("typing", "_UnionGenericAlias _UnpackGenericAlias _alias=_SpecialGenericAlias defaultdict"),
  ("typing", "io=typing.io re=typing.re"),
  ("typing.io", "BinaryIO@typing IO@typing TextIO@typing"),
  ("unicodedata", "UCD"),
  ("unittest", "BaseTestSuite FunctionTestCase IsolatedAsyncioTestCase SkipTest TestCase"),
  ("unittest", "TestLoader TestProgram TestResult TestSuite TextTestResult TextTestRunner"),
  ("unittest", "_TextTestResult=TextTestResult main=TestProgram"),
  ("unittest._log", "_AssertLogsContext _BaseTestCaseContext _CapturingHandler"),
  ("unittest._log", "_LoggingWatcher"),
  ("unittest.async_case", "IsolatedAsyncioTestCase TestCase"),
  ("unittest.case", "FunctionTestCase SkipTest TestCase _AssertRaisesBaseContext"),
  ("unittest.case", "_AssertRaisesContext _AssertWarnsContext _BaseTestCaseContext"),
  ("unittest.case", "_OrderedChainMap _Outcome _ShouldStop _SubTest _UnexpectedSuccess"),
  ("unittest.loader", "TestLoader _FailedTest"),
  ("unittest.main", "TestProgram main=TestProgram"),
  ("unittest.mock", "AsyncMagicMixin AsyncMock AsyncMockMixin Base CallableMixin"),
  ("unittest.mock", "CodeType=code InvalidSpecError MagicMixin MagicMock MagicProxy"),
  ("unittest.mock", "MethodType=method@builtins Mock ModuleType=module NonCallableMagicMock"),
  ("unittest.mock", "NonCallableMock PropertyMock _ANY _AnyComparer _AsyncIterator _Call"),
  ("unittest.mock", "_CallList _MockIter _Sentinel _SentinelObject _SpecState _patch"),
  ("unittest.mock", "_patch_dict _safe_super=super partial"),
  ("unittest.result", "TestResult"),
  ("unittest.runner", "TextTestResult TextTestRunner _SubTest _WritelnDecorator"),
  ("unittest.signals", "_InterruptHandler"),
  ("unittest.suite", "BaseTestSuite TestSuite _DebugResult _ErrorHolder"),
  ("unittest.util", "Counter _Mismatch=Mismatch"),
  ("urllib", ""),
  ("urllib.error", "ContentTooShortError HTTPError URLError"),
  ("urllib.parse", "DefragResult DefragResultBytes ParseResult ParseResultBytes"),
  ("urllib.parse", "ResultBase=_NetlocResultMixinStr SplitResult SplitResultBytes"),
  ("urllib.parse", "_DefragResultBase=DefragResult _NetlocResultMixinBase"),
  ("urllib.parse", "_NetlocResultMixinBytes _NetlocResultMixinStr"),
  ("urllib.parse", "_ParseResultBase=ParseResult _Quoter _ResultMixinBytes _ResultMixinStr"),
  ("urllib.parse", "_SplitResultBase=SplitResult"),
  ("urllib.request", "AbstractBasicAuthHandler AbstractDigestAuthHandler AbstractHTTPHandler"),
  ("urllib.request", "BaseHandler CacheFTPHandler ContentTooShortError DataHandler FTPHandler"),
  ("urllib.request", "FancyURLopener FileHandler HTTPBasicAuthHandler HTTPCookieProcessor"),
  ("urllib.request", "HTTPDefaultErrorHandler HTTPDigestAuthHandler HTTPError"),
  ("urllib.request", "HTTPErrorProcessor HTTPHandler HTTPPasswordMgr"),
  ("urllib.request", "HTTPPasswordMgrWithDefaultRealm HTTPPasswordMgrWithPriorAuth"),
  ("urllib.request", "HTTPRedirectHandler HTTPSHandler OpenerDirector ProxyBasicAuthHandler"),
  ("urllib.request", "ProxyDigestAuthHandler ProxyHandler Request URLError URLopener"),
  ("urllib.request", "UnknownHandler addclosehook addinfourl ftpwrapper"),
  ("urllib.response", "addbase addclosehook addinfo addinfourl"),
  ("urllib.robotparser", "Entry RequestRate RobotFileParser RuleLine"),
  ("uu", "Error"),
  ("uuid", "Enum SafeUUID UUID bytes_=bytes@builtins int_=int@builtins"),
  ("venv", "EnvBuilder"),
  ("warnings", "WarningMessage _OptionError catch_warnings"),
  ("wave", "Error Wave_read Wave_write _Chunk _wave_params"),
  ("weakref", "CallableProxyType KeyedRef ProxyType ReferenceType WeakKeyDictionary"),
  ("weakref", "WeakMethod WeakSet WeakValueDictionary _IterationGuard finalize"),
  ("weakref", "ref=ReferenceType"),
  ("webbrowser", "BackgroundBrowser BaseBrowser Chrome Chromium=Chrome Elinks Error Galeon"),
  ("webbrowser", "GenericBrowser Grail Konqueror Mozilla Netscape Opera UnixBrowser"),
  ("wsgiref", ""),
  ("wsgiref.handlers", "BaseCGIHandler BaseHandler CGIHandler FileWrapper Headers"),
  ("wsgiref.handlers", "IISCGIHandler SimpleHandler"),
  ("wsgiref.headers", "Headers"),
  ("wsgiref.simple_server", "BaseHTTPRequestHandler HTTPServer ServerHandler SimpleHandler"),
  ("wsgiref.simple_server", "WSGIRequestHandler WSGIServer"),
  ("wsgiref.types", "Any@typing Callable@collections.abc ErrorStream FileWrapper InputStream"),
  ("wsgiref.types", "Iterable@collections.abc Iterator@collections.abc Protocol@typing"),
  ("wsgiref.types", "StartResponse TracebackType=traceback _Readable"),
  ("wsgiref.util", "FileWrapper"),
  ("wsgiref.validate", "ErrorWrapper InputWrapper IteratorWrapper PartialIteratorWrapper"),
  ("wsgiref.validate", "WSGIWarning WriteWrapper"),
  ("xdrlib", "BytesIO ConversionError Error Packer Unpacker"),
  ("xml", ""),
  ("xml.dom", "DOMException DomstringSizeErr HierarchyRequestErr IndexSizeErr"),
  ("xml.dom", "InuseAttributeErr InvalidAccessErr InvalidCharacterErr InvalidModificationErr"),
  ("xml.dom", "InvalidStateErr NamespaceErr NoDataAllowedErr NoModificationAllowedErr Node"),
  ("xml.dom", "NotFoundErr NotSupportedErr SyntaxErr UserDataHandler ValidationErr"),
  ("xml.dom", "WrongDocumentErr"),
  ("xml.dom.NodeFilter", "NodeFilter"),
  ("xml.dom.domreg", ""),
  ("xml.dom.expatbuilder", "ElementInfo ExpatBuilder ExpatBuilderNS FilterCrutch"),
  ("xml.dom.expatbuilder", "FilterVisibilityController FragmentBuilder FragmentBuilderNS"),
  ("xml.dom.expatbuilder", "InternalSubsetExtractor Namespaces Node NodeFilter ParseEscape"),
  ("xml.dom.expatbuilder", "Rejecter Skipper"),
  ("xml.dom.minicompat", "EmptyNodeList NodeList"),
  ("xml.dom.minidom", "Attr AttributeList=NamedNodeMap CDATASection CharacterData Childless"),
  ("xml.dom.minidom", "Comment DOMImplementation DOMImplementationLS Document"),
  ("xml.dom.minidom", "DocumentFragment DocumentLS DocumentType Element ElementInfo"),
  ("xml.dom.minidom", "EmptyNodeList Entity Identified NamedNodeMap Node NodeList Notation"),
  ("xml.dom.minidom", "ProcessingInstruction ReadOnlySequentialNamedNodeMap Text TypeInfo"),
  ("xml.dom.pulldom", "DOMEventStream ErrorHandler PullDOM SAX2DOM"),
  ("xml.dom.xmlbuilder", "DOMBuilder DOMBuilderFilter DOMEntityResolver DOMImplementationLS"),
  ("xml.dom.xmlbuilder", "DOMInputSource DocumentLS Options"),
  ("xml.etree", ""),
  ("xml.etree.ElementInclude", "FatalIncludeError LimitedRecursiveIncludeError"),
  ("xml.etree.ElementPath", "_SelectorContext"),
  ("xml.etree.ElementTree", "C14NWriterTarget Element ElementTree ParseError QName"),
  ("xml.etree.ElementTree", "TreeBuilder XMLParser XMLPullParser _Element_Py=Element"),
  ("xml.etree.ElementTree", "_ListDataStream"),
  ("xml.etree.cElementTree", "C14NWriterTarget Element ElementTree ParseError QName"),
  ("xml.etree.cElementTree", "TreeBuilder XMLParser XMLPullParser"),
  ("xml.parsers", ""),
  ("xml.parsers.expat", "ExpatError XMLParserType=xmlparser error=ExpatError"),
  ("xml.parsers.expat.errors", ""),
  ("xml.parsers.expat.model", ""),
  ("xml.sax", "ContentHandler ErrorHandler InputSource SAXException SAXNotRecognizedException"),
  ("xml.sax", "SAXNotSupportedException SAXParseException SAXReaderNotAvailable"),
  ("xml.sax._exceptions", "SAXException SAXNotRecognizedException SAXNotSupportedException"),
  ("xml.sax._exceptions", "SAXParseException SAXReaderNotAvailable"),
  ("xml.sax.expatreader", "AttributesImpl AttributesNSImpl ExpatLocator ExpatParser"),
  ("xml.sax.expatreader", "SAXException SAXNotRecognizedException SAXNotSupportedException"),
  ("xml.sax.expatreader", "SAXParseException SAXReaderNotAvailable _ClosedParser"),
  ("xml.sax.handler", "ContentHandler DTDHandler EntityResolver ErrorHandler LexicalHandler"),
  ("xml.sax.saxutils", "XMLFilterBase XMLGenerator"),
  ("xml.sax.xmlreader", "AttributesImpl AttributesNSImpl IncrementalParser InputSource"),
  ("xml.sax.xmlreader", "Locator SAXNotRecognizedException SAXNotSupportedException XMLReader"),
  ("xmlrpc", ""),
  ("xmlrpc.client", "Binary Boolean=bool@builtins BytesIO DateTime Decimal Error ExpatParser"),
  ("xmlrpc.client", "Fault GzipDecodedResponse Marshaller MultiCall MultiCallIterator"),
  ("xmlrpc.client", "ProtocolError ResponseError SafeTransport Server=ServerProxy ServerProxy"),
  ("xmlrpc.client", "Transport Unmarshaller _Method _MultiCallMethod boolean=bool@builtins"),
  ("xmlrpc.client", "datetime"),
  ("xmlrpc.server", "BaseHTTPRequestHandler CGIXMLRPCRequestHandler"),
  ("xmlrpc.server", "DocCGIXMLRPCRequestHandler DocXMLRPCRequestHandler DocXMLRPCServer Fault"),
  ("xmlrpc.server", "MultiPathXMLRPCServer ServerHTMLDoc SimpleXMLRPCDispatcher"),
  ("xmlrpc.server", "SimpleXMLRPCRequestHandler SimpleXMLRPCServer XMLRPCDocGenerator partial"),
  ("zipapp", "ZipAppError"),
  ("zipfile", "BadZipFile BadZipfile=BadZipFile CompleteDirs FastLookup LZMACompressor"),
  ("zipfile", "LZMADecompressor LargeZipFile Path PyZipFile ZipExtFile ZipFile ZipInfo"),
  ("zipfile", "_SharedFile _Tellable _ZipWriteFile error=BadZipFile"),
  ("zipimport", "ZipImportError __loader__=FrozenImporter _code_type=code _module_type=module"),
  ("zipimport", "zipimporter"),
  ("zlib", "error"),
  ("zoneinfo", "InvalidTZPathWarning ZoneInfo ZoneInfoNotFoundError"),
  ("zoneinfo._common", "ZoneInfoNotFoundError _TZifHeader"),
  ("zoneinfo._tzpath", "InvalidTZPathWarning"),
  ("zoneinfo._zoneinfo", "ZoneInfo _CalendarOffset _DayOffset _TZStr _ttinfo datetime"),
  ("zoneinfo._zoneinfo", "timedelta tzinfo")]

end ScopedTemplate.ValueType.Library
