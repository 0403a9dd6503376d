/-!
# Modules from `d` to `h`

Each row is a module and types that it shows; see `ValueType.Registry` for how a type is written.
-/

namespace ScopedTemplate.ValueType.Library

def dToH : List (String × String) := [
  ("data", "Frame Point Rows Text"),
  ("dataclasses", "Field FrozenInstanceError FunctionType=function@builtins GenericAlias"),
  ("dataclasses", "InitVar _DataclassParams _FIELD_BASE _HAS_DEFAULT_FACTORY_CLASS"),
  ("dataclasses", "_KW_ONLY_TYPE _MISSING_TYPE"),
  ("datetime", "date datetime time timedelta timezone tzinfo"),
  ("dbm", ""),
  ("dbm.dumb", "_Database error=OSError"),
  ("dbm.gnu", "error"),
  ("dbm.ndbm", "error"),
  ("decimal", "Clamped Context ConversionSyntax Decimal DecimalException DecimalTuple"),
  ("decimal", "DivisionByZero DivisionImpossible DivisionUndefined FloatOperation Inexact"),
  ("decimal", "InvalidContext InvalidOperation Overflow Rounded Subnormal Underflow"),
  ("difflib", "Differ GenericAlias HtmlDiff Match SequenceMatcher"),
  ("dis", "Bytecode Instruction Positions _ExceptionTableEntry _Instruction _Unknown"),
  ("distutils", ""),
  ("distutils._collections", "Any@typing DictStack Mapping@collections.abc RangeMap"),
  ("distutils._functools", ""),
  ("distutils._itertools", ""),
  ("distutils._log", ""),
  ("distutils._macos_compat", ""),
  ("distutils._modified", "DistutilsFileError"),
  ("distutils._msvccompiler", "CCompiler CompileError DistutilsExecError"),
  ("distutils._msvccompiler", "DistutilsPlatformError LibError LinkError MSVCCompiler count"),
  ("distutils._vendor", ""),
  ("distutils._vendor.packaging", ""),
  ("distutils._vendor.packaging._elffile", "EIClass EIData ELFFile ELFInvalid EMachine"),
  ("distutils._vendor.packaging._elffile", "IO@typing"),
  ("distutils._vendor.packaging._manylinux", "EIClass EIData ELFFile EMachine _GLibCVersion"),
  ("distutils._vendor.packaging._musllinux", "ELFFile _MuslVersion"),
  ("distutils._vendor.packaging._parser", "Any@typing MarkerAtom=Any@typing Node Op"),
  ("distutils._vendor.packaging._parser", "ParsedRequirement Tokenizer Value Variable"),
  ("distutils._vendor.packaging._structures", "InfinityType NegativeInfinityType"),
  ("distutils._vendor.packaging._tokenizer", "ParserSyntaxError Specifier Token Tokenizer"),
  ("distutils._vendor.packaging.markers", "Any@typing InvalidMarker InvalidSpecifier Marker"),
  ("distutils._vendor.packaging.markers", "MarkerAtom=Any@typing Op ParserSyntaxError"),
  ("distutils._vendor.packaging.markers", "Specifier UndefinedComparison"),
  ("distutils._vendor.packaging.markers", "UndefinedEnvironmentName Value Variable"),
  ("distutils._vendor.packaging.metadata", "Any@typing ExceptionGroup Generic@typing"),
  ("distutils._vendor.packaging.metadata", "InvalidMetadata Metadata RawMetadata _Validator"),
  ("distutils._vendor.packaging.requirements", "Any@typing InvalidRequirement Marker"),
  ("distutils._vendor.packaging.requirements", "ParserSyntaxError Requirement SpecifierSet"),
  ("distutils._vendor.packaging.specifiers", "BaseSpecifier InvalidSpecifier Specifier"),
  ("distutils._vendor.packaging.specifiers", "SpecifierSet TypeVar@typing Version"),
  ("distutils._vendor.packaging.tags", "Tag"),
  ("distutils._vendor.packaging.utils", "InvalidName InvalidSdistFilename InvalidVersion"),
  ("distutils._vendor.packaging.utils", "InvalidWheelFilename NewType@typing Tag Version"),
  ("distutils._vendor.packaging.version", "Any@typing InfinityType InvalidVersion"),
  ("distutils._vendor.packaging.version", "NegativeInfinityType SupportsInt@typing Version"),
  ("distutils._vendor.packaging.version", "_BaseVersion _Version"),
  ("distutils.archive_util", "DistutilsExecError"),
  ("distutils.bcppcompiler", "BCPPCompiler CCompiler CompileError DistutilsExecError LibError"),
  ("distutils.bcppcompiler", "LinkError UnknownFileError"),
  ("distutils.ccompiler", "CCompiler CompileError DistutilsModuleError DistutilsPlatformError"),
  ("distutils.ccompiler", "LinkError UnknownFileError"),
  ("distutils.cmd", "Command Distribution DistutilsOptionError"),
  ("distutils.command", ""),
  ("distutils.command._framework_compat", ""),
  ("distutils.command.bdist", "Command DistutilsOptionError DistutilsPlatformError ListCompat"),
  ("distutils.command.bdist", "bdist"),
  ("distutils.command.bdist_dumb", "Command DistutilsPlatformError bdist_dumb"),
  ("distutils.command.bdist_rpm", "Command DistutilsExecError DistutilsFileError"),
  ("distutils.command.bdist_rpm", "DistutilsOptionError DistutilsPlatformError bdist_rpm"),
  ("distutils.command.build", "Command DistutilsOptionError build"),
  ("distutils.command.build_clib", "Command DistutilsSetupError build_clib"),
  ("distutils.command.build_ext", "CCompilerError Command CompileError DistutilsError"),
  ("distutils.command.build_ext", "DistutilsOptionError DistutilsPlatformError"),
  ("distutils.command.build_ext", "DistutilsSetupError Extension build_ext"),
  ("distutils.command.build_py", "Command DistutilsFileError DistutilsOptionError build_py"),
  ("distutils.command.build_scripts", "Command build_scripts"),
  ("distutils.command.check", "Command DistutilsSetupError check"),
  ("distutils.command.clean", "Command clean"),
  ("distutils.command.config", "Command DistutilsExecError Sequence@collections.abc config"),
  ("distutils.command.install", "Command DistutilsOptionError DistutilsPlatformError install"),
  ("distutils.command.install_data", "Command install_data"),
  ("distutils.command.install_egg_info", "Command install_egg_info"),
  ("distutils.command.install_headers", "Command install_headers"),
  ("distutils.command.install_lib", "Command DistutilsOptionError install_lib"),
  ("distutils.command.install_scripts", "Command install_scripts"),
  ("distutils.command.register", "PyPIRCCommand register"),
  ("distutils.command.sdist", "Command DistutilsOptionError DistutilsTemplateError FileList"),
  ("distutils.command.sdist", "TextFile filterfalse sdist"),
  ("distutils.command.upload", "DistutilsError DistutilsOptionError HTTPError PyPIRCCommand"),
  ("distutils.command.upload", "Request upload"),
  ("distutils.compat", ""),
  ("distutils.compat.py38", ""),
  ("distutils.compat.py39", "UnequalIterablesError"),
  ("distutils.config", "Command PyPIRCCommand RawConfigParser"),
  ("distutils.core", "CCompilerError Command Distribution DistutilsArgError DistutilsError"),
  ("distutils.core", "DistutilsSetupError Extension PyPIRCCommand"),
  ("distutils.cygwinccompiler", "CCompilerError CompileError CygwinCCompiler"),
  ("distutils.cygwinccompiler", "DistutilsExecError DistutilsPlatformError LooseVersion"),
  ("distutils.cygwinccompiler", "Mingw32CCompiler RangeMap UnixCCompiler"),
  ("distutils.debug", ""),
  ("distutils.dep_util", ""),
  ("distutils.dir_util", "DistutilsFileError DistutilsInternalError"),
  ("distutils.dist", "Distribution DistributionMetadata DistutilsArgError DistutilsClassError"),
  ("distutils.dist", "DistutilsModuleError DistutilsOptionError FancyGetopt"),
  ("distutils.dist", "Iterable@collections.abc"),
  ("distutils.errors", "CCompilerError CompileError DistutilsArgError"),
  ("distutils.errors", "DistutilsByteCompileError DistutilsClassError DistutilsError"),
  ("distutils.errors", "DistutilsExecError DistutilsFileError DistutilsGetoptError"),
  ("distutils.errors", "DistutilsInternalError DistutilsModuleError DistutilsOptionError"),
  ("distutils.errors", "DistutilsPlatformError DistutilsSetupError DistutilsTemplateError"),
  ("distutils.errors", "LibError LinkError PreprocessError UnknownFileError"),
  ("distutils.extension", "Extension"),
  ("distutils.fancy_getopt", "Any@typing DistutilsArgError DistutilsGetoptError FancyGetopt"),
  ("distutils.fancy_getopt", "OptionDummy"),
  ("distutils.file_util", "DistutilsFileError"),
  ("distutils.filelist", "DistutilsInternalError DistutilsTemplateError FileList _UniqueDirs"),
  ("distutils.log", "Log"),
  ("distutils.msvccompiler", "CCompiler CompileError DistutilsExecError"),
  ("distutils.msvccompiler", "DistutilsPlatformError LibError LinkError MSVCCompiler"),
  ("distutils.msvccompiler", "MacroExpander"),
  ("distutils.spawn", "DistutilsExecError"),
  ("distutils.sysconfig", "DistutilsPlatformError"),
  ("distutils.text_file", "TextFile"),
  ("distutils.unixccompiler", "CCompiler CompileError DistutilsExecError LibError LinkError"),
  ("distutils.unixccompiler", "UnixCCompiler"),
  ("distutils.util", "DistutilsByteCompileError DistutilsPlatformError"),
  ("distutils.version", "LooseVersion StrictVersion Version"),
  ("distutils.versionpredicate", "VersionPredicate"),
  ("distutils.zosccompiler", "CompileError DistutilsExecError UnixCCompiler zOSCCompiler"),
  ("doctest", "DebugRunner DocFileCase DocTest DocTestCase DocTestFailure DocTestFinder"),
  ("doctest", "DocTestParser DocTestRunner Example IncrementalNewlineDecoder OutputChecker"),
  ("doctest", "SkipDocTestCase StringIO TestResults UnexpectedException _DocTestSuite"),
  ("doctest", "_OutputRedirectingPdb _SpoofOut _TestClass"),
  ("email", ""),
  ("email._encoded_words", "_QByteMap"),
  ("email._header_value_parser", "AddrSpec Address AddressList AngleAddr Atom Attribute"),
  ("email._header_value_parser", "BareQuotedString CFWSList Comment ContentDisposition"),
  ("email._header_value_parser", "ContentTransferEncoding ContentType DisplayName Domain"),
  ("email._header_value_parser", "DomainLiteral DotAtom DotAtomText EWWhiteSpaceTerminal"),
  ("email._header_value_parser", "EncodedWord Group GroupList Header HeaderLabel"),
  ("email._header_value_parser", "InvalidMailbox InvalidMessageID InvalidParameter LocalPart"),
  ("email._header_value_parser", "MIMEVersion Mailbox MailboxList MessageID MimeParameters"),
  ("email._header_value_parser", "MsgID NameAddr NoFoldLiteral ObsLocalPart ObsRoute"),
  ("email._header_value_parser", "Parameter ParameterizedHeaderValue Phrase QuotedString"),
  ("email._header_value_parser", "Section Terminal Token TokenList UnstructuredTokenList"),
  ("email._header_value_parser", "Value ValueTerminal WhiteSpaceTerminal WhiteSpaceTokenList"),
  ("email._header_value_parser", "Word _InvalidEwError itemgetter"),
  ("email._parseaddr", "AddressList AddrlistClass"),
  ("email._policybase", "Compat32 Policy _PolicyBase"),
  ("email.base64mime", ""),
  ("email.charset", "Charset partial"),
  ("email.contentmanager", "ContentManager"),
  ("email.encoders", ""),
  ("email.errors", "BoundaryError CharsetError CloseBoundaryNotFoundDefect"),
  ("email.errors", "FirstHeaderLineIsContinuationDefect HeaderDefect"),
  ("email.errors", "HeaderMissingRequiredValue HeaderParseError HeaderWriteError"),
  ("email.errors", "InvalidBase64CharactersDefect InvalidBase64LengthDefect"),
  ("email.errors", "InvalidBase64PaddingDefect InvalidDateDefect InvalidHeaderDefect"),
  ("email.errors", "InvalidMultipartContentTransferEncodingDefect"),
  ("email.errors", "MalformedHeaderDefect=MissingHeaderBodySeparatorDefect MessageDefect"),
  ("email.errors", "MessageError MessageParseError MisplacedEnvelopeHeaderDefect"),
  ("email.errors", "MissingHeaderBodySeparatorDefect MultipartConversionError"),
  ("email.errors", "MultipartInvariantViolationDefect NoBoundaryInMultipartDefect"),
  ("email.errors", "NonASCIILocalPartDefect NonPrintableDefect ObsoleteHeaderDefect"),
  ("email.errors", "StartBoundaryNotFoundDefect UndecodableBytesDefect"),
  ("email.feedparser", "BufferedSubFile BytesFeedParser FeedParser StringIO deque"),
  ("email.generator", "BytesGenerator BytesIO DecodedGenerator Generator HeaderWriteError"),
  ("email.generator", "StringIO"),
  ("email.header", "Charset Header HeaderParseError _Accumulator _ValueFormatter"),
  ("email.headerregistry", "Address AddressHeader BaseHeader ContentDispositionHeader"),
  ("email.headerregistry", "ContentTransferEncodingHeader ContentTypeHeader DateHeader Group"),
  ("email.headerregistry", "HeaderRegistry MIMEVersionHeader MappingProxyType=mappingproxy"),
  ("email.headerregistry", "MessageIDHeader ParameterizedMIMEHeader SingleAddressHeader"),
  ("email.headerregistry", "UniqueAddressHeader UniqueDateHeader UniqueSingleAddressHeader"),
  ("email.headerregistry", "UniqueUnstructuredHeader UnstructuredHeader"),
  ("email.iterators", "StringIO"),
  ("email.message", "BytesIO Charset EmailMessage MIMEPart Message Policy StringIO"),
  ("email.mime", ""),
  ("email.mime.application", "MIMEApplication MIMENonMultipart"),
  ("email.mime.audio", "BytesIO MIMEAudio MIMENonMultipart"),
  ("email.mime.base", "MIMEBase"),
  ("email.mime.image", "MIMEImage MIMENonMultipart"),
  ("email.mime.message", "MIMEMessage MIMENonMultipart"),
  ("email.mime.multipart", "MIMEBase MIMEMultipart"),
  ("email.mime.nonmultipart", "MIMEBase MIMENonMultipart"),
  ("email.mime.text", "Charset MIMENonMultipart MIMEText"),
  ("email.parser", "BytesFeedParser BytesHeaderParser BytesParser FeedParser HeaderParser"),
  ("email.parser", "Parser StringIO TextIOWrapper"),
  ("email.policy", "Compat32 EmailMessage EmailPolicy HeaderRegistry Policy"),
  ("email.quoprimime", ""),
  ("email.utils", "Charset _AddressList=AddressList"),
  ("encodings", "CodecRegistryError"),
  ("encodings.aliases", ""),
  ("encodings.ascii", "Codec IncrementalDecoder IncrementalEncoder StreamConverter"),
  ("encodings.ascii", "StreamReader StreamWriter"),
  ("encodings.latin_1", "Codec IncrementalDecoder IncrementalEncoder StreamConverter"),
  ("encodings.latin_1", "StreamReader StreamWriter"),
  ("encodings.utf_8", "IncrementalDecoder IncrementalEncoder StreamReader StreamWriter"),
  ("enum", "DynamicClassAttribute Enum EnumCheck EnumMeta=EnumType EnumType Flag FlagBoundary"),
  ("enum", "IntEnum IntFlag MappingProxyType=mappingproxy ReprEnum StrEnum _EnumDict"),
  ("enum", "_proto_member auto member nonmember property verify"),
  ("errno", "__loader__=BuiltinImporter"),
  ("faulthandler", "__loader__=BuiltinImporter"),
  ("fcntl", ""),
  ("filecmp", "GenericAlias dircmp filterfalse"),
  ("fileinput", "FileInput GenericAlias"),
  ("fnmatch", ""),
  ("fractions", "Decimal Fraction"),
  ("ftplib", "Error FTP FTP_TLS _SSLSocket=SSLSocket error_perm error_proto error_reply"),
  ("ftplib", "error_temp"),
  ("functools", "GenericAlias RLock _CacheInfo=CacheInfo _HashedSeq _lru_cache_wrapper"),
  ("functools", "cached_property partial partialmethod singledispatchmethod"),
  ("gc", "__loader__=BuiltinImporter"),
  ("genericpath", "__loader__=FrozenImporter"),
  ("getopt", "GetoptError error=GetoptError"),
  ("getpass", "GetPassWarning"),
  ("gettext", "GNUTranslations NullTranslations"),
  ("glob", ""),
  ("graphlib", "CycleError GenericAlias TopologicalSorter _NodeInfo"),
  ("grp", "struct_group"),
  ("gzip", "BadGzipFile GzipFile _GzipReader _PaddedFile"),
  ("hashlib", "blake2b blake2s"),
  ("heapq", ""),
  ("hmac", "HMAC _functype=builtin_function_or_method@builtins"),
  ("html", ""),
  ("html.entities", ""),
  ("html.parser", "HTMLParser"),
  ("http", "HTTPMethod HTTPStatus IntEnum StrEnum"),
  ("http.client", "BadStatusLine CannotSendHeader CannotSendRequest HTTPConnection"),
  ("http.client", "HTTPException HTTPMessage HTTPResponse HTTPSConnection"),
  ("http.client", "ImproperConnectionState IncompleteRead InvalidURL LineTooLong NotConnected"),
  ("http.client", "RemoteDisconnected ResponseNotReady UnimplementedFileMode UnknownProtocol"),
  ("http.client", "UnknownTransferEncoding error=HTTPException"),
  ("http.cookiejar", "Absent Cookie CookieJar CookiePolicy DefaultCookiePolicy FileCookieJar"),
  ("http.cookiejar", "LWPCookieJar LoadError MozillaCookieJar"),
  ("http.cookies", "BaseCookie CookieError Morsel SimpleCookie"),
  ("http.server", "BaseHTTPRequestHandler CGIHTTPRequestHandler HTTPServer HTTPStatus"),
  ("http.server", "SimpleHTTPRequestHandler ThreadingHTTPServer")]

end ScopedTemplate.ValueType.Library
