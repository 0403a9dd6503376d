/-!
# Encodings

Bytes as the text that they encode.  Bytes that encode nothing are malformed pieces, and a handler
says what becomes of them.  Names of encodings are compared by their letters and digits in lower
case, with an underscore for whatever stands between.
-/

namespace ScopedTemplate

/-- How characters are written as bytes. -/
inductive Encoding where
  | utf8
  | ascii
  | latin1
  deriving DecidableEq, Repr

/-- Why bytes do not become text. -/
inductive EncodingFault where
  | unknownEncoding (name : String)
  | unknownHandler (name : String)
  /-- A handler that is unknown to an encoding found under another of its names. -/
  | unknownHandlerOf (encoding name : String)
  /-- A malformed piece: the bytes before it, its own, and what is wrong with it. -/
  | malformed (encoding : Encoding) (position : Nat) (bytes : List UInt8) (reason : String)
  deriving DecidableEq, Repr

namespace Encoding

def label : Encoding → String
  | .utf8 => "utf-8"
  | .ascii => "ascii"
  | .latin1 => "latin-1"

def usual : Encoding → List String
  | .utf8 => ["utf_8", "utf8"]
  | .ascii => ["ascii", "us_ascii"]
  | .latin1 => ["latin_1", "latin1", "iso_8859_1", "iso8859_1"]

def aliases : Encoding → List String
  | .utf8 => ["u8", "utf", "utf8_ucs2", "utf8_ucs4", "cp65001"]
  | .ascii =>
    ["us", "646", "ansi_x3.4_1968", "ansi_x3_4_1968", "ansi_x3.4_1986", "cp367", "csascii",
      "ibm367", "iso646_us", "iso_646.irv_1991", "iso_ir_6"]
  | .latin1 =>
    ["latin", "l1", "8859", "iso8859", "cp819", "csisolatin1", "ibm819", "iso_8859_1_1987",
      "iso_ir_100"]

/-- A name with one underscore for every gap between its letters, digits and points. -/
def normalized (gap : Bool) : List Char → List Char
  | [] => []
  | c :: rest =>
    if c.isAlphanum || c = '.' then
      if gap then '_' :: c.toLower :: normalized false rest else c.toLower :: normalized false rest
    else normalized true rest

def letters (name : String) : String :=
  String.ofList (normalized false (name.toList.dropWhile fun c => !(c.isAlphanum || c = '.')))

def all : List Encoding := [.utf8, .ascii, .latin1]

def named? (name : String) : Option Encoding :=
  all.find? fun encoding => (encoding.usual ++ encoding.aliases).contains (letters name)

def told (encoding : Encoding) (name : String) : EncodingFault → EncodingFault
  | .unknownHandler handler =>
    if encoding.usual.contains (letters name) then .unknownHandler handler
    else .unknownHandlerOf name handler
  | fault => fault

/-- A character, or bytes that encode none. -/
inductive Piece where
  | char (c : Char)
  | malformed (reason : String)

def tailsAfter? (first : Nat) : Option (Nat × Nat × Nat) :=
  if first < 0x80 then some (0, 0x80, 0xBF)
  else if first < 0xC2 then none
  else if first < 0xE0 then some (1, 0x80, 0xBF)
  else if first = 0xE0 then some (2, 0xA0, 0xBF)
  else if first = 0xED then some (2, 0x80, 0x9F)
  else if first < 0xF0 then some (2, 0x80, 0xBF)
  else if first = 0xF0 then some (3, 0x90, 0xBF)
  else if first < 0xF4 then some (3, 0x80, 0xBF)
  else if first = 0xF4 then some (3, 0x80, 0x8F)
  else none

/-- How many bytes in front are tails, if the first of them is within bounds. -/
def countTails (low high : Nat) : List UInt8 → Nat
  | [] => 0
  | byte :: rest =>
    if low ≤ byte.toNat ∧ byte.toNat ≤ high then 1 + countTails 0x80 0xBF rest else 0

def joined (first : Nat) (tails : List UInt8) : Char :=
  let mark := match tails.length with
    | 0 => 0
    | 1 => 0xC0
    | 2 => 0xE0
    | _ => 0xF0
  Char.ofNat (tails.foldl (fun total tail => total * 64 + (tail.toNat - 0x80)) (first - mark))

def utf8Piece (first : UInt8) (rest : List UInt8) : Piece × Nat :=
  match tailsAfter? first.toNat with
  | none => (.malformed "invalid start byte", 0)
  | some (count, low, high) =>
    let good := countTails low high (rest.take count)
    if good = count then (.char (joined first.toNat (rest.take count)), count)
    else if good = rest.length then (.malformed "unexpected end of data", good)
    else (.malformed "invalid continuation byte", good)

def piece (encoding : Encoding) (first : UInt8) (rest : List UInt8) : Piece × Nat :=
  match encoding with
  | .utf8 => utf8Piece first rest
  | .ascii =>
    if first.toNat < 0x80 then (.char (Char.ofNat first.toNat), 0)
    else (.malformed "ordinal not in range(128)", 0)
  | .latin1 => (.char (Char.ofNat first.toNat), 0)

def escaped (byte : UInt8) : List Char :=
  '\\' :: 'x' :: [byte.toNat / 16, byte.toNat % 16].map Nat.digitChar

/-- What a handler puts in the place of bytes; a strict one refuses them. -/
def handled (handler : String) (fault : EncodingFault) (bytes : List UInt8) :
    Except EncodingFault (List Char) :=
  match handler with
  | "strict" => .error fault
  | "ignore" => .ok []
  | "replace" => .ok ['\ufffd']
  | "backslashreplace" => .ok (bytes.flatMap escaped)
  | name => .error (.unknownHandler name)

def decodeFrom (encoding : Encoding) (handler : String) (position : Nat) :
    List UInt8 → Except EncodingFault (List Char)
  | [] => .ok []
  | first :: rest => do
    let (piece, count) := encoding.piece first rest
    let chars ← match piece with
      | .char c => .ok [c]
      | .malformed reason =>
        let bytes := first :: rest.take count
        handled handler (.malformed encoding position bytes reason) bytes
    return chars ++ (← decodeFrom encoding handler (position + count + 1) (rest.drop count))
termination_by bytes => bytes.length
decreasing_by simp only [List.length_cons, List.length_drop]; omega

def decode (name handler : String) (bytes : List UInt8) : Except EncodingFault String :=
  match named? name with
  | none => .error (.unknownEncoding name)
  | some encoding =>
    ((decodeFrom encoding handler 0 bytes).map String.ofList).mapError (told encoding name)

end Encoding

namespace EncodingFault

def name : EncodingFault → String
  | .unknownEncoding _ | .unknownHandler _ | .unknownHandlerOf .. => "LookupError"
  | .malformed .. => "UnicodeDecodeError"

def place (position : Nat) : List UInt8 → String
  | [byte] =>
    "byte 0" ++ String.ofList ((Encoding.escaped byte).drop 1) ++ " in position " ++
      toString position
  | bytes =>
    "bytes in position " ++ toString position ++ "-" ++ toString (position + bytes.length - 1)

def handlerMessage (name : String) : String := "unknown error handler name '" ++ name ++ "'"

def message : EncodingFault → String
  | .unknownEncoding name => "unknown encoding: " ++ name
  | .unknownHandler name => handlerMessage name
  | .unknownHandlerOf encoding name =>
    "decoding with '" ++ encoding ++ "' codec failed (LookupError: " ++ handlerMessage name ++ ")"
  | .malformed encoding position bytes reason =>
    "'" ++ encoding.label ++ "' codec can't decode " ++ place position bytes ++ ": " ++ reason

end EncodingFault

end ScopedTemplate
