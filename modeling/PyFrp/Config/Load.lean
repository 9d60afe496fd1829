import PyFrp.Config.Ini
import PyFrp.Python.Json

/-!
# Loading a configuration (`config.py`)

The suffix of the path chooses the parser. The parsers themselves are not looked
into.
-/

namespace PyFrp

open Python

/-- A path: its text, and its final component. -/
structure ConfigPath where
  text : String
  name : String
  deriving DecidableEq

/-- `path.suffix`: from the last dot of the name on, which neither begins nor ends there. -/
def ConfigPath.suffix (path : ConfigPath) : String :=
  let reversed := path.name.toList.reverse
  match reversed.takeWhile (· ≠ '.'), reversed.dropWhile (· ≠ '.') with
  | [], _ => ""
  | _, [] => ""
  | _, [_] => ""
  | extension, _ => String.ofList ('.' :: extension.reverse)

/-- Why a file cannot be opened. -/
inductive OpenError
  | os (text : String)
  /-- The path is no path at all: `open` raises `ValueError`. -/
  | value

/-- What a parser raises. -/
inductive ParseError
  /-- `JSONDecodeError`, `TOMLDecodeError` or `configparser.Error`. -/
  | malformed (text : String)
  /-- An integer of the document has too many digits. -/
  | value
  /-- The document is nested too deeply. -/
  | recursion

/-- What the loaders see of the world: the files, and what the libraries make of a text. -/
structure World where
  builtins : Builtins
  files : ConfigPath → Except OpenError Bytes
  json : List Char → Except ParseError Value
  toml : List Char → Except ParseError Fields
  ini : List Char → Except ParseError Ini

namespace Config

/-- The line ends of a file that is opened as text. -/
def universalNewlines : List Char → List Char
  | [] => []
  | '\r' :: '\n' :: cs => '\n' :: universalNewlines cs
  | '\r' :: cs => '\n' :: universalNewlines cs
  | c :: cs => c :: universalNewlines cs

def isIni (path : ConfigPath) : Bool := lower path.suffix ∈ [".ini", ".conf"]

def isJson (path : ConfigPath) : Bool := lower path.suffix = ".json"

/-- The exceptions that no handler names. -/
def unnamed : ParseError → LoadError
  | .malformed text => .configparser text
  | .value => .value
  | .recursion => .recursion

/-- The handlers of `_load_mapping_file`. -/
def invalidSyntax (path : ConfigPath) : ParseError → LoadError
  | .malformed text => .config ("invalid configuration syntax in " ++ path.text ++ ": " ++ text)
  | e => unnamed e

def loadMappingFile (w : World) (path : ConfigPath) : Load Fields :=
  match w.files path with
  | .error (.os text) =>
      fail ("cannot read configuration file " ++ path.text ++ ": " ++ text)
  | .error .value => .error .value
  | .ok data =>
      match decodeUtf8 data with
      | none => .error .unicodeDecode
      | some text =>
          if isJson path then
            match w.json (universalNewlines text) with
            | .error e => .error (invalidSyntax path e)
            | .ok (.dict data) => .ok data
            | .ok _ => fail "configuration root must be a table/object"
          else (w.toml text).mapError (invalidSyntax path)

/-- `_load_ini`. `ConfigParser.read` skips a file that it cannot open. -/
def loadIni (w : World) (path : ConfigPath) : Load Ini :=
  match w.files path with
  | .error (.os _) => .ok .empty
  | .error .value => .error .value
  | .ok data =>
      match decodeUtf8 data with
      | none => .error .unicodeDecode
      | some text => (w.ini (universalNewlines text)).mapError unnamed

def loadServerConfig (w : World) (path : ConfigPath) : Load ServerConfig :=
  if isIni path then do loadFrpIniServer w.builtins (← loadIni w path)
  else do
    let data ← loadMappingFile w path
    if looksLikeRatholeServer data then loadRatholeServer w.builtins data
    else loadFrpOrNativeServer w.builtins data

def loadClientConfig (w : World) (path : ConfigPath) : Load ClientFileConfig :=
  if isIni path then do loadFrpIniClient w.builtins (← loadIni w path)
  else do
    let data ← loadMappingFile w path
    if looksLikeRatholeClient data then loadRatholeClient w.builtins data
    else loadFrpOrNativeClient w.builtins data

end Config

end PyFrp
