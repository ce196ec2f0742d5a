import Flex1500.Lib.CFile

/-!
# The configuration file

`config.c` reads the daemon's configuration, line by line, and prints the one
in effect. The printer and the loader share no table: every key has a line of
the printer and a branch of the loader to itself.

A setting changes as its line is read, so a file that is rejected further
down leaves the settings in front of it behind. The two pointers that may be
null are taken to be there.
-/

open CText

/-- `flex1500_radio_mode`. -/
inductive RadioMode where
  | disabled | receive | rxTuning | transmit
  deriving DecidableEq, Repr

/-- The `char[64]` of an address: a string that fits it. -/
structure BindAddress where
  text : CText
  fits : text.length < 64
  deriving DecidableEq, Repr

/-- The configuration (`flex1500_config`). -/
structure Config where
  daemonEnabled : Bool
  radioMode : RadioMode
  httpBind : BindAddress
  httpPort : UInt16
  testPageEnabled : Bool
  rtlTcpEnabled : Bool
  rtlTcpBind : BindAddress
  rtlTcpPort : UInt16
  deriving DecidableEq, Repr

/-- `flex1500_radio_mode_name`. -/
def RadioMode.name : RadioMode → String
  | .disabled => "offline"
  | .receive => "receive"
  | .rxTuning => "rx-tuning"
  | .transmit => "transmit"

namespace Config

/-- The address of every interface. -/
def anyAddress : BindAddress where
  text := ofString "0.0.0.0"
  fits := by decide

/-- `flex1500_config_defaults`. -/
def defaults : Config where
  daemonEnabled := true
  radioMode := .rxTuning
  httpBind := anyAddress
  httpPort := 15000
  testPageEnabled := false
  rtlTcpEnabled := false
  rtlTcpBind := anyAddress
  rtlTcpPort := 1234

/-! ## Values -/

/-- `flex1500_parse_radio_mode`. -/
def parseRadioMode (text : CText) : Option RadioMode :=
  if text = ofString "offline" then some .disabled
  else if text = ofString "receive" then some .receive
  else if text = ofString "rx-tuning" then some .rxTuning
  else if text = ofString "transmit" then some .transmit
  else none

/-- `parse_bool`. -/
def parseBool (text : CText) : Option Bool :=
  if text = ofString "true" ∨ text = ofString "yes" ∨ text = ofString "1" then
    some true
  else if text = ofString "false" ∨ text = ofString "no"
      ∨ text = ofString "0" then some false
  else none

/-- The branch of an address. -/
def parseBind (text : CText) : Option BindAddress :=
  if h : 0 < text.length ∧ text.length < 64 then some ⟨text, h.2⟩ else none

/-- The branch of a port. A number that is out of range sets `errno`; it
reads as the largest, which is no port either. -/
def parsePort (text : CText) : Option UInt16 :=
  match strtoull text with
  | some (port, []) =>
    if 0 < port ∧ port ≤ 65535 then some port.toUInt16 else none
  | _ => none

/-! ## Sections and keys -/

/-- The sections of a file. -/
inductive Section where
  | daemon | radio | http | rtlTcp
  deriving DecidableEq, Repr

/-- The keys of all sections, one for each bit of `seen`. -/
inductive Key where
  | enabled | mode | bind | port | testPage | rtlEnabled | rtlBind | rtlPort
  deriving DecidableEq, Repr

/-- The section of a header's name. -/
def sectionNamed (name : CText) : Option Section :=
  if name = ofString "daemon" then some .daemon
  else if name = ofString "radio" then some .radio
  else if name = ofString "http" then some .http
  else if name = ofString "rtl_tcp" then some .rtlTcp
  else none

/-- The key of a name, by the section it stands in. -/
def keyNamed (current : Section) (name : CText) : Option Key :=
  if current = .daemon ∧ name = ofString "enabled" then some .enabled
  else if current = .radio ∧ name = ofString "mode" then some .mode
  else if current = .http ∧ name = ofString "bind" then some .bind
  else if current = .http ∧ name = ofString "port" then some .port
  else if current = .http ∧ name = ofString "test_page" then some .testPage
  else if current = .rtlTcp ∧ name = ofString "enabled" then some .rtlEnabled
  else if current = .rtlTcp ∧ name = ofString "bind" then some .rtlBind
  else if current = .rtlTcp ∧ name = ofString "port" then some .rtlPort
  else none

/-- The configuration with the value of a key stored, if it is one. -/
def store (config : Config) (value : CText) : Key → Option Config
  | .enabled => (parseBool value).map ({ config with daemonEnabled := · })
  | .mode => (parseRadioMode value).map ({ config with radioMode := · })
  | .bind => (parseBind value).map ({ config with httpBind := · })
  | .port => (parsePort value).map ({ config with httpPort := · })
  | .testPage => (parseBool value).map ({ config with testPageEnabled := · })
  | .rtlEnabled => (parseBool value).map ({ config with rtlTcpEnabled := · })
  | .rtlBind => (parseBind value).map ({ config with rtlTcpBind := · })
  | .rtlPort => (parsePort value).map ({ config with rtlTcpPort := · })

/-! ## Lines -/

/-- What a line is by its text alone. -/
inductive Entry where
  | blank | malformed
  | header (name : CText)
  | setting (key value : CText)
  | other
  deriving DecidableEq, Repr

/-- The text of a line, told apart by its first byte and by whether there is
an equals sign in it. -/
def entry (line : CText) : Entry :=
  let text := trim line
  if peek text = 0 ∨ peek text = 35 ∨ peek text = 59 then .blank
  else if peek text = 91 then
    if text.length < 3 ∨ text.getLast? ≠ some 93 then .malformed
    else .header (trim (text.drop 1).dropLast)
  else if 61 ∈ text then
    .setting (trim (text.takeWhile (· ≠ 61)))
      (trim ((text.dropWhile (· ≠ 61)).drop 1))
  else .other

/-- What the loop over the lines keeps. -/
structure Loading where
  config : Config
  current : Option Section := none
  seen : List Key := []
  lineNumber : UInt32 := 0

/-- A file rejected: the settings as they are by then, and where and why. -/
structure Rejection where
  config : Config
  lineNumber : UInt32
  message : String

/-- The file rejected at this line. -/
def Loading.reject (state : Loading) (message : String) : Rejection where
  config := state.config
  lineNumber := state.lineNumber
  message := message

/-- A key and its value, in the section they stand in. The value is stored
before a key that was seen already is told. -/
def readSetting (current : Section) (key value : CText) (state : Loading) :
    Except Rejection Loading :=
  match keyNamed current key with
  | none => .error (state.reject "unknown key")
  | some key =>
    let parsed := state.config.store value key
    let state := { state with config := parsed.getD state.config }
    if key ∈ state.seen then .error (state.reject "duplicate key")
    else if parsed.isNone then .error (state.reject "invalid value")
    else .ok { state with seen := key :: state.seen }

/-- One pass of the loop. -/
def readLine (line : CLine) (state : Loading) : Except Rejection Loading :=
  let state := { state with lineNumber := state.lineNumber + 1 }
  if 10 ∉ line.text ∧ line.atEnd = false then
    .error (state.reject "line is too long")
  else
    match entry line.text, state.current with
    | .blank, _ => .ok state
    | .malformed, _ => .error (state.reject "malformed section header")
    | .header name, _ =>
      match sectionNamed name with
      | some named => .ok { state with current := some named }
      | none => .error (state.reject "unknown section")
    | .setting key value, some current => readSetting current key value state
    | .setting _ _, none | .other, _ =>
      .error (state.reject "expected key=value inside a section")

/-- The loop. -/
def readLines : List CLine → Loading → Except Rejection Loading
  | [], state => .ok state
  | line :: rest, state =>
    match readLine line state with
    | .error rejection => .error rejection
    | .ok state => readLines rest state

/-! ## Loading and printing -/

/-- What `fopen` answers: a file, or why there is none. -/
inductive Opening where
  | opened (file : CFile)
  | missing
  | failed (reason : CText)
  deriving DecidableEq, Repr

/-- What loading leaves: whether it succeeded, the configuration and the
text of the error. -/
structure Loaded where
  valid : Bool
  config : Config
  error : CText := []
  deriving DecidableEq, Repr

/-- `fail`, into a buffer of so many bytes. -/
def failText (size : ℕ) (path : CText) (line : UInt32) (message : CText) :
    CText :=
  let place :=
    if line ≠ 0 then ofString ":" ++ ofString (toString line.toNat) else []
  (path ++ place ++ ofString ": " ++ message).take (size - 1)

/-- A file that could not be opened. -/
def unopened (config : Config) (path : CText) (errorSize : ℕ)
    (reason : CText) : Loaded where
  valid := false
  config := config
  error := failText errorSize path 0
    ((ofString "cannot open: " ++ reason).take 159)

/-- `flex1500_config_load`, on what opening the path answers. -/
def load (config : Config) (path : CText) (missingIsOk : Bool)
    (errorSize : ℕ) : Opening → Loaded
  | .missing =>
    if missingIsOk then { valid := true, config := config }
    else config.unopened path errorSize (ofString "No such file or directory")
  | .failed reason => config.unopened path errorSize reason
  | .opened file =>
    match readLines (file.lines 512) { config := config } with
    | .error rejection =>
      { valid := false
        config := rejection.config
        error := failText errorSize path rejection.lineNumber
          (ofString rejection.message) }
    | .ok state =>
      if file.fails then
        { valid := false
          config := state.config
          error := failText errorSize path 0 (ofString "read error") }
      else { valid := true, config := state.config }

/-- The text of a boolean. -/
def boolText (b : Bool) : CText :=
  ofString (if b then "true" else "false")

/-- The text of a port. -/
def portText (port : UInt16) : CText :=
  ofString (toString port.toNat)

/-- `flex1500_config_print`. -/
def print (config : Config) (path : CText) : CText :=
  ofString "# effective configuration (" ++ path ++ ofString ")\n"
    ++ ofString "[daemon]\nenabled=" ++ boolText config.daemonEnabled
    ++ ofString "\n\n"
    ++ ofString "[radio]\nmode=" ++ ofString config.radioMode.name
    ++ ofString "\n\n"
    ++ ofString "[http]\nbind=" ++ config.httpBind.text
    ++ ofString "\nport=" ++ portText config.httpPort
    ++ ofString "\ntest_page=" ++ boolText config.testPageEnabled
    ++ ofString "\n"
    ++ ofString "\n[rtl_tcp]\nenabled=" ++ boolText config.rtlTcpEnabled
    ++ ofString "\nbind=" ++ config.rtlTcpBind.text
    ++ ofString "\nport=" ++ portText config.rtlTcpPort
    ++ ofString "\n"

end Config
