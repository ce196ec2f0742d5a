import Flex1500.Lib.CText

/-!
# Reading a request

The daemon reads HTTP by hand: `network.c` says when a request has arrived
whole and parses the receive settings out of its first line, and `api.c`
looks up headers and numbers. None of it builds a structure; every function
here is asked a question about the text of the request and answers it from
the start.
-/

open CText

namespace HttpRequest

/-- The line ending. -/
def crlf : CText := [13, 10]

/-- The blank line that ends the header. -/
def blankLine : CText := [13, 10, 13, 10]

/-- The text ` HTTP/` that ends a path. -/
def httpMark : CText := ofString " HTTP/"

/-! ## When a request is complete -/

/-- The header length the loop of `flex1500_http_request_complete` sees at
the index its buffer has been cut to, zero where the header does not end
there. -/
def headerEnd (index : ℕ) (rest : List UInt8) : ℕ :=
  if blankLine.isPrefixOf rest then index + 4
  else if [10, 10].isPrefixOf rest then index + 2
  else 0

/-- The loop over the buffer: the first header length found. -/
def headerLength (index : ℕ) : List UInt8 → Option ℕ
  | [] => none
  | c :: cs =>
    if headerEnd index (c :: cs) = 0 then headerLength (index + 1) cs
    else some (headerEnd index (c :: cs))

/-- The search for the `Content-Length` field among the lines that end
within the header: the pointer at the field, `offset` bytes into the
text. -/
def contentLengthField (header : ℕ) : ℕ → ℕ → CText → Option CText
  | 0, _, _ => none
  | fuel + 1, offset, field =>
    if header ≤ offset then none
    else
      match strstr crlf field with
      | none => none
      | some next =>
        let at_next := offset + (field.length - next.length)
        if header ≤ at_next then none
        else if hasPrefixIgnoringCase (ofString "Content-Length:") field then
          some field
        else contentLengthField header fuel (at_next + 2) (next.drop 2)

/-- `flex1500_http_request_complete`, on the bytes received. Each pass of
the search for the field moves past a line, so the length of the buffer is
enough for it. -/
def complete (buffer : List UInt8) : Bool :=
  match headerLength 0 buffer with
  | none => false
  | some header =>
    match contentLengthField header (buffer.length + 1) 0 (ofBuffer buffer) with
    | none => true
    | some field =>
      let value := (field.drop 15).dropWhile (· == 32)
      match strtoull value with
      | none => true
      | some (bodyLength, _) =>
        if 65536 < bodyLength then true
        else header + bodyLength.toNat ≤ buffer.length

/-! ## The receive settings in the first line -/

/-- The digits of a `uint32_t` in a path, ended by a space. -/
def pathNumber (s : CText) : Option ℕ :=
  let digits := s.takeWhile isDigit
  if digits.isEmpty ∨ 2 ^ 32 ≤ decimal digits
      ∨ peek (s.dropWhile isDigit) ≠ 32 then none
  else some (decimal digits)

/-- The path of a frequency request. -/
def frequencyPrefix : CText := ofString "PUT /v1/radio/frequency/"

/-- The path of a mode request. -/
def modePrefix : CText := ofString "PUT /v1/radio/mode/"

/-- The path of a gain request. -/
def gainPrefix : CText := ofString "PUT /v1/radio/gain/"

/-- The path of a bandwidth request. -/
def bandwidthPrefix : CText := ofString "PUT /v1/radio/bandwidth/"

/-- The path of a squelch request. -/
def squelchPrefix : CText := ofString "PUT /v1/radio/squelch/"

/-- `flex1500_parse_rx_frequency_request`. -/
def parseRxFrequency (request : CText) : Option ℕ := do
  pathNumber (← afterPrefix frequencyPrefix request)

/-- The receive modes (`modes`). -/
def rxModes : List String := ["am", "fm", "usb", "lsb", "cw"]

/-- `flex1500_parse_rx_mode_request`. -/
def parseRxMode (request : CText) : Option String := do
  let value ← afterPrefix modePrefix request
  rxModes.find? fun mode =>
    hasPrefix (ofString mode) value
      && peek (value.drop (ofString mode).length) == 32

/-- The receive gains (`gains`), each with the text it is printed as. -/
def rxGains : List (Int × String) :=
  [(-10, "-10"), (0, "0"), (10, "10"), (20, "20"), (30, "30")]

/-- `flex1500_parse_rx_gain_request`. -/
def parseRxGain (request : CText) : Option Int := do
  let value ← afterPrefix gainPrefix request
  let gain ← rxGains.find? fun gain =>
    hasPrefix (ofString gain.2) value
      && peek (value.drop (ofString gain.2).length) == 32
  some gain.1

/-- `flex1500_parse_rx_bandwidth_request`. -/
def parseRxBandwidth (request : CText) : Option ℕ := do
  let text ← afterPrefix bandwidthPrefix request
  let value ← pathNumber text
  if 100 ≤ value ∧ value ≤ 20000 then some value else none

/-- `flex1500_parse_rx_squelch_request`. The number is built in an
`int32_t`, whose overflow the language leaves open; here it wraps. -/
def parseRxSquelch (request : CText) : Option Int32 := do
  let value ← afterPrefix squelchPrefix request
  let negative := peek value == 45
  let value := if negative then value.drop 1 else value
  let digits := value.takeWhile isDigit
  let parsed := digits.foldl
    (fun n c => n * 10 + Int32.ofNat (digit c)) (0 : Int32)
  let parsed := if negative then -parsed else parsed
  if digits.isEmpty ∨ peek (value.dropWhile isDigit) ≠ 32
      ∨ parsed < -120 ∨ 0 < parsed then none
  else some parsed

/-! ## Numbers and headers, as the dispatcher reads them -/

/-- `parse_lease_path`. -/
def parseLeasePath (path request : CText) : Option UInt64 := do
  let (value, rest) ← strtoull (← afterPrefix path request)
  if value = 0 ∨ !hasPrefix httpMark rest then none else some value

/-- `parse_uint_setting`, which `parse_tx_timeout_request` repeats for its
own path. -/
def parseUintSetting (path request : CText) : Option ℕ := do
  let (value, rest) ← strtoull (← afterPrefix path request)
  if 2 ^ 32 ≤ value.toNat ∨ !hasPrefix httpMark rest then none
  else some value.toNat

/-- `request_is`. -/
def requestIs (method path : String) (request : CText) : Bool :=
  hasPrefix (ofString (method ++ " " ++ path ++ " HTTP/")) request

/-- The walk of `request_header` over the lines in front of the blank one.
The name must be followed by a colon at once; the value is what follows,
past blanks, up to the end of the request. -/
def headerFrom (name : CText) : ℕ → CText → Option CText
  | 0, _ => none
  | fuel + 1, line =>
    match line, strstr crlf line with
    | [], _ | _, none => none
    | line, some next =>
      if next.length = line.length then none
      else if hasPrefixIgnoringCase name line
          && peek (line.drop name.length) == 58 then
        some ((line.drop (name.length + 1)).dropWhile
          fun c => c == 32 || c == 9)
      else headerFrom name fuel (next.drop 2)

/-- `request_header`. -/
def header (name : String) (request : CText) : Option CText :=
  headerFrom (ofString name) (request.length + 1) request

/-- `request_lease`. -/
def lease (request : CText) : Option UInt64 := do
  let value ← header "X-Flex1500-TX-Lease" request
  let (lease, rest) ← strtoull value
  if lease = 0 ∨ (peek rest ≠ 13 ∧ peek rest ≠ 10) then none else some lease

/-- The station lease a request presents, as the authorisation check reads
it: a number must be there, and nothing is asked of what follows it. -/
def controlLease (request : CText) : Option UInt64 := do
  let (lease, _) ← strtoull (← header "X-Flex1500-Control-Lease" request)
  some lease

/-- The body, past the first blank line. -/
def body (request : CText) : Option CText :=
  (strstr blankLine request).map (·.drop 4)

/-! ## A parsed setting starts with its path

The dispatcher decides by the path whether a request needs the station, and
by the parsed value what to do. -/

theorem hasPrefix_of_parseRxFrequency {request : CText} {value : ℕ}
    (h : parseRxFrequency request = some value) :
    hasPrefix frequencyPrefix request = true := by
  obtain ⟨t, ht, _⟩ := Option.bind_eq_some_iff.mp h
  exact hasPrefix_of_afterPrefix ht

theorem hasPrefix_of_parseRxMode {request : CText} {mode : String}
    (h : parseRxMode request = some mode) :
    hasPrefix modePrefix request = true := by
  obtain ⟨t, ht, _⟩ := Option.bind_eq_some_iff.mp h
  exact hasPrefix_of_afterPrefix ht

theorem hasPrefix_of_parseRxGain {request : CText} {gain : Int}
    (h : parseRxGain request = some gain) :
    hasPrefix gainPrefix request = true := by
  obtain ⟨t, ht, _⟩ := Option.bind_eq_some_iff.mp h
  exact hasPrefix_of_afterPrefix ht

theorem hasPrefix_of_parseRxBandwidth {request : CText} {value : ℕ}
    (h : parseRxBandwidth request = some value) :
    hasPrefix bandwidthPrefix request = true := by
  obtain ⟨t, ht, _⟩ := Option.bind_eq_some_iff.mp h
  exact hasPrefix_of_afterPrefix ht

end HttpRequest
