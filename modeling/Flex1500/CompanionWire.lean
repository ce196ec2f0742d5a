import Flex1500.Lib.CppText
import Flex1500.Api
import Flex1500.CompanionSession
import Flex1500.HttpHeaders

/-!
# What the companion sends, and what the daemon reads

The companion's `HttpClient` puts a request together as text, and the daemon
asks questions about that text. Nothing between them is shared but the bytes,
so that the two agree is a property of both programs: the method and path,
the leases and the body that went in are what comes out, and no cut of the
text passes for the whole.
-/

open CText HttpRequest

/-! ## Requests -/

/-- The methods of the requests. -/
inductive HttpMethod where
  | get | post | put | delete | connect
  deriving DecidableEq, Repr

/-- The method as it is sent. -/
def HttpMethod.text : HttpMethod → String
  | .get => "GET"
  | .post => "POST"
  | .put => "PUT"
  | .delete => "DELETE"
  | .connect => "CONNECT"

/-- The leases in the headers of a request: none, that of `lease_headers`, or
those of `tx_headers`. -/
inductive LeaseHeaders where
  | none
  | station (lease : UInt64)
  | session (lease txLease : UInt64)
  deriving DecidableEq, Repr

/-- The headers, in the order of their names. -/
def LeaseHeaders.entries : LeaseHeaders → List (String × UInt64)
  | .none => []
  | .station lease => [("X-Flex1500-Control-Lease", lease)]
  | .session lease txLease =>
    [("X-Flex1500-Control-Lease", lease), ("X-Flex1500-TX-Lease", txLease)]

/-- A request to make: its method and path, the leases and the body. -/
structure HttpCall where
  method : HttpMethod
  path : CText
  leases : LeaseHeaders := .none
  body : CText := []
  deriving DecidableEq, Repr

namespace HttpCall

/-- `HttpClient::request`: the text that is sent. -/
def requestText (host : CText) (call : HttpCall) : CText :=
  ofString call.method.text ++ ofString " " ++ call.path
    ++ ofString " HTTP/1.1\r\nHost: " ++ host
    ++ ofString "\r\nConnection: close\r\nAccept: application/json\r\n"
    ++ call.leases.entries.flatMap (fun entry =>
      ofString (entry.1 ++ ": " ++ toString entry.2.toNat ++ "\r\n"))
    ++ (if call.body = [] then []
      else ofString ("Content-Length: " ++ toString call.body.length ++ "\r\n")
        ++ ofString "Content-Type: application/json\r\n")
    ++ ofString "\r\n" ++ call.body

/-- `TxStream::connect`: the text that asks for a stream. -/
def streamText (host : CText) (lease txLease : UInt64) : CText :=
  ofString "CONNECT /v1/tx/stream HTTP/1.1\r\nHost: " ++ host
    ++ ofString "\r\nX-Flex1500-Control-Lease: "
    ++ ofString (toString lease.toNat)
    ++ ofString "\r\nX-Flex1500-TX-Lease: "
    ++ ofString (toString txLease.toNat)
    ++ ofString "\r\nConnection: keep-alive\r\n\r\n"

end HttpCall

/-! ## Responses -/

/-- `parse_response`: the status and the body, or nothing where it throws. -/
def parseResponse (response : CText) : Option (ℤ × CText) := do
  let firstSpace ← strstr [32] response
  let headerEnd ← strstr blankLine response
  if firstSpace.length < 4 then none
  else
    let status ← stoi ((firstSpace.drop 1).take 3)
    some (status.1, headerEnd.drop 4)

/-- The reply that a response makes. A status below zero is none that is
asked for, as zero is none. -/
def HttpReply.ofResponse (response : CText) : HttpResult :=
  (parseResponse response).map fun parsed =>
    { status := parsed.1.toNat, body := parsed.2 }

namespace HttpCall

variable {host : CText} {call : HttpCall}

/-! ## The lines of a request -/

/-- The line of a lease. -/
def leaseLine (entry : String × UInt64) : CText :=
  ofString entry.1 ++ (58 :: 32 :: ofString (toString entry.2.toNat))

/-- The first line. -/
def requestLine (call : HttpCall) : CText :=
  ofString call.method.text ++ ofString " " ++ call.path
    ++ ofString " HTTP/1.1"

/-- The lines in front of the leases. -/
def frontLines (host : CText) (call : HttpCall) : List CText :=
  [call.requestLine, ofString "Host: " ++ host, ofString "Connection: close",
    ofString "Accept: application/json"]

/-- All lines. -/
def lines (host : CText) (call : HttpCall) : List CText :=
  frontLines host call ++ (call.leases.entries.map leaseLine
    ++ if call.body = [] then []
      else [lengthName ++ 32 :: ofString (toString call.body.length),
        ofString "Content-Type: application/json"])

/-- **The text is made of lines.** -/
theorem requestText_eq (host : CText) (call : HttpCall) :
    call.requestText host = headerText (call.lines host) ++ call.body := by
  have hhost : ofString " HTTP/1.1\r\nHost: "
      = ofString " HTTP/1.1" ++ (crlf ++ ofString "Host: ") := rfl
  have hfixed : ofString "\r\nConnection: close\r\nAccept: application/json\r\n"
      = crlf ++ (ofString "Connection: close" ++ (crlf
        ++ (ofString "Accept: application/json" ++ crlf))) := rfl
  have hlength (n : ℕ) : ofString ("Content-Length: " ++ toString n ++ "\r\n")
      = lengthName ++ (32 :: ofString (toString n)) ++ crlf := by
    rw [ofString_append, ofString_append]
    rfl
  have htype : ofString "Content-Type: application/json\r\n"
      = ofString "Content-Type: application/json" ++ crlf := rfl
  have hentry (entry : String × UInt64) :
      ofString (entry.1 ++ ": " ++ toString entry.2.toNat ++ "\r\n")
        = leaseLine entry ++ crlf := by
    rw [ofString_append, ofString_append, ofString_append, leaseLine,
      List.append_assoc (ofString entry.1)]
    rfl
  rw [requestText, hhost, hfixed, hlength, htype,
    show ofString "\r\n" = crlf from rfl]
  simp only [hentry, headerText, lines, frontLines, requestLine]
  split <;> simp [List.flatMap_map]

/-! ## What a request holds -/

/-- **A request that can be sent**: no byte of the host or the path ends a
line or the text, and the body is text of a size that is taken. -/
structure Sendable (host : CText) (call : HttpCall) : Prop where
  host : ∀ c ∈ host, c ≠ 0 ∧ c ≠ 10 ∧ c ≠ 13
  path : ∀ c ∈ call.path, c ≠ 0 ∧ c ≠ 10 ∧ c ≠ 13
  body : 0 ∉ call.body
  size : call.body.length ≤ 65536

/-- The beginnings of the lines in front of the leases. -/
def frontPrefixes : List CText :=
  ["GET ", "POST ", "PUT ", "DELETE ", "CONNECT ", "Host: ", "Connection: ",
    "Accept: "].map ofString

theorem exists_of_mem_frontLines {line : CText}
    (h : line ∈ frontLines host call) :
    ∃ q ∈ frontPrefixes, ∃ rest, line = q ++ rest := by
  simp only [frontLines, List.mem_cons, List.not_mem_nil, or_false] at h
  obtain rfl | rfl | rfl | rfl := h
  · refine ⟨ofString call.method.text ++ ofString " ", ?_,
      call.path ++ ofString " HTTP/1.1", by simp [requestLine]⟩
    cases call.method <;> decide
  · exact ⟨_, by decide, host, rfl⟩
  · exact ⟨ofString "Connection: ", by decide, ofString "close", rfl⟩
  · exact ⟨ofString "Accept: ", by decide, ofString "application/json", rfl⟩

theorem headerLine_of_front (h : call.Sendable host) {line : CText}
    (hmem : line ∈ frontLines host call) : HeaderLine line := by
  simp only [frontLines, List.mem_cons, List.not_mem_nil, or_false] at hmem
  obtain rfl | rfl | rfl | rfl := hmem
  · have hmethod : HeaderLine (ofString call.method.text ++ ofString " ") := by
      cases call.method <;> exact headerLine_of_all (by decide) (by decide)
    have hversion : HeaderLine (ofString " HTTP/1.1") :=
      headerLine_of_all (by decide) (by decide)
    exact (hmethod.append h.path).append hversion.plain
  · have hname : HeaderLine (ofString "Host: ") :=
      headerLine_of_all (by decide) (by decide)
    exact hname.append h.host
  · exact headerLine_of_all (by decide) (by decide)
  · exact headerLine_of_all (by decide) (by decide)

/-- A field that none of the lines in front is. -/
theorem named_of_front {name : CText}
    (hname : frontPrefixes.all (apart name) = true) {line : CText}
    (hmem : line ∈ frontLines host call) : named name line = false := by
  obtain ⟨q, hq, rest, rfl⟩ := exists_of_mem_frontLines hmem
  exact named_of_apart (List.all_eq_true.mp hname q hq) rest

theorem lengthless_of_front {line : CText}
    (hmem : line ∈ frontLines host call) : Lengthless line := by
  obtain ⟨q, hq, rest, rfl⟩ := exists_of_mem_frontLines hmem
  have hall : frontPrefixes.all (apart lengthName) = true := by decide
  exact lengthless_of_apart (List.all_eq_true.mp hall q hq) rest

/-- The names of the leases' fields. -/
theorem name_of_entry {leases : LeaseHeaders} {entry : String × UInt64}
    (h : entry ∈ leases.entries) : entry.1 = "X-Flex1500-Control-Lease"
      ∨ entry.1 = "X-Flex1500-TX-Lease" := by
  cases leases with
  | none => exact absurd h List.not_mem_nil
  | station lease => simp_all [LeaseHeaders.entries]
  | session lease txLease =>
    simp only [LeaseHeaders.entries, List.mem_cons, List.not_mem_nil,
      or_false] at h
    exact h.imp (fun h => by rw [h]) fun h => by rw [h]

theorem leaseLine_eq (entry : String × UInt64) :
    leaseLine entry
      = ofString entry.1 ++ [58] ++ 32 :: ofString (toString entry.2.toNat) := by
  simp [leaseLine]

theorem headerLine_of_entry {entry : String × UInt64}
    (h : entry.1 = "X-Flex1500-Control-Lease"
      ∨ entry.1 = "X-Flex1500-TX-Lease") :
    HeaderLine (leaseLine entry) ∧ Lengthless (leaseLine entry) := by
  rw [leaseLine_eq]
  obtain hname | hname := h
  all_goals
    rw [hname]
    exact ⟨headerLine_number (headerLine_of_all (by decide) (by decide)) _,
      lengthless_of_apart (by decide) _⟩

theorem headerLine_of_lease {leases : LeaseHeaders} {line : CText}
    (hmem : line ∈ leases.entries.map leaseLine) :
    HeaderLine line ∧ Lengthless line := by
  obtain ⟨entry, hentry, rfl⟩ := List.mem_map.mp hmem
  exact headerLine_of_entry (name_of_entry hentry)

/-- **A request is whole**: it is complete with its last byte and not
before. -/
theorem whole_requestText (h : call.Sendable host) :
    Whole (call.requestText host) := by
  have hfront : ∀ l ∈ frontLines host call ++ call.leases.entries.map leaseLine,
      HeaderLine l ∧ Lengthless l := by
    intro l hl
    obtain hl | hl := List.mem_append.mp hl
    · exact ⟨headerLine_of_front h hl, lengthless_of_front hl⟩
    · exact headerLine_of_lease hl
  rw [requestText_eq, lines]
  by_cases hbody : call.body = []
  · rw [if_pos hbody, hbody, List.append_nil, List.append_nil]
    exact .bare _ (by simp [frontLines]) hfront
  · rw [if_neg hbody, ← List.append_assoc]
    refine .sized _ [ofString "Content-Type: application/json"] _ hfront ?_
      h.size h.body
    intro l hl
    rw [List.mem_singleton.mp hl]
    exact headerLine_of_all (by decide) (by decide)

theorem headerLine_of_mem_lines (h : call.Sendable host) {line : CText}
    (hmem : line ∈ call.lines host) : HeaderLine line := by
  simp only [lines, List.mem_append] at hmem
  obtain hl | hl | hl := hmem
  · exact headerLine_of_front h hl
  · exact (headerLine_of_lease hl).1
  · split at hl
    · exact absurd hl List.not_mem_nil
    · simp only [List.mem_cons, List.not_mem_nil, or_false] at hl
      obtain rfl | rfl := hl
      · exact headerLine_length _
      · exact headerLine_of_all (by decide) (by decide)

/-- **The body that is read** is the one that was sent. -/
theorem body_requestText (h : call.Sendable host) :
    HttpRequest.body (call.requestText host) = some call.body := by
  rw [requestText_eq]
  exact body_headerText (by simp [lines, frontLines])
    (fun l hl => headerLine_of_mem_lines h hl) call.body

/-- What a request begins with. -/
theorem hasPrefix_requestText (host : CText) (call : HttpCall) :
    hasPrefix call.requestLine (call.requestText host) = true := by
  rw [requestText_eq]
  refine hasPrefix_iff.mpr ⟨crlf ++ headerText ((call.lines host).drop 1)
    ++ call.body, ?_⟩
  simp [lines, frontLines]

/-! ## The leases -/

/-- A field that none of the lines is. -/
theorem header_absent {lines : List CText} {name : String}
    (hplain : ∀ l ∈ lines, HeaderLine l) (hname : 13 ∉ ofString name)
    (hlines : ∀ l ∈ lines, named (ofString name) l = false) (body : CText) :
    header name (headerText lines ++ body) = none :=
  headerFrom_of_absent hname (fun l hl => ⟨hplain l hl, hlines l hl⟩) _

/-- **A number in a field**: what is looked up is the number, up to the end
of its line. -/
theorem header_number {before after : List CText} (entry : String × UInt64)
    (hplain : ∀ l ∈ before ++ leaseLine entry :: after, HeaderLine l)
    (hname : 13 ∉ ofString entry.1)
    (hbefore : ∀ l ∈ before, named (ofString entry.1) l = false)
    (body : CText) :
    header entry.1 (headerText (before ++ leaseLine entry :: after) ++ body)
      = some (ofString (toString entry.2.toNat)
          ++ (crlf ++ (headerText after ++ body))) := by
  have hdigits := toString_ne_nil entry.2.toNat
  obtain ⟨c, cs, hcons⟩ := List.exists_cons_of_ne_nil hdigits
  have hdigit := of_isDigit (isDigit_of_mem_toString
    (hcons ▸ List.mem_cons_self .. : c ∈ ofString (toString entry.2.toNat)))
  have hvalue : (peek (ofString (toString entry.2.toNat)) == 32
      || peek (ofString (toString entry.2.toNat)) == 9) = false := by
    have hspace : c ≠ 9 := by
      rintro rfl
      exact absurd hdigit.1 (by decide)
    rw [hcons]
    simp [peek, hdigit.2.1, hspace]
  have hcount := length_le_headerText (before ++ leaseLine entry :: after)
  refine headerFrom_of_lines hname (fun l hl => ⟨hplain l (by simp [hl]),
    hbefore l hl⟩) (hplain _ (by simp [leaseLine])) hvalue hdigits ?_
  simp only [leaseLine, List.length_append, List.length_cons] at hcount ⊢
  omega

/-- The lines behind the leases. -/
theorem named_of_body {name : CText}
    (hlength : apart name lengthName = true)
    (htype : apart name (ofString "Content-Type: ") = true) {line : CText}
    (hmem : line ∈ if call.body = [] then []
      else [lengthName ++ 32 :: ofString (toString call.body.length),
        ofString "Content-Type: application/json"]) :
    named name line = false := by
  split at hmem
  · exact absurd hmem List.not_mem_nil
  · simp only [List.mem_cons, List.not_mem_nil, or_false] at hmem
    obtain rfl | rfl := hmem
    · exact named_of_apart hlength _
    · exact named_of_apart htype (ofString "application/json")

/-- A lease is read back from its digits. -/
theorem strtoull_lease (lease : UInt64) (rest : CText) :
    strtoull (ofString (toString lease.toNat) ++ (crlf ++ rest))
      = some (lease, crlf ++ rest) := by
  rw [strtoull_number lease.toNat_lt (crlf ++ rest) rfl, UInt64.ofNat_toNat]

/-- The station's lease that a request presents. -/
def stationLease : LeaseHeaders → Option UInt64
  | .none => none
  | .station lease | .session lease _ => some lease

/-- The session's. -/
def sessionLease : LeaseHeaders → Option UInt64
  | .none | .station _ => none
  | .session _ txLease => some txLease

/-- **The station's lease that is read** is the one that was sent. -/
theorem header_station (h : call.Sendable host) :
    (stationLease call.leases = none
        ∧ header "X-Flex1500-Control-Lease" (call.requestText host) = none)
      ∨ ∃ lease rest, stationLease call.leases = some lease
        ∧ header "X-Flex1500-Control-Lease" (call.requestText host)
          = some (ofString (toString lease.toNat) ++ (crlf ++ rest)) := by
  have hname : 13 ∉ ofString "X-Flex1500-Control-Lease" := by decide
  have hfront (l : CText) (hl : l ∈ frontLines host call) :
      named (ofString "X-Flex1500-Control-Lease") l = false :=
    named_of_front (by decide) hl
  have hplain (l : CText) (hl : l ∈ call.lines host) : HeaderLine l :=
    headerLine_of_mem_lines h hl
  have hread (lease : UInt64) (later : List (String × UInt64))
      (hentries : call.leases.entries
        = ("X-Flex1500-Control-Lease", lease) :: later) := by
    rw [lines, hentries, List.map_cons, List.cons_append] at hplain
    exact header_number ("X-Flex1500-Control-Lease", lease) hplain hname hfront
      call.body
  rw [requestText_eq]
  cases hleases : call.leases with
  | none =>
    refine Or.inl ⟨rfl, header_absent hplain hname (fun l hl => ?_) _⟩
    simp only [lines, hleases, LeaseHeaders.entries, List.map_nil,
      List.nil_append, List.mem_append] at hl
    exact hl.elim (hfront l) (named_of_body (by decide) (by decide))
  | station lease =>
    have hentries : call.leases.entries
        = [("X-Flex1500-Control-Lease", lease)] := by rw [hleases]; rfl
    rw [lines, hentries]
    exact Or.inr ⟨lease, _, rfl, hread lease [] hentries⟩
  | session lease txLease =>
    have hentries : call.leases.entries
        = [("X-Flex1500-Control-Lease", lease),
          ("X-Flex1500-TX-Lease", txLease)] := by rw [hleases]; rfl
    rw [lines, hentries]
    exact Or.inr ⟨lease, _, rfl, hread lease _ hentries⟩

/-- **The session's lease that is read** is the one that was sent. -/
theorem header_session (h : call.Sendable host) :
    (sessionLease call.leases = none
        ∧ header "X-Flex1500-TX-Lease" (call.requestText host) = none)
      ∨ ∃ lease rest, sessionLease call.leases = some lease
        ∧ header "X-Flex1500-TX-Lease" (call.requestText host)
          = some (ofString (toString lease.toNat) ++ (crlf ++ rest)) := by
  have hname : 13 ∉ ofString "X-Flex1500-TX-Lease" := by decide
  have hfront (l : CText) (hl : l ∈ frontLines host call) :
      named (ofString "X-Flex1500-TX-Lease") l = false :=
    named_of_front (by decide) hl
  have hapart : apart (ofString "X-Flex1500-TX-Lease")
      (ofString "X-Flex1500-Control-Lease") = true := by decide
  have hstation (lease : UInt64) : named (ofString "X-Flex1500-TX-Lease")
      (leaseLine ("X-Flex1500-Control-Lease", lease)) = false :=
    named_of_apart hapart _
  have hplain (l : CText) (hl : l ∈ call.lines host) : HeaderLine l :=
    headerLine_of_mem_lines h hl
  rw [requestText_eq]
  cases hleases : call.leases with
  | none =>
    refine Or.inl ⟨rfl, header_absent hplain hname (fun l hl => ?_) _⟩
    simp only [lines, hleases, LeaseHeaders.entries, List.map_nil,
      List.nil_append, List.mem_append] at hl
    exact hl.elim (hfront l) (named_of_body (by decide) (by decide))
  | station lease =>
    refine Or.inl ⟨rfl, header_absent hplain hname (fun l hl => ?_) _⟩
    simp only [lines, hleases, LeaseHeaders.entries, List.map_cons,
      List.map_nil, List.mem_append, List.mem_singleton] at hl
    obtain hl | rfl | hl := hl
    · exact hfront l hl
    · exact hstation lease
    · exact named_of_body (by decide) (by decide) hl
  | session lease txLease =>
    have hentries : call.lines host = (frontLines host call
        ++ [leaseLine ("X-Flex1500-Control-Lease", lease)])
          ++ leaseLine ("X-Flex1500-TX-Lease", txLease)
          :: (if call.body = [] then []
            else [lengthName ++ 32 :: ofString (toString call.body.length),
              ofString "Content-Type: application/json"]) := by
      rw [lines, hleases, List.append_assoc]
      rfl
    rw [hentries] at hplain ⊢
    refine Or.inr ⟨txLease, _, rfl, header_number
      ("X-Flex1500-TX-Lease", txLease) hplain hname (fun l hl => ?_) _⟩
    obtain hl | hl := List.mem_append.mp hl
    · exact hfront l hl
    · rw [List.mem_singleton.mp hl]
      exact hstation lease

/-- What the station's check reads in such a field. -/
theorem controlLease_of_header {text rest : CText} {lease : UInt64}
    (h : header "X-Flex1500-Control-Lease" text
      = some (ofString (toString lease.toNat) ++ (crlf ++ rest))) :
    controlLease text = some lease := by
  simp only [controlLease, h, Option.bind_eq_bind, Option.bind_some,
    strtoull_lease]

/-- What the routes of a session read. Zero is no lease. -/
theorem lease_of_header {text rest : CText} {lease : UInt64}
    (h : header "X-Flex1500-TX-Lease" text
      = some (ofString (toString lease.toNat) ++ (crlf ++ rest))) :
    HttpRequest.lease text = if lease = 0 then none else some lease := by
  simp only [HttpRequest.lease, h, Option.bind_eq_bind, Option.bind_some,
    strtoull_lease]
  by_cases hzero : lease = 0
  · rw [if_pos (Or.inl hzero), if_pos hzero]
  · rw [if_neg, if_neg hzero]
    rintro (hlease | ⟨hcr, -⟩)
    · exact hzero hlease
    · exact hcr rfl

theorem controlLease_requestText (h : call.Sendable host) :
    controlLease (call.requestText host) = stationLease call.leases := by
  obtain ⟨hnone, hheader⟩ | ⟨lease, rest, hsome, hheader⟩ := header_station h
  · rw [controlLease, hnone, hheader]
    rfl
  · rw [hsome, controlLease_of_header hheader]

theorem presentedLease_requestText (h : call.Sendable host) :
    Api.presentedLease (call.requestText host)
      = (stationLease call.leases).getD 0 := by
  rw [Api.presentedLease]
  obtain ⟨hnone, hheader⟩ | ⟨lease, rest, hsome, hheader⟩ := header_station h
  · rw [hnone, hheader]
    rfl
  · simp only [hsome, hheader, Option.map_some, strtoullValue, strtoull_lease,
      Option.getD_some]

theorem lease_requestText (h : call.Sendable host) :
    HttpRequest.lease (call.requestText host)
      = (sessionLease call.leases).filter (· != 0) := by
  obtain ⟨hnone, hheader⟩ | ⟨lease, rest, hsome, hheader⟩ := header_session h
  · rw [HttpRequest.lease, hnone, hheader]
    rfl
  · rw [hsome, lease_of_header hheader, Option.filter]
    simp

end HttpCall

namespace HttpCall

/-! ## The request for a stream -/

section Stream

variable {host : CText} (lease txLease : UInt64)

/-- The lines of the request for a stream. -/
def streamLines (host : CText) (lease txLease : UInt64) : List CText :=
  [ofString "CONNECT /v1/tx/stream HTTP/1.1", ofString "Host: " ++ host,
    leaseLine ("X-Flex1500-Control-Lease", lease),
    leaseLine ("X-Flex1500-TX-Lease", txLease),
    ofString "Connection: keep-alive"]

theorem streamText_eq (host : CText) :
    streamText host lease txLease
      = headerText (streamLines host lease txLease) ++ [] := by
  have hhost : ofString "CONNECT /v1/tx/stream HTTP/1.1\r\nHost: "
      = ofString "CONNECT /v1/tx/stream HTTP/1.1"
        ++ (crlf ++ ofString "Host: ") := rfl
  have hstation : ofString "\r\nX-Flex1500-Control-Lease: "
      = crlf ++ (ofString "X-Flex1500-Control-Lease" ++ [58, 32]) := rfl
  have hsession : ofString "\r\nX-Flex1500-TX-Lease: "
      = crlf ++ (ofString "X-Flex1500-TX-Lease" ++ [58, 32]) := rfl
  have hend : ofString "\r\nConnection: keep-alive\r\n\r\n"
      = crlf ++ (ofString "Connection: keep-alive" ++ (crlf ++ crlf)) := rfl
  rw [streamText, hhost, hstation, hsession, hend]
  simp [headerText, streamLines, leaseLine]

theorem headerLine_of_stream (hhost : ∀ c ∈ host, c ≠ 0 ∧ c ≠ 10 ∧ c ≠ 13)
    {line : CText} (hmem : line ∈ streamLines host lease txLease) :
    HeaderLine line ∧ Lengthless line := by
  have hname : HeaderLine (ofString "Host: ") :=
    headerLine_of_all (by decide) (by decide)
  have hapart : apart lengthName (ofString "Connection: ") = true := by decide
  have hconnect : apart lengthName (ofString "CONNECT ") = true := by decide
  simp only [streamLines, List.mem_cons, List.not_mem_nil, or_false] at hmem
  obtain rfl | rfl | rfl | rfl | rfl := hmem
  · exact ⟨headerLine_of_all (by decide) (by decide),
      lengthless_of_apart hconnect (ofString "/v1/tx/stream HTTP/1.1")⟩
  · exact ⟨hname.append hhost, lengthless_of_apart (by decide) _⟩
  · exact headerLine_of_entry (Or.inl rfl)
  · exact headerLine_of_entry (Or.inr rfl)
  · exact ⟨headerLine_of_all (by decide) (by decide),
      lengthless_of_apart hapart (ofString "keep-alive")⟩

/-- **The request for a stream** is whole as well. -/
theorem whole_streamText (hhost : ∀ c ∈ host, c ≠ 0 ∧ c ≠ 10 ∧ c ≠ 13) :
    Whole (streamText host lease txLease) := by
  rw [streamText_eq, List.append_nil]
  exact .bare _ (by simp [streamLines]) fun l hl =>
    headerLine_of_stream lease txLease hhost hl

/-- **Its leases** are read as they were sent. -/
theorem leases_streamText (hhost : ∀ c ∈ host, c ≠ 0 ∧ c ≠ 10 ∧ c ≠ 13) :
    controlLease (streamText host lease txLease) = some lease
      ∧ HttpRequest.lease (streamText host lease txLease)
        = if txLease = 0 then none else some txLease := by
  have hname : 13 ∉ ofString "X-Flex1500-Control-Lease" := by decide
  have hname' : 13 ∉ ofString "X-Flex1500-TX-Lease" := by decide
  have hplain (l : CText) (hl : l ∈ streamLines host lease txLease) :
      HeaderLine l := (headerLine_of_stream lease txLease hhost hl).1
  have hstation : ∀ l ∈ [ofString "CONNECT /v1/tx/stream HTTP/1.1",
      ofString "Host: " ++ host],
      named (ofString "X-Flex1500-Control-Lease") l = false := by
    simp only [List.forall_mem_cons, List.not_mem_nil, false_imp_iff,
      implies_true, and_true]
    exact ⟨by decide, named_of_apart (by decide) _⟩
  have hsession : ∀ l ∈ [ofString "CONNECT /v1/tx/stream HTTP/1.1",
      ofString "Host: " ++ host,
      leaseLine ("X-Flex1500-Control-Lease", lease)],
      named (ofString "X-Flex1500-TX-Lease") l = false := by
    have hapart : apart (ofString "X-Flex1500-TX-Lease")
        (ofString "X-Flex1500-Control-Lease") = true := by decide
    simp only [List.forall_mem_cons, List.not_mem_nil, false_imp_iff,
      implies_true, and_true]
    exact ⟨by decide, named_of_apart (by decide) _, named_of_apart hapart _⟩
  rw [streamText_eq]
  exact ⟨controlLease_of_header (header_number
      ("X-Flex1500-Control-Lease", lease) hplain hname hstation []),
    lease_of_header (header_number ("X-Flex1500-TX-Lease", txLease) hplain
      hname' hsession [])⟩

end Stream

end HttpCall

/-! ## The response -/

section Response

variable {statusLine body : String} {reason : CText} {status capacity : ℕ}

/-- The lines of a response. -/
def responseLines (statusLine : CText) (size : ℕ) : List CText :=
  [ofString "HTTP/1.1 " ++ statusLine,
    ofString "Content-Type: application/json",
    lengthName ++ 32 :: ofString (toString size),
    ofString "Connection: close", ofString "Cache-Control: no-store"]

/-- A response that fits is made of lines. -/
theorem ofString_httpResponse
    (hne : httpResponse statusLine body capacity ≠ "") :
    ofString (httpResponse statusLine body capacity)
      = headerText (responseLines (ofString statusLine) body.utf8ByteSize)
        ++ ofString body := by
  unfold httpResponse at hne ⊢
  dsimp only at hne ⊢
  split at hne
  · exact absurd rfl hne
  · rename_i hfits
    have htype : ofString
        "\r\nContent-Type: application/json\r\nContent-Length: "
        = crlf ++ (ofString "Content-Type: application/json" ++ (crlf
          ++ (lengthName ++ [32]))) := rfl
    have hend : ofString
        "\r\nConnection: close\r\nCache-Control: no-store\r\n\r\n"
        = crlf ++ (ofString "Connection: close" ++ (crlf
          ++ (ofString "Cache-Control: no-store" ++ (crlf ++ crlf)))) := rfl
    rw [if_neg hfits]
    simp only [ofString_append, htype, hend, headerText, responseLines,
      List.flatMap_cons, List.flatMap_nil, List.append_assoc,
      List.cons_append, List.nil_append]

/-- **The status and the body that are read** are those that were sent. -/
theorem ofResponse_httpResponse
    (hstatus : ofString statusLine
      = ofString (toString status) ++ 32 :: reason)
    (hthree : (ofString (toString status)).length = 3) (hsmall : status < 1000)
    (hreason : ∀ c ∈ reason, c ≠ 0 ∧ c ≠ 10 ∧ c ≠ 13)
    (hne : httpResponse statusLine body capacity ≠ "") :
    HttpReply.ofResponse (ofString (httpResponse statusLine body capacity))
      = some { status := status, body := ofString body } := by
  have hfirst : HeaderLine (ofString "HTTP/1.1 " ++ ofString statusLine) := by
    have hversion : HeaderLine (ofString "HTTP/1.1") :=
      headerLine_of_all (by decide) (by decide)
    have hnumber := headerLine_number hversion status
    have hline := hnumber.append (t := 32 :: reason) fun c hc =>
      (List.mem_cons.mp hc).elim (fun h => by rw [h]; decide) (hreason c)
    rwa [List.append_assoc, List.cons_append, ← hstatus] at hline
  have hlines : ∀ l ∈ responseLines (ofString statusLine) body.utf8ByteSize,
      HeaderLine l := by
    simp only [responseLines, List.forall_mem_cons, List.not_mem_nil,
      false_imp_iff, implies_true, and_true]
    exact ⟨hfirst, headerLine_of_all (by decide) (by decide),
      headerLine_length _, headerLine_of_all (by decide) (by decide),
      headerLine_of_all (by decide) (by decide)⟩
  have hend := strstr_blankLine (by simp [responseLines]) hlines (ofString body)
  have hbegin : ∃ rest, headerText
      (responseLines (ofString statusLine) body.utf8ByteSize) ++ ofString body
      = ofString "HTTP/1.1"
        ++ 32 :: (ofString (toString status) ++ 32 :: rest) := by
    refine ⟨reason ++ (crlf ++ (headerText ((responseLines (ofString
      statusLine) body.utf8ByteSize).drop 1) ++ ofString body)), ?_⟩
    rw [responseLines, headerText_cons_append, hstatus, List.append_assoc,
      List.append_assoc, List.cons_append]
    rfl
  obtain ⟨rest, hbegin⟩ := hbegin
  have hblank : 32 ∉ ofString "HTTP/1.1" := by decide
  have hspace := strstr_byte hblank (ofString (toString status) ++ 32 :: rest)
  have hdigits : stoi (((32 :: (ofString (toString status)
      ++ 32 :: rest)).drop 1).take 3) = some ((status : ℤ), []) := by
    rw [List.drop_one, List.tail_cons, ← hthree, List.take_left]
    have hvalue : decimal (ofString (toString status)) < 2 ^ 31 := by
      rw [decimal_toString]
      omega
    have hread := stoi_of_digits (toString_ne_nil status)
      (fun c => isDigit_of_mem_toString) (rfl : isDigit (peek []) = false)
      hvalue
    rwa [decimal_toString, List.append_nil] at hread
  rw [ofString_httpResponse hne, HttpReply.ofResponse, parseResponse, hend,
    hbegin, hspace]
  simp only [Option.bind_eq_bind, Option.bind_some, hdigits]
  rw [if_neg]
  · rfl
  · rw [List.length_cons, List.length_append, List.length_cons, hthree]
    omega

end Response
