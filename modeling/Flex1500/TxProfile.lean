import Mathlib.Data.Option.Basic
import Flex1500.Lib.CSearch
import Flex1500.Lib.JsonValue
import Flex1500.ApiOutcome

/-!
# What a session is reserved with

`parse_tx_profile` reads the body of `POST /v1/tx/sessions` without a
parser: it searches each member by its quoted name and its colon, and hands
what follows to `sscanf`. A name is not asked for its closing quote, and a
number may have a sign, wrap, and stop in the middle. So a session may be
reserved with a value that is not the one its client wrote.

A member is written here as the code looks it up, with its quotes and its
colon.
-/

open CText HttpRequest Api

variable {ρ : Type}

/-! ## What the body says -/

/-- The text behind the first occurrence of a member. -/
def memberText (key : String) (request : CText) : Option CText := do
  let text ← body request
  let found ← atKey key text
  some (found.drop (ofString key).length)

/-- The name of a mode. -/
def NetworkTxMode.word : NetworkTxMode → CText
  | .usb => ofString "usb"
  | .lsb => ofString "lsb"
  | .am => ofString "am"
  | .iqMode => ofString "iq"

/-- The name of a source. -/
def NetworkTxSource.word : NetworkTxSource → CText
  | .audio => ofString "audio"
  | .iq => ofString "iq"

/-- The name of the format a source has. -/
def NetworkTxSource.format : NetworkTxSource → CText
  | .audio => ofString "s16le"
  | .iq => ofString "cs16le"

/-- **A profile the body says**: each member's complete value is a supported
one, and the profile has exactly those. -/
structure ProfileSound (request : CText) (profile : NetworkTxProfile) :
    Prop where
  mode : ∃ text, memberText "\"mode\":" request = some text
    ∧ JsonWord text profile.mode.word
  source : ∃ text, memberText "\"source\":" request = some text
    ∧ JsonWord text profile.source.word
  format : ∃ text, memberText "\"sample_format\":" request = some text
    ∧ JsonWord text profile.source.format
  drive : ∃ text, memberText "\"drive_percent\":" request = some text
    ∧ JsonInteger text profile.drivePercent
  rate : ∃ text, memberText "\"sample_rate\":" request = some text
    ∧ JsonInteger text profile.sampleRate
  channels : ∃ text, memberText "\"channels\":" request = some text
    ∧ JsonInteger text 1
  inRange : txMinDrivePercent ≤ profile.drivePercent
    ∧ profile.drivePercent ≤ txMaxDrivePercent
  supported : profile.sampleRate = 48000
  paired : profile.source = .iq ↔ profile.mode = .iqMode

/-- The members that are words, with the letters they may have. -/
def wordMembers : List (String × (UInt8 → Bool)) :=
  [("\"mode\":", isLower), ("\"source\":", isLower),
    ("\"sample_format\":", fun c => isLower c || isDigit c)]

/-- The members that are numbers. -/
def numberMembers : List String :=
  ["\"drive_percent\":", "\"sample_rate\":", "\"channels\":"]

/-- **A body the scan reads whole**: every word is closed and every number
is whole. -/
structure ProfileRegular (request : CText) : Prop where
  words : ∀ member ∈ wordMembers, ∀ text,
    memberText member.1 request = some text → ClosedWord member.2 text
  numbers : ∀ key ∈ numberMembers, ∀ text,
    memberText key request = some text → WholeNumber text

/-! ## What the scan reads -/

/-- A word the scan stored. -/
structure ScannedWord (member : UInt8 → Bool) (text word : CText) : Prop where
  opened : peek (skipSpace text) = 34
  stored : scanSet 7 member ((skipSpace text).drop 1) = some word

variable {key : String} {member : UInt8 → Bool} {s text word : CText}
variable {value : ℕ} {request : CText} {profile : NetworkTxProfile}

/-- What a literal leaves. -/
theorem scanLiteral_eq_some {literal rest : CText}
    (h : scanLiteral literal s = some rest) : s = literal ++ rest := by
  unfold scanLiteral at h
  split at h
  · rename_i hfront
    obtain ⟨tail, rfl⟩ := hasPrefix_iff.mp hfront
    rw [← Option.some.inj h, List.drop_left]
  · exact absurd h (Option.some_ne_none _).symm

/-- **A word behind a key** is scanned past blanks, with its quote in
front. -/
theorem scannedWord_of_scanWord (h : scanWord key member s = some word) :
    ScannedWord member (s.drop (ofString key).length) word := by
  have hquote : ofString "\"" = [34] := rfl
  unfold scanWord at h
  obtain hblank | ⟨-, htight⟩ := (Option.orElse_eq_some ..).mp h
  · obtain ⟨blank, hkey, hrest⟩ := Option.bind_eq_some_iff.mp hblank
    obtain ⟨letters, hopen, hset⟩ := Option.bind_eq_some_iff.mp hrest
    have hskip := scanLiteral_eq_some hopen
    rw [hquote] at hskip
    rw [scanLiteral_eq_some hkey, List.drop_left]
    refine ⟨?_, ?_⟩
    · rw [hskip]
      rfl
    · rw [hskip]
      exact hset
  · obtain ⟨letters, hkey, hset⟩ := Option.bind_eq_some_iff.mp htight
    have hs := scanLiteral_eq_some hkey
    rw [ofString_append, hquote, List.append_assoc] at hs
    have hskip : skipSpace (34 :: letters) = 34 :: letters := rfl
    rw [hs, List.drop_left]
    exact ⟨rfl, hset⟩

/-- **A number behind a key** is scanned past blanks. -/
theorem scanUnsigned_of_scanNumber (h : scanNumber key s = some value) :
    scanUnsigned (s.drop (ofString key).length) = some value := by
  unfold scanNumber at h
  obtain hblank | ⟨-, htight⟩ := (Option.orElse_eq_some ..).mp h
  · obtain ⟨blank, hkey, hscan⟩ := Option.bind_eq_some_iff.mp hblank
    rw [scanLiteral_eq_some hkey, List.drop_left]
    rw [scanUnsigned, strtoull_skipSpace] at hscan
    exact hscan
  · obtain ⟨number, hkey, hscan⟩ := Option.bind_eq_some_iff.mp htight
    rw [scanLiteral_eq_some hkey, List.drop_left]
    exact hscan

/-- **What the scan reads** of a profile. -/
structure ProfileScanned (request : CText) (profile : NetworkTxProfile) :
    Prop where
  mode : ∃ text, memberText "\"mode\":" request = some text
    ∧ ScannedWord isLower text profile.mode.word
  source : ∃ text, memberText "\"source\":" request = some text
    ∧ ScannedWord isLower text profile.source.word
  format : ∃ text, memberText "\"sample_format\":" request = some text
    ∧ ScannedWord (fun c => isLower c || isDigit c) text
      profile.source.format
  drive : ∃ text, memberText "\"drive_percent\":" request = some text
    ∧ scanUnsigned text = some profile.drivePercent
  rate : ∃ text, memberText "\"sample_rate\":" request = some text
    ∧ scanUnsigned text = some profile.sampleRate
  channels : ∃ text, memberText "\"channels\":" request = some text
    ∧ scanUnsigned text = some 1

/-- Every profile that is parsed was scanned. -/
theorem scanned_of_parse (h : parseTxProfile request = some profile) :
    ProfileScanned request profile := by
  obtain ⟨text, hbody, h⟩ := Option.bind_eq_some_iff.mp h
  obtain ⟨mode, hmode, h⟩ := Option.bind_eq_some_iff.mp h
  obtain ⟨source, hsource, h⟩ := Option.bind_eq_some_iff.mp h
  obtain ⟨drive, hdrive, h⟩ := Option.bind_eq_some_iff.mp h
  obtain ⟨rate, hrate, h⟩ := Option.bind_eq_some_iff.mp h
  obtain ⟨format, hformat, h⟩ := Option.bind_eq_some_iff.mp h
  obtain ⟨channels, hchannels, h⟩ := Option.bind_eq_some_iff.mp h
  obtain ⟨modeText, hmodeText, h⟩ := Option.bind_eq_some_iff.mp h
  obtain ⟨sourceText, hsourceText, h⟩ := Option.bind_eq_some_iff.mp h
  obtain ⟨driveValue, hdriveValue, h⟩ := Option.bind_eq_some_iff.mp h
  obtain ⟨rateValue, hrateValue, h⟩ := Option.bind_eq_some_iff.mp h
  obtain ⟨formatText, hformatText, h⟩ := Option.bind_eq_some_iff.mp h
  obtain ⟨channelValue, hchannelValue, h⟩ := Option.bind_eq_some_iff.mp h
  dsimp only at h
  split at h
  swap
  · exact absurd h (Option.some_ne_none _).symm
  rename_i hknown
  obtain ⟨hmodes, hsources, hone⟩ := hknown
  cases Option.some.inj h
  have hmember {key : String} {found : CText}
      (hfound : atKey key text = some found) :
      memberText key request = some (found.drop (ofString key).length) := by
    rw [memberText, hbody]
    show ((atKey key text).bind _) = _
    rw [hfound]
    rfl
  have hmodeWord : (if modeText = ofString "usb" then NetworkTxMode.usb
      else if modeText = ofString "lsb" then .lsb
      else if modeText = ofString "am" then .am else .iqMode).word
        = modeText := by
    simp only [List.mem_cons, List.not_mem_nil, or_false] at hmodes
    obtain rfl | rfl | rfl | rfl := hmodes <;> rfl
  have hsourceWord : (if sourceText = ofString "audio" then
        NetworkTxSource.audio else .iq).word = sourceText
      ∧ (if sourceText = ofString "audio" then
        NetworkTxSource.audio else .iq).format = formatText := by
    obtain ⟨rfl, rfl⟩ | ⟨rfl, rfl⟩ := hsources
    · exact ⟨rfl, rfl⟩
    · exact ⟨rfl, rfl⟩
  exact
    { mode := ⟨_, hmember hmode, by
        rw [hmodeWord]
        exact scannedWord_of_scanWord hmodeText⟩
      source := ⟨_, hmember hsource, by
        rw [hsourceWord.1]
        exact scannedWord_of_scanWord hsourceText⟩
      format := ⟨_, hmember hformat, by
        rw [hsourceWord.2]
        exact scannedWord_of_scanWord hformatText⟩
      drive := ⟨_, hmember hdrive, scanUnsigned_of_scanNumber hdriveValue⟩
      rate := ⟨_, hmember hrate, scanUnsigned_of_scanNumber hrateValue⟩
      channels := ⟨_, hmember hchannels, by
        rw [← hone]
        exact scanUnsigned_of_scanNumber hchannelValue⟩ }

/-! ## When the scan is sound -/

/-- A scanned name is the complete value where it is closed. -/
theorem jsonWord_of_scanned (hmember : member 34 = false)
    (hscanned : ScannedWord member text word) (hshort : word.length < 7) :
    JsonWord text word ↔ ClosedWord member text :=
  jsonWord_iff hmember hscanned.opened hscanned.stored hshort

/-- No name is as long as the scan's buffer. -/
theorem length_words (profile : NetworkTxProfile) :
    profile.mode.word.length < 7 ∧ profile.source.word.length < 7
      ∧ profile.source.format.length < 7 := by
  refine ⟨?_, ?_, ?_⟩
  · cases profile.mode <;> decide
  · cases profile.source <;> decide
  · cases profile.source <;> decide

/-- A valid profile pairs the source with its modes. -/
theorem valid_iff : profile.valid = true
    ↔ (txMinDrivePercent ≤ profile.drivePercent
        ∧ profile.drivePercent ≤ txMaxDrivePercent)
      ∧ profile.sampleRate = 48000
      ∧ (profile.source = .iq ↔ profile.mode = .iqMode) := by
  unfold NetworkTxProfile.valid
  split
  · rename_i hbad
    refine ⟨fun h => (Bool.false_ne_true h).elim, ?_⟩
    rintro ⟨⟨hlow, hhigh⟩, hrate, -⟩
    obtain h | h | h := hbad
    · exact (Nat.not_lt.mpr hlow h).elim
    · exact (Nat.not_lt.mpr hhigh h).elim
    · exact (h hrate).elim
  · rename_i hgood
    obtain ⟨hlow, hrest⟩ := not_or.mp hgood
    obtain ⟨hhigh, hrate⟩ := not_or.mp hrest
    have hbounds := And.intro
      (And.intro (Nat.not_lt.mp hlow) (Nat.not_lt.mp hhigh)) (not_not.mp hrate)
    refine Iff.trans ?_ (and_iff_right hbounds.1 |>.trans
      (and_iff_right hbounds.2)).symm
    cases profile.source <;> cases profile.mode <;> simp

/-- One member's value is complete exactly where the text behind it is
regular. -/
theorem member_iff (P Q : CText → Prop) {found : Option CText}
    (hfound : found = some text) (h : P text ↔ Q text) :
    (∃ t, found = some t ∧ P t) ↔ ∀ t, found = some t → Q t := by
  constructor
  · rintro ⟨t, ht, hP⟩ t' ht'
    cases hfound.symm.trans ht
    cases hfound.symm.trans ht'
    exact h.mp hP
  · exact fun hQ => ⟨text, hfound, h.mpr (hQ text hfound)⟩

/-- **A scanned profile is sound** where the body is regular. -/
theorem sound_of_scanned (hscanned : ProfileScanned request profile)
    (hvalid : profile.valid = true) :
    ProfileSound request profile ↔ ProfileRegular request := by
  obtain ⟨hrange, hrate, hpaired⟩ := valid_iff.mp hvalid
  obtain ⟨hmodeShort, hsourceShort, hformatShort⟩ := length_words profile
  obtain ⟨mode, hmode, hmodeScanned⟩ := hscanned.mode
  obtain ⟨source, hsource, hsourceScanned⟩ := hscanned.source
  obtain ⟨format, hformat, hformatScanned⟩ := hscanned.format
  obtain ⟨drive, hdrive, hdriveScanned⟩ := hscanned.drive
  obtain ⟨rateText, hrateText, hrateScanned⟩ := hscanned.rate
  obtain ⟨channels, hchannels, hchannelsScanned⟩ := hscanned.channels
  have hmodeIff := member_iff (JsonWord · profile.mode.word)
    (ClosedWord isLower) hmode
    (jsonWord_of_scanned rfl hmodeScanned hmodeShort)
  have hsourceIff := member_iff (JsonWord · profile.source.word)
    (ClosedWord isLower) hsource
    (jsonWord_of_scanned rfl hsourceScanned hsourceShort)
  have hformatIff := member_iff (JsonWord · profile.source.format)
    (ClosedWord fun c => isLower c || isDigit c) hformat
    (jsonWord_of_scanned rfl hformatScanned hformatShort)
  have hdriveIff := member_iff (JsonInteger · profile.drivePercent)
    WholeNumber hdrive (jsonInteger_iff hdriveScanned
      (Nat.lt_of_lt_of_le (by decide) hrange.1))
  have hrateIff := member_iff (JsonInteger · profile.sampleRate)
    WholeNumber hrateText (jsonInteger_iff hrateScanned
      (hrate ▸ by decide))
  have hchannelsIff := member_iff (JsonInteger · 1)
    WholeNumber hchannels (jsonInteger_iff hchannelsScanned Nat.one_pos)
  constructor
  · intro hsound
    refine ⟨?_, ?_⟩
    · simp only [wordMembers, List.forall_mem_cons, List.not_mem_nil,
        false_implies, implies_true, and_true]
      exact ⟨hmodeIff.mp hsound.mode, hsourceIff.mp hsound.source,
        hformatIff.mp hsound.format⟩
    · simp only [numberMembers, List.forall_mem_cons, List.not_mem_nil,
        false_implies, implies_true, and_true]
      exact ⟨hdriveIff.mp hsound.drive, hrateIff.mp hsound.rate,
        hchannelsIff.mp hsound.channels⟩
  · rintro ⟨hwords, hnumbers⟩
    simp only [wordMembers, numberMembers, List.forall_mem_cons,
      List.not_mem_nil, false_implies, implies_true, and_true]
      at hwords hnumbers
    exact
      { mode := hmodeIff.mpr hwords.1
        source := hsourceIff.mpr hwords.2.1
        format := hformatIff.mpr hwords.2.2
        drive := hdriveIff.mpr hnumbers.1
        rate := hrateIff.mpr hnumbers.2.1
        channels := hchannelsIff.mpr hnumbers.2.2
        inRange := hrange
        supported := hrate
        paired := hpaired }

/-! ## What is reserved -/

/-- A session that is reserved was parsed. -/
theorem parsed_of_reserved {p : TxPlane (ApiWorld ρ)}
    (hfree : p.network.reserved = false)
    (hreserved : (txSessionCreate request p).2.network.reserved = true) :
    ∃ profile, parseTxProfile request = some profile
      ∧ profile.valid = true
      ∧ (txSessionCreate request p).2.network.profile = profile := by
  unfold txSessionCreate at hreserved ⊢
  dsimp only at hreserved ⊢
  cases hparse : (if (header "Content-Type" request).any
      (hasPrefixIgnoringCase (ofString "application/json")) then
        parseTxProfile request else none) with
  | none =>
    rw [hparse] at hreserved
    rw [show p.network.reserved = true from hreserved] at hfree
    exact absurd hfree (Bool.noConfusion)
  | some profile =>
    rw [hparse] at hreserved
    dsimp only at hreserved ⊢
    have hparsed : parseTxProfile request = some profile := by
      split at hparse
      · exact hparse
      · exact absurd hparse (Option.some_ne_none _).symm
    refine ⟨profile, hparsed, ?_⟩
    unfold NetworkTx.acquire at hreserved ⊢
    split at hreserved
    · rw [show p.network.reserved = true from hreserved] at hfree
      exact absurd hfree (Bool.noConfusion)
    rename_i henabled
    rw [if_neg henabled]
    split at hreserved
    · rw [show p.network.reserved = true from hreserved] at hfree
      exact absurd hfree (Bool.noConfusion)
    rename_i hvalid
    rw [if_neg hvalid]
    split at hreserved
    · rw [show p.network.reserved = true from hreserved] at hfree
      exact absurd hfree (Bool.noConfusion)
    rename_i hvacant
    rw [if_neg hvacant]
    refine ⟨?_, rfl⟩
    by_contra hno
    exact hvalid (by simp [hno])

/-- **A profile that was read is the one reserved**, where nobody has the
transmitter. -/
theorem reserved_of_parse {p : TxPlane (ApiWorld ρ)}
    (hjson : (header "Content-Type" request).any
      (hasPrefixIgnoringCase (ofString "application/json")) = true)
    (hparse : parseTxProfile request = some profile)
    (hvalid : profile.valid = true)
    (henabled : p.network.enabled = true ∧ p.tx.enabled = true)
    (hfree : p.network.reserved = false ∧ p.tx.owner = .none) :
    (txSessionCreate request p).2.network.reserved = true
      ∧ (txSessionCreate request p).2.network.profile = profile := by
  have hlease : (issueLease p.world.api.nextTxLease).1 ≠ 0 := by
    unfold issueLease
    split
    · decide
    · assumption
  unfold txSessionCreate
  dsimp only
  rw [if_pos hjson, hparse]
  dsimp only
  unfold NetworkTx.acquire
  rw [if_neg (by simp [TxPlane.withApi, henabled]),
    if_neg (by simp [hvalid, hlease]),
    if_neg (by simp [TxPlane.withApi, hfree])]
  exact ⟨rfl, rfl⟩

section Dispatch

variable (cb : TxCallbacks (TxContext (ApiWorld ρ))) (ops : RadioOps ρ)
variable (radio : RadioInfo) (capacity : ℕ) (pages : ApiPages)
variable {p : TxPlane (ApiWorld ρ)}

/-- The route that creates sessions is one of the transmitter's. -/
theorem txGeneralPath_of_create
    (hcreate : requestIs "POST" "/v1/tx/sessions" request = true) :
    txGeneralPath request = true := by
  have hpost : hasPrefix (ofString "POST /v1/tx/") request = true :=
    hasPrefix_iff.mpr (List.IsPrefix.trans (by decide)
      (hasPrefix_iff.mp hcreate))
  simp [txGeneralPath, hpost]

/-- An authorised request for a session gets to its route. -/
theorem dispatch_create
    (hcreate : requestIs "POST" "/v1/tx/sessions" request = true)
    (hauthorised : Authorised request p) :
    dispatch cb ops request radio capacity pages p
      = txRoute cb request radio capacity p := by
  have hgeneral := txGeneralPath_of_create hcreate
  have hpath : stationControlled request = true := by
    simp [stationControlled, hgeneral]
  have hrouted := not_ownerRouted hpath
  rw [ownerRouted] at hrouted
  have hauthorised : p.world.api.stationRequestAuthorized p.world.station
      request = true := hauthorised
  rw [dispatch, hrouted, hpath, hauthorised, hgeneral]
  rfl

/-- **An authorised request creates a session**, where there are any. -/
theorem network_of_authorised
    (hcreate : requestIs "POST" "/v1/tx/sessions" request = true)
    (hauthorised : Authorised request p)
    (hattached : ¬ (!p.world.api.networkAttached || !p.network.enabled)
      = true) :
    (dispatch cb ops request radio capacity pages p).2.network
      = (txSessionCreate request p).2.network := by
  have hoperation : (txOperation cb request radio p).2
      = (txSessionCreate request p).2 := by
    rw [txOperation, if_pos hcreate]
  rw [dispatch_create cb ops radio capacity pages hcreate hauthorised,
    ← hoperation]
  unfold txRoute
  rw [if_neg hattached]
  dsimp only
  split
  · rfl
  split
  · rfl
  dsimp only
  split
  · rfl
  · rfl

/-- A session is created by its route, or it is as it was. -/
theorem network_of_create
    (hcreate : requestIs "POST" "/v1/tx/sessions" request = true) :
    (dispatch cb ops request radio capacity pages p).2.network = p.network
      ∨ (dispatch cb ops request radio capacity pages p).2.network
        = (txSessionCreate request p).2.network := by
  by_cases hauthorised : Authorised request p
  · by_cases hattached : (!p.world.api.networkAttached || !p.network.enabled)
        = true
    · rw [dispatch_create cb ops radio capacity pages hcreate hauthorised,
        txRoute, if_pos hattached]
      exact Or.inl rfl
    · exact Or.inr (network_of_authorised cb ops radio capacity pages
        hcreate hauthorised hattached)
  · have hno : p.world.api.stationRequestAuthorized p.world.station request
        = false := by
      simpa [Authorised] using hauthorised
    have hpath : stationControlled request = true := by
      simp [stationControlled, txGeneralPath_of_create hcreate]
    obtain ⟨-, f, hsame⟩ :=
      rejected_of_unauthorised cb radio ops capacity pages hpath hno
    rw [hsame]
    exact Or.inl rfl

/-- **The profile of a session** that a request reserves is the one its body
says exactly where every word of the body is closed and every number whole;
and the source is always paired with its modes. -/
theorem reserved_iff (request : CText)
    (hcreate : requestIs "POST" "/v1/tx/sessions" request = true)
    (hfree : p.network.reserved = false)
    (hreserved : (dispatch cb ops request radio capacity pages
      p).2.network.reserved = true) :
    (ProfileSound request (dispatch cb ops request radio capacity pages
        p).2.network.profile ↔ ProfileRegular request)
      ∧ ((dispatch cb ops request radio capacity pages
          p).2.network.profile.source = .iq
        ↔ (dispatch cb ops request radio capacity pages
          p).2.network.profile.mode = .iqMode) := by
  obtain hsame | hcreated :=
    network_of_create cb ops radio capacity pages hcreate
  · rw [hsame, hfree] at hreserved
    exact (Bool.false_ne_true hreserved).elim
  rw [hcreated] at hreserved ⊢
  obtain ⟨profile, hparsed, hvalid, hprofile⟩ :=
    parsed_of_reserved hfree hreserved
  rw [hprofile]
  exact ⟨sound_of_scanned (scanned_of_parse hparsed) hvalid,
    (valid_iff.mp hvalid).2.2⟩

end Dispatch

/-! ## A session that was not asked for -/

/-- A plane that reserves a session for anybody. -/
def openPlane : TxPlane (ApiWorld Unit) where
  tx := TxControl.init true 180000
  tune := .init true
  network := .init true
  world :=
    { api := { ApiController.init true true true with
        tuneAttached := true, networkAttached := true }
      station := .init
      radio := () }

/-- A request for a session with the mode and the drive as they are
written. -/
def sessionRequest (mode drive : String) : CText :=
  ofString ("POST /v1/tx/sessions HTTP/1.1\r\n"
    ++ "Content-Type: application/json\r\n\r\n"
    ++ "\x7b\"mode\":" ++ mode ++ ",\"source\":\"audio\",\"drive_percent\":"
    ++ drive ++ ",\"sample_rate\":48000,"
    ++ "\"sample_format\":\"s16le\",\"channels\":1\x7d")

/-- What the dispatcher does with it. -/
def sessionServed (mode drive : String) : TxPlane (ApiWorld Unit) :=
  (dispatch { start := none, stop := none } noOps (sessionRequest mode drive)
    { frequencyHz := none } 4096 { status := none, radio := none }
    openPlane).2

/-- The request is one for a session, whatever it has written. -/
theorem requestIs_sessionRequest (mode drive : String) :
    requestIs "POST" "/v1/tx/sessions" (sessionRequest mode drive)
      = true := by
  have hfront : ofString ("POST" ++ " " ++ "/v1/tx/sessions" ++ " HTTP/")
      <+: ofString "POST /v1/tx/sessions HTTP/1.1\r\n" := by
    decide
  refine hasPrefix_iff.mpr (hfront.trans ?_)
  simp only [sessionRequest, String.append_assoc]
  rw [ofString_append]
  exact List.prefix_append _ _

/-- What it reserves is the profile that is read of it. -/
theorem sessionServed_of_parse {mode drive : String}
    (profile : NetworkTxProfile)
    (hread : ((header "Content-Type" (sessionRequest mode drive)).any
        (hasPrefixIgnoringCase (ofString "application/json")) = true)
      ∧ parseTxProfile (sessionRequest mode drive) = some profile)
    (hvalid : profile.valid = true) :
    (sessionServed mode drive).network.reserved = true
      ∧ (sessionServed mode drive).network.profile = profile := by
  have hauthorised : Authorised (sessionRequest mode drive) openPlane :=
    if_pos rfl
  unfold sessionServed
  rw [network_of_authorised _ _ _ _ _ (requestIs_sessionRequest mode drive)
    hauthorised Bool.false_ne_true]
  exact reserved_of_parse hread.1 hread.2 hvalid ⟨rfl, rfl⟩ ⟨rfl, rfl⟩

set_option maxRecDepth 10000 in
/-- An ordinary request reserves a session, whose profile is the one it says
if its words are closed and its numbers whole. -/
theorem reserved_iff_ordinary :
    (sessionServed "\"usb\"" "50").network.reserved = true
      ∧ (ProfileSound (sessionRequest "\"usb\"" "50")
          (sessionServed "\"usb\"" "50").network.profile
        ↔ ProfileRegular (sessionRequest "\"usb\"" "50"))
      ∧ ((sessionServed "\"usb\"" "50").network.profile.source = .iq
        ↔ (sessionServed "\"usb\"" "50").network.profile.mode = .iqMode) := by
  have hreserved : (sessionServed "\"usb\"" "50").network.reserved = true :=
    (sessionServed_of_parse ⟨.usb, .audio, 50, 48000⟩ (by
      -- as bytes, which are read much faster than strings
      simp only [sessionRequest, ofString, String.toList_append,
        String.reduceToList, List.map_cons, List.map_nil,
        List.cons_append, List.nil_append]
      decide +kernel) (by decide)).1
  refine ⟨hreserved, ?_⟩
  rw [sessionServed] at hreserved ⊢
  exact reserved_iff { start := none, stop := none } noOps
    { frequencyHz := none } 4096 { status := none, radio := none }
    (sessionRequest "\"usb\"" "50") (requestIs_sessionRequest _ _) rfl
    hreserved

set_option maxRecDepth 10000 in
/-- **A session nobody asked for**: a mode `usb2` and a drive of 4294967346
reserve a session in the upper side band with a drive of 50. -/
theorem reserved_unasked :
    (sessionServed "\"usb2\"" "4294967346").network.reserved = true
      ∧ (sessionServed "\"usb2\"" "4294967346").network.profile.mode = .usb
      ∧ (sessionServed "\"usb2\"" "4294967346").network.profile.drivePercent
        = 50
      ∧ ¬ ProfileSound (sessionRequest "\"usb2\"" "4294967346")
        (sessionServed "\"usb2\"" "4294967346").network.profile := by
  have hread :
      ((header "Content-Type" (sessionRequest "\"usb2\"" "4294967346")).any
          (hasPrefixIgnoringCase (ofString "application/json")) = true
        ∧ parseTxProfile (sessionRequest "\"usb2\"" "4294967346")
          = some ⟨.usb, .audio, 50, 48000⟩)
        ∧ ∀ t ∈ memberText "\"drive_percent\":"
            (sessionRequest "\"usb2\"" "4294967346"),
          scanUnsigned t = some 50
            ∧ ¬ decimal ((skipSpace t).takeWhile isDigit) < 2 ^ 32 := by
    -- as bytes, which are read much faster than strings
    simp only [sessionRequest, ofString, String.toList_append,
      String.reduceToList, List.map_cons, List.map_nil,
      List.cons_append, List.nil_append]
    decide +kernel
  obtain ⟨hreserved, hprofile⟩ :=
    sessionServed_of_parse _ hread.1 (by decide)
  rw [hprofile]
  refine ⟨hreserved, rfl, rfl, fun hsound => ?_⟩
  obtain ⟨text, htext, hnumber⟩ := hsound.drive
  obtain ⟨hscanned, hwraps⟩ := hread.2 text htext
  exact hwraps ((jsonInteger_iff hscanned (by decide)).mp hnumber).fits
