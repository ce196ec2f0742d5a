import Mathlib.Data.List.Nodup
import Flex1500.Config
import Flex1500.Lib.CNumber
import Flex1500.Lib.Path

/-!
# The configuration is printed as it is loaded

The printer and the loader are held against one table of their own: which
keys there are, how they are spelled and which section each one stands in.

What the loader stores can be printed, since a value has been trimmed and
comes from one line. What is printed is read back line by line, and a key
that is read takes its setting over. And whatever a file says, the loader
reads each key of that table once at most and nothing else.
-/

open CText

namespace Config

variable {config target : Config} {state state' : Loading}

/-! ## The table -/

/-- The name of a section in its header. -/
def Section.name : Section → String
  | .daemon => "daemon"
  | .radio => "radio"
  | .http => "http"
  | .rtlTcp => "rtl_tcp"

/-- The name of a key in front of its equals sign. -/
def Key.name : Key → String
  | .enabled | .rtlEnabled => "enabled"
  | .mode => "mode"
  | .bind | .rtlBind => "bind"
  | .port | .rtlPort => "port"
  | .testPage => "test_page"

/-- The section a key stands in. -/
def Key.home : Key → Section
  | .enabled => .daemon
  | .mode => .radio
  | .bind | .port | .testPage => .http
  | .rtlEnabled | .rtlBind | .rtlPort => .rtlTcp

/-- **The loader's sections** are those of the table. -/
theorem sectionNamed_eq_some_iff {name : CText} {current : Section} :
    sectionNamed name = some current ↔ name = ofString current.name := by
  constructor
  · intro h
    unfold sectionNamed at h
    split_ifs at h <;> obtain rfl := Option.some.inj h <;> assumption
  · rintro rfl
    cases current <;> decide

/-- **The loader's keys** are those of the table. -/
theorem keyNamed_eq_some_iff {current : Section} {name : CText} {key : Key} :
    keyNamed current name = some key
      ↔ current = key.home ∧ name = ofString key.name := by
  constructor
  · intro h
    unfold keyNamed at h
    split_ifs at h <;> obtain rfl := Option.some.inj h <;> assumption
  · rintro ⟨rfl, rfl⟩
    cases key <;> decide

/-! ## What the loader stores -/

/-- A text that one line of a file can end with: there is something of it,
no white space around it, and no end of a line or of a string in it. -/
structure OnLine (text : CText) : Prop where
  nonempty : text ≠ []
  trimmed : trim text = text
  newline : 10 ∉ text
  zero : 0 ∉ text

/-- **A configuration that can be printed**: its addresses stand on a line,
and its ports are ports. -/
structure Printable (config : Config) : Prop where
  httpBind : OnLine config.httpBind.text
  httpPort : config.httpPort ≠ 0
  rtlTcpBind : OnLine config.rtlTcpBind.text
  rtlTcpPort : config.rtlTcpPort ≠ 0

theorem printable_defaults : defaults.Printable where
  httpBind := ⟨by decide, by decide, by decide, by decide⟩
  httpPort := by decide
  rtlTcpBind := ⟨by decide, by decide, by decide, by decide⟩
  rtlTcpPort := by decide

theorem parseBind_eq_some_iff {text : CText} {address : BindAddress} :
    parseBind text = some address ↔ text ≠ [] ∧ address.text = text := by
  unfold parseBind
  constructor
  · intro h
    split at h
    · rename_i hfits
      obtain rfl := Option.some.inj h
      exact ⟨List.length_pos_iff.mp hfits.1, rfl⟩
    · exact absurd h (Option.some_ne_none _).symm
  · rintro ⟨hne, rfl⟩
    rw [dif_pos ⟨List.length_pos_iff.mpr hne, address.fits⟩]

theorem parsePort_ne_zero {text : CText} {port : UInt16}
    (h : parsePort text = some port) : port ≠ 0 := by
  unfold parsePort at h
  split at h
  · rename_i value _
    split at h
    · rename_i hrange
      obtain rfl := Option.some.inj h
      have hlow : 0 < value.toNat := hrange.1
      have hhigh : value.toNat ≤ 65535 := hrange.2
      intro hzero
      have hzero : value.toNat % 2 ^ 16 = 0 := congrArg UInt16.toNat hzero
      omega
    · exact absurd h (Option.some_ne_none _).symm
  · exact absurd h (Option.some_ne_none _).symm

/-- **A value that stands on a line** leaves a configuration printable. -/
theorem Printable.store (h : config.Printable) {value : CText}
    (hvalue : value ≠ [] → OnLine value) {key : Key} {stored : Config}
    (hstore : config.store value key = some stored) : stored.Printable := by
  have haddress {address : BindAddress}
      (hparse : parseBind value = some address) : OnLine address.text := by
    obtain ⟨hne, htext⟩ := parseBind_eq_some_iff.mp hparse
    exact htext ▸ hvalue hne
  cases key <;> obtain ⟨parsed, hparse, rfl⟩ := Option.map_eq_some_iff.mp hstore
  case bind => exact { h with httpBind := haddress hparse }
  case port => exact { h with httpPort := parsePort_ne_zero hparse }
  case rtlBind => exact { h with rtlTcpBind := haddress hparse }
  case rtlPort => exact { h with rtlTcpPort := parsePort_ne_zero hparse }
  all_goals exact ⟨h.httpBind, h.httpPort, h.rtlTcpBind, h.rtlTcpPort⟩

/-! ## What the loop does -/

/-- The newline of a line is no matter. -/
theorem entry_newline (line : CText) : entry (line ++ [10]) = entry line := by
  unfold entry
  rw [trim_concat (by decide)]

/-- The loop one line further. -/
def Loading.next (state : Loading) : Loading :=
  { state with lineNumber := state.lineNumber + 1 }

/-- **What the loop makes of a line** it does not reject, by what the line
is. -/
inductive Reads : Entry → Loading → Loading → Prop where
  | blank (state : Loading) : Reads .blank state state.next
  | header {name : CText} {named : Section} (state : Loading)
      (hnamed : sectionNamed name = some named) :
      Reads (.header name) state { state.next with current := some named }
  | setting {name value : CText} {current : Section} {key : Key}
      {stored : Config} {state : Loading}
      (hcurrent : state.current = some current)
      (hkey : keyNamed current name = some key) (hseen : key ∉ state.seen)
      (hstore : state.config.store value key = some stored) :
      Reads (.setting name value) state
        { state.next with config := stored, seen := key :: state.seen }

/-- A line that was handed out whole. -/
def WholeLine (line : CLine) : Prop :=
  10 ∈ line.text ∨ line.atEnd = true

theorem readSetting_eq_ok_iff {current : Section} {name value : CText} :
    readSetting current name value state = .ok state'
      ↔ ∃ key stored, keyNamed current name = some key ∧ key ∉ state.seen
        ∧ state.config.store value key = some stored
        ∧ state' = { state with config := stored, seen := key :: state.seen } := by
  unfold readSetting
  cases hkey : keyNamed current name with
  | none =>
    constructor
    · exact fun h => nomatch h
    · rintro ⟨_, _, hnone, -⟩
      exact nomatch hnone
  | some key =>
    dsimp only
    constructor
    · intro h
      split at h
      · exact nomatch h
      rename_i hseen
      cases hstore : state.config.store value key with
      | none =>
        rw [hstore] at h
        exact nomatch h
      | some stored =>
        rw [hstore] at h
        exact ⟨key, stored, rfl, hseen, hstore, (Except.ok.inj h).symm⟩
    · rintro ⟨_, stored, hsame, hseen, hstore, rfl⟩
      obtain rfl := Option.some.inj hsame
      rw [if_neg hseen, hstore]
      rfl

/-- **One pass of the loop**, where it does not end it. -/
theorem readLine_eq_ok_iff {line : CLine} : readLine line state = .ok state'
    ↔ WholeLine line ∧ Reads (entry line.text) state state' := by
  unfold readLine
  dsimp only
  by_cases hwhole : WholeLine line
  · have hlong : ¬(10 ∉ line.text ∧ line.atEnd = false) := by
      rintro ⟨hnewline, hend⟩
      exact hwhole.elim hnewline fun h => by simp [h] at hend
    rw [if_neg hlong, and_iff_right hwhole]
    generalize entry line.text = e
    cases e with
    | blank =>
      constructor
      · intro h
        exact Except.ok.inj h ▸ .blank state
      · rintro ⟨⟩
        rfl
    | malformed => exact ⟨fun h => (nomatch h), fun h => (nomatch h)⟩
    | header name =>
      dsimp only
      constructor
      · intro h
        split at h
        · rename_i hnamed
          exact Except.ok.inj h ▸ .header state hnamed
        · exact nomatch h
      · rintro (_ | ⟨_, hnamed⟩)
        rw [hnamed]
        rfl
    | setting name value =>
      cases hcurrent : state.current with
      | none =>
        constructor
        · exact fun h => nomatch h
        · rintro (_ | _ | ⟨hsome, -, -, -⟩)
          exact absurd (hcurrent.symm.trans hsome)
            (Option.some_ne_none _).symm
      | some current =>
        refine readSetting_eq_ok_iff.trans ⟨?_, ?_⟩
        · rintro ⟨key, stored, hkey, hseen, hstore, rfl⟩
          rw [← hcurrent]
          exact .setting hcurrent hkey hseen hstore
        · rintro (_ | _ | ⟨hsome, hkey, hseen, hstore⟩)
          obtain rfl := Option.some.inj (hcurrent.symm.trans hsome)
          exact ⟨_, _, hkey, hseen, hstore, by rw [← hcurrent]; rfl⟩
    | other => exact ⟨fun h => (nomatch h), fun h => (nomatch h)⟩
  · have hlong : 10 ∉ line.text ∧ line.atEnd = false := by
      simpa [WholeLine] using hwhole
    rw [if_pos hlong]
    exact ⟨fun h => (nomatch h), fun h => absurd h.1 hwhole⟩

/-- **The loop** reads its lines one after the other, or rejects one. -/
theorem readLines_eq_ok_iff {lines : List CLine} :
    readLines lines state = .ok state'
      ↔ (∀ line ∈ lines, WholeLine line)
        ∧ LabelledPath Reads (lines.map (entry ·.text)) state state' := by
  induction lines generalizing state with
  | nil =>
    constructor
    · intro h
      obtain rfl := Except.ok.inj h
      exact ⟨fun _ hline => absurd hline List.not_mem_nil, .nil _⟩
    · rintro ⟨-, ⟨⟩⟩
      rfl
  | cons line rest ih =>
    rw [readLines, List.forall_mem_cons, List.map_cons]
    constructor
    · intro h
      split at h
      · exact nomatch h
      · rename_i hline
        obtain ⟨hwhole, hreads⟩ := readLine_eq_ok_iff.mp hline
        obtain ⟨hrest, hpath⟩ := ih.mp h
        exact ⟨⟨hwhole, hrest⟩, .cons hreads hpath⟩
    · rintro ⟨⟨hwhole, hrest⟩, ⟨⟩ | ⟨hreads, hpath⟩⟩
      rw [readLine_eq_ok_iff.mpr ⟨hwhole, hreads⟩]
      exact ih.mpr ⟨hrest, hpath⟩

/-- **Loading succeeds** on a file that the loop reads to its end. -/
theorem load_opened {path : CText} {missingIsOk : Bool} {errorSize : ℕ}
    {file : CFile} (hread : readLines (file.lines 512) { config := config }
      = .ok state) (hfails : file.fails = false) :
    config.load path missingIsOk errorSize (.opened file)
      = { valid := true, config := state.config } := by
  rw [load, hread]
  dsimp only
  rw [if_neg (by simp [hfails])]

/-- And only there. -/
theorem readLines_of_valid {path : CText} {missingIsOk : Bool}
    {errorSize : ℕ} {file : CFile}
    (h : (config.load path missingIsOk errorSize (.opened file)).valid
      = true) : file.fails = false
    ∧ ∃ state, readLines (file.lines 512) { config := config } = .ok state := by
  rw [load] at h
  cases hread : readLines (file.lines 512) { config := config } with
  | error rejection =>
    rw [hread] at h
    exact nomatch h
  | ok state =>
    rw [hread] at h
    dsimp only at h
    split at h
    · exact nomatch h
    · rename_i hfails
      exact ⟨by simpa using hfails, state, rfl⟩

/-! ## What is loaded can be printed -/

/-- The two parts of a setting. -/
theorem parts_of_setting {line name value : CText}
    (h : entry line = .setting name value) :
    name = trim ((trim line).takeWhile (· ≠ 61))
      ∧ value = trim (((trim line).dropWhile (· ≠ 61)).drop 1) := by
  unfold entry at h
  dsimp only at h
  split_ifs at h
  obtain ⟨rfl, rfl⟩ := Entry.setting.inj h
  exact ⟨rfl, rfl⟩

/-- A value stands on the line it is read from. -/
theorem onLine_of_entry {line : CLine} {name value : CText}
    (hline : line.OneLine) (hentry : entry line.text = .setting name value)
    (hvalue : value ≠ []) : OnLine value := by
  obtain ⟨-, rfl⟩ := parts_of_setting hentry
  have hmem {c : UInt8}
      (hc : c ∈ trim (((trim line.text).dropWhile (· ≠ 61)).drop 1)) :
      c ∈ trim line.text :=
    (List.dropWhile_suffix _).subset
      (List.drop_subset _ _ (mem_of_mem_trim hc))
  exact ⟨hvalue, trim_trim _, fun h => hline.newline (hmem h),
    fun h => line.zero_not_mem_text (mem_of_mem_trim (hmem h))⟩

/-- **What is loaded can be printed**, where what it is loaded over can. -/
theorem Printable.load (h : config.Printable) (path : CText)
    (missingIsOk : Bool) (errorSize : ℕ) {opening : Opening}
    (hvalid : (config.load path missingIsOk errorSize opening).valid = true) :
    (config.load path missingIsOk errorSize opening).config.Printable := by
  cases opening with
  | missing =>
    unfold Config.load at hvalid ⊢
    cases missingIsOk with
    | true => exact h
    | false => exact nomatch hvalid
  | failed reason => exact nomatch hvalid
  | opened file =>
    obtain ⟨hfails, state, hread⟩ := readLines_of_valid hvalid
    rw [load_opened hread hfails]
    refine LabelledPath.invariant (fun state => state.config.Printable) ?_
      (readLines_eq_ok_iff.mp hread).2 h
    rintro e he s t hst hs
    obtain ⟨line, hline, rfl⟩ := List.mem_map.mp he
    have hone := CFile.oneLine_of_mem List.not_mem_nil hline
    generalize hentry : entry line.text = e at hst
    cases hst with
    | blank => exact hs
    | header => exact hs
    | setting hcurrent hkey hseen hstore =>
      exact hs.store (onLine_of_entry hone hentry) hstore

/-! ## What is printed -/

/-- The value the printer writes for a key. -/
def shown (config : Config) : Key → CText
  | .enabled => boolText config.daemonEnabled
  | .mode => ofString config.radioMode.name
  | .bind => config.httpBind.text
  | .port => portText config.httpPort
  | .testPage => boolText config.testPageEnabled
  | .rtlEnabled => boolText config.rtlTcpEnabled
  | .rtlBind => config.rtlTcpBind.text
  | .rtlPort => portText config.rtlTcpPort

/-- The line the printer begins with. -/
def commentLine (path : CText) : CText :=
  ofString "# effective configuration (" ++ (path ++ ofString ")")

/-- The header of a section. -/
def headerLine (named : Section) : CText :=
  ofString ("[" ++ named.name ++ "]")

/-- The line of a key. -/
def settingLine (config : Config) (key : Key) : CText :=
  ofString key.name ++ 61 :: config.shown key

/-- The lines of a section. -/
def blockLines (config : Config) (named : Section) (keys : List Key) :
    List CText :=
  headerLine named :: keys.map config.settingLine

/-- The lines the printer writes. -/
def printedLines (config : Config) (path : CText) : List CText :=
  commentLine path :: config.blockLines .daemon [.enabled]
    ++ [] :: config.blockLines .radio [.mode]
    ++ [] :: config.blockLines .http [.bind, .port, .testPage]
    ++ [] :: config.blockLines .rtlTcp [.rtlEnabled, .rtlBind, .rtlPort]

/-- **What is printed** are these lines. -/
theorem print_eq_flatMap (config : Config) (path : CText) :
    config.print path = (config.printedLines path).flatMap (· ++ [10]) := by
  have hcomment : ofString ")\n" = ofString ")" ++ [10] := by decide
  have hdaemon : ofString "[daemon]\nenabled="
      = headerLine .daemon ++ 10 :: (ofString "enabled" ++ [61]) := by decide
  have hradio : ofString "[radio]\nmode="
      = headerLine .radio ++ 10 :: (ofString "mode" ++ [61]) := by decide
  have hhttp : ofString "[http]\nbind="
      = headerLine .http ++ 10 :: (ofString "bind" ++ [61]) := by decide
  have hrtlTcp : ofString "\n[rtl_tcp]\nenabled="
      = 10 :: (headerLine .rtlTcp ++ 10 :: (ofString "enabled" ++ [61])) := by
    decide
  have hbind : ofString "\nbind=" = 10 :: (ofString "bind" ++ [61]) := by
    decide
  have hport : ofString "\nport=" = 10 :: (ofString "port" ++ [61]) := by
    decide
  have htestPage : ofString "\ntest_page="
      = 10 :: (ofString "test_page" ++ [61]) := by decide
  have hgap : ofString "\n\n" = [10, 10] := by decide
  have hend : ofString "\n" = [10] := by decide
  unfold print
  rw [hcomment, hdaemon, hradio, hhttp, hrtlTcp, hbind, hport,
    htestPage, hgap, hend]
  simp only [printedLines, blockLines, settingLine, commentLine, shown,
    Key.name, List.map_cons, List.map_nil, List.cons_append, List.nil_append,
    List.flatMap_cons, List.flatMap_nil, List.append_assoc, List.append_nil]

/-! ## What is printed is read back -/

/-- The configuration with the setting of a key taken over from another. -/
def adopt (target config : Config) : Key → Config
  | .enabled => { config with daemonEnabled := target.daemonEnabled }
  | .mode => { config with radioMode := target.radioMode }
  | .bind => { config with httpBind := target.httpBind }
  | .port => { config with httpPort := target.httpPort }
  | .testPage => { config with testPageEnabled := target.testPageEnabled }
  | .rtlEnabled => { config with rtlTcpEnabled := target.rtlTcpEnabled }
  | .rtlBind => { config with rtlTcpBind := target.rtlTcpBind }
  | .rtlPort => { config with rtlTcpPort := target.rtlTcpPort }

theorem parseBool_boolText (b : Bool) : parseBool (boolText b) = some b := by
  cases b <;> decide

theorem parseRadioMode_name (mode : RadioMode) :
    parseRadioMode (ofString mode.name) = some mode := by
  cases mode <;> decide

theorem parsePort_portText {port : UInt16} (hport : port ≠ 0) :
    parsePort (portText port) = some port := by
  have hlt : port.toNat < 2 ^ 16 := port.toNat_lt
  have hvalue : (UInt64.ofNat port.toNat).toNat = port.toNat :=
    UInt64.toNat_ofNat_of_lt (hlt.trans (by decide))
  have hpos : port.toNat ≠ 0 := fun h => hport (UInt16.toNat_inj.mp h)
  have hrange : 0 < UInt64.ofNat port.toNat
      ∧ UInt64.ofNat port.toNat ≤ 65535 := by
    rw [UInt64.lt_iff_toNat_lt, UInt64.le_iff_toNat_le, hvalue]
    exact ⟨Nat.pos_of_ne_zero hpos, Nat.le_of_lt_succ hlt⟩
  rw [parsePort, portText, strtoull_toString (by omega)]
  dsimp only
  rw [if_pos hrange, Option.some_inj, ← UInt16.toNat_inj, UInt64.toNat_toUInt16,
    hvalue]
  exact Nat.mod_eq_of_lt hlt

/-- **The value printed for a key** is stored as it was. -/
theorem store_shown (h : target.Printable) (config : Config) (key : Key) :
    config.store (target.shown key) key = some (target.adopt config key) := by
  have hbind {address : BindAddress} (haddress : OnLine address.text) :
      parseBind address.text = some address :=
    parseBind_eq_some_iff.mpr ⟨haddress.nonempty, rfl⟩
  cases key with
  | enabled | testPage | rtlEnabled =>
    rw [store, shown, parseBool_boolText]
    rfl
  | mode =>
    rw [store, shown, parseRadioMode_name]
    rfl
  | bind =>
    rw [store, shown, hbind h.httpBind]
    rfl
  | rtlBind =>
    rw [store, shown, hbind h.rtlTcpBind]
    rfl
  | port =>
    rw [store, shown, parsePort_portText h.httpPort]
    rfl
  | rtlPort =>
    rw [store, shown, parsePort_portText h.rtlTcpPort]
    rfl

/-- A printed number stands on a line. -/
theorem onLine_portText (port : UInt16) : OnLine (portText port) := by
  have hdigit {c : UInt8} (hc : c ∈ portText port) : isDigit c = true :=
    isDigit_of_mem_toString hc
  refine ⟨toString_ne_nil _, trim_eq_self_iff.mpr fun hne => ⟨?_, ?_⟩,
    fun h => absurd (hdigit h) (by decide),
    fun h => absurd (hdigit h) (by decide)⟩
  · exact (of_isDigit (hdigit (List.head_mem hne))).1
  · exact (of_isDigit (hdigit (List.getLast_mem hne))).1

/-- **What is printed for a key** stands on a line. -/
theorem onLine_shown (h : config.Printable) (key : Key) :
    OnLine (config.shown key) := by
  have hbool (b : Bool) : OnLine (boolText b) := by
    cases b <;> exact ⟨by decide, by decide, by decide, by decide⟩
  have hmode (mode : RadioMode) : OnLine (ofString mode.name) := by
    cases mode <;> exact ⟨by decide, by decide, by decide, by decide⟩
  cases key with
  | enabled => exact hbool _
  | mode => exact hmode _
  | bind => exact h.httpBind
  | port => exact onLine_portText _
  | testPage => exact hbool _
  | rtlEnabled => exact hbool _
  | rtlBind => exact h.rtlTcpBind
  | rtlPort => exact onLine_portText _

/-- What the name of a key is for the loader: a word that is no comment and
no header, and has no equals sign in it. -/
structure KeyWord (word : CText) : Prop where
  nonempty : word ≠ []
  trimmed : trim word = word
  equals : 61 ∉ word
  newline : 10 ∉ word
  zero : 0 ∉ word
  first : peek word ≠ 0 ∧ peek word ≠ 35 ∧ peek word ≠ 59 ∧ peek word ≠ 91

theorem keyWord_name (key : Key) : KeyWord (ofString key.name) := by
  cases key <;>
    exact ⟨by decide, by decide, by decide, by decide, by decide, by decide⟩

/-- **The line of a key** is told apart into the key and its value. -/
theorem entry_setting {word value : CText} (hword : KeyWord word)
    (hvalue : OnLine value) :
    entry (word ++ 61 :: value) = .setting word value := by
  have hequals : trim (61 :: value) = 61 :: value :=
    trim_append (s := [61]) (by decide) hvalue.trimmed (by decide)
      hvalue.nonempty
  have htrim : trim (word ++ 61 :: value) = word ++ 61 :: value :=
    trim_append hword.trimmed hequals hword.nonempty (List.cons_ne_nil _ _)
  have hpeek : peek (word ++ 61 :: value) = peek word := by
    obtain ⟨c, cs, rfl⟩ := List.exists_cons_of_ne_nil hword.nonempty
    rfl
  obtain ⟨hzero, hhash, hsemicolon, hbracket⟩ := hword.first
  have hrun : ∀ c ∈ word, decide (c ≠ 61) = true := fun c hc =>
    decide_eq_true fun h => hword.equals (h ▸ hc)
  unfold entry
  dsimp only
  rw [htrim, hpeek, if_neg (by tauto), if_neg hbracket, if_pos (by simp),
    takeWhile_run hrun rfl, dropWhile_run hrun rfl,
    List.drop_one, List.tail_cons, hword.trimmed, hvalue.trimmed]

/-- The header of a section is one. -/
theorem entry_headerLine (named : Section) :
    entry (headerLine named) = .header (ofString named.name) := by
  cases named <;> decide

/-- The comment is one, whatever path it names. -/
theorem entry_commentLine (path : CText) : entry (commentLine path) = .blank := by
  have hlast : commentLine path
      = (ofString "# effective configuration (" ++ path) ++ [41] :=
    (List.append_assoc _ _ _).symm
  have htrim : trim (commentLine path) = commentLine path := by
    refine trim_eq_self_iff.mpr fun hne => ⟨rfl, ?_⟩
    simp only [hlast, List.getLast_append_singleton]
    rfl
  unfold entry
  rw [htrim]
  exact if_pos (Or.inr (Or.inl rfl))

/-- **The settings of a section** are taken over as they are printed. -/
theorem reads_settings (h : target.Printable) {keys : List Key}
    (hkeys : keys.Nodup)
    (hstate : ∀ key ∈ keys,
      state.current = some key.home ∧ key ∉ state.seen) :
    ∃ state', LabelledPath Reads (keys.map (entry <| target.settingLine ·))
        state state'
      ∧ state'.config = keys.foldl (adopt target) state.config
      ∧ state'.seen = keys.reverse ++ state.seen := by
  induction keys generalizing state with
  | nil => exact ⟨state, .nil _, rfl, rfl⟩
  | cons key keys ih =>
    obtain ⟨hcurrent, hseen⟩ := hstate key (List.mem_cons_self ..)
    obtain ⟨hnew, hkeys⟩ := List.nodup_cons.mp hkeys
    have hreads : Reads (entry (target.settingLine key)) state
        { state.next with
          config := target.adopt state.config key, seen := key :: state.seen } := by
      rw [settingLine, entry_setting (keyWord_name key) (onLine_shown h key)]
      exact .setting hcurrent (keyNamed_eq_some_iff.mpr ⟨rfl, rfl⟩) hseen
        (store_shown h state.config key)
    have hrest (other : Key) (hother : other ∈ keys) :
        ({ state.next with
          config := target.adopt state.config key
          seen := key :: state.seen } : Loading).current = some other.home
        ∧ other ∉ key :: state.seen := by
      obtain ⟨hhome, hfresh⟩ := hstate other (List.mem_cons_of_mem _ hother)
      refine ⟨hhome, fun hmem => ?_⟩
      obtain rfl | hmem := List.mem_cons.mp hmem
      · exact hnew hother
      · exact hfresh hmem
    obtain ⟨state', hpath, hconfig, hseen'⟩ := ih hkeys hrest
    refine ⟨state', .cons hreads hpath, hconfig, ?_⟩
    rw [hseen', List.reverse_cons, List.append_assoc, List.singleton_append]

/-- **A section is taken over** as it is printed. -/
theorem reads_block (h : target.Printable) {named : Section}
    {keys : List Key} (hkeys : keys.Nodup)
    (hhome : ∀ key ∈ keys, key.home = named)
    (hseen : ∀ key ∈ keys, key ∉ state.seen) :
    ∃ state', LabelledPath Reads ((target.blockLines named keys).map entry)
        state state'
      ∧ state'.config = keys.foldl (adopt target) state.config
      ∧ state'.seen = keys.reverse ++ state.seen := by
  have hready (key : Key) (hkey : key ∈ keys) :
      ({ state.next with current := some named } : Loading).current
        = some key.home
      ∧ key ∉ ({ state.next with current := some named } : Loading).seen :=
    ⟨congrArg some (hhome key hkey).symm, hseen key hkey⟩
  obtain ⟨state', hpath, hconfig, hseen'⟩ := reads_settings h hkeys hready
  refine ⟨state', ?_, hconfig, hseen'⟩
  rw [blockLines, List.map_cons, List.map_map, entry_headerLine]
  exact .cons (.header state (sectionNamed_eq_some_iff.mpr rfl)) hpath

/-- The sections the printer writes, with their keys. -/
def blocks : List (Section × List Key) :=
  [(.daemon, [.enabled]), (.radio, [.mode]),
    (.http, [.bind, .port, .testPage]),
    (.rtlTcp, [.rtlEnabled, .rtlBind, .rtlPort])]

/-- Each section follows a line that says nothing. -/
theorem map_entry_printedLines (config : Config) (path : CText) :
    (config.printedLines path).map entry = blocks.flatMap fun block =>
      .blank :: (config.blockLines block.1 block.2).map entry := by
  have hblank : entry [] = .blank := by decide
  simp only [printedLines, blocks, List.map_append, List.map_cons, hblank,
    entry_commentLine, List.flatMap_cons, List.flatMap_nil, List.append_nil,
    List.cons_append, List.append_assoc]

/-- **Sections are taken over** as they are printed. -/
theorem reads_blocks (h : target.Printable) {blocks : List (Section × List Key)}
    (hhome : ∀ block ∈ blocks, ∀ key ∈ block.2, key.home = block.1)
    (hkeys : (blocks.flatMap (·.2)).Nodup)
    (hseen : ∀ key ∈ blocks.flatMap (·.2), key ∉ state.seen) :
    ∃ state', LabelledPath Reads
        (blocks.flatMap fun block =>
          .blank :: (target.blockLines block.1 block.2).map entry)
        state state'
      ∧ state'.config
        = (blocks.flatMap (·.2)).foldl (adopt target) state.config := by
  induction blocks generalizing state with
  | nil => exact ⟨state, .nil _, rfl⟩
  | cons block blocks ih =>
    rw [List.flatMap_cons] at hkeys hseen
    obtain ⟨hblock, hrest, hdisjoint⟩ := List.nodup_append.mp hkeys
    have hfresh (key : Key) (hkey : key ∈ block.2) : key ∉ state.next.seen :=
      hseen key (List.mem_append_left _ hkey)
    obtain ⟨s, hpath, hconfig, hmore⟩ := reads_block h hblock
      (hhome block (List.mem_cons_self ..)) hfresh
    have hlater (key : Key) (hkey : key ∈ blocks.flatMap (·.2)) :
        key ∉ s.seen := by
      rw [hmore, List.mem_append, List.mem_reverse, not_or]
      exact ⟨fun hmem => hdisjoint _ hmem _ hkey rfl,
        hseen key (List.mem_append_right _ hkey)⟩
    obtain ⟨state', hpath', hconfig'⟩ := ih
      (fun b hb => hhome b (List.mem_cons_of_mem _ hb)) hrest hlater
    refine ⟨state', (LabelledPath.cons (.blank state) hpath).append hpath', ?_⟩
    rw [hconfig', hconfig, List.flatMap_cons, List.foldl_append]
    rfl

/-- The printer writes every setting. -/
theorem foldl_adopt_blocks (target config : Config) :
    (blocks.flatMap (·.2)).foldl (adopt target) config = target := by
  simp only [blocks, List.flatMap_cons, List.flatMap_nil, List.cons_append,
    List.nil_append, List.foldl_cons, List.foldl_nil, adopt]

/-- A line that the loader's buffer holds. -/
def Fits (line : CText) : Prop :=
  0 ∉ line ∧ 10 ∉ line ∧ line.length < 511

/-- What is printed for a key fits its buffer. -/
theorem length_shown (config : Config) (key : Key) :
    (config.shown key).length < 64 := by
  have hbool (b : Bool) : (boolText b).length < 64 := by
    cases b <;> decide
  have hport (port : UInt16) : (portText port).length < 64 := by
    have hdigits : (toString port.toNat).length ≤ 5 :=
      (Nat.length_repr_le_iff (by decide)).mpr (port.toNat_lt.trans (by decide))
    rw [portText, ofString, List.length_map, String.length_toList]
    exact Nat.lt_of_le_of_lt hdigits (by decide)
  cases key with
  | enabled => exact hbool _
  | mode => rw [shown]; cases config.radioMode <;> decide
  | bind => exact config.httpBind.fits
  | port => exact hport _
  | testPage => exact hbool _
  | rtlEnabled => exact hbool _
  | rtlBind => exact config.rtlTcpBind.fits
  | rtlPort => exact hport _

/-- **The line of a key** fits. -/
theorem fits_settingLine (h : config.Printable) (key : Key) :
    Fits (config.settingLine key) := by
  have hword := keyWord_name key
  have hvalue := onLine_shown h key
  have hname : (ofString key.name).length < 10 := by cases key <;> decide
  have hshown := config.length_shown key
  unfold Fits settingLine
  simp only [List.mem_append, List.mem_cons, List.length_append,
    List.length_cons, not_or]
  exact ⟨⟨hword.zero, by decide, hvalue.zero⟩,
    ⟨hword.newline, by decide, hvalue.newline⟩, by omega⟩

/-- **The printed lines** fit, where the comment does. -/
theorem fits_printedLines (h : config.Printable) {path : CText}
    (hpath : Fits (commentLine path)) :
    ∀ line ∈ config.printedLines path, Fits line := by
  have hheader (named : Section) : Fits (headerLine named) := by
    cases named <;> exact ⟨by decide, by decide, by decide⟩
  have hblock (named : Section) (keys : List Key) :
      ∀ line ∈ config.blockLines named keys, Fits line := by
    rw [blockLines, List.forall_mem_cons]
    refine ⟨hheader named, fun line hline => ?_⟩
    obtain ⟨key, -, rfl⟩ := List.mem_map.mp hline
    exact fits_settingLine h key
  have hempty : Fits [] := ⟨by decide, by decide, by decide⟩
  simp only [printedLines, List.forall_mem_append, List.forall_mem_cons]
  exact ⟨⟨⟨⟨hpath, hblock _ _⟩, hempty, hblock _ _⟩, hempty, hblock _ _⟩,
    hempty, hblock _ _⟩

/-- **A printed configuration is loaded** over any other. -/
theorem load_print (h : config.Printable) {shownPath : CText}
    (hpath : Fits (commentLine shownPath)) (initial : Config) (path : CText)
    (missingIsOk : Bool) (errorSize : ℕ) :
    initial.load path missingIsOk errorSize
        (.opened { bytes := config.print shownPath })
      = { valid := true, config := config } := by
  have hfits := fits_printedLines h hpath
  have hprint := print_eq_flatMap config shownPath
  generalize config.print shownPath = bytes at hprint ⊢
  have hlines : CFile.lines 512 { bytes := bytes }
      = (config.printedLines shownPath).map fun line =>
          ⟨line ++ [10], false⟩ := by
    rw [CFile.lines, hprint]
    exact CFile.linesFrom_flatMap fun line hline => (hfits line hline).2
  have htext : ∀ line ∈ config.printedLines shownPath,
      CLine.text ⟨line ++ [10], false⟩ = line ++ [10] := fun line hline =>
    CText.ofBuffer_of_zero (by simp [(hfits line hline).1])
  have hentries : (CFile.lines 512 { bytes := bytes }).map (entry ·.text)
      = (config.printedLines shownPath).map entry := by
    rw [hlines, List.map_map]
    refine List.map_congr_left fun line hline => ?_
    rw [Function.comp_apply, htext line hline, entry_newline]
  have hwhole : ∀ line ∈ CFile.lines 512 { bytes := bytes },
      WholeLine line := by
    rw [hlines]
    intro line hline
    obtain ⟨text, htext', rfl⟩ := List.mem_map.mp hline
    refine Or.inl ?_
    rw [htext text htext']
    exact List.mem_append_right _ (List.mem_singleton_self 10)
  have hfresh : ∀ key ∈ blocks.flatMap (·.2),
      key ∉ ({ config := initial } : Loading).seen :=
    fun key _ => List.not_mem_nil
  obtain ⟨state, hreads, hconfig⟩ := reads_blocks h (by decide) (by decide)
    hfresh
  rw [← map_entry_printedLines config shownPath, ← hentries] at hreads
  rw [load_opened (readLines_eq_ok_iff.mpr ⟨hwhole, hreads⟩) rfl, hconfig,
    foldl_adopt_blocks]

/-! ## What is not loaded -/

/-- The settings among the lines of a file, each with the name of the section
it stands in, `none` in front of the first header. -/
def settings : Option CText → List Entry → List (Option CText × CText)
  | _, [] => []
  | _, .header name :: rest => settings (some name) rest
  | current, .setting key _ :: rest => (current, key) :: settings current rest
  | current, _ :: rest => settings current rest

/-- **The settings of a file**, line by line. -/
def fileSettings (file : CFile) : List (Option CText × CText) :=
  settings none ((file.bytes.splitOn 10).map entry)

/-- Where a key stands and how it is spelled. -/
def Key.place (key : Key) : Option CText × CText :=
  (some (ofString key.home.name), ofString key.name)

/-- Each key has a place of its own. -/
theorem place_injective : Function.Injective Key.place := by
  intro key other h
  cases key <;> cases other <;> first | rfl | exact absurd h (by decide)

/-- Nothing is set in lines that say nothing. -/
theorem settings_append_blank (entries : List Entry) (current : Option CText) :
    settings current (entries ++ [.blank]) = settings current entries := by
  induction entries generalizing current with
  | nil => rfl
  | cons e entries ih =>
    cases e <;> simp only [List.cons_append, settings, ih]

/-- **What the loop reads** are keys at their places, and it has seen none of
them before. -/
theorem settings_of_path {entries : List Entry}
    (hpath : LabelledPath Reads entries state state') :
    ∃ keys : List Key,
      settings (state.current.map fun named => ofString named.name) entries
        = keys.map Key.place
      ∧ keys.Nodup ∧ ∀ key ∈ keys, key ∉ state.seen := by
  induction hpath with
  | nil => exact ⟨[], rfl, List.nodup_nil, fun _ h => absurd h List.not_mem_nil⟩
  | @cons _ _ s _ _ hreads _ ih =>
    obtain ⟨keys, hkeys, hnodup, hfresh⟩ := ih
    cases hreads with
    | blank state => exact ⟨keys, hkeys, hnodup, hfresh⟩
    | header state hnamed =>
      rw [sectionNamed_eq_some_iff.mp hnamed]
      exact ⟨keys, hkeys, hnodup, hfresh⟩
    | @setting _ _ _ key _ _ hcurrent hkey hseen hstore =>
      obtain ⟨rfl, rfl⟩ := keyNamed_eq_some_iff.mp hkey
      refine ⟨key :: keys, ?_, List.nodup_cons.mpr ⟨fun hmem => ?_, hnodup⟩,
        List.forall_mem_cons.mpr ⟨hseen, fun other hother hmem => ?_⟩⟩
      · rw [List.map_cons, ← hkeys]
        show settings (s.current.map _) _ = _ :: settings (s.current.map _) _
        rw [hcurrent]
        rfl
      · exact hfresh key hmem (List.mem_cons_self ..)
      · exact hfresh other hother (List.mem_cons_of_mem _ hmem)

/-- **A file that is loaded** sets each key once at most, where it stands. -/
theorem fileSettings_of_valid {path : CText} {missingIsOk : Bool}
    {errorSize : ℕ} {file : CFile} (hzero : 0 ∉ file.bytes)
    (h : (config.load path missingIsOk errorSize (.opened file)).valid
      = true) :
    ∃ keys : List Key, keys.Nodup ∧ fileSettings file = keys.map Key.place := by
  obtain ⟨hfails, state, hread⟩ := readLines_of_valid h
  rw [CFile.lines, hfails] at hread
  obtain ⟨hwhole, hpath⟩ := readLines_eq_ok_iff.mp hread
  obtain ⟨keys, hkeys, hnodup, -⟩ := settings_of_path hpath
  have hzero' : 0 ∉ [] ++ file.bytes := hzero
  obtain ⟨rest, hrest, hmap⟩ := CFile.map_linesFrom entry entry_newline
    hzero' List.not_mem_nil hwhole
  refine ⟨keys, hnodup, ?_⟩
  rw [fileSettings, ← hkeys]
  rw [List.nil_append] at hmap
  rw [hmap]
  obtain rfl | rfl := hrest
  · rw [List.append_nil]
    rfl
  · exact settings_append_blank _ _

/-- **The configuration goes round**: what was loaded over the defaults is
printed so that it loads again, over any other and whatever path the comment
names. And a file that sets a key twice, or one that its section does not
have, is rejected. -/
theorem config_round_trip :
    (∀ (path : CText) (missingIsOk : Bool) (errorSize : ℕ)
        (opening : Opening),
        (defaults.load path missingIsOk errorSize opening).valid = true →
        ∀ shownPath : CText, 0 ∉ shownPath → 10 ∉ shownPath →
        (commentLine shownPath ++ [10]).length < 512 →
        ∀ (initial : Config) (again : CText) (missingIsOk' : Bool)
          (errorSize' : ℕ),
          let config := (defaults.load path missingIsOk errorSize opening).config
          initial.load again missingIsOk' errorSize'
              (.opened { bytes := config.print shownPath })
            = { valid := true, config := config })
      ∧ ∀ file : CFile, 0 ∉ file.bytes →
        ¬ (fileSettings file).Nodup
          ∨ (∃ setting ∈ fileSettings file, ∀ key : Key, setting ≠ key.place) →
        ∀ (initial : Config) (path : CText) (missingIsOk : Bool)
          (errorSize : ℕ),
          (initial.load path missingIsOk errorSize (.opened file)).valid
            = false := by
  constructor
  · intro path missingIsOk errorSize opening hvalid shownPath hzero hnewline
      hlength initial again missingIsOk' errorSize'
    have hcomment : Fits (commentLine shownPath) := by
      refine ⟨?_, ?_, by simp at hlength; omega⟩
      · simp [commentLine, hzero, ofString]
      · simp [commentLine, hnewline, ofString]
    exact load_print
      (printable_defaults.load path missingIsOk errorSize hvalid) hcomment
      initial again missingIsOk' errorSize'
  · intro file hzero hbad initial path missingIsOk errorSize
    by_contra hvalid
    obtain ⟨keys, hnodup, hkeys⟩ := fileSettings_of_valid hzero
      (by simpa using hvalid)
    rw [hkeys] at hbad
    obtain htwice | ⟨setting, hmem, hundefined⟩ := hbad
    · exact htwice (List.Nodup.map place_injective hnodup)
    · obtain ⟨key, -, rfl⟩ := List.mem_map.mp hmem
      exact hundefined key rfl

/-- A file that sets everything. -/
def stationFile : CText :=
  ofString "[daemon]\nenabled=yes\n[radio]\nmode=transmit\n"
    ++ ofString "[http]\nbind=127.0.0.1\nport=16000\ntest_page=true\n"
    ++ ofString "[rtl_tcp]\nenabled=true\nbind=127.0.0.2\nport=1235\n"

/-- A file that sets a port in each of two blocks of its section. -/
def twoPortsFile : CText :=
  ofString "[http]\nport=15000\n[radio]\nmode=receive\n[http]\nport = 16000\n"

/-- The file that sets everything goes round, and the one that sets a port
twice is rejected. -/
theorem config_round_trip_station :
    let path := ofString "/etc/flex1500d/flex1500d.conf"
    let loaded := defaults.load path true 256 (.opened { bytes := stationFile })
    loaded.valid = true
      ∧ defaults.load path true 256
          (.opened { bytes := loaded.config.print path })
        = { valid := true, config := loaded.config }
      ∧ (defaults.load path true 256
          (.opened { bytes := twoPortsFile })).valid = false := by
  have hloaded : (defaults.load (ofString "/etc/flex1500d/flex1500d.conf") true
      256 (.opened { bytes := stationFile })).valid = true := by
    decide +kernel
  exact ⟨hloaded,
    config_round_trip.1 _ true 256 _ hloaded _ (by decide) (by decide)
      (by decide) defaults _ true 256,
    config_round_trip.2 { bytes := twoPortsFile } (by decide +kernel)
      (Or.inl (by decide +kernel)) defaults _ true 256⟩

end Config
