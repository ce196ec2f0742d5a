import Flex1500.DaemonOwnership
import Flex1500.DaemonBlocks
import Flex1500.TxDeadlines

/-!
# How long anybody transmits

The ticks at the top of the loop take the transmitter from whoever has held
it too long, and end the leases that were not renewed in time. What they
compare the clock with are the times in the records, and these are the times
at which a request was granted or a lease renewed.

So as long as the clock does not go back, nobody is found behind the ticks
who was granted the transmitter longer ago than it may be held.
-/

variable {ρ : Type} {cb : TxCallbacks (TxContext ρ)} {p : TxPlane ρ}

/-- A tune lease in force behind its tick is within both limits. -/
theorem TuneControl.tick_bound (hcoherent : p.Coherent)
    (henabled : p.tune.enabled = p.tx.enabled) (nowMs : UInt64)
    (howner : (TuneControl.tick cb nowMs p).2.tx.owner = .tune)
    (hactive : (TuneControl.tick cb nowMs p).2.tune.active = true) :
    nowMs - (TuneControl.tick cb nowMs p).2.tune.startedMs < tuneHardLimitMs
      ∧ nowMs - (TuneControl.tick cb nowMs p).2.tune.renewedMs
        < tuneLeaseMs := by
  have hstopped (reason : TuneResult) (ha : p.tune.active = true) :
      (TuneControl.stopActive cb reason p).2.tune.active = false := by
    rw [TuneControl.stopActive, if_neg (by simpa using ha)]
    rfl
  revert howner hactive
  unfold TuneControl.tick
  by_cases hdisabled : p.tune.enabled = true
  swap
  · rw [if_pos (by simpa using hdisabled)]
    intro howner _
    have htx := hcoherent.enabled (by rw [howner]; decide)
    exact absurd (henabled.trans htx) hdisabled
  rw [if_neg (by simpa using hdisabled)]
  by_cases ha : p.tune.active = true
  swap
  · rw [if_pos (by simpa using ha)]
    exact fun _ h => absurd h ha
  rw [if_neg (by simpa using ha)]
  by_cases hhard : tuneHardLimitMs ≤ nowMs - p.tune.startedMs
  · rw [if_pos hhard]
    exact fun _ h => absurd ((hstopped _ ha).symm.trans h) Bool.false_ne_true
  rw [if_neg hhard]
  by_cases hlease : tuneLeaseMs ≤ nowMs - p.tune.renewedMs
  · rw [if_pos hlease]
    exact fun _ h => absurd ((hstopped _ ha).symm.trans h) Bool.false_ne_true
  rw [if_neg hlease]
  exact fun _ _ => ⟨UInt64.not_le.mp hhard, UInt64.not_le.mp hlease⟩

/-- An owner behind the maximum-key timer has not had the transmitter for
longer than it may. -/
theorem TxControl.tick_bound (hcoherent : p.Coherent)
    (hmaximum : 30000 ≤ p.tx.maximumKeyMs) (nowMs : UInt64)
    (howner : (TxPlane.after
      (TxControl.tick cb nowMs p.tx p.toTxContext).2).tx.owner ≠ .none) :
    nowMs - (TxPlane.after
        (TxControl.tick cb nowMs p.tx p.toTxContext).2).tx.startedMs
      < (TxPlane.after
        (TxControl.tick cb nowMs p.tx p.toTxContext).2).tx.maximumKeyMs := by
  obtain ⟨hbound, result, -, -, htick⟩ | ⟨-, ho, -, htick⟩ :=
    TxControl.tick_cases cb nowMs p.tx p.toTxContext
  · rw [htick] at howner ⊢
    have hne : p.tx.maximumKeyMs ≠ 0 := by
      intro hzero
      rw [hzero] at hmaximum
      exact absurd hmaximum (by decide)
    exact hbound (hcoherent.enabled howner) howner
      (hcoherent.settled.owner_iff.mp howner) hne
  · rw [htick] at howner
    refine absurd ?_ howner
    rw [TxControl.stopOwner_of_owner cb false p.toTxContext ho]
    rfl

/-- A session behind its tick was renewed in time. -/
theorem NetworkTx.tick_bound (nowMs : UInt64)
    (hreserved : (NetworkTx.tick cb nowMs p).2.network.reserved = true) :
    nowMs - (NetworkTx.tick cb nowMs p).2.network.renewedMs
      < networkTxLeaseMs := by
  revert hreserved
  unfold NetworkTx.tick
  by_cases hr : p.network.reserved = true
  swap
  · rw [if_pos (by simpa using hr)]
    exact fun h => absurd h hr
  rw [if_neg (by simpa using hr)]
  by_cases hlease : nowMs - p.network.renewedMs < networkTxLeaseMs
  · rw [if_pos hlease]
    exact fun _ => hlease
  · rw [if_neg hlease]
    exact fun h => absurd h Bool.false_ne_true

/-! ## The block at the top -/

/-- **In time**, after the moves so far and right behind the ticks: whoever
has the transmitter was granted it, and has his lease granted or renewed, not
longer ago than it lasts. -/
structure TxPlane.InTime (ms : List TxMove) (input : LoopInput)
    (p : TxPlane ρ) : Prop where
  held : p.tx.owner ≠ .none → ∃ nowMs, TxMove.HeldSince ms p.tx.owner nowMs
    ∧ input.txMs.toNat < nowMs.toNat + p.tx.maximumKeyMs.toNat
  maximum : p.tx.maximumKeyMs.toNat ≤ 1800000
  tune : p.tx.owner = .tune → ∃ nowMs renewedMs,
    TxMove.HeldSince ms .tune nowMs
      ∧ input.tuneMs.toNat < nowMs.toNat + tuneHardLimitMs.toNat
      ∧ TxMove.latest TxMove.tuneRenewal? ms = some renewedMs
      ∧ input.tuneMs.toNat < renewedMs.toNat + tuneLeaseMs.toNat
  http : p.tx.owner = .http → ∃ renewedMs,
    TxMove.latest TxMove.networkRenewal? ms = some renewedMs
      ∧ input.networkMs.toNat < renewedMs.toNat + networkTxLeaseMs.toNat

/-- A difference that does not wrap. -/
theorem lt_add_of_sub_lt {nowMs startedMs limitMs : UInt64}
    (hle : startedMs ≤ nowMs) (h : nowMs - startedMs < limitMs) :
    nowMs.toNat < startedMs.toNat + limitMs.toNat := by
  have hlt := UInt64.lt_iff_toNat_lt.mp h
  rw [UInt64.toNat_sub_of_le _ _ hle] at hlt
  have := UInt64.le_iff_toNat_le.mp hle
  omega

/-- The time of a grant is that of a move. -/
theorem TxMove.HeldSince.timed {ms : List TxMove} {owner : TxOwner}
    {nowMs : UInt64} (h : TxMove.HeldSince ms owner nowMs) :
    ∃ m ∈ ms, m.timeMs? = some nowMs := by
  obtain ⟨before, after, rfl, -⟩ := h
  exact ⟨_, List.mem_append_right _ (List.mem_cons_self ..), rfl⟩

/-- So is that of a renewal. -/
theorem TxMove.timed_of_latest {time? : TxMove → Option UInt64}
    (htime : ∀ m nowMs, time? m = some nowMs → m.timeMs? = some nowMs)
    {ms : List TxMove} {nowMs : UInt64}
    (h : TxMove.latest time? ms = some nowMs) :
    ∃ m ∈ ms, m.timeMs? = some nowMs := by
  obtain ⟨m, hm, htime'⟩ := List.mem_filterMap.mp (List.mem_of_getLast? h)
  exact ⟨m, hm, htime m nowMs htime'⟩

theorem TxMove.timeMs_of_tuneRenewal {m : TxMove} {nowMs : UInt64}
    (h : m.tuneRenewal? = some nowMs) : m.timeMs? = some nowMs := by
  cases m with
  | grant owner t => cases owner <;> first | exact h | exact nomatch h
  | renewTune t => exact h
  | _ => exact nomatch h

theorem TxMove.timeMs_of_networkRenewal {m : TxMove} {nowMs : UInt64}
    (h : m.networkRenewal? = some nowMs) : m.timeMs? = some nowMs := by
  cases m with
  | grant owner t => cases owner <;> first | exact h | exact nomatch h
  | reserve lease t => exact h
  | renewNetwork t => exact h
  | _ => exact nomatch h

namespace Daemon

variable {config : DaemonConfig} {d : Daemon} {input : LoopInput}

/-- The daemon starts out with no time in its records. -/
theorem recounts_boot (config : DaemonConfig) (answers : ℕ → UsbAnswer) :
    (boot config answers).plane.Recounts [] := by
  obtain ⟨receiver, running, hboot⟩ := boot_eq_initial config answers
  rw [hboot]
  have hq := TxControl.quiet_armPhysicalPtt
    (.init config.transmitEnabled
      (UInt64.ofNat txTimeoutDefaultSeconds * 1000))
  have hnone : (initial config receiver running).plane.tx.owner = .none :=
    TxControl.owner_armed _ _
  refine ⟨fun h => absurd hnone h,
    fun h => absurd (hnone.symm.trans h) (by decide),
    fun h => absurd h Bool.false_ne_true, fun h => absurd h Bool.false_ne_true,
    hq.enabled.symm, ?_, ?_⟩
  · rw [show (initial config receiver running).plane.tx.maximumKeyMs = _ from
      hq.maximumKeyMs]
    show (30000 : UInt64) ≤ UInt64.ofNat txTimeoutDefaultSeconds * 1000
    decide
  · rw [show (initial config receiver running).plane.tx.maximumKeyMs = _ from
      hq.maximumKeyMs]
    show UInt64.ofNat txTimeoutDefaultSeconds * 1000 ≤ (1800000 : UInt64)
    decide

variable (config) in
/-- The maximum-key timer, whatever it records. -/
theorem txTick_bound (hd : d.plane.Coherent)
    (hmaximum : 30000 ≤ d.plane.tx.maximumKeyMs) (nowMs : UInt64)
    (howner : (d.txTick config nowMs).plane.tx.owner ≠ .none) :
    nowMs - (d.txTick config nowMs).plane.tx.startedMs
      < (d.txTick config nowMs).plane.tx.maximumKeyMs := by
  have htx : (d.txTick config nowMs).plane.tx = (TxPlane.after
      (TxControl.tick (daemonCallbacks config.carriesDc) nowMs d.plane.tx
        d.plane.toTxContext).2).tx := by
    have hreconcile (b : Bool) (q : TxPlane (ApiWorld DaemonTx)) :
        (TuneControl.reconcile b q).tx = q.tx := by
      unfold TuneControl.reconcile
      split <;> rfl
    unfold txTick
    dsimp only [withPlane]
    split
    · exact hreconcile _ _
    · exact hreconcile _ _
  rw [htx] at howner ⊢
  exact TxControl.tick_bound hd hmaximum nowMs howner

/-- The session's tick, whatever it records. -/
theorem networkTick_bound (nowMs : UInt64)
    (hreserved : (d.networkTick config nowMs).plane.network.reserved = true) :
    nowMs - (d.networkTick config nowMs).plane.network.renewedMs
      < networkTxLeaseMs := by
  obtain ⟨-, -, hnetwork⟩ := networkTick_plane config nowMs d
  rw [hnetwork] at hreserved ⊢
  exact NetworkTx.tick_bound nowMs hreserved

variable (config input) in
/-- What the records say of the clock behind the ticks. -/
theorem ticks_bounds (hd : d.plane.Coherent) {ms : List TxMove}
    (hms : d.plane.Recounts ms) :
    ((d.ticks config input).plane.tx.owner ≠ .none →
        input.txMs - (d.ticks config input).plane.tx.startedMs
          < (d.ticks config input).plane.tx.maximumKeyMs)
      ∧ ((d.ticks config input).plane.tx.owner = .tune →
        (d.ticks config input).plane.tune.active = true →
        input.tuneMs - (d.ticks config input).plane.tune.startedMs
            < tuneHardLimitMs
          ∧ input.tuneMs - (d.ticks config input).plane.tune.renewedMs
            < tuneLeaseMs)
      ∧ ((d.ticks config input).plane.network.reserved = true →
        input.networkMs - (d.ticks config input).plane.network.renewedMs
          < networkTxLeaseMs) := by
  have hcb := framed_daemonCallbacks config.carriesDc
  have hserves := ApiWorld.loops_true.toServes
  -- the ticks one by one: what each finds, and what the others leave of it
  unfold ticks
  have h₁ := stationTick_path config hserves hd input.stationMs
  have hd₁ := coherent_of_reaches hd h₁
  obtain ⟨ns₁, hpath₁, -⟩ := id h₁
  have hms₁ := hms.path hcb hpath₁
  generalize d.stationTick config input.stationMs = d₁ at hd₁ hms₁ ⊢
  have h₂ : d₁.Reaches config.carriesDc (fun _ _ => True) TxMove.Passive
      (d₁.tuneTick config input.tuneMs) := tuneTick_path hd₁ _
  have hd₂ := coherent_of_reaches hd₁ h₂
  obtain ⟨ns₂, hpath₂, -⟩ := id h₂
  have hms₂ := hms₁.path hcb hpath₂
  have htune (howner : (d₁.tuneTick config input.tuneMs).plane.tx.owner = .tune)
      (hactive : (d₁.tuneTick config input.tuneMs).plane.tune.active = true) :=
    TuneControl.tick_bound hd₁ hms₁.enabled input.tuneMs howner hactive
  change _ → _ →
    input.tuneMs - (d₁.tuneTick config input.tuneMs).plane.tune.startedMs < _
      ∧ input.tuneMs - (d₁.tuneTick config input.tuneMs).plane.tune.renewedMs
        < _ at htune
  generalize d₁.tuneTick config input.tuneMs = d₂ at hd₂ hms₂ htune ⊢
  have h₃ : d₂.Reaches config.carriesDc (fun _ _ => True) TxMove.Passive
      (d₂.txTick config input.txMs) := txTick_path _
  have hd₃ := coherent_of_reaches hd₂ h₃
  have htx := txTick_bound config hd₂ hms₂.maximum_ge input.txMs
  generalize d₂.txTick config input.txMs = d₃ at h₃ hd₃ htx ⊢
  have h₄ : d₃.Reaches config.carriesDc (fun _ _ => True) TxMove.Passive
      d₃.networkReconcile := networkReconcile_path hserves.toTends
  have hd₄ := coherent_of_reaches hd₃ h₄
  generalize d₃.networkReconcile = d₄ at h₄ hd₄ ⊢
  have h₅ : d₄.Reaches config.carriesDc (fun _ _ => True) TxMove.Passive
      (d₄.networkTick config input.networkMs) :=
    networkTick_path hserves.toTends hd₄ _
  have hfades₃ := (h₄.trans h₅).fades hcb
  have hfades₂ := (h₃.trans (h₄.trans h₅)).fades hcb
  refine ⟨fun ho => ?_, fun ho ha => ?_, networkTick_bound _⟩
  · obtain ⟨howner, hstarted, hmaximum⟩ := hfades₃.owner ho
    rw [hstarted, hmaximum]
    exact htx (howner ▸ ho)
  · obtain ⟨howner, -, -⟩ := hfades₂.owner (by rw [ho]; decide)
    obtain ⟨hactive, hstarted, hrenewed⟩ := hfades₂.tune ha
    rw [hstarted, hrenewed]
    exact htune (howner.symm.trans ho) hactive

/-- **Behind the ticks** everything is in time, whatever came before them, as
long as no move was made at a time later than theirs. -/
theorem inTime_ticks (hd : d.plane.Coherent) {ms ns : List TxMove}
    (hms : d.plane.Recounts ms)
    (hpath : LabelledPath
      (TxStep (daemonCallbacks config.carriesDc) fun _ _ => True) ns d.plane
      (d.ticks config input).plane)
    (hclock : ∀ m ∈ ms ++ ns, ∀ nowMs, m.timeMs? = some nowMs →
      nowMs ≤ input.tuneMs ∧ nowMs ≤ input.txMs ∧ nowMs ≤ input.networkMs) :
    (d.ticks config input).plane.InTime (ms ++ ns) input := by
  have hrecounts := hms.path (framed_daemonCallbacks config.carriesDc) hpath
  have hcoherent : (d.ticks config input).plane.Coherent :=
    coherent_of_reaches hd (ticks_path ApiWorld.loops_true.toServes hd)
  obtain ⟨htx, htune, hnetwork⟩ := ticks_bounds config input hd hms
  generalize (d.ticks config input).plane = p at *
  have hearlier {nowMs : UInt64}
      (h : ∃ m ∈ ms ++ ns, m.timeMs? = some nowMs) :
      nowMs ≤ input.tuneMs ∧ nowMs ≤ input.txMs ∧ nowMs ≤ input.networkMs := by
    obtain ⟨m, hm, htime⟩ := h
    exact hclock m hm nowMs htime
  refine ⟨fun ho => ?_, UInt64.le_iff_toNat_le.mp hrecounts.maximum_le,
    fun ho => ?_, fun ho => ?_⟩
  · have hheld := hrecounts.held ho
    exact ⟨_, hheld, lt_add_of_sub_lt (hearlier hheld.timed).2.1 (htx ho)⟩
  · have hactive := hcoherent.tune_active ho
    obtain ⟨hhard, hlease⟩ := htune ho hactive
    rw [hrecounts.tune_started ho] at hhard
    have hheld := hrecounts.held (by rw [ho]; decide)
    have hrenewed := hrecounts.tune_renewed hactive
    have hle := (hearlier (TxMove.timed_of_latest
      (fun _ _ => TxMove.timeMs_of_tuneRenewal) hrenewed)).1
    exact ⟨_, _, ho ▸ hheld, lt_add_of_sub_lt (hearlier hheld.timed).1 hhard,
      hrenewed, lt_add_of_sub_lt hle hlease⟩
  · have hreserved := (hcoherent.sound.keyed (hcoherent.http_keyed ho)).1
    have hrenewed := hrecounts.network_renewed hreserved
    have hle := (hearlier (TxMove.timed_of_latest
      (fun _ _ => TxMove.timeMs_of_networkRenewal) hrenewed)).2.2
    exact ⟨_, hrenewed, lt_add_of_sub_lt hle (hnetwork hreserved)⟩

/-- **Nobody transmits too long**: in any run of the daemon, whatever the
radio answers and in whatever order requests, samples, edges of the switch,
expiries and recoveries come, and whatever the timeout is set to in between,
take the moves the run is made of, each made at one of the times read so far.
As long as the clock has not gone back, then right behind the ticks whoever
has the transmitter was granted it less than the maximum-key time ago, which
is half an hour at most and has not been changed since; if it is the tune
carrier, also less than a minute ago, and its lease was granted or renewed
less than fifteen seconds ago; and if it is a session, its lease was. -/
theorem keying_bounded (config : DaemonConfig) (answers : ℕ → UsbAnswer)
    (inputs : List LoopInput) (input : LoopInput)
    (hclock : ∀ earlier ∈ inputs, ∀ nowMs ∈ [earlier.pttMs, earlier.requestMs],
      nowMs ≤ input.tuneMs ∧ nowMs ≤ input.txMs ∧ nowMs ≤ input.networkMs) :
    ∃ ms, LabelledPath
        (TxStep (daemonCallbacks config.carriesDc) fun _ _ => True) ms
        (boot config answers).plane
        ((run config answers inputs).ticks config input).plane
      ∧ (∀ m ∈ ms, m.Timed (inputs.flatMap fun input =>
        [input.pttMs, input.requestMs]))
      ∧ ((run config answers inputs).ticks config input).plane.InTime ms
        input := by
  have hd := coherent_run config answers inputs
  obtain ⟨ms, hrun, hms⟩ := run_path ApiWorld.loops_true config answers inputs
  have hpassive : (run config answers inputs).Reaches config.carriesDc
      (fun _ _ => True) TxMove.Passive
      ((run config answers inputs).ticks config input) :=
    ticks_path ApiWorld.loops_true.toServes hd
  obtain ⟨ns, hticks, hns⟩ := hpassive
  have htimed : ∀ m ∈ ms ++ ns, m.Timed (inputs.flatMap fun input =>
      [input.pttMs, input.requestMs]) := by
    intro m hm
    rcases List.mem_append.mp hm with hm | hm
    · exact hms m hm
    · exact (hns m hm).timed _
  have hrecounts := (recounts_boot config answers).path
    (framed_daemonCallbacks config.carriesDc) hrun
  refine ⟨ms ++ ns, hrun.append hticks, htimed,
    inTime_ticks hd hrecounts hticks fun m hm nowMs htime => ?_⟩
  obtain ⟨earlier, hearlier, hreading⟩ :=
    List.mem_flatMap.mp (htimed m hm nowMs htime)
  exact hclock earlier hearlier nowMs hreading

/-- A pass at a time, in which a request comes. -/
def requestAt (ms : UInt64) (lines : List String) : LoopInput where
  stationMs := ms
  tuneMs := ms
  txMs := ms
  networkMs := ms
  pttMs := ms
  httpAccepted := true
  httpReceived := .data (lines.flatMap CText.ofString)
  requestMs := ms
  dataMs := ms

/-- A client takes the station, tunes and keys a carrier. -/
def carrierInputs : List LoopInput :=
  [requestAt 100 ["POST /v1/control/owner HTTP/1.1\r\n\r\n"],
    requestAt 200 ["PUT /v1/radio/frequency/14250000 HTTP/1.1\r\n",
      "X-Flex1500-Control-Lease: 7\r\n\r\n"],
    requestAt 300 ["PUT /v1/radio/tune/start HTTP/1.1\r\n",
      "X-Flex1500-Control-Lease: 7\r\n\r\n"]]

/-- The ticks ten seconds after a carrier was keyed find it in time. -/
theorem keying_bounded_carrier :
    let config : DaemonConfig :=
      { rxTuningEnabled := true, testPageEnabled := true
        transmitEnabled := true, rtlTcpEnabled := true
        tuneLease := 1, txLease := 9, stationLease := 7
        carriesDc := fun _ => false }
    let next := requestAt 10300 []
    let d := (run config (fun _ => {}) carrierInputs).ticks config next
    d.plane.tx.owner = .tune ∧ d.plane.tune.active = true
      ∧ ∃ ms, d.plane.InTime ms next := by
  intro config next d
  have hclock : ∀ earlier ∈ carrierInputs,
      ∀ nowMs ∈ [earlier.pttMs, earlier.requestMs],
        nowMs ≤ next.tuneMs ∧ nowMs ≤ next.txMs ∧ nowMs ≤ next.networkMs := by
    simp only [carrierInputs, requestAt, next, List.forall_mem_cons,
      List.not_mem_nil, false_imp_iff, implies_true, and_true]
    decide
  obtain ⟨ms, -, -, htime⟩ :=
    keying_bounded config (fun _ => {}) carrierInputs next hclock
  exact ⟨by decide +kernel, by decide +kernel, ms, htime⟩

end Daemon
