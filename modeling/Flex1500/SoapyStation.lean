import Flex1500.Lib.Run
import Mathlib.Data.List.Perm.Basic
import Mathlib.Logic.Function.Basic

/-!
# The station lease the Soapy devices share

Devices of one process that talk to the same daemon share its station lease:
a table has, for each endpoint, the lease and the number of devices that
count on it. A device that finds an entry joins it, the first one asks the
daemon, and the last one to go erases the entry and sends the `DELETE`. Each
owner has a thread that renews the lease, asks for a new one where it is
gone, and gives ownership up where somebody else has the station.

The table is behind one mutex and every event below is what one thread does
to it under that mutex: a constructor and the locked part of a destructor as
a whole, a keepalive at the lock that ends it – what it asked the daemon
before reads nothing but the replies – and the `DELETE` apart from the
destructor that owes it, as the mutex is free between the two. A request
that throws has no reply. Starting a thread is taken to succeed.

The accounts are right along a run exactly where no keepalive gives up
ownership and every `DELETE` reads the lease that is owed. The first fails
where a lease is lost, as the thread leaves its reference in the table; the
second where the last owner has an old copy of the lease, or another device
took the endpoint in between.
-/

/-! ## The process -/

/-- An entry of the table (`SharedStationLease`). -/
structure SharedStationLease where
  lease : ℕ := 0
  references : ℕ := 0
  deriving DecidableEq, Repr

/-- What a device (`Flex1500Device`) has of its station. Its thread runs for
as long as it is the owner. -/
structure SoapyDevice where
  stationKey : String := ""
  stationLease : ℕ := 0
  stationOwner : Bool := false
  deriving DecidableEq, Repr

/-- A destructor that has still to send its `DELETE`. -/
structure StationRelease where
  /-- The device that goes. -/
  device : SoapyDevice
  /-- The lease of the entry it erased, which nothing in the code reads. -/
  held : ℕ
  deriving DecidableEq, Repr

/-- **The process**: the table, the devices, the destructors under way and
the `DELETE`s sent so far, by endpoint and lease. -/
structure SoapyProcess where
  sharedStationLeases : String → Option SharedStationLease := fun _ => none
  devices : List SoapyDevice := []
  releasing : List StationRelease := []
  deleted : List (String × ℕ) := []

/-- The reply to `GET /v1/radio`. -/
structure SoapyRadioReply where
  status : ℕ
  tuningEnabled : Bool
  deriving DecidableEq, Repr

/-- The reply to a request about the owner: its status and the number of its
`lease`, zero where that is absent or below one. -/
structure SoapyOwnerReply where
  status : ℕ
  lease : ℕ := 0
  deriving DecidableEq, Repr

/-- **What happens**, in any order. -/
inductive SoapyEvent where
  | construct (host : String) (port : ℕ) (radio : Option SoapyRadioReply)
      (owner : Option SoapyOwnerReply)
  | ownerKeepalive (i : ℕ) (put post : Option SoapyOwnerReply)
  | destroy (i : ℕ)
  | release (j : ℕ)
  deriving DecidableEq, Repr

namespace SoapyProcess

/-- A constructor that returned. -/
def join (d : SoapyDevice) (p : SoapyProcess) : SoapyProcess :=
  { p with devices := p.devices ++ [d] }

/-- An assignment to the entry of an endpoint. -/
def enter (key : String) (entry : Option SharedStationLease)
    (p : SoapyProcess) : SoapyProcess :=
  { p with
    sharedStationLeases := Function.update p.sharedStationLeases key entry }

/-- An assignment to the members of a device. -/
def assign (i : ℕ) (d : SoapyDevice) (p : SoapyProcess) : SoapyProcess :=
  { p with devices := p.devices.set i d }

/-- The constructor. Where it throws there is no device. -/
def construct (host : String) (port : ℕ) (radio : Option SoapyRadioReply)
    (owner : Option SoapyOwnerReply) (p : SoapyProcess) : SoapyProcess :=
  match radio with
  | none => p
  | some radio =>
    if radio.status ≠ 200 then p
    else if radio.tuningEnabled = false then p.join {}
    else
      let key := host ++ ":" ++ toString port
      match p.sharedStationLeases key with
      | some existing =>
        (p.enter key (some { existing with
            references := existing.references + 1 })).join
          { stationKey := key, stationLease := existing.lease
            stationOwner := true }
      | none =>
        match owner with
        | none => p
        | some owner =>
          if owner.status = 201 then
            if owner.lease = 0 then p.join { stationKey := key }
            else
              (p.enter key (some ⟨owner.lease, 1⟩)).join
                { stationKey := key, stationLease := owner.lease
                  stationOwner := true }
          else if owner.status ≠ 409 then p
          else p.join { stationKey := key }

/-- One turn of `ownerKeepalive`. -/
def ownerKeepalive (i : ℕ) (put post : Option SoapyOwnerReply)
    (p : SoapyProcess) : SoapyProcess :=
  match p.devices[i]?, put, post with
  | some d, some put, some post =>
    if d.stationOwner = false then p
    else if put.status ≠ 410 then p
    else if post.status = 201 ∧ 1 ≤ post.lease then
      (p.assign i { d with stationLease := post.lease }).enter d.stationKey
        ((p.sharedStationLeases d.stationKey).map
          fun existing => { existing with lease := post.lease })
    else if post.status ≠ 409 then p
    else
      match p.sharedStationLeases d.stationKey with
      | none => p.assign i { d with stationOwner := false }
      | some existing =>
        if existing.lease ≠ d.stationLease then
          p.assign i { d with stationLease := existing.lease }
        else
          -- the reference this device has in the table stays there
          p.assign i { d with stationOwner := false }
  | _, _, _ => p

/-- The destructor, up to its `DELETE`: the thread is joined first. -/
def destroy (i : ℕ) (p : SoapyProcess) : SoapyProcess :=
  match p.devices[i]? with
  | none => p
  | some d =>
    let p := { p with devices := p.devices.eraseIdx i }
    if d.stationOwner = false then p
    else
      match p.sharedStationLeases d.stationKey with
      | none => p
      | some existing =>
        if existing.references = 0 then p
        else if existing.references - 1 = 0 then
          { p.enter d.stationKey none with
            releasing := p.releasing ++ [⟨d, existing.lease⟩] }
        else
          p.enter d.stationKey (some { existing with
            references := existing.references - 1 })

/-- `currentStationLease`: the table's, or the device's own copy. -/
def currentStationLease (d : SoapyDevice) (p : SoapyProcess) : ℕ :=
  match p.sharedStationLeases d.stationKey with
  | none => d.stationLease
  | some existing => existing.lease

/-- The `DELETE` of a destructor, `controlRequest` with its own look at the
table. -/
def release (j : ℕ) (p : SoapyProcess) : SoapyProcess :=
  match p.releasing[j]? with
  | none => p
  | some r =>
    { p with
      releasing := p.releasing.eraseIdx j
      deleted :=
        p.deleted ++ [(r.device.stationKey, p.currentStationLease r.device)] }

/-- What an event does to the process. -/
def step (p : SoapyProcess) : SoapyEvent → SoapyProcess
  | .construct host port radio owner => p.construct host port radio owner
  | .ownerKeepalive i put post => p.ownerKeepalive i put post
  | .destroy i => p.destroy i
  | .release j => p.release j

/-! ## The accounts -/

/-- Whether a device is an owner at an endpoint. -/
def holds (key : String) (d : SoapyDevice) : Bool :=
  d.stationOwner && d.stationKey == key

/-- The number of owners at an endpoint. -/
def holders (key : String) (p : SoapyProcess) : ℕ :=
  p.devices.countP (holds key)

/-- **The last owner** of an endpoint goes: the endpoint and the lease it
had, where this is what the destruction of a device comes to. -/
def ends (i : ℕ) (p : SoapyProcess) : Option (String × ℕ) :=
  match p.devices[i]? with
  | none => none
  | some d =>
    if d.stationOwner = true ∧ p.holders d.stationKey = 1 then
      (p.sharedStationLeases d.stationKey).map fun e => (d.stationKey, e.lease)
    else none

end SoapyProcess

/-- **The process and its endings**: the leases whose last owner went. -/
structure StationAccounts where
  process : SoapyProcess := {}
  ended : List (String × ℕ) := []

namespace StationAccounts

/-- What an event does to the accounts. -/
def step (s : StationAccounts) (e : SoapyEvent) : StationAccounts where
  process := s.process.step e
  ended :=
    match e with
    | .destroy i => s.ended ++ (s.process.ends i).toList
    | _ => s.ended

/-- **The accounts are right**: an endpoint has an entry exactly where a
device is its owner, the entry counts the owners, and the `DELETE`s, those
sent and those owed, are one for each ending and of its lease. -/
structure Accounted (s : StationAccounts) : Prop where
  entry : ∀ key, (s.process.sharedStationLeases key).isSome ↔
    ∃ d ∈ s.process.devices, d.stationOwner = true ∧ d.stationKey = key
  references : ∀ key e, s.process.sharedStationLeases key = some e →
    e.references = s.process.holders key
  released : (s.process.deleted ++
    s.process.releasing.map fun r => (r.device.stationKey, r.held)).Perm
      s.ended

end StationAccounts

/-! ## Counting owners -/

namespace SoapyProcess

variable {p : SoapyProcess} {key : String}

@[simp] theorem holds_iff {d : SoapyDevice} :
    holds key d = true ↔ d.stationOwner = true ∧ d.stationKey = key := by
  simp [holds]

/-- One device counts once, at its own endpoint. -/
def share (key : String) (d : SoapyDevice) : ℕ :=
  if holds key d = true then 1 else 0

theorem share_of_surrendered {d : SoapyDevice} (h : d.stationOwner = false) :
    share key d = 0 := by
  simp [share, h]

theorem share_own {d : SoapyDevice} (h : d.stationOwner = true) :
    share d.stationKey d = 1 := by
  simp [share, h]

theorem share_other {d : SoapyDevice} (h : key ≠ d.stationKey) :
    share key d = 0 := by
  simp [share, h.symm]

/-- A new lease is no change of owner. -/
theorem share_lease (d : SoapyDevice) (lease : ℕ) :
    share key { d with stationLease := lease } = share key d := rfl

theorem holders_join (d : SoapyDevice) :
    (p.join d).holders key = p.holders key + share key d := by
  show (p.devices ++ [d]).countP (holds key) = _
  rw [List.countP_append, List.countP_singleton]
  rfl

/-- What a device counts for goes with it. -/
theorem holders_eraseIdx (key : String) {i : ℕ} {d : SoapyDevice}
    (h : p.devices[i]? = some d) :
    p.holders key =
      share key d + (p.devices.eraseIdx i).countP (holds key) := by
  obtain ⟨hi, rfl⟩ := List.getElem?_eq_some_iff.mp h
  have hperm := List.getElem_cons_eraseIdx_perm hi
  rw [holders, ← hperm.countP_eq, List.countP_cons, Nat.add_comm]
  rfl

/-- A device that changes is counted as it is now. -/
theorem holders_assign (key : String) {i : ℕ} {d : SoapyDevice}
    (h : p.devices[i]? = some d) (d' : SoapyDevice) :
    (p.assign i d').holders key + share key d =
      p.holders key + share key d' := by
  rw [holders_eraseIdx key h]
  obtain ⟨hi, rfl⟩ := List.getElem?_eq_some_iff.mp h
  have hperm := List.set_perm_cons_eraseIdx hi d'
  show (p.devices.set i d').countP (holds key) + _ = _
  rw [hperm.countP_eq, List.countP_cons]
  show _ + share key d' + _ = _
  omega

/-- **The table counts the owners**: the number of references of an
endpoint, none where it has no owner. -/
def Counted (p : SoapyProcess) : Prop :=
  ∀ key, (p.sharedStationLeases key).map SharedStationLease.references =
    if p.holders key = 0 then none else some (p.holders key)

theorem holders_pos_iff :
    0 < p.holders key ↔
      ∃ d ∈ p.devices, d.stationOwner = true ∧ d.stationKey = key := by
  rw [holders, List.countP_pos_iff]
  simp only [holds_iff]

/-- **Counting in two clauses**, which is how the accounts say it. -/
theorem counted_iff :
    p.Counted ↔
      (∀ key, (p.sharedStationLeases key).isSome ↔
        ∃ d ∈ p.devices, d.stationOwner = true ∧ d.stationKey = key) ∧
      ∀ key e, p.sharedStationLeases key = some e →
        e.references = p.holders key := by
  simp only [← holders_pos_iff, ← forall_and]
  refine forall_congr' fun key => ?_
  cases hentry : p.sharedStationLeases key with
  | none => simp [Nat.pos_iff_ne_zero]
  | some e =>
    by_cases hzero : p.holders key = 0
    · simp [hzero]
    · simp [hzero, Nat.pos_iff_ne_zero]

/-- No entry, no owner. -/
theorem Counted.vacant (h : p.Counted)
    (hentry : p.sharedStationLeases key = none) : p.holders key = 0 := by
  by_contra hpos
  have := h key
  rw [hentry, if_neg hpos] at this
  exact absurd this.symm (Option.some_ne_none _)

/-- An entry is the count of one owner or more. -/
theorem Counted.entered {e : SharedStationLease} (h : p.Counted)
    (hentry : p.sharedStationLeases key = some e) :
    e.references = p.holders key ∧ p.holders key ≠ 0 := by
  have hkey := h key
  rw [hentry] at hkey
  by_cases hzero : p.holders key = 0
  · rw [if_pos hzero] at hkey
    exact absurd hkey (Option.some_ne_none _)
  · rw [if_neg hzero] at hkey
    exact ⟨Option.some.inj hkey, hzero⟩

/-- **One endpoint at a time**: the count is kept where the entry of one
endpoint follows its owners and no other endpoint's owners change. -/
theorem Counted.enter {q : SoapyProcess} {entry : Option SharedStationLease}
    (h : p.Counted)
    (htable : q.sharedStationLeases =
      Function.update p.sharedStationLeases key entry)
    (hothers : ∀ k, k ≠ key → q.holders k = p.holders k)
    (hentry : entry.map SharedStationLease.references =
      if q.holders key = 0 then none else some (q.holders key)) :
    q.Counted := by
  intro k
  by_cases hk : k = key
  · rw [hk, htable, Function.update_self]
    exact hentry
  · rw [htable, Function.update_of_ne hk, hothers k hk]
    exact h k

/-- The count only reads the table and the owners. -/
theorem Counted.congr {q : SoapyProcess} (h : p.Counted)
    (htable : q.sharedStationLeases = p.sharedStationLeases)
    (hholders : ∀ k, q.holders k = p.holders k) : q.Counted := by
  intro k
  rw [htable, hholders]
  exact h k

end SoapyProcess

/-! ## What an event keeps -/

namespace SoapyProcess

variable {p : SoapyProcess} {i j : ℕ} {put post : Option SoapyOwnerReply}

/-- The `DELETE`s, sent and owed, by endpoint and the lease they owe. -/
def ledger (p : SoapyProcess) : List (String × ℕ) :=
  p.deleted ++ p.releasing.map fun r => (r.device.stationKey, r.held)

/-- A device that is no owner counts for nothing. -/
theorem Counted.join_guest {d : SoapyDevice} (h : p.Counted)
    (hguest : d.stationOwner = false) : (p.join d).Counted := by
  refine h.congr rfl fun k => ?_
  rw [holders_join, share_of_surrendered hguest, Nat.add_zero]

/-- A new owner, and one reference more. -/
theorem Counted.join_owner {d : SoapyDevice} {e : SharedStationLease}
    (h : p.Counted) (howner : d.stationOwner = true)
    (href : e.references = p.holders d.stationKey + 1) :
    ((p.enter d.stationKey (some e)).join d).Counted := by
  have hafter (k : String) :
      ((p.enter d.stationKey (some e)).join d).holders k =
        p.holders k + share k d :=
    holders_join d
  refine h.enter rfl (fun k hk => ?_) ?_
  · rw [hafter, share_other hk, Nat.add_zero]
  · rw [hafter, share_own howner, if_neg (Nat.succ_ne_zero _), Option.map_some,
      href]

/-- **A constructor keeps the count.** -/
theorem construct_counted (host : String) (port : ℕ)
    (radio : Option SoapyRadioReply) (owner : Option SoapyOwnerReply)
    (h : p.Counted) : (p.construct host port radio owner).Counted := by
  unfold construct
  cases radio with
  | none => exact h
  | some radio =>
    dsimp only
    split
    · exact h
    split
    · exact h.join_guest rfl
    split
    · next existing hentry =>
      obtain ⟨href, -⟩ := h.entered hentry
      exact h.join_owner rfl (congrArg (· + 1) href)
    · next hentry =>
      cases owner with
      | none => exact h
      | some owner =>
        dsimp only
        split
        · split
          · exact h.join_guest rfl
          · exact h.join_owner rfl (congrArg (· + 1) (h.vacant hentry)).symm
        split
        · exact h
        · exact h.join_guest rfl

theorem ledger_construct (host : String) (port : ℕ)
    (radio : Option SoapyRadioReply) (owner : Option SoapyOwnerReply) :
    (p.construct host port radio owner).ledger = p.ledger := by
  unfold construct
  cases radio with
  | none => rfl
  | some radio =>
    dsimp only
    split
    · rfl
    split
    · rfl
    split
    · rfl
    cases owner with
    | none => rfl
    | some owner =>
      dsimp only
      split
      · split <;> rfl
      split <;> rfl

/-- **A keepalive gives ownership up**: an owner's lease is gone, somebody
else has the station, and the table knows no other lease. -/
def Surrenders (i : ℕ) (put post : Option SoapyOwnerReply) (p : SoapyProcess) :
    Prop :=
  ∃ d, p.devices[i]? = some d ∧ d.stationOwner = true ∧
    put.map SoapyOwnerReply.status = some 410 ∧
    post.map SoapyOwnerReply.status = some 409 ∧
    ∀ e, p.sharedStationLeases d.stationKey = some e → e.lease = d.stationLease

/-- **An owner less, and the table as it was.** -/
theorem ownerKeepalive_of_surrenders (h : p.Surrenders i put post) :
    ∃ d, p.devices[i]? = some d ∧ d.stationOwner = true ∧
      p.ownerKeepalive i put post =
        p.assign i { d with stationOwner := false } := by
  obtain ⟨d, hd, howner, hput, hpost, hlease⟩ := h
  obtain ⟨gone, rfl, hgone⟩ := Option.map_eq_some_iff.mp hput
  obtain ⟨taken, rfl, htaken⟩ := Option.map_eq_some_iff.mp hpost
  refine ⟨d, hd, howner, ?_⟩
  unfold ownerKeepalive
  rw [hd]
  dsimp only
  rw [if_neg (by rw [howner]; exact Bool.noConfusion),
    if_neg (fun h => h hgone), if_neg (fun h => by omega),
    if_neg (fun h => h htaken)]
  cases hentry : p.sharedStationLeases d.stationKey with
  | none => rfl
  | some e =>
    dsimp only
    rw [if_neg (fun h => h (hlease e hentry))]

/-- A device that only learns of a lease is counted as before. -/
theorem Counted.learn {d : SoapyDevice} (lease : ℕ) (h : p.Counted)
    (hd : p.devices[i]? = some d) :
    (p.assign i { d with stationLease := lease }).Counted := by
  refine h.congr rfl fun k => ?_
  have hassign := holders_assign k hd { d with stationLease := lease }
  rw [share_lease] at hassign
  exact Nat.add_right_cancel hassign

/-- **Any other keepalive keeps the count.** -/
theorem ownerKeepalive_counted (h : p.Counted)
    (hkeeps : ¬ p.Surrenders i put post) :
    (p.ownerKeepalive i put post).Counted := by
  unfold ownerKeepalive
  split
  case h_2 => exact h
  next d put post hd =>
  split
  · exact h
  next howner =>
  split
  · exact h
  next hput =>
  split
  · -- the table's lease changes with the device's, its count does not
    have hlearn := h.learn post.lease hd
    refine hlearn.enter rfl (fun k _ => rfl) ?_
    rw [Option.map_map]
    exact hlearn d.stationKey
  split
  · exact h
  next hpost =>
  have hsurrenders (hlease : ∀ e, p.sharedStationLeases d.stationKey = some e →
      e.lease = d.stationLease) : False :=
    hkeeps ⟨d, hd, Bool.of_not_eq_false howner,
      congrArg some (not_not.mp hput), congrArg some (not_not.mp hpost), hlease⟩
  split
  · next hentry =>
    exact (hsurrenders fun e he => absurd (hentry.symm.trans he)
      (Option.some_ne_none e).symm).elim
  · next existing hentry =>
    split
    · exact h.learn existing.lease hd
    · next hlease =>
      refine (hsurrenders fun e he => ?_).elim
      obtain rfl := Option.some.inj (hentry.symm.trans he)
      exact not_not.mp hlease

theorem ledger_ownerKeepalive :
    (p.ownerKeepalive i put post).ledger = p.ledger := by
  unfold ownerKeepalive
  split
  case h_2 => rfl
  repeat' split
  all_goals rfl

/-- **Giving ownership up loses the count**: the reference stays. -/
theorem not_counted_of_surrenders (h : p.Counted)
    (hsurrenders : p.Surrenders i put post) :
    ¬ (p.ownerKeepalive i put post).Counted := by
  intro hafter
  obtain ⟨d, hd, howner, heq⟩ := ownerKeepalive_of_surrenders hsurrenders
  rw [heq] at hafter
  have hless := holders_assign d.stationKey hd
    { d with stationOwner := false }
  rw [share_own howner, share_of_surrendered rfl] at hless
  have hsame := (h d.stationKey).symm.trans (hafter d.stationKey)
  rw [if_neg (by omega)] at hsame
  split at hsame
  · exact Option.some_ne_none _ hsame
  · have := Option.some.inj hsame
    omega

/-- **A destructor keeps the count**, and books an ending exactly where it
takes the last owner. -/
theorem destroy_counted (h : p.Counted) :
    (p.destroy i).Counted ∧
      (p.destroy i).ledger = p.ledger ++ (p.ends i).toList := by
  unfold destroy ends
  split
  · exact ⟨h, (List.append_nil _).symm⟩
  next d hd =>
  have hleft (k : String) := holders_eraseIdx k hd
  dsimp only
  split
  · next hguest =>
    refine ⟨h.congr rfl fun k => ?_, ?_⟩
    · rw [hleft k, share_of_surrendered hguest, Nat.zero_add]
      rfl
    · rw [if_neg (by rw [hguest]; exact fun h => Bool.noConfusion h.1)]
      exact (List.append_nil _).symm
  next howner =>
  have howner : d.stationOwner = true := Bool.of_not_eq_false howner
  have hown := hleft d.stationKey
  rw [share_own howner] at hown
  have hothers (k : String) (hk : k ≠ d.stationKey) :
      (p.devices.eraseIdx i).countP (holds k) = p.holders k := by
    rw [hleft k, share_other hk, Nat.zero_add]
  split
  · next hentry =>
    exact absurd (h.vacant hentry) (by omega)
  next existing hentry =>
  obtain ⟨href, hpos⟩ := h.entered hentry
  rw [if_neg (by omega)]
  split
  · next hlast =>
    -- the count came down to one, so this is the last owner
    refine ⟨h.enter rfl hothers ?_, ?_⟩
    · exact (if_pos (show (p.devices.eraseIdx i).countP _ = 0 by omega)).symm
    · rw [if_pos ⟨howner, by omega⟩, hentry]
      show _ ++ List.map _ (_ ++ [_]) = _
      rw [List.map_append, ← List.append_assoc]
      rfl
  · next hmore =>
    refine ⟨h.enter rfl hothers ?_, ?_⟩
    · refine Eq.trans ?_
        (if_neg (show (p.devices.eraseIdx i).countP _ ≠ 0 by omega)).symm
      show some (existing.references - 1) = _
      rw [href, hown, Nat.add_sub_cancel_left]
      rfl
    · rw [if_neg fun hends => by omega]
      exact (List.append_nil _).symm

/-- **The lease a `DELETE` reads** is the one it owes: nobody has an entry
at the endpoint and the device's own copy is right, or the entry there has
the same lease. -/
def Owes (j : ℕ) (p : SoapyProcess) : Prop :=
  ∀ r, p.releasing[j]? = some r →
    match p.sharedStationLeases r.device.stationKey with
    | none => r.device.stationLease = r.held
    | some e => e.lease = r.held

theorem owes_iff :
    p.Owes j ↔ ∀ r, p.releasing[j]? = some r →
      p.currentStationLease r.device = r.held := by
  refine forall_congr' fun r => imp_congr_right fun _ => ?_
  unfold currentStationLease
  cases p.sharedStationLeases r.device.stationKey <;> rfl

theorem release_counted (h : p.Counted) : (p.release j).Counted := by
  unfold release
  split
  · exact h
  · exact h.congr rfl fun _ => rfl

/-- **One of the `DELETE`s that were owed is sent**, of the lease it reads. -/
theorem ledger_release {r : StationRelease} (hr : p.releasing[j]? = some r) :
    ∃ rest, p.ledger.Perm ((r.device.stationKey, r.held) :: rest) ∧
      (p.release j).ledger.Perm
        ((r.device.stationKey, p.currentStationLease r.device) :: rest) := by
  have hrelease : p.release j = { p with
      releasing := p.releasing.eraseIdx j,
      deleted := p.deleted ++
        [(r.device.stationKey, p.currentStationLease r.device)] } := by
    unfold release
    rw [hr]
  obtain ⟨hj, hget⟩ := List.getElem?_eq_some_iff.mp hr
  have hperm := List.getElem_cons_eraseIdx_perm hj
  rw [hget] at hperm
  refine ⟨p.deleted ++ (p.releasing.eraseIdx j).map fun r =>
    (r.device.stationKey, r.held), ?_, ?_⟩
  · exact ((hperm.symm.map _).append_left p.deleted).trans List.perm_middle
  · rw [hrelease]
    show ((_ ++ [_]) ++ _ : List _).Perm _
    rw [List.append_assoc]
    exact List.perm_middle

end SoapyProcess

/-! ## The law -/

namespace StationAccounts

variable {s : StationAccounts}

theorem accounted_iff_counted :
    Accounted s ↔ s.process.Counted ∧ s.process.ledger.Perm s.ended := by
  rw [SoapyProcess.counted_iff]
  exact ⟨fun h => ⟨⟨h.entry, h.references⟩, h.released⟩,
    fun ⟨⟨hentry, href⟩, hreleased⟩ => ⟨hentry, href, hreleased⟩⟩

/-- **An event that keeps the accounts**: a keepalive does not give
ownership up, and a `DELETE` reads the lease it owes. -/
def Keeps (s : StationAccounts) : SoapyEvent → Prop
  | .construct .. => True
  | .ownerKeepalive i put post => ¬ s.process.Surrenders i put post
  | .destroy _ => True
  | .release j => s.process.Owes j

/-- **The step lemma.** -/
theorem step_accounted_iff (e : SoapyEvent) (h : Accounted s) :
    Accounted (s.step e) ↔ Keeps s e := by
  rw [accounted_iff_counted] at h ⊢
  obtain ⟨hcounted, hreleased⟩ := h
  cases e with
  | construct host port radio owner =>
    refine iff_of_true ⟨SoapyProcess.construct_counted _ _ _ _ hcounted, ?_⟩
      trivial
    show (s.process.construct host port radio owner).ledger.Perm s.ended
    rw [SoapyProcess.ledger_construct]
    exact hreleased
  | ownerKeepalive i put post =>
    constructor
    · exact fun hafter hsurrenders =>
        SoapyProcess.not_counted_of_surrenders hcounted hsurrenders hafter.1
    · intro hkeeps
      refine ⟨SoapyProcess.ownerKeepalive_counted hcounted hkeeps, ?_⟩
      show (s.process.ownerKeepalive i put post).ledger.Perm s.ended
      rw [SoapyProcess.ledger_ownerKeepalive]
      exact hreleased
  | destroy i =>
    obtain ⟨hafter, hledger⟩ := SoapyProcess.destroy_counted (i := i) hcounted
    refine iff_of_true ⟨hafter, ?_⟩ trivial
    show (s.process.destroy i).ledger.Perm (s.ended ++ _)
    rw [hledger]
    exact hreleased.append_right _
  | release j =>
    show (s.process.release j).Counted ∧
      (s.process.release j).ledger.Perm s.ended ↔ s.process.Owes j
    rw [and_iff_right (SoapyProcess.release_counted hcounted),
      SoapyProcess.owes_iff]
    cases hr : s.process.releasing[j]? with
    | none =>
      have hsame : s.process.release j = s.process := by
        unfold SoapyProcess.release
        rw [hr]
      rw [hsame]
      exact iff_of_true hreleased fun r h => absurd h.symm (Option.some_ne_none r)
    | some r =>
      obtain ⟨rest, hbefore, hafter⟩ := SoapyProcess.ledger_release hr
      have howed := hbefore.symm.trans hreleased
      constructor
      · intro h r' hr'
        obtain rfl := Option.some.inj hr'
        have hsent := (hafter.symm.trans h).trans howed.symm
        have hone := (List.perm_append_right_iff rest).mp
          (show ([_] ++ rest).Perm ([_] ++ rest) from hsent)
        exact congrArg Prod.snd (List.singleton_perm_singleton.mp hone)
      · intro h
        rw [h r rfl] at hafter
        exact hafter.trans howed

/-- **The accounts of a process**: they are right after every event exactly
where no keepalive gives ownership up and every `DELETE` reads the lease
it owes. -/
theorem accounted_always_iff (events : List SoapyEvent) :
    Run.Always step Accounted {} events ↔ Run.Each step Keeps {} events :=
  Run.always_iff_each (fun _ e h => step_accounted_iff e h)
    ⟨fun _ => ⟨fun h => Bool.noConfusion h, fun ⟨_, hmem, _⟩ =>
      absurd hmem List.not_mem_nil⟩,
      fun _ e h => absurd h.symm (Option.some_ne_none e), .rfl⟩
    events

/-- **A phantom owner**: the only device of an endpoint has its lease
expire, somebody else takes the station, and the table keeps an entry that
no device stands behind. -/
theorem accounted_phantom :
    ¬ ∀ events, Run.Always step Accounted {} events := by
  intro h
  have hafter := (h
    [.construct "127.0.0.1" 15000 (some ⟨200, true⟩) (some ⟨201, 7⟩),
      .ownerKeepalive 0 (some ⟨410, 0⟩) (some ⟨409, 0⟩)]).after
  have hentry := hafter.entry "127.0.0.1:15000"
  revert hentry
  decide +kernel

/-- A stale `DELETE`: the first device got the endpoint a new lease, the
second one never learned of it and was the last to go. -/
example :
    let s := Run.after step {}
      [.construct "127.0.0.1" 15000 (some ⟨200, true⟩) (some ⟨201, 7⟩),
        .construct "127.0.0.1" 15000 (some ⟨200, true⟩) none,
        .ownerKeepalive 0 (some ⟨410, 0⟩) (some ⟨201, 8⟩),
        .destroy 0, .destroy 0, .release 0]
    s.ended = [("127.0.0.1:15000", 8)] ∧
      s.process.deleted = [("127.0.0.1:15000", 7)] := by
  decide +kernel

end StationAccounts
