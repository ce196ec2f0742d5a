import Mathlib.Data.List.Basic

/-!
# The station owner

One client at a time holds the station: the frequency, the mode, the
settings and the transmitter are its own until it lets go or falls silent.
`station_owner` keeps that lease. It knows nothing of what the lease is
for; the dispatcher asks it before it acts.
-/

/-- `FLEX1500_STATION_OWNER_LEASE_MS`. -/
def stationOwnerLeaseMs : UInt64 := 15000

/-- What an operation reports (`flex1500_station_owner_result`). -/
inductive StationOwnerResult where
  | ok | busy | stale | invalid | expired
  deriving DecidableEq, Repr

/-- The station lease (`flex1500_station_owner`). -/
structure StationOwner where
  held : Bool := false
  modeAware : Bool := false
  lease : UInt64 := 0
  renewedMs : UInt64 := 0
  deriving DecidableEq, Repr

namespace StationOwner

/-- `flex1500_station_owner_init`. -/
def init : StationOwner := {}

/-- `flex1500_station_owner_matches`. -/
def leaseMatches (owner : StationOwner) (lease : UInt64) : Bool :=
  owner.held && lease != 0 && owner.lease == lease

/-- `flex1500_station_owner_acquire_with_mode`. -/
def acquireWithMode (lease nowMs : UInt64) (modeAware : Bool)
    (owner : StationOwner) : StationOwnerResult × StationOwner :=
  if lease = 0 then (.invalid, owner)
  else if owner.held then (.busy, owner)
  else
    (.ok, { held := true, modeAware := modeAware, lease := lease,
            renewedMs := nowMs })

/-- `flex1500_station_owner_keepalive`. -/
def keepalive (lease nowMs : UInt64) (owner : StationOwner) :
    StationOwnerResult × StationOwner :=
  if !owner.leaseMatches lease then (.stale, owner)
  else (.ok, { owner with renewedMs := nowMs })

/-- `flex1500_station_owner_release`. -/
def release (lease : UInt64) (owner : StationOwner) :
    StationOwnerResult × StationOwner :=
  if !owner.leaseMatches lease then (.stale, owner) else (.ok, init)

/-- `flex1500_station_owner_tick`. -/
def tick (nowMs : UInt64) (owner : StationOwner) :
    StationOwnerResult × StationOwner :=
  if !owner.held then (.ok, owner)
  else if nowMs - owner.renewedMs < stationOwnerLeaseMs then (.ok, owner)
  else (.expired, init)

/-- What matching the station lease means. -/
theorem leaseMatches_iff {owner : StationOwner} {lease : UInt64} :
    owner.leaseMatches lease = true
      ↔ owner.held = true ∧ lease ≠ 0 ∧ owner.lease = lease := by
  simp [leaseMatches, and_assoc]

/-- **A held station is not taken over**: acquiring it changes nothing. -/
theorem acquireWithMode_of_held {owner : StationOwner} (h : owner.held = true)
    (lease nowMs : UInt64) (modeAware : Bool) :
    (owner.acquireWithMode lease nowMs modeAware).2 = owner := by
  unfold acquireWithMode
  by_cases hl : lease = 0
  · rw [if_pos hl]
  · rw [if_neg hl, if_pos h]

/-- A foreign lease renews nothing. -/
theorem keepalive_of_not_leaseMatches {owner : StationOwner} {lease : UInt64}
    (h : owner.leaseMatches lease = false) (nowMs : UInt64) :
    (owner.keepalive lease nowMs).2 = owner := by
  rw [keepalive, if_pos (by simp [h])]

/-- A foreign lease releases nothing. -/
theorem release_of_not_leaseMatches {owner : StationOwner} {lease : UInt64}
    (h : owner.leaseMatches lease = false) : (owner.release lease).2 = owner := by
  rw [release, if_pos (by simp [h])]

end StationOwner
