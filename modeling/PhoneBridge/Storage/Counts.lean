import PhoneBridge.Storage.Listings
import Mathlib.Algebra.BigOperators.Group.List.Lemmas

/-!
# The counts

The statements of `pool.rs` that count rows or group them. Groups come in the order of their count or
of their newest row; the order of ties is that in which the database visits the rows.
-/

namespace PhoneBridge.Storage

open Library Select

/-- `GROUP BY`: the values of a column, each with its rows. -/
def groupBy {ρ κ : Type} [DecidableEq κ] (key : ρ → κ) (rows : List ρ) : List (κ × List ρ) :=
  (rows.map key).dedup.map fun k ↦ (k, rows.filter (key · = k))

/-- No row is lost and none is counted twice. -/
theorem sum_length_groupBy {ρ κ : Type} [DecidableEq κ] (key : ρ → κ) (rows : List ρ) :
    ((groupBy key rows).map fun group ↦ group.2.length).sum = rows.length := by
  have hcount : ∀ k, (rows.filter (key · = k)).length = (rows.map key).count k := by
    intro k
    rw [List.count, List.countP_map, List.countP_eq_length_filter]
    rfl
  calc ((groupBy key rows).map fun group ↦ group.2.length).sum
      = ((rows.map key).dedup.map fun k ↦ (rows.filter (key · = k)).length).sum := by
        rw [groupBy, List.map_map]
        rfl
    _ = ((rows.map key).dedup.map fun k ↦ (rows.map key).count k).sum := by
        rw [funext hcount]
    _ = (rows.map key).length := List.sum_map_count_dedup_eq_length _
    _ = rows.length := List.length_map _

namespace Db

variable (db : Db)

/-- The notifications of one device, or of all. -/
def notificationsOf (deviceId : Option Uuid) : List NotificationRow :=
  db.notifications.rows.filter fun row ↦ deviceId.all (row.deviceId = ·)

/-- Count unread notifications across all (or one) device. -/
def countUnreadNotifications (deviceId : Option Uuid) : Nat :=
  db.notifications.rows.countP fun row ↦ !row.read && deviceId.all (row.deviceId = ·)

/-- Count of notifications grouped by package. -/
def countNotificationsByPackage (visit : Visit db.notifications.rows) (deviceId : Option Uuid) :
    List (String × Nat) :=
  let groups := groupBy (·.packageName) (visit.val.filter fun row ↦ deviceId.all (row.deviceId = ·))
  (groups.map fun group ↦ (group.1, group.2.length)).mergeSort fun a b ↦ b.2 ≤ a.2

/-- Group SMS by phone number, returning (address, last_timestamp, count). -/
def listSmsConversations (visit : Visit db.smsMessages.rows) (deviceId : Option Uuid) :
    List (String × Int64 × Nat) :=
  let groups := groupBy (·.phoneNumber) (visit.val.filter fun row ↦ deviceId.all (row.deviceId = ·))
  (groups.map fun group ↦
    (group.1, (group.2.map (·.timestamp)).max?.getD 0, group.2.length)).mergeSort
      fun a b ↦ b.2.1 ≤ a.2.1

/-- `SELECT COUNT(*) AS n FROM devices WHERE paired = 1` -/
def countPaired : Nat := db.devices.rows.countP (·.paired)

/-- The counts of all packages add up to the number of notifications. -/
theorem sum_countNotificationsByPackage (visit : Visit db.notifications.rows)
    (deviceId : Option Uuid) :
    ((db.countNotificationsByPackage visit deviceId).map Prod.snd).sum =
      (db.notificationsOf deviceId).length := by
  have hperm := List.mergeSort_perm ((groupBy (·.packageName) (visit.val.filter fun row ↦
    deviceId.all (row.deviceId = ·))).map fun group ↦ (group.1, group.2.length))
    fun a b ↦ b.2 ≤ a.2
  rw [countNotificationsByPackage, (hperm.map Prod.snd).sum_eq, List.map_map]
  exact (sum_length_groupBy _ _).trans (visit.property.filter _).length_eq

/-- There are not more unread notifications than notifications. -/
theorem countUnreadNotifications_le (deviceId : Option Uuid) :
    db.countUnreadNotifications deviceId ≤ (db.notificationsOf deviceId).length := by
  rw [countUnreadNotifications, notificationsOf, ← List.countP_eq_length_filter]
  refine List.countP_mono_left fun row _ h ↦ ?_
  rw [Bool.and_eq_true] at h
  exact h.2

/-- A listing of all notifications has as many rows as the limit allows. -/
theorem length_listNotifications {visit : Visit db.notifications.rows} {deviceId : Option Uuid}
    {limit : Int64} (hlimit : 0 ≤ limit) {rows : List NotificationRow}
    (h : db.listNotifications visit deviceId limit false none = .ok rows) :
    rows.length = min limit.toInt.toNat (db.notificationsOf deviceId).length := by
  rw [listNotifications_eq deviceId false none db visit hlimit, Except.ok.injEq] at h
  subst h
  have hwanted : wantedNotification deviceId false none =
      fun row ↦ deviceId.all (row.deviceId = ·) := by
    funext row
    simp [wantedNotification]
  rw [newest, List.length_take, List.length_mergeSort, hwanted,
    (visit.property.filter _).length_eq, notificationsOf]

end Db

/-! ## A phone with many notifications -/

def crowdedDevice : DeviceRow where
  id := 1
  name := "Pixel"
  deviceId := .nil
  publicKey := ""
  lastSeen := 0
  paired := true
  hardwareId := none

/-- The unread notification with the number `i`. -/
def crowdedNotification (i : Nat) : NotificationRow where
  id := String.ofList (List.replicate i 'n')
  deviceId := .nil
  packageName := "org.example.chat"
  appName := none
  title := "New message"
  content := ""
  postedAt := 0
  isSensitive := false
  category := none
  read := false

theorem crowdedNotification_inj {i j : Nat}
    (h : (crowdedNotification i).id = (crowdedNotification j).id) : i = j := by
  have hlists : List.replicate i 'n' = List.replicate j 'n' := String.ofList_injective h
  simpa using congrArg List.length hlists

/-- The database of a phone with `n` unread notifications. -/
def crowded (n : Nat) : Db where
  devices := {
    rows := [crowdedDevice]
    last := 1
    increasing := List.pairwise_singleton _ _
    bounded := by simp [crowdedDevice] }
  pairings := .empty
  sessions := .empty
  notifications := {
    rows := (List.range n).map crowdedNotification
    nodup := by
      rw [List.map_map]
      refine List.nodup_range.map fun i j h ↦ crowdedNotification_inj ?_
      exact congrArg Prod.fst h }
  smsMessages := .empty
  calls := .empty
  auditLog := .empty
  unique := {
    devices := List.nodup_singleton _
    pairings := .nil }
  foreignKeys := by
    intro id hid
    simp only [Tables.references, NumberedTable.rows_empty, KeyedTable.rows_empty, List.map_nil,
      List.nil_append, List.append_nil, List.map_map, List.mem_map] at hid
    obtain ⟨i, -, rfl⟩ := hid
    exact List.mem_singleton_self _

theorem countUnread_crowded (n : Nat) : (crowded n).countUnreadNotifications none = n := by
  simp [Db.countUnreadNotifications, crowded, crowdedNotification, Function.comp_def]

theorem length_notificationsOf_crowded (n : Nat) :
    ((crowded n).notificationsOf none).length = n := by
  simp [Db.notificationsOf, crowded]

end PhoneBridge.Storage
