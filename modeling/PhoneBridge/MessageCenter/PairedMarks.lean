import PhoneBridge.MessageCenter.DeviceStore

/-!
# What the database says about pairing

The database has two marks of a paired device, the column `paired` and a row of `pairings`. No
statement of the program sets them; an upsert through the hardware id clears the column, and a
removal takes both away.
-/

namespace PhoneBridge.Storage

open Library

/-- The device's row says that it is paired. -/
def Tables.Flagged (t : Tables) (deviceId : Uuid) : Prop :=
  ∃ row ∈ t.devices.rows, row.deviceId = deviceId ∧ row.paired = true

/-- The fingerprints that are recorded for the device. -/
def Tables.recorded (t : Tables) (deviceId : Uuid) : List String :=
  (t.pairings.rows.filter (·.deviceId = deviceId)).map (·.certFingerprint)

/-- Two databases say the same about pairing. -/
structure SameMarks (t t' : Tables) : Prop where
  flagged : ∀ deviceId, t.Flagged deviceId ↔ t'.Flagged deviceId
  recorded : ∀ deviceId, t.recorded deviceId = t'.recorded deviceId

theorem SameMarks.refl (t : Tables) : SameMarks t t := ⟨fun _ ↦ Iff.rfl, fun _ ↦ rfl⟩

theorem SameMarks.trans {t t' t'' : Tables} (h : SameMarks t t') (h' : SameMarks t' t'') :
    SameMarks t t'' :=
  ⟨fun deviceId ↦ (h.flagged deviceId).trans (h'.flagged deviceId),
    fun deviceId ↦ (h.recorded deviceId).trans (h'.recorded deviceId)⟩

/-- The hardware id of the row leads to the device's own row, and that row is paired. -/
def ClearsPaired (db : Db) (r : DeviceRow) : Prop :=
  ∃ row ∈ db.findHardware r, row.deviceId = r.deviceId ∧ row.paired = true

/-- Every device that is marked as paired has a recorded fingerprint. -/
def FlaggedAreRecorded (t : Tables) : Prop :=
  ∀ deviceId, t.Flagged deviceId → t.recorded deviceId ≠ []

/-- A recorded fingerprint is a reference to the device. -/
theorem mem_references_of_recorded {t : Tables} {deviceId : Uuid}
    (h : t.recorded deviceId ≠ []) : deviceId ∈ t.references := by
  obtain ⟨fingerprint, hmem⟩ := List.exists_mem_of_ne_nil _ h
  obtain ⟨row, hrow, -⟩ := List.mem_map.mp hmem
  obtain ⟨hpairing, hdevice⟩ := List.mem_filter.mp hrow
  have hreference : row.deviceId ∈ t.references := by
    simp only [Tables.references, List.mem_append]
    exact .inl (.inl (.inl (.inl (List.mem_map_of_mem hpairing))))
  rwa [of_decide_eq_true hdevice] at hreference

end PhoneBridge.Storage

namespace PhoneBridge.MessageCenter

open Library Proto Net Storage

/-! ## Statements that leave the marks -/

section Statements

variable {db : Db} {t : Tables}

theorem sameMarks_warned (h : SameMarks t db.toTables) :
    SameMarks (warned db t.commit).toTables db.toTables :=
  warned_of_both (fun t ↦ SameMarks t db.toTables) (.refl _) h

theorem sameMarks_of_eq {t' : Tables} (hdevices : t.devices = t'.devices)
    (hpairings : t.pairings = t'.pairings) : SameMarks t t' := by
  constructor
  · intro deviceId
    rw [Tables.Flagged, Tables.Flagged, hdevices]
  · intro deviceId
    rw [Tables.recorded, Tables.recorded, hpairings]

theorem sameMarks_insertCall (row : CallRow) :
    SameMarks (CenterSink.insertCall row db).toTables db.toTables := by
  rw [insertCall_eq]
  exact sameMarks_warned (sameMarks_of_eq rfl rfl)

theorem sameMarks_touchDevice (stamp : Stamp) (deviceId : Uuid) :
    SameMarks (CenterSink.touchDevice stamp deviceId db).toTables db.toTables := by
  apply sameMarks_warned
  refine ⟨fun other ↦ ?_, fun _ ↦ rfl⟩
  simp only [Tables.Flagged, NumberedTable.rows_update, List.mem_map, exists_exists_and_eq_and]
  refine exists_congr fun row ↦ and_congr_right fun _ ↦ ?_
  split <;> rfl

theorem sameMarks_audit (stamp : Stamp) (deviceId : Uuid) (event : String)
    (detail : Option String) :
    SameMarks (CenterSink.audit stamp deviceId db event detail).toTables db.toTables :=
  sameMarks_warned (sameMarks_of_eq rfl rfl)

/-- A fold of statements that leave the marks leaves the marks. -/
theorem sameMarks_foldl {α : Type} (f : Db → α → Db) (xs : List α)
    (h : ∀ db x, SameMarks (f db x).toTables db.toTables) :
    SameMarks (xs.foldl f db).toTables db.toTables := by
  induction xs generalizing db with
  | nil => exact .refl _
  | cons x xs ih => exact ih.trans (h db x)

end Statements

/-! ## The upsert of a hello -/

section Upsert

variable {db : Db} {t : Tables} {r new : DeviceRow} {old : Option DeviceRow}

/-- The flags after a row has come in whose flag is that of the row it replaces. -/
theorem sameMarks_replaced (h : Replaced db t old new)
    (hflag : ∀ deviceId, new.deviceId = deviceId ∧ new.paired = true ↔
      ∃ row ∈ old, row.deviceId = deviceId ∧ row.paired = true) : SameMarks t db.toTables := by
  constructor
  · intro deviceId
    constructor
    · rintro ⟨other, hother, hmine⟩
      rcases (h.mem other).mp hother with rfl | ⟨hstored, -⟩
      · obtain ⟨row, hrow, hold⟩ := (hflag deviceId).mp hmine
        exact ⟨row, h.stored row hrow, hold⟩
      · exact ⟨other, hstored, hmine⟩
    · rintro ⟨row, hrow, hmine⟩
      by_cases hreplaced : some row = old
      · exact ⟨new, (h.mem new).mpr (.inl rfl),
          (hflag deviceId).mpr ⟨row, hreplaced.symm, hmine⟩⟩
      · exact ⟨row, (h.mem row).mpr (.inr ⟨hrow, hreplaced⟩), hmine⟩
  · intro deviceId
    rw [h.rest]
    rfl

/-- The row of a recorded device cannot be given to another device. -/
theorem not_foreignKeys_refresh {row : DeviceRow} (hrow : row ∈ db.devices.rows)
    (hother : row.deviceId ≠ r.deviceId) (hused : row.deviceId ∈ db.references) :
    ¬ (db.refreshDevice row.id r).ForeignKeys := by
  have hreplaced : Replaced db (db.refreshDevice row.id r) _ _ := replaced_refreshDevice hrow
  intro hforeign
  rw [← hreplaced.references] at hused
  obtain ⟨parent, hparent, heq⟩ := Tables.mem_deviceIds.mp (hforeign _ hused)
  rcases (hreplaced.mem parent).mp hparent with rfl | ⟨hparent, hkept⟩
  · exact hother heq.symm
  · exact hkept (congrArg some (db.eq_of_deviceId_eq hparent hrow heq))

/-- An upsert of an unpaired row leaves the marks, unless it clears the device's own flag. -/
theorem sameMarks_upsertDevice (hunpaired : r.paired = false)
    (hrecorded : FlaggedAreRecorded db.toTables) (hkeeps : ¬ ClearsPaired db r) :
    SameMarks (warned db (db.upsertDevice r)).toTables db.toTables := by
  unfold Db.upsertDevice
  split
  · next row hfound =>
    obtain ⟨hrow, -⟩ := findHardware_eq_some hfound
    cases hpaired : row.paired with
    | false =>
      apply sameMarks_warned
      apply sameMarks_replaced (replaced_refreshDevice hrow)
      simp [hunpaired, hpaired]
    | true =>
      have hother : row.deviceId ≠ r.deviceId :=
        fun heq ↦ hkeeps ⟨row, hfound, heq, hpaired⟩
      have hused : row.deviceId ∈ db.references :=
        mem_references_of_recorded (hrecorded _ ⟨row, hrow, rfl, hpaired⟩)
      rw [warned_commit_of_not fun h ↦ not_foreignKeys_refresh hrow hother hused h.2]
      exact .refl _
  · apply sameMarks_warned
    by_cases hknown : r.deviceId ∈ db.deviceIds
    · obtain ⟨row, hrow, hdevice⟩ := Tables.mem_deviceIds.mp hknown
      apply sameMarks_replaced (replaced_insertOrUpdate_known hrow hdevice)
      simp [DeviceRow.mergedWith]
    · apply sameMarks_replaced (replaced_insertOrUpdate_new hknown)
      simp [hunpaired]

/-- An upsert that clears the flag. -/
theorem not_flagged_upsertDevice (hunpaired : r.paired = false) (hclears : ClearsPaired db r) :
    db.Flagged r.deviceId ∧ ¬ (warned db (db.upsertDevice r)).Flagged r.deviceId := by
  obtain ⟨row, hfound, hdevice, hpaired⟩ := hclears
  obtain ⟨hrow, -⟩ := findHardware_eq_some hfound
  refine ⟨⟨row, hrow, hdevice, hpaired⟩, ?_⟩
  have hreplaced : Replaced db (db.refreshDevice row.id r) _ _ := replaced_refreshDevice hrow
  have hconstraints := hreplaced.constraints
    (fun other hother hne heq ↦ hne (congrArg some
      (db.eq_of_deviceId_eq hother hrow (heq.trans hdevice.symm)))) (by simp [hdevice])
  rw [Db.upsertDevice, hfound, warned_commit hconstraints]
  rintro ⟨other, hother, hmine, hflag⟩
  rcases (hreplaced.mem other).mp hother with rfl | ⟨hstored, hne⟩
  · simp [hunpaired] at hflag
  · exact hne (congrArg some (db.eq_of_deviceId_eq hstored hrow (hmine.trans hdevice.symm)))

end Upsert

/-! ## The removal of a device -/

theorem toTables_removeDevice (db : Db) (deviceId : Uuid) :
    (warned db (db.removeDevice deviceId)).toTables = db.deleteDevice deviceId :=
  warned_commit (constraints_deleteDevice db deviceId)

/-- A removed device has no marks, and the others keep theirs. -/
theorem flagged_deleteDevice {t : Tables} {deviceId other : Uuid} :
    (t.deleteDevice deviceId).Flagged other ↔ other ≠ deviceId ∧ t.Flagged other := by
  simp only [Tables.Flagged, Tables.deleteDevice, NumberedTable.rows_delete, List.mem_filter]
  constructor
  · rintro ⟨row, ⟨hrow, hkept⟩, rfl, hpaired⟩
    exact ⟨by simpa using hkept, row, hrow, rfl, hpaired⟩
  · rintro ⟨hother, row, hrow, rfl, hpaired⟩
    exact ⟨row, ⟨hrow, by simpa using hother⟩, rfl, hpaired⟩

theorem recorded_deleteDevice {t : Tables} {deviceId other : Uuid} :
    (t.deleteDevice deviceId).recorded other =
      if other = deviceId then [] else t.recorded other := by
  simp only [Tables.recorded, Tables.deleteDevice, NumberedTable.rows_delete]
  split
  · next heq =>
    subst heq
    simp [List.filter_filter]
  · next hne =>
    rw [filter_delete_of_not]
    intro row _ hrow
    simp only [decide_eq_true_eq] at hrow
    simpa [hrow] using Ne.symm hne

/-! ## The sink -/

/-- The calls of the sink that can change what the database says about pairing. -/
def MarksCall (db : Db) (stamp : Stamp) : SinkCall → Prop
  | .onHello _ deviceId env => ClearsPaired db (CenterSink.helloRow stamp deviceId env)
  | .onUnpair .. => True
  | _ => False

/-- No other call of the sink changes what the database says about pairing. -/
theorem sameMarks_centerSink {db : Db} (stamp : Stamp) {call : SinkCall}
    (hrecorded : FlaggedAreRecorded db.toTables) (h : ¬ MarksCall db stamp call) :
    SameMarks (centerSink stamp call db).toTables db.toTables := by
  cases call with
  | onNotification | onSmsReceived => exact sameMarks_warned (sameMarks_of_eq rfl rfl)
  | onNotificationDismissed => exact sameMarks_warned (sameMarks_of_eq rfl rfl)
  | onSmsSendResult => exact .refl _
  | onCallState | onCallIncoming => exact sameMarks_insertCall _
  | onCallHistory _ deviceId env =>
    exact sameMarks_foldl _ _ fun _ _ ↦ sameMarks_insertCall _
  | onSmsListResult _ deviceId env =>
    exact sameMarks_foldl _ _ fun _ _ ↦ sameMarks_warned (sameMarks_of_eq rfl rfl)
  | onHello _ deviceId env =>
    have hupserted := sameMarks_upsertDevice rfl hrecorded h
    exact (sameMarks_audit ..).trans ((sameMarks_touchDevice ..).trans hupserted)
  | onUnpair => exact absurd trivial h
  | onDisconnect deviceId => exact (sameMarks_audit ..).trans (sameMarks_touchDevice ..)

end PhoneBridge.MessageCenter
