import PhoneBridge.Storage.Shelves

/-!
# What is stored stays

A statement that does not remove a device leaves everything that is kept for it: rows are replaced
and marked, but none goes. Only a device that has nothing yet can give up its id. The audit log has
an entry for each insertion.
-/

namespace PhoneBridge.Storage

open Library

/-- What is kept in the one record is kept in the other one too, perhaps in a newer row. -/
structure DeviceRecord.Grows (record later : DeviceRecord) : Prop where
  pairing : record.pairing.isSome = true → later.pairing.isSome = true
  notifications : ∀ id, record.notifications.contains id = true →
    later.notifications.contains id = true
  smsMessages : ∀ id, record.smsMessages.contains id = true → later.smsMessages.contains id = true
  calls : record.calls <+: later.calls

namespace DeviceRecord.Grows

variable {record middle later : DeviceRecord}

theorem of_same (hpairing : later.pairing = record.pairing)
    (hnotifications : later.notifications = record.notifications)
    (hsms : later.smsMessages = record.smsMessages) (hcalls : later.calls = record.calls) :
    record.Grows later where
  pairing h := by rwa [hpairing]
  notifications id h := by rwa [hnotifications]
  smsMessages id h := by rwa [hsms]
  calls := hcalls ▸ List.prefix_refl _

theorem refl (record : DeviceRecord) : record.Grows record := of_same rfl rfl rfl rfl

theorem trans (h : record.Grows middle) (h' : middle.Grows later) : record.Grows later where
  pairing hpairing := h'.pairing (h.pairing hpairing)
  notifications id hid := h'.notifications id (h.notifications id hid)
  smsMessages id hid := h'.smsMessages id (h.smsMessages id hid)
  calls := h.calls.trans h'.calls

theorem eq_empty_of_contains {ρ : Type} {shelf : KeyMap String ρ}
    (h : ∀ id, shelf.contains id = true → (KeyMap.empty : KeyMap String ρ).contains id = true) :
    shelf = .empty := by
  ext1 id
  cases hrow : shelf.get id with
  | none => rfl
  | some row =>
    have hcontains : shelf.contains id = true := by rw [KeyMap.contains_eq, hrow, Option.isSome_some]
    exact absurd (h id hcontains) Bool.false_ne_true

/-- A bare record has grown from a bare one. -/
theorem isBare (h : record.Grows later) (hbare : later.IsBare) : record.IsBare := by
  rw [IsBare] at hbare
  have hpairing : record.pairing = none := by
    have hnone := h.pairing
    rw [hbare] at hnone
    simpa using hnone
  have hnotifications := h.notifications
  have hsms := h.smsMessages
  have hcalls := h.calls
  rw [hbare] at hnotifications hsms hcalls
  rw [IsBare]
  cases record with
  | mk device pairing notifications smsMessages calls =>
    obtain rfl := eq_empty_of_contains hnotifications
    obtain rfl := eq_empty_of_contains hsms
    obtain rfl := List.prefix_nil.mp hcalls
    obtain rfl : pairing = none := hpairing
    rfl

end DeviceRecord.Grows

theorem contains_insert_of_contains {ρ : Type} {shelf : KeyMap String ρ} {id other : String}
    (row : ρ) (h : shelf.contains id = true) : (shelf.insert other row).contains id = true := by
  rw [KeyMap.contains_eq, KeyMap.get_insert]
  split_ifs
  · rfl
  · exact h

theorem grows_markRead (notificationId : String) (record : DeviceRecord) :
    record.Grows (Statement.markRead notificationId record) where
  pairing h := h
  notifications id h := by
    rw [KeyMap.contains_eq] at h ⊢
    change ((record.notifications.set _ _).get id).isSome = true
    rw [KeyMap.get_set]
    split_ifs with hid
    · rwa [Option.isSome_map, ← hid]
    · exact h
  smsMessages _ h := h
  calls := List.prefix_refl _

namespace Statement

variable {r next : Records} {s : Statement} {answer : Option String} {deviceId : Uuid}
  {record : DeviceRecord}

/-- The changes of records let them grow. -/
theorem grows_change {changed : Uuid} {f : DeviceRecord → DeviceRecord}
    (h : s.change = some (changed, f)) (record : DeviceRecord) : record.Grows (f record) := by
  cases s with
  | upsertDevice _ | removeDevice _ | insertAuditLog _ _ _ _ => cases h
  | touchDevice _ _ | markDevicePaired _ =>
    cases h
    exact .of_same rfl rfl rfl rfl
  | insertPairing _ _ _ _ =>
    cases h
    exact {
      pairing := fun _ ↦ rfl
      notifications := fun _ h ↦ h
      smsMessages := fun _ h ↦ h
      calls := List.prefix_refl _ }
  | insertNotification n =>
    cases h
    exact {
      pairing := fun h ↦ h
      notifications := fun _ h ↦ contains_insert_of_contains n h
      smsMessages := fun _ h ↦ h
      calls := List.prefix_refl _ }
  | markNotificationRead _ notificationId | dismissNotification _ notificationId =>
    cases h
    exact grows_markRead notificationId record
  | insertSms sms =>
    cases h
    exact {
      pairing := fun h ↦ h
      notifications := fun _ h ↦ h
      smsMessages := fun _ h ↦ contains_insert_of_contains sms h
      calls := List.prefix_refl _ }
  | insertCall c =>
    cases h
    exact {
      pairing := fun h ↦ h
      notifications := fun _ h ↦ h
      smsMessages := fun _ h ↦ h
      calls := List.prefix_append _ _ }

theorem get_change (changed : Uuid) (f : DeviceRecord → DeviceRecord)
    (hrecord : r.devices.get deviceId = some record) :
    (r.change changed f).devices.get deviceId =
      some (if deviceId = changed then f record else record) := by
  rw [Records.change, KeyMap.get_set]
  split_ifs with hchanged
  · rw [← hchanged, hrecord, Option.map_some]
  · exact hrecord

/-- A device that comes in leaves every record, except that a bare one may go. -/
theorem grows_upsertDevice {upserted : Uuid} {d : Device} (h : r.upsertDevice upserted d = .ok next)
    (hrecord : r.devices.get deviceId = some record) :
    record.IsBare ∨ ∃ later, next.devices.get deviceId = some later ∧ record.Grows later := by
  have hchange : ∀ f : DeviceRecord → Device,
      next = r.change upserted (fun record ↦ { record with device := f record }) →
        ∃ later, next.devices.get deviceId = some later ∧ record.Grows later := by
    rintro f rfl
    refine ⟨_, get_change upserted _ hrecord, ?_⟩
    split_ifs
    · exact .of_same rfl rfl rfl rfl
    · exact .refl record
  have hknown : r.devices.contains deviceId = true := by
    rw [KeyMap.contains_eq, hrecord, Option.isSome_some]
  rw [Records.upsertDevice] at h
  split at h
  · next old hold =>
    split_ifs at h with hsame htaken hbare
    · cases h
      exact .inr (hchange (fun _ ↦ d) rfl)
    · cases h
      by_cases hold : deviceId = old
      · exact .inl (of_not_not fun hnot ↦ hbare ⟨record, hold ▸ hrecord, hnot⟩)
      · have hother : deviceId ≠ upserted := fun heq ↦ htaken (heq ▸ hknown)
        refine .inr ⟨record, ?_, .refl record⟩
        change ((r.devices.remove old).insert upserted _).get deviceId = _
        rw [KeyMap.get_insert_of_ne _ _ hother, KeyMap.get_remove_of_ne _ hold, hrecord]
  · split_ifs at h with htaken
    · cases h
      exact .inr (hchange (fun record ↦ d.mergedWith record.device) rfl)
    · cases h
      have hother : deviceId ≠ upserted := fun heq ↦ htaken (heq ▸ hknown)
      refine .inr ⟨record, ?_, .refl record⟩
      change (r.devices.insert upserted _).get deviceId = _
      rw [KeyMap.get_insert_of_ne _ _ hother, hrecord]

/-- What one statement does to a record. -/
theorem grows_apply (h : s.apply r = .ok (answer, next))
    (hrecord : r.devices.get deviceId = some record) :
    s = .removeDevice deviceId ∨ record.IsBare ∨
      ∃ later, next.devices.get deviceId = some later ∧ record.Grows later := by
  rcases apply_cases h with ⟨d, rfl, hupserted⟩ | ⟨removed, rfl, hnext⟩ |
    ⟨timestamp, logged, event, detail, rfl, hnext⟩ | ⟨changed, f, hchange, rfl, -⟩
  · exact .inr (grows_upsertDevice hupserted hrecord)
  · by_cases hremoved : deviceId = removed
    · exact .inl (congrArg _ hremoved.symm)
    · refine .inr (.inr ⟨record, ?_, .refl record⟩)
      rw [hnext, KeyMap.get_remove_of_ne _ hremoved, hrecord]
  · exact .inr (.inr ⟨record, hnext ▸ hrecord, .refl record⟩)
  · refine .inr (.inr ⟨_, get_change changed f hrecord, ?_⟩)
    split_ifs
    · exact grows_change hchange record
    · exact .refl record

/-- The entry of the audit log that a statement inserts. -/
def logged : Statement → Option AuditLogRow
  | .insertAuditLog timestamp deviceId event detail =>
    some { id := 0, timestamp, deviceId, event, detail }
  | _ => none

theorem auditLog_upsertDevice {upserted : Uuid} {d : Device}
    (h : r.upsertDevice upserted d = .ok next) : next.auditLog = r.auditLog := by
  rw [Records.upsertDevice] at h
  split at h
  · split_ifs at h <;> cases h <;> rfl
  · split_ifs at h <;> cases h <;> rfl

theorem auditLog_apply (h : s.apply r = .ok (answer, next)) :
    next.auditLog = r.auditLog ++ s.logged.toList := by
  cases s with
  | upsertDevice d =>
    obtain ⟨upserted, hupserted, heq⟩ := map_eq_ok.mp h
    cases heq
    rw [auditLog_upsertDevice hupserted]
    exact (List.append_nil _).symm
  | insertPairing _ _ _ _ | insertNotification _ | insertSms _ | insertCall _ =>
    obtain ⟨given, hgiven, heq⟩ := map_eq_ok.mp h
    cases heq
    rw [(give_eq_ok hgiven).1]
    exact (List.append_nil _).symm
  | insertAuditLog _ _ _ _ =>
    cases h
    rfl
  | removeDevice _ | touchDevice _ _ | markDevicePaired _ | markNotificationRead _ _
  | dismissNotification _ _ =>
    cases h
    exact (List.append_nil _).symm

/-- The audit log takes every entry. -/
theorem logged_of_error {e : DbError} (h : s.apply r = .error e) : s.logged = none := by
  cases s with
  | insertAuditLog _ _ _ _ => cases h
  | _ => rfl

/-! ## All statements -/

variable {db : Db}

/-- What is kept for a device stays, unless the device is removed. -/
theorem grows_perform (hregular : db.Regular)
    (hrecord : db.records.devices.get deviceId = some record) (statements : List Statement) :
    .removeDevice deviceId ∈ statements ∨ record.IsBare ∨ ∃ later,
      (Service.perform (fun (db : Db) (s : Statement) ↦ s.run db) db
        statements).2.records.devices.get deviceId = some later ∧ record.Grows later := by
  induction statements generalizing db record with
  | nil => exact .inr (.inr ⟨record, hrecord, .refl record⟩)
  | cons s statements ih =>
    rw [Service.perform]
    split
    · next answer next hrun =>
      rcases grows_apply (apply_of_run hregular hrun) hrecord with
        rfl | hbare | ⟨middle, hmiddle, hgrows⟩
      · exact .inl List.mem_cons_self
      · exact .inr (.inl hbare)
      · rcases ih (regular_run hregular hrun) hmiddle with
          hremoved | hbare | ⟨later, hlater, hmore⟩
        · exact .inl (List.mem_cons_of_mem s hremoved)
        · exact .inr (.inl (hgrows.isBare hbare))
        · exact .inr (.inr ⟨later, hlater, hgrows.trans hmore⟩)
    · exact (ih hregular hrecord).imp_left (List.mem_cons_of_mem s)

/-- The audit log has exactly what has been inserted, in order. -/
theorem auditLog_perform (hregular : db.Regular) (statements : List Statement) :
    (Service.perform (fun (db : Db) (s : Statement) ↦ s.run db) db
      statements).2.records.auditLog = db.records.auditLog ++ statements.filterMap logged := by
  induction statements generalizing db with
  | nil => exact (List.append_nil _).symm
  | cons s statements ih =>
    rw [Service.perform]
    split
    · next answer next hrun =>
      rw [ih (regular_run hregular hrun), auditLog_apply (apply_of_run hregular hrun),
        List.append_assoc]
      cases hlogged : s.logged with
      | none => rw [List.filterMap_cons_none hlogged, Option.toList_none, List.nil_append]
      | some row => rw [List.filterMap_cons_some hlogged, Option.toList_some, List.singleton_append]
    · next e hrun =>
      rw [ih hregular, List.filterMap_cons_none (logged_of_error (apply_of_error hregular hrun))]

end Statement

end PhoneBridge.Storage
