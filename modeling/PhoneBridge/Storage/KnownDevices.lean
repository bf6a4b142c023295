import PhoneBridge.Library.LastOf
import PhoneBridge.Storage.Shelves

/-!
# Which devices are known

A device is known only when the last statement that says hello for it or removes it says hello.
When each phone keeps its device id, the converse holds too, the device has the name and the key of
its last hello, and no statement fails but those that give something to a device that is not known.
-/

namespace PhoneBridge.Storage

open Library

namespace Statement

/-- The device that comes in with a hello. -/
def hello : Statement → Option DeviceRow
  | .upsertDevice d => some d
  | _ => none

/-- The statement says hello for the device, or removes it. -/
def decides (deviceId : Uuid) (s : Statement) : Bool :=
  s.hello.any (·.deviceId = deviceId) || s.removes deviceId

/-- The device that the statement gives something to. -/
def recipient (s : Statement) : Option Uuid := if s.gives then s.change.map Prod.fst else none

end Statement

/-- Each hardware id comes with one device id. -/
def KeepHardware (statements : List Statement) : Prop :=
  ∀ d other, .upsertDevice d ∈ statements → .upsertDevice other ∈ statements →
    d.hardwareId ≠ none → d.hardwareId = other.hardwareId → d.deviceId = other.deviceId

/-- The name and the key that a device is known by. -/
def DeviceRow.sign (d : DeviceRow) : String × String := (d.name, d.publicKey)

namespace Records

/-- How the device is known, if it is. -/
def sign (r : Records) (deviceId : Uuid) : Option (String × String) :=
  (r.devices.get deviceId).map fun record ↦ (record.device.name, record.device.publicKey)

/-- The hardware id of a device is one that it has said hello with. -/
def HardwareFrom (statements : List Statement) (r : Records) : Prop :=
  ∀ deviceId record, r.devices.get deviceId = some record → record.device.hardwareId ≠ none →
    ∃ d, .upsertDevice d ∈ statements ∧ d.deviceId = deviceId ∧
      d.hardwareId = record.device.hardwareId

end Records

/-- What a statement does to the sign of a device. -/
def noteSign (deviceId : Uuid) (sign : Option (String × String)) (s : Statement) :
    Option (String × String) :=
  if s.decides deviceId then s.hello.map (·.sign) else sign

namespace Statement

variable {r next : Records} {s : Statement} {answer : Option String} {deviceId : Uuid}
  {statements : List Statement}

/-- The changes of records leave the names, the keys and the hardware ids. -/
theorem device_of_change {changed : Uuid} {f : DeviceRecord → DeviceRecord}
    (h : s.change = some (changed, f)) (record : DeviceRecord) :
    (f record).device.name = record.device.name ∧
      (f record).device.publicKey = record.device.publicKey ∧
      (f record).device.hardwareId = record.device.hardwareId := by
  cases s with
  | upsertDevice _ | removeDevice _ | insertAuditLog _ _ _ _ => cases h
  | touchDevice _ _ | insertPairing _ _ _ _ | markDevicePaired _ | insertNotification _
  | markNotificationRead _ _ | dismissNotification _ _ | insertSms _ | insertCall _ =>
    cases h
    exact ⟨rfl, rfl, rfl⟩

/-- A statement that changes a record decides nothing. -/
theorem not_decides_of_change {changed : Uuid} {f : DeviceRecord → DeviceRecord}
    (h : s.change = some (changed, f)) (deviceId : Uuid) : s.decides deviceId = false := by
  cases s with
  | upsertDevice _ | removeDevice _ | insertAuditLog _ _ _ _ => cases h
  | _ => rfl

theorem samePhone_eq_some {d : Device} {old : Uuid} (h : r.samePhone d = some old) :
    ∃ record, r.devices.get old = some record ∧ d.hardwareId ≠ none ∧
      d.hardwareId = record.device.hardwareId := by
  rw [Records.samePhone] at h
  split_ifs at h with hsome
  cases h
  exact hsome.choose_spec

/-- The known devices after a hello: the device comes in, others may go. -/
theorem get_upsertDevice {upserted : Uuid} {d : Device} (h : r.upsertDevice upserted d = .ok next)
    (hother : deviceId ≠ upserted) {record : DeviceRecord}
    (hrecord : next.devices.get deviceId = some record) :
    r.devices.get deviceId = some record := by
  have hchange : ∀ f, next = r.change upserted f → r.devices.get deviceId = some record := by
    rintro f rfl
    rwa [Records.change, KeyMap.get_set_of_ne _ _ hother] at hrecord
  rw [Records.upsertDevice] at h
  split at h
  · next old hold =>
    split_ifs at h with hsame htaken hbare
    · cases h
      exact hchange _ rfl
    · cases h
      change ((r.devices.remove old).insert upserted _).get deviceId = _ at hrecord
      rw [KeyMap.get_insert_of_ne _ _ hother] at hrecord
      exact (KeyMap.get_remove_eq_some.mp hrecord).2
  · split_ifs at h with htaken
    · cases h
      exact hchange _ rfl
    · cases h
      change (r.devices.insert upserted _).get deviceId = _ at hrecord
      rwa [KeyMap.get_insert_of_ne _ _ hother] at hrecord

/-- A device that is known after a statement has said hello in it, or was known before it. -/
theorem known_apply (h : s.apply r = .ok (answer, next))
    (hknown : next.devices.contains deviceId = true) :
    if s.decides deviceId then s.hello.isSome = true
    else r.devices.contains deviceId = true := by
  rw [KeyMap.contains_eq, Option.isSome_iff_exists] at hknown
  obtain ⟨record, hrecord⟩ := hknown
  rcases apply_cases h with ⟨d, rfl, hupserted⟩ | ⟨removed, rfl, hnext⟩ |
    ⟨timestamp, logged, event, detail, rfl, hnext⟩ | ⟨changed, f, hchange, rfl, -⟩
  · split_ifs with hdecides
    · rfl
    · have hother : deviceId ≠ d.deviceId := by
        rintro rfl
        exact hdecides (by simp [decides, hello])
      rw [KeyMap.contains_eq, get_upsertDevice hupserted hother hrecord, Option.isSome_some]
  · rw [hnext, KeyMap.get_remove_eq_some] at hrecord
    have hdecides : ¬ (Statement.removeDevice removed).decides deviceId = true := by
      simpa [decides, hello, removes] using Ne.symm hrecord.1
    rw [if_neg hdecides, KeyMap.contains_eq, hrecord.2, Option.isSome_some]
  · have hdecides : ¬ (Statement.insertAuditLog timestamp logged event detail).decides deviceId =
        true := Bool.false_ne_true
    rw [if_neg hdecides, KeyMap.contains_eq, ← hnext, hrecord, Option.isSome_some]
  · rw [if_neg (by rw [not_decides_of_change hchange]; exact Bool.false_ne_true)]
    rw [Records.change, KeyMap.get_set] at hrecord
    rw [KeyMap.contains_eq]
    split_ifs at hrecord with hsame
    · obtain ⟨old, hold, -⟩ := Option.map_eq_some_iff.mp hrecord
      rw [hsame, hold, Option.isSome_some]
    · rw [hrecord, Option.isSome_some]

/-! ## Phones that keep their device ids -/

theorem apply_of_gives {changed : Uuid} {f : DeviceRecord → DeviceRecord}
    (h : s.change = some (changed, f)) (hgives : s.gives = true) :
    s.apply r = (none, ·) <$> r.give changed f := by
  cases s with
  | insertPairing _ _ _ _ | insertNotification _ | insertSms _ | insertCall _ =>
    cases h
    rfl
  | _ => cases hgives

theorem apply_of_change {changed : Uuid} {f : DeviceRecord → DeviceRecord}
    (h : s.change = some (changed, f)) (hgives : s.gives = false) :
    ∃ answer, s.apply r = .ok (answer, r.change changed f) := by
  cases s with
  | touchDevice _ _ | markDevicePaired _ | markNotificationRead _ _ | dismissNotification _ _ =>
    cases h
    exact ⟨_, rfl⟩
  | insertPairing _ _ _ _ | insertNotification _ | insertSms _ | insertCall _ => cases hgives
  | upsertDevice _ | removeDevice _ | insertAuditLog _ _ _ _ => cases h

/-- A hello is taken, under the device id that it comes with. -/
theorem upsertDevice_of_kept (hkeep : KeepHardware statements)
    (hfrom : r.HardwareFrom statements) {d : DeviceRow} (hd : .upsertDevice d ∈ statements) :
    ∃ f : DeviceRecord → Device,
      (∀ record, (f record).name = d.name ∧ (f record).publicKey = d.publicKey ∧
        ((f record).hardwareId = d.hardwareId ∨
          (f record).hardwareId = record.device.hardwareId)) ∧
      r.upsertDevice d.deviceId d.device = .ok (if r.devices.contains d.deviceId then
          r.change d.deviceId fun record ↦ { record with device := f record }
        else { r with devices := r.devices.insert d.deviceId { device := d.device } }) := by
  rw [Records.upsertDevice]
  cases hphone : r.samePhone d.device with
  | some old =>
    obtain ⟨record, hrecord, hsome, hsame⟩ := samePhone_eq_some hphone
    obtain ⟨other, hother, rfl, hhardware⟩ := hfrom old record hrecord (hsame ▸ hsome)
    have hid : d.deviceId = other.deviceId :=
      hkeep d other hd hother hsome (hsame.trans hhardware.symm)
    have hknown : r.devices.contains d.deviceId = true := by
      rw [KeyMap.contains_eq, hid, hrecord, Option.isSome_some]
    refine ⟨fun _ ↦ d.device, fun _ ↦ ⟨rfl, rfl, .inl rfl⟩, ?_⟩
    dsimp only
    rw [if_pos hid.symm, if_pos hknown]
  | none =>
    refine ⟨fun record ↦ d.device.mergedWith record.device, fun record ↦ ⟨rfl, rfl, ?_⟩, ?_⟩
    · change d.hardwareId.or record.device.hardwareId = d.hardwareId ∨
        d.hardwareId.or record.device.hardwareId = record.device.hardwareId
      cases d.hardwareId with
      | none => exact .inr Option.none_or
      | some id => exact .inl Option.some_or
    · exact (apply_ite Except.ok _ _ _).symm

theorem sign_change {changed : Uuid} {f : DeviceRecord → DeviceRecord}
    (h : ∀ record, (f record).device.name = record.device.name ∧
      (f record).device.publicKey = record.device.publicKey) :
    (r.change changed f).sign deviceId = r.sign deviceId := by
  rw [Records.sign, Records.change, KeyMap.get_set]
  split_ifs with hsame
  · rw [hsame, Option.map_map, Records.sign]
    refine congrArg (Option.map · _) (funext fun record ↦ ?_)
    exact Prod.ext (h record).1 (h record).2
  · rfl

theorem hardwareFrom_change {changed : Uuid} {f : DeviceRecord → DeviceRecord}
    (hfrom : r.HardwareFrom statements)
    (h : ∀ record, (f record).device.hardwareId = record.device.hardwareId ∨
      ∃ d, .upsertDevice d ∈ statements ∧ d.deviceId = changed ∧
        d.hardwareId = (f record).device.hardwareId) :
    (r.change changed f).HardwareFrom statements := by
  intro deviceId record hrecord hsome
  rw [Records.change, KeyMap.get_set] at hrecord
  split_ifs at hrecord with hsame
  · obtain ⟨old, hold, rfl⟩ := Option.map_eq_some_iff.mp hrecord
    rcases h old with heq | ⟨d, hd, hid, hhardware⟩
    · rw [heq] at hsome ⊢
      rw [hsame]
      exact hfrom changed old hold hsome
    · exact ⟨d, hd, hid.trans hsame.symm, hhardware⟩
  · exact hfrom deviceId record hrecord hsome

theorem noteSign_of_not_decides (sign : Option (String × String))
    (h : s.decides deviceId = false) : noteSign deviceId sign s = sign := by
  rw [noteSign, h]
  rfl

/-- What a hello does to the devices. -/
theorem hello_kept (hkeep : KeepHardware statements) (hfrom : r.HardwareFrom statements)
    {d : DeviceRow} (hd : .upsertDevice d ∈ statements) :
    ∃ next, r.upsertDevice d.deviceId d.device = .ok next ∧ next.HardwareFrom statements ∧
      ∀ deviceId, next.sign deviceId = noteSign deviceId (r.sign deviceId) (.upsertDevice d) := by
  obtain ⟨f, hf, hupserted⟩ := upsertDevice_of_kept hkeep hfrom hd
  have hnote : ∀ deviceId sign, noteSign deviceId sign (.upsertDevice d) =
      if deviceId = d.deviceId then some d.sign else sign := by
    intro deviceId sign
    by_cases hsame : deviceId = d.deviceId
    · simp [noteSign, decides, hello, hsame]
    · simp [noteSign, decides, hello, removes, hsame, Ne.symm hsame]
  refine ⟨_, hupserted, ?_, fun deviceId ↦ ?_⟩
  · split_ifs
    · refine hardwareFrom_change hfrom fun record ↦ ?_
      rcases (hf record).2.2 with hown | hold
      · exact .inr ⟨d, hd, rfl, hown.symm⟩
      · exact .inl hold
    · intro deviceId record hrecord hsome
      rcases KeyMap.get_insert_eq_some.mp hrecord with ⟨rfl, rfl⟩ | ⟨-, hrecord⟩
      · exact ⟨d, hd, rfl, rfl⟩
      · exact hfrom deviceId record hrecord hsome
  · rw [hnote]
    split_ifs with hknown hsame hsame
    · subst hsame
      obtain ⟨record, hrecord⟩ := Option.isSome_iff_exists.mp hknown
      rw [Records.sign, Records.change, KeyMap.get_set_self, hrecord, Option.map_some,
        Option.map_some, (hf record).1, (hf record).2.1]
      rfl
    · rw [Records.sign, Records.change, KeyMap.get_set_of_ne _ _ hsame]
      rfl
    · subst hsame
      rw [Records.sign, KeyMap.get_insert_self]
      rfl
    · rw [Records.sign, KeyMap.get_insert_of_ne _ _ hsame]
      rfl

/-- Every statement does what it says, but one that gives something to a device that is not
known. -/
theorem apply_kept (hkeep : KeepHardware statements) (hfrom : r.HardwareFrom statements)
    (hs : s ∈ statements) :
    (∃ answer next, s.apply r = .ok (answer, next) ∧ next.HardwareFrom statements ∧
      (∀ deviceId, next.sign deviceId = noteSign deviceId (r.sign deviceId) s) ∧
      ∀ recipient ∈ s.recipient, r.devices.contains recipient = true) ∨
    ∃ e, s.apply r = .error e ∧ (∀ deviceId, s.decides deviceId = false) ∧
      ∃ recipient ∈ s.recipient, ¬ r.devices.contains recipient = true := by
  cases hchange : s.change with
  | some pair =>
    obtain ⟨changed, f⟩ := pair
    have hdevice := device_of_change hchange
    have hnext : (r.change changed f).HardwareFrom statements ∧ ∀ deviceId,
        (r.change changed f).sign deviceId = noteSign deviceId (r.sign deviceId) s := by
      refine ⟨hardwareFrom_change hfrom fun record ↦ .inl (hdevice record).2.2, fun deviceId ↦ ?_⟩
      rw [noteSign_of_not_decides _ (not_decides_of_change hchange deviceId)]
      exact sign_change fun record ↦ ⟨(hdevice record).1, (hdevice record).2.1⟩
    cases hgives : s.gives with
    | true =>
      have hrecipient : s.recipient = some changed := by
        rw [recipient, if_pos hgives, hchange]
        rfl
      rw [apply_of_gives hchange hgives, hrecipient, Records.give]
      by_cases hknown : r.devices.contains changed = true
      · rw [if_pos hknown]
        exact .inl ⟨none, _, rfl, hnext.1, hnext.2, fun _ hmem ↦ Option.some.inj hmem ▸ hknown⟩
      · rw [if_neg hknown]
        exact .inr ⟨_, rfl, not_decides_of_change hchange, changed, rfl, hknown⟩
    | false =>
      obtain ⟨answer, happly⟩ := apply_of_change (r := r) hchange hgives
      refine .inl ⟨answer, _, happly, hnext.1, hnext.2, fun recipient hmem ↦ ?_⟩
      rw [Statement.recipient, hgives] at hmem
      cases hmem
  | none =>
    cases s with
    | upsertDevice d =>
      obtain ⟨next, hupserted, hnext⟩ := hello_kept hkeep hfrom hs
      refine .inl ⟨none, next, ?_, hnext.1, hnext.2, fun _ hmem ↦ by cases hmem⟩
      rw [apply, hupserted]
      rfl
    | removeDevice removed =>
      refine .inl ⟨none, _, rfl, fun deviceId record hrecord ↦ ?_, fun deviceId ↦ ?_,
        fun _ hmem ↦ by cases hmem⟩
      · exact hfrom deviceId record (KeyMap.get_remove_eq_some.mp hrecord).2
      · rw [Records.sign, KeyMap.get_remove]
        by_cases hsame : deviceId = removed
        · simp [noteSign, decides, removes, hello, hsame]
        · simp [noteSign, decides, removes, hello, hsame, Ne.symm hsame, Records.sign]
    | insertAuditLog _ _ _ _ =>
      exact .inl ⟨none, _, rfl, hfrom, fun _ ↦ rfl, fun _ hmem ↦ by cases hmem⟩
    | _ => cases hchange

/-! ## All statements -/

variable {db : Db}

/-- The signs after statements of phones that keep their device ids. -/
theorem perform_kept (hkeep : KeepHardware statements) (hregular : db.Regular)
    (hfrom : db.records.HardwareFrom statements) {requests : List Statement}
    (hrequests : ∀ s ∈ requests, s ∈ statements) :
    let after := (Service.perform (fun (db : Db) (s : Statement) ↦ s.run db) db requests).2
    after.Regular ∧ after.records.HardwareFrom statements ∧ ∀ deviceId,
      after.records.sign deviceId = requests.foldl (noteSign deviceId) (db.records.sign deviceId) := by
  induction requests generalizing db with
  | nil => exact ⟨hregular, hfrom, fun _ ↦ rfl⟩
  | cons s requests ih =>
    rw [List.forall_mem_cons] at hrequests
    rw [Service.perform]
    split
    · next answer next hrun =>
      have happly := apply_of_run hregular hrun
      rcases apply_kept hkeep hfrom hrequests.1 with
        ⟨answer', next', happly', hnext, hsign, -⟩ | ⟨e, herror, -⟩
      · cases happly.symm.trans happly'
        obtain ⟨hafter, hfrom', hfold⟩ := ih (regular_run hregular hrun) hnext hrequests.2
        refine ⟨hafter, hfrom', fun deviceId ↦ ?_⟩
        rw [hfold, hsign, List.foldl_cons]
      · cases happly.symm.trans herror
    · next e hrun =>
      have happly := apply_of_error hregular hrun
      rcases apply_kept hkeep hfrom hrequests.1 with
        ⟨answer', next', happly', -⟩ | ⟨e, -, hdecides, -⟩
      · cases happly.symm.trans happly'
      · obtain ⟨hafter, hfrom', hfold⟩ := ih hregular hfrom hrequests.2
        refine ⟨hafter, hfrom', fun deviceId ↦ ?_⟩
        rw [hfold, List.foldl_cons, noteSign_of_not_decides _ (hdecides deviceId)]

/-- A device that is known after all statements: the last one about it says hello. -/
theorem lastOf_of_known (statements : List Statement)
    (hknown : deviceId ∈ (Service.perform (fun (db : Db) (s : Statement) ↦ s.run db) Db.empty
      statements).2.deviceIds) :
    ∃ d rest, LastOf (decides deviceId · = true) statements (.upsertDevice d) rest := by
  induction statements using List.reverseRecOn with
  | nil => exact absurd hknown List.not_mem_nil
  | append_singleton statements s ih =>
    have hregular : (Service.perform (fun (db : Db) (s : Statement) ↦ s.run db) Db.empty
      statements).2.Regular := refines_statements.inv_perform regular_empty statements
    rw [Service.perform_append, Service.perform_singleton, Service.after] at hknown
    have hother : s.decides deviceId = false →
        deviceId ∈ (Service.perform (fun (db : Db) (s : Statement) ↦ s.run db) Db.empty
          statements).2.deviceIds →
        ∃ d rest, LastOf (decides deviceId · = true) (statements ++ [s]) (.upsertDevice d) rest := by
      intro hdecides hbefore
      obtain ⟨d, rest, hlast⟩ := ih hbefore
      exact ⟨d, _, hlast.concat (by rw [hdecides]; exact Bool.false_ne_true)⟩
    have hhello : s.decides deviceId = true → s.hello.isSome = true →
        ∃ d rest, LastOf (decides deviceId · = true) (statements ++ [s]) (.upsertDevice d) rest := by
      intro hdecides hsome
      cases s with
      | upsertDevice d => exact ⟨d, [], lastOf_concat statements hdecides⟩
      | _ => cases hsome
    split at hknown
    · next answer next hrun =>
      have hcases := known_apply (apply_of_run hregular hrun) (contains_records.mpr hknown)
      split_ifs at hcases with hdecides
      · exact hhello hdecides hcases
      · exact hother (Bool.not_eq_true _ ▸ hdecides) (contains_records.mp hcases)
    · next e hrun =>
      cases hdecides : s.decides deviceId with
      | false => exact hother hdecides hknown
      | true =>
        refine hhello hdecides ?_
        cases s with
        | upsertDevice d => rfl
        | removeDevice removed => cases apply_of_error hregular hrun
        | _ => cases hdecides

theorem foldl_noteSign {log : List Statement} (h : ∀ s ∈ log, ¬ s.decides deviceId = true)
    (sign : Option (String × String)) : log.foldl (noteSign deviceId) sign = sign := by
  induction log with
  | nil => rfl
  | cons s log ih =>
    rw [List.forall_mem_cons, Bool.not_eq_true] at h
    rw [List.foldl_cons, noteSign_of_not_decides _ h.1, ih h.2]

end Statement

/-- Every device that is known after a sequence of statements has said hello since it was last
removed. When each phone keeps its device id, these are all of the known devices, each with the name
and the key of its last hello, and a statement fails exactly when it gives something to a device
that is not known. -/
theorem devices_are_known_by_last_hello (deviceId : Uuid) (statements : List Statement) :
    let run := fun (db : Db) (s : Statement) ↦ s.run db
    (deviceId ∈ (Service.perform run Db.empty statements).2.deviceIds →
      ∃ d rest, LastOf (Statement.decides deviceId · = true) statements (.upsertDevice d) rest) ∧
    (KeepHardware statements →
      (∀ d rest, LastOf (Statement.decides deviceId · = true) statements (.upsertDevice d) rest →
        ∃ row ∈ (Service.perform run Db.empty statements).2.devices.rows,
          row.deviceId = deviceId ∧ row.name = d.name ∧ row.publicKey = d.publicKey) ∧
      ∀ front s back, statements = front ++ s :: back →
        ((∃ e, s.run (Service.perform run Db.empty front).2 = .error e) ↔
          ∃ recipient ∈ s.recipient,
            recipient ∉ (Service.perform run Db.empty front).2.deviceIds)) := by
  intro run
  refine ⟨Statement.lastOf_of_known statements, fun hkeep ↦ ⟨fun d rest hlast ↦ ?_, ?_⟩⟩
  · have hempty : Db.empty.records.HardwareFrom statements := fun _ _ h ↦ by cases h
    obtain ⟨-, -, hsign⟩ := Statement.perform_kept hkeep regular_empty hempty fun _ h ↦ h
    have hlastSign : (Service.perform run Db.empty statements).2.records.sign deviceId =
        some d.sign := by
      obtain ⟨front, hsplit⟩ := hlast.split
      rw [hsign, hsplit, List.foldl_append, List.foldl_cons,
        Statement.foldl_noteSign hlast.none_after, noteSign, if_pos hlast.holds]
      rfl
    obtain ⟨record, hrecord, heq⟩ := Option.map_eq_some_iff.mp hlastSign
    rw [get_records] at hrecord
    obtain ⟨row, hrow, rfl⟩ := Option.map_eq_some_iff.mp hrecord
    obtain ⟨hmem, hid⟩ := mem_of_lookupBy hrow
    exact ⟨row, hmem, hid, congrArg Prod.fst heq, congrArg Prod.snd heq⟩
  · rintro front s back rfl
    have hempty : Db.empty.records.HardwareFrom (front ++ s :: back) := fun _ _ h ↦ by cases h
    obtain ⟨hregular, hfrom, -⟩ := Statement.perform_kept hkeep regular_empty hempty
      fun _ h ↦ List.mem_append_left (s :: back) h
    have hs : s ∈ front ++ s :: back := List.mem_append_right front List.mem_cons_self
    rcases Statement.apply_kept hkeep hfrom hs with
      ⟨answer, next, happly, -, -, hrecipient⟩ | ⟨e, happly, -, recipient, hmem, hunknown⟩
    · constructor
      · rintro ⟨e, hrun⟩
        cases happly.symm.trans (apply_of_error hregular hrun)
      · rintro ⟨recipient, hmem, hunknown⟩
        exact absurd (contains_records.mp (hrecipient recipient hmem)) hunknown
    · refine iff_of_true ?_ ⟨recipient, hmem, mt contains_records.mpr hunknown⟩
      cases hrun : s.run (Service.perform run Db.empty front).2 with
      | error e => exact ⟨e, rfl⟩
      | ok result => cases happly.symm.trans (apply_of_run hregular hrun)

/-- A notification comes before the phone has said hello, and another one after its second hello. -/
def sampleHellos : List Statement :=
  [.insertNotification sampleNotification, .upsertDevice samplePhone,
    .upsertDevice { samplePhone with name := "Pixel 9" }, .insertNotification sampleNotification]

/-- The phone is known by its second hello, and the first notification is refused. -/
theorem known_by_second_hello :
    KeepHardware sampleHellos ∧
    (∃ row ∈ (Service.perform (fun db s ↦ s.run db) Db.empty sampleHellos).2.devices.rows,
      row.deviceId = ⟨1⟩ ∧ row.name = "Pixel 9" ∧ row.publicKey = samplePhone.publicKey) ∧
    ∃ e, (Statement.insertNotification sampleNotification).run Db.empty = .error e := by
  have hkeep : KeepHardware sampleHellos := by
    intro d other hd hother _ _
    simp only [sampleHellos, List.mem_cons, Statement.upsertDevice.injEq, List.not_mem_nil,
      reduceCtorEq, or_false, false_or] at hd hother
    rcases hd with rfl | rfl <;> rcases hother with rfl | rfl <;> rfl
  have hlast : LastOf (Statement.decides ⟨1⟩ · = true) sampleHellos
      (.upsertDevice { samplePhone with name := "Pixel 9" })
      [.insertNotification sampleNotification] := {
    split := ⟨[.insertNotification sampleNotification, .upsertDevice samplePhone], rfl⟩
    holds := rfl
    none_after := by simp [Statement.decides, Statement.hello, Statement.removes] }
  obtain ⟨-, hknown⟩ := devices_are_known_by_last_hello ⟨1⟩ sampleHellos
  obtain ⟨hrow, hfails⟩ := hknown hkeep
  refine ⟨hkeep, hrow _ _ hlast, ?_⟩
  exact (hfails [] _ _ rfl).mpr ⟨⟨1⟩, rfl, List.not_mem_nil⟩

end PhoneBridge.Storage
