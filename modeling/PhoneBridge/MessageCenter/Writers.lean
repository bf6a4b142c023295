import PhoneBridge.Library.Jobs
import PhoneBridge.MessageCenter.MarkAllRead
import PhoneBridge.MessageCenter.OutgoingSms
import PhoneBridge.Storage.Growth

/-!
# All that the message-center writes

The handlers that write to the database, each with its statements. The calls of the sink, the
handlers of `rest.rs` and the actions of the displays are tasks of their own, so that their
statements interleave; a statement may also fail because of an outage, or never be made because
the program stops. Whatever happens, nothing that is kept for a device goes without an entry
`device.unpair` of the audit log, as long as the log could be written.
-/

namespace PhoneBridge.MessageCenter

open Library Proto Net Storage

/-! ## The statements of the handlers -/

/-- A handler, with what its statements depend on. -/
inductive Writer
  | sink (stamp : Stamp) (call : SinkCall)
  | removeDevice (now : Int64) (deviceId : Uuid)
  | markNotificationRead (deviceId : Uuid) (id : String)
  | dismissNotification (deviceId : Uuid) (id : String)
  /-- with the rows that it has listed -/
  | markAllNotificationsRead (rows : List NotificationRow)
  | sendSms (requestId : Uuid) (req : SendSmsRequest) (now : Int64)
  | dial (now : Int64) (req : DialRequest)
  | doSmsReply (now : Int64) (deviceId : Uuid)

namespace Writer

def sinkWrites (stamp : Stamp) : SinkCall → List Statement
  | .onNotification _ deviceId env =>
    [.insertNotification (CenterSink.notificationRow deviceId env)]
  | .onNotificationDismissed _ deviceId env => [.markNotificationRead deviceId env.id]
  | .onSmsReceived _ deviceId env => [.insertSms (CenterSink.smsRow deviceId env)]
  | .onSmsSendResult _ _ _ => []
  | .onCallState _ deviceId env => [.insertCall (CenterSink.callStateRow stamp deviceId env)]
  | .onCallIncoming _ deviceId env => [.insertCall (CenterSink.callIncomingRow stamp deviceId env)]
  | .onCallHistory _ deviceId env =>
    env.entries.map fun entry ↦ .insertCall (CenterSink.callHistoryRow deviceId entry)
  | .onSmsListResult _ deviceId env =>
    env.messages.map fun message ↦ .insertSms (CenterSink.smsRow deviceId message)
  | .onHello _ deviceId env =>
    [.upsertDevice (CenterSink.helloRow stamp deviceId env),
      .touchDevice deviceId (epochSeconds stamp.now),
      .insertAuditLog stamp.now (some deviceId) "ws.connected" none]
  | .onUnpair _ deviceId env =>
    [.insertAuditLog stamp.now (some deviceId) "device.unpair" (some (env.reason.getD "")),
      .removeDevice deviceId]
  | .onDisconnect deviceId =>
    [.touchDevice deviceId (epochSeconds stamp.now),
      .insertAuditLog stamp.now (some deviceId) "ws.closed" none]

def writes : Writer → List Statement
  | sink stamp call => sinkWrites stamp call
  | removeDevice now deviceId =>
    [.insertAuditLog now (some deviceId) "device.unpair" none, .removeDevice deviceId]
  | markNotificationRead deviceId id => [.markNotificationRead deviceId id]
  | dismissNotification deviceId id => [.dismissNotification deviceId id]
  | markAllNotificationsRead rows => rows.map fun n ↦ .markNotificationRead n.deviceId n.id
  | sendSms requestId req now => [.insertSms (sentRow requestId req now)]
  | dial now req =>
    let number := req.number
    [.insertAuditLog now (some req.deviceId) "call.dial" (some s!"number={number}")]
  | doSmsReply now deviceId => [.insertAuditLog now (some deviceId) "display.sms_reply" none]

/-- The database after a handler whose statements are made one after the other. -/
def finish (writer : Writer) (db : Db) : Db :=
  (Service.perform (fun (db : Db) (s : Statement) ↦ s.run db) db writer.writes).2

/-- The entry that a removal of the device leaves in the audit log. -/
def RecordsUnpair (deviceId : Uuid) (s : Statement) : Prop :=
  ∃ now detail, s = .insertAuditLog now (some deviceId) "device.unpair" detail

/-- Every handler that removes a device has recorded it before. -/
theorem unpair_before_removal (writer : Writer) {front back : List Statement} {deviceId : Uuid}
    (h : writer.writes = front ++ .removeDevice deviceId :: back) :
    ∃ earlier ∈ front, RecordsUnpair deviceId earlier := by
  have hmem : .removeDevice deviceId ∈ writer.writes := by
    rw [h]
    exact List.mem_append_right _ List.mem_cons_self
  have hpair : ∀ (now : Int64) (removed : Uuid) (detail : Option String),
      [.insertAuditLog now (some removed) "device.unpair" detail, .removeDevice removed] =
        front ++ .removeDevice deviceId :: back →
      ∃ earlier ∈ front, RecordsUnpair deviceId earlier := by
    intro now removed detail hsplit
    cases front with
    | nil => cases hsplit
    | cons earlier front =>
      obtain ⟨rfl, hrest⟩ := List.cons.inj hsplit
      refine ⟨_, List.mem_cons_self, now, detail, ?_⟩
      cases front with
      | nil =>
        obtain ⟨hremoved, -⟩ := List.cons.inj hrest
        rw [Statement.removeDevice.inj hremoved]
      | cons _ front => simp at hrest
  cases writer with
  | removeDevice now removed => exact hpair now removed none h
  | sink stamp call =>
    cases call with
    | onUnpair _ removed env => exact hpair stamp.now removed _ h
    | _ => simp [writes, sinkWrites] at hmem
  | _ => simp [writes] at hmem

end Writer

/-! ## The handlers make these statements -/

section Handlers

variable (db : Db) (stamp : Stamp) (ctx : WsContext) (dbMessage : DbError → String) (draws : Draws)

/-- Statements that are made for a list, one after the other. -/
theorem perform_map {α : Type} (statement : α → Statement) (write : Db → α → Db)
    (hwrite : ∀ db item, Service.after (fun (db : Db) (s : Statement) ↦ s.run db) db
      (statement item) = write db item) (items : List α) :
    (Service.perform (fun (db : Db) (s : Statement) ↦ s.run db) db (items.map statement)).2 =
      items.foldl write db := by
  induction items generalizing db with
  | nil => rfl
  | cons item items ih =>
    rw [List.map_cons, ← List.singleton_append, Service.perform_append, Service.perform_singleton,
      hwrite, ih, List.foldl_cons]

theorem after_insertAuditLog (now : Int64) (logged : Option Uuid) (event : String)
    (detail : Option String) :
    Service.after (fun (db : Db) (s : Statement) ↦ s.run db) db
        (.insertAuditLog now logged event detail) =
      warned db (db.insertAuditLog now logged event detail) :=
  after_of_write db rfl

theorem after_touchDevice (deviceId : Uuid) :
    Service.after (fun (db : Db) (s : Statement) ↦ s.run db) db
        (.touchDevice deviceId (epochSeconds stamp.now)) =
      CenterSink.touchDevice stamp deviceId db :=
  after_of_write db rfl

/-- A list of statements is made one by one. -/
theorem perform_cons (s : Statement) (statements : List Statement) :
    (Service.perform (fun (db : Db) (s : Statement) ↦ s.run db) db (s :: statements)).2 =
      (Service.perform (fun (db : Db) (s : Statement) ↦ s.run db)
        (Service.after (fun (db : Db) (s : Statement) ↦ s.run db) db s) statements).2 := by
  rw [← List.singleton_append, Service.perform_append, Service.perform_singleton]

theorem centerSink_eq (call : SinkCall) :
    centerSink stamp call db = (Writer.sink stamp call).finish db := by
  cases call with
  | onNotification _ deviceId env =>
    rw [Writer.finish, Writer.writes, Writer.sinkWrites, Service.perform_singleton, after_eq_warned,
      Statement.run, warned_answer]
    rfl
  | onNotificationDismissed _ deviceId env =>
    rw [Writer.finish, Writer.writes, Writer.sinkWrites, Service.perform_singleton,
      after_markNotificationRead]
    rfl
  | onSmsReceived _ deviceId env =>
    rw [Writer.finish, Writer.writes, Writer.sinkWrites, Service.perform_singleton, after_insertSms]
    rfl
  | onSmsSendResult _ _ _ => rfl
  | onCallState _ deviceId env =>
    rw [Writer.finish, Writer.writes, Writer.sinkWrites, Service.perform_singleton,
      after_insertCall]
    rfl
  | onCallIncoming _ deviceId env =>
    rw [Writer.finish, Writer.writes, Writer.sinkWrites, Service.perform_singleton,
      after_insertCall]
    rfl
  | onCallHistory _ deviceId env =>
    exact (perform_map db _ _ (fun db entry ↦ after_insertCall db _) env.entries).symm
  | onSmsListResult _ deviceId env =>
    exact (perform_map db _ _ (fun db message ↦ after_insertSms db _) env.messages).symm
  | onHello _ deviceId env =>
    rw [Writer.finish, Writer.writes, Writer.sinkWrites, perform_cons, perform_cons,
      Service.perform_singleton, after_insertAuditLog, after_touchDevice, after_eq_warned,
      Statement.run, warned_answer]
    rfl
  | onUnpair _ deviceId env =>
    rw [Writer.finish, Writer.writes, Writer.sinkWrites, perform_cons, Service.perform_singleton,
      after_insertAuditLog, after_eq_warned, Statement.run, warned_answer]
    rfl
  | onDisconnect deviceId =>
    rw [Writer.finish, Writer.writes, Writer.sinkWrites, perform_cons, Service.perform_singleton,
      after_touchDevice, after_insertAuditLog]
    rfl

theorem store_removeDevice (s : AppState) (now : Int64) (deviceId : Uuid) :
    (s.removeDevice dbMessage now deviceId).2.hub.center.store =
      (Writer.removeDevice now deviceId).finish s.hub.center.store := by
  rw [Writer.finish, Writer.writes, perform_cons, Service.perform_singleton, after_insertAuditLog,
    after_eq_warned, Statement.run, warned_answer]
  cases hremoved : (warned s.hub.center.store
    (s.hub.center.store.insertAuditLog now (some deviceId) "device.unpair" none)).removeDevice
      deviceId with
  | error e =>
    simp only [AppState.removeDevice, hremoved]
    rfl
  | ok store =>
    simp only [AppState.removeDevice, hremoved]
    rfl

variable (center : Center DeskStore)

theorem db_dismissNotification (deviceId : Uuid) (id : String) :
    (dismissNotification ctx dbMessage draws deviceId id center).2.store.db =
      (Writer.dismissNotification deviceId id).finish center.store.db := by
  rw [Writer.finish, Writer.writes, Service.perform_singleton, after_eq_warned, Statement.run,
    dismissNotification]
  cases center.store.db.dismissNotification deviceId id with
  | error e => rfl
  | ok result =>
    obtain ⟨_ | row, dismissed⟩ := result <;> rfl

/-- `POST /api/v1/notifications/{device_id}/{id}/read`. -/
def markNotificationRead (deviceId : Uuid) (id : String) : Response × Center DeskStore :=
  match center.store.db.markNotificationRead deviceId id with
  | .error e =>
    let reason := dbMessage e
    ({ status := 500, text := s!"db: {reason}" }, center)
  | .ok db => ({ status := 204, text := "" }, setDb db center)

theorem db_markNotificationRead (deviceId : Uuid) (id : String) :
    (markNotificationRead dbMessage center deviceId id).2.store.db =
      (Writer.markNotificationRead deviceId id).finish center.store.db := by
  rw [Writer.finish, Writer.writes, Service.perform_singleton, after_markNotificationRead,
    markNotificationRead]
  cases center.store.db.markNotificationRead deviceId id <;> rfl

/-- A handler that has to reach the phone first writes only then. -/
theorem db_sendSms (requestId : Uuid) (req : SendSmsRequest) :
    (sendSms ctx draws requestId req center).2.store.db = center.store.db ∨
      (sendSms ctx draws requestId req center).2.store.db =
        (Writer.sendSms requestId req draws.now).finish center.store.db := by
  rw [Writer.finish, Writer.writes, Service.perform_singleton, after_insertSms]
  unfold sendSms
  split
  · exact .inl rfl
  split
  · exact .inl rfl
  · exact .inr rfl

theorem db_dial (req : DialRequest) :
    (dial ctx draws req center).2.store.db = center.store.db ∨
      (dial ctx draws req center).2.store.db =
        (Writer.dial draws.now req).finish center.store.db := by
  rw [Writer.finish, Writer.writes, Service.perform_singleton, after_insertAuditLog]
  unfold dial
  split
  · exact .inl rfl
  split
  · exact .inl rfl
  · exact .inr rfl

/-- The handler that an action of a display is. -/
def actionWriter (now : Int64) (action : DisplayAction) : Option Writer :=
  match action.kind with
  | "sms.reply" => some (.doSmsReply now action.deviceId)
  | "notification.read" => some (.markNotificationRead action.deviceId action.envelopeId.toText)
  | "notification.dismiss" => some (.dismissNotification action.deviceId action.envelopeId.toText)
  | _ => none

theorem db_sendToPhone {now : Int64} {action : DisplayAction} {env : Envelope}
    {sent : Center DeskStore → Center DeskStore} {after : Db}
    (hsent : ∀ registry, (sent { center with registry }).store.db = after) :
    (sendToPhone now action env center sent).store.db = center.store.db ∨
      (sendToPhone now action env center sent).store.db = after := by
  unfold sendToPhone
  split
  · exact .inl rfl
  · exact .inr (hsent _)

theorem db_handleDisplayAction (action : DisplayAction) :
    (handleDisplayAction ctx dbMessage draws action center).store.db = center.store.db ∨
      ∃ writer, actionWriter draws.now action = some writer ∧
        (handleDisplayAction ctx dbMessage draws action center).store.db =
          writer.finish center.store.db := by
  unfold handleDisplayAction
  split
  · exact .inl rfl
  split
  · next hkind =>
    have hwriter : actionWriter draws.now action = some (.doSmsReply draws.now action.deviceId) := by
      simp only [actionWriter, hkind]
    unfold doSmsReply
    split
    · exact .inl rfl
    split
    · exact .inl rfl
    · refine (db_sendToPhone center fun registry ↦ ?_).imp_right fun h ↦ ⟨_, hwriter, h⟩
      rw [Writer.finish, Writer.writes, Service.perform_singleton, after_insertAuditLog]
      rfl
  · next hkind =>
    have hwriter : actionWriter draws.now action =
        some (.markNotificationRead action.deviceId action.envelopeId.toText) := by
      simp only [actionWriter, hkind]
    refine .inr ⟨_, hwriter, ?_⟩
    rw [Writer.finish, Writer.writes, Service.perform_singleton, after_markNotificationRead,
      doNotificationRead]
    cases center.store.db.markNotificationRead action.deviceId action.envelopeId.toText <;> rfl
  · next hkind =>
    have hwriter : actionWriter draws.now action =
        some (.dismissNotification action.deviceId action.envelopeId.toText) := by
      simp only [actionWriter, hkind]
    refine (db_sendToPhone center fun registry ↦ ?_).imp_right fun h ↦ ⟨_, hwriter, h⟩
    rw [Writer.finish, Writer.writes, Service.perform_singleton, after_eq_warned]
    rfl
  · exact (db_sendToPhone center fun registry ↦ rfl).elim .inl .inl
  · exact (db_sendToPhone center fun registry ↦ rfl).elim .inl .inl
  · exact .inl rfl

/-- Undisturbed, and without an outage. -/
theorem markAllNotificationsRead_alone (queryMessage : QueryError → String)
    (visit : Visit db.notifications.rows) (deviceId : Option Uuid) :
    (markAllNotificationsRead queryMessage db visit none
        (fun _ ↦ { meanwhile := [], outage := none }) deviceId).2 =
      (Writer.markAllNotificationsRead (unreadListing db visit deviceId)).finish db := by
  have hloop : ∀ i rows db, markEach (fun _ ↦ { meanwhile := [], outage := none }) i rows db =
      rows.foldl (fun db n ↦ warned db (db.markNotificationRead n.deviceId n.id)) db := by
    intro i rows db
    induction rows generalizing i db with
    | nil => rfl
    | cons n rows ih =>
      rw [markEach, ih]
      simp only [afterStatement_none]
      rfl
  rw [markAllNotificationsRead_eq, hloop]
  exact (perform_map db _ _ (fun db n ↦ after_markNotificationRead db n.deviceId n.id) _).symm

end Handlers

/-! ## Every interleaving -/

/-- The tasks that write, over their database. -/
abbrev Writers := Jobs Db Writer Statement

namespace Writers

def step (s : Writers) (label : JobLabel Writer) : Option Writers :=
  Jobs.step Writer.writes (fun db s ↦ s.run db) s label

/-- The request is a removal of the device, and its job has recorded it before: the audit log has
the entry, unless the insertion of this entry was lost. -/
structure RemovalRecorded (s : Writers) (deviceId : Uuid) (before : List (Made Statement))
    (removal : Made Statement) : Prop where
  removes : removal.request = .removeDevice deviceId
  reached : removal.reached = true
  recorded : ∃ entry ∈ before, ∃ now detail, entry.job = removal.job ∧
    entry.request = .insertAuditLog now (some deviceId) "device.unpair" detail ∧
    (entry.reached = true → ∃ row ∈ s.shared.auditLog.rows, row.timestamp = now ∧
      row.deviceId = some deviceId ∧ row.event = "device.unpair" ∧ row.detail = detail)

/-- Since `s` the device has been removed, and the removal recorded. -/
def UnpairRecorded (s t : Writers) (deviceId : Uuid) : Prop :=
  ∃ before removal after, t.log = before ++ removal :: after ∧ s.log.length ≤ before.length ∧
    t.RemovalRecorded deviceId before removal

variable {s t : Writers} {labels : List (JobLabel Writer)}

theorem regular_perform {db : Db} (h : db.Regular) (statements : List Statement) :
    (Service.perform (fun (db : Db) (s : Statement) ↦ s.run db) db statements).2.Regular :=
  refines_statements.inv_perform h statements

/-- An entry that has been made is in the audit log. -/
theorem exists_auditLog (hkeeps : Jobs.Keeps Writer.writes (fun db s ↦ s.run db) Db.empty s)
    {made : Made Statement} {now : Int64} {deviceId : Option Uuid} {event : String}
    {detail : Option String} (hmade : made ∈ s.log)
    (hrequest : made.request = .insertAuditLog now deviceId event detail)
    (hreached : made.reached = true) :
    ∃ row ∈ s.shared.auditLog.rows, row.timestamp = now ∧ row.deviceId = deviceId ∧
      row.event = event ∧ row.detail = detail := by
  have hlog : made.request ∈ s.reached :=
    List.mem_map_of_mem (List.mem_filter.mpr ⟨hmade, hreached⟩)
  have haudit := Statement.auditLog_perform regular_empty s.reached
  rw [← hkeeps.shared] at haudit
  have hentry : { id := 0, timestamp := now, deviceId, event, detail } ∈
      s.shared.records.auditLog := by
    rw [haudit]
    exact List.mem_append_right _ (List.mem_filterMap.mpr ⟨_, hlog, by rw [hrequest]; rfl⟩)
  obtain ⟨row, hrow, heq⟩ := List.mem_map.mp hentry
  cases heq
  exact ⟨row, hrow, rfl, rfl, rfl, rfl⟩

/-- Every removal that has reached the database has been recorded by its job. -/
theorem removalRecorded (hkeeps : Jobs.Keeps Writer.writes (fun db s ↦ s.run db) Db.empty s)
    {deviceId : Uuid} {before after : List (Made Statement)} {removal : Made Statement}
    (hlog : s.log = before ++ removal :: after) (hremoves : removal.request = .removeDevice deviceId)
    (hreached : removal.reached = true) : s.RemovalRecorded deviceId before removal where
  removes := hremoves
  reached := hreached
  recorded := by
    obtain ⟨entry, hentry, hjob, now, detail, hrequest⟩ := hkeeps.before
      (p := (· = .removeDevice deviceId)) (q := fun _ ↦ Writer.RecordsUnpair deviceId)
      (fun writer _ _ _ hwrites hp ↦ writer.unpair_before_removal (hp ▸ hwrites)) hlog hremoves
    have hmade : entry ∈ s.log := hlog ▸ List.mem_append_left _ hentry
    exact ⟨entry, hentry, now, detail, hjob, hrequest, exists_auditLog hkeeps hmade hrequest⟩

/-- In every interleaving of the handlers, what is kept for a device at one time is kept for it at
every later time, unless it has been removed in between and the removal recorded. -/
theorem history_is_kept_until_unpaired {front back : List (JobLabel Writer)}
    (hfront : Run.exec step (Jobs.init Db.empty) front = some s)
    (hback : Run.exec step s back = some t) {deviceId : Uuid} {record : DeviceRecord}
    (hrecord : s.shared.records.devices.get deviceId = some record) (hbare : ¬ record.IsBare) :
    UnpairRecorded s t deviceId ∨
      ∃ later, t.shared.records.devices.get deviceId = some later ∧ record.Grows later := by
  have hs := Jobs.keeps_init.exec hfront
  have ht := hs.exec hback
  obtain ⟨more, hmore⟩ : s.log <+: t.log :=
    Run.invariant (fun u ↦ s.log <+: u.log)
      (fun _ _ _ hprefix hstep ↦ hprefix.trans (Jobs.log_step hstep)) hback (List.prefix_refl _)
  have hreached : t.reached = s.reached ++ (more.filter (·.reached)).map (·.request) := by
    rw [Jobs.reached, ← hmore, List.filter_append, List.map_append]
    rfl
  have hregular : s.shared.Regular := by
    rw [hs.shared]
    exact regular_perform regular_empty _
  have hshared := ht.shared
  rw [hreached, Service.perform_append, ← hs.shared] at hshared
  rcases Statement.grows_perform hregular hrecord ((more.filter (·.reached)).map (·.request)) with
    hremoved | hgone | ⟨later, hlater, hgrows⟩
  · obtain ⟨removal, hremoval, hremoves⟩ := List.mem_map.mp hremoved
    obtain ⟨hmem, hreached⟩ := List.mem_filter.mp hremoval
    obtain ⟨between, after, hsplit⟩ := List.append_of_mem hmem
    have hlog : t.log = (s.log ++ between) ++ removal :: after := by
      rw [← hmore, hsplit, List.append_assoc]
    have hsince : s.log.length ≤ (s.log ++ between).length := by simp
    exact .inl ⟨_, removal, after, hlog, hsince, removalRecorded ht hlog hremoves hreached⟩
  · exact absurd hgone hbare
  · rw [← hshared] at hlater
    exact .inr ⟨later, hlater, hgrows⟩

/-! ## A sample -/

/-- A phone says hello and reports a call. -/
def sampleCall : List (JobLabel Writer) :=
  [.start 0 (.sink { now := 1000, freshId := .nil } (.onHello .nil ⟨1⟩ {
      name := "phone"
      deviceType := .android
      protocolVersion := 1
      pubkey := ""
      port := none
      manufacturer := none
      model := none
      hardwareId := none })),
    .advance 0 true,
    .start 1 (.sink { now := 2000, freshId := .nil } (.onCallIncoming .nil ⟨1⟩ {
      phoneNumber := "555"
      contactName := none
      simSlot := none })),
    .advance 1 true]

/-- It hangs up for good: its removal is recorded, and then made. -/
def sampleRemoval : List (JobLabel Writer) :=
  [.start 2 (.removeDevice 3000 ⟨1⟩), .advance 0 true, .advance 2 true, .advance 2 true]

theorem history_is_kept_until_unpaired_sample : ∃ s t record,
    Run.exec step (Jobs.init Db.empty) sampleCall = some s ∧
    Run.exec step s sampleRemoval = some t ∧
    s.shared.records.devices.get ⟨1⟩ = some record ∧ ¬ record.IsBare ∧
    (UnpairRecorded s t ⟨1⟩ ∨
      ∃ later, t.shared.records.devices.get ⟨1⟩ = some later ∧ record.Grows later) := by
  have hrun : ((Run.exec step (Jobs.init Db.empty) sampleCall).bind fun s ↦
      (Run.exec step s sampleRemoval).bind fun _ ↦
        (s.shared.records.devices.get ⟨1⟩).map (·.calls.length)) = some 1 := rfl
  obtain ⟨s, hs, hrest⟩ := Option.bind_eq_some_iff.mp hrun
  obtain ⟨t, ht, hrecord⟩ := Option.bind_eq_some_iff.mp hrest
  obtain ⟨record, hrecord, hcalls⟩ := Option.map_eq_some_iff.mp hrecord
  have hbare : ¬ record.IsBare := by
    intro hbare
    rw [hbare] at hcalls
    cases hcalls
  exact ⟨s, t, record, hs, ht, hrecord, hbare, history_is_kept_until_unpaired hs ht hrecord hbare⟩

end Writers

end PhoneBridge.MessageCenter
