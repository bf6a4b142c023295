import PhoneBridge.MessageCenter.DeskActions
import PhoneBridge.MessageCenter.OutgoingSms

/-!
# The rows of outgoing messages

What each handler does to the messages in the database. Only a message that comes in under the id of
an outgoing one, an unpairing and the removal of a device take an outgoing row away.
-/

namespace PhoneBridge.MessageCenter

open Library Proto Net Storage

/-- Does a sink call take away the outgoing row of a device with this id? -/
def takesAway (deviceId : Uuid) (id : String) : SinkCall → Bool
  | .onSmsReceived _ device env => device = deviceId ∧ env.id = id
  | .onSmsListResult _ device env => device = deviceId ∧ id ∈ env.messages.map (·.id)
  | .onUnpair _ device _ => device = deviceId
  | _ => false

section Rows

variable (db : Db)

/-- A statement that leaves the messages alone. -/
theorem smsMessages_warned {t : Tables} (h : t.smsMessages = db.smsMessages) :
    (warned db t.commit).smsMessages = db.smsMessages :=
  warned_of_both (fun t ↦ t.smsMessages = db.smsMessages) rfl h

theorem smsMessages_insertCall (row : CallRow) :
    (CenterSink.insertCall row db).smsMessages = db.smsMessages := by
  rw [insertCall_eq]
  exact smsMessages_warned db rfl

theorem smsMessages_upsertDevice (r : DeviceRow) :
    (warned db (db.upsertDevice r)).smsMessages = db.smsMessages :=
  upsertDevice_of_devices (fun t ↦ t.smsMessages = db.smsMessages) r fun _ ↦ rfl

theorem smsMessages_audit (stamp : Stamp) (deviceId : Uuid) (event : String)
    (detail : Option String) :
    (CenterSink.audit stamp deviceId db event detail).smsMessages = db.smsMessages :=
  smsMessages_warned db rfl

theorem smsMessages_touchDevice (stamp : Stamp) (deviceId : Uuid) :
    (CenterSink.touchDevice stamp deviceId db).smsMessages = db.smsMessages :=
  smsMessages_warned db rfl

/-- The insertion of a row, if it is executed and the device is known. -/
theorem smsMessages_insertSms (outage : Outage) (row : SmsRow) :
    (db.afterStatement (execute outage (db.insertSms row))).smsMessages =
      if outage = none ∧ row.deviceId ∈ db.deviceIds then db.smsMessages.insertOrReplace row
      else db.smsMessages := by
  cases outage with
  | some message => rfl
  | none =>
    rw [afterStatement_none]
    change (warned db (db.insertSms row)).toTables.smsMessages = _
    rw [toTables_insertSms]
    by_cases hknown : row.deviceId ∈ db.deviceIds <;> simp [hknown]

/-- A row of an unknown device is not there. -/
theorem known_of_smsRow {db : Db} {row : SmsRow} (hrow : row ∈ db.smsMessages.rows) :
    row.deviceId ∈ db.deviceIds := by
  apply db.foreignKeys
  simp only [Tables.references, List.mem_append, List.mem_map]
  exact .inl (.inr ⟨row, hrow, rfl⟩)

/-- A message that comes in takes the place of the one with its id. -/
theorem mem_onSmsReceived (deviceId : Uuid) (sms : SmsReceived) {row : SmsRow}
    (hout : row.direction = "out") :
    row ∈ (CenterSink.onSmsReceived deviceId db sms).smsMessages.rows ↔
      row ∈ db.smsMessages.rows ∧ ¬ (deviceId = row.deviceId ∧ sms.id = row.id) := by
  rw [CenterSink.onSmsReceived, toTables_insertSms]
  change row ∈ (if deviceId ∈ db.deviceIds then _ else _ : Tables).smsMessages.rows ↔ _
  by_cases hknown : deviceId ∈ db.deviceIds
  · rw [if_pos hknown]
    simp only [KeyedTable.rows_insertOrReplace, List.mem_append, List.mem_filter,
      List.mem_singleton, decide_eq_true_eq, CenterSink.smsRow]
    grind
  · rw [if_neg hknown]
    apply Iff.symm
    apply and_iff_left_of_imp
    rintro hrow ⟨rfl, -⟩
    exact hknown (known_of_smsRow hrow)

/-- The messages of a list come in one after the other. -/
theorem mem_onSmsListResult (deviceId : Uuid) (messages : List SmsReceived) {row : SmsRow}
    (hout : row.direction = "out") :
    row ∈ (messages.foldl (fun db message ↦ CenterSink.onSmsReceived deviceId db message)
        db).smsMessages.rows ↔
      row ∈ db.smsMessages.rows ∧
        ¬ (deviceId = row.deviceId ∧ row.id ∈ messages.map (·.id)) := by
  induction messages generalizing db with
  | nil => simp
  | cons message messages ih =>
    rw [List.foldl_cons, ih, mem_onSmsReceived db deviceId message hout, and_assoc]
    apply and_congr_right
    intro _
    simp only [List.map_cons, List.mem_cons]
    grind

/-- The removal of a device takes its messages along. -/
theorem mem_deleteDevice (t : Tables) (deviceId : Uuid) (row : SmsRow) :
    row ∈ (t.deleteDevice deviceId).smsMessages.rows ↔
      row ∈ t.smsMessages.rows ∧ ¬ deviceId = row.deviceId := by
  simp [Tables.deleteDevice, @eq_comm _ deviceId]

/-- What a sink call leaves of the outgoing rows. -/
theorem mem_centerSink (stamp : Stamp) (call : SinkCall) {row : SmsRow}
    (hout : row.direction = "out") :
    row ∈ (centerSink stamp call db).smsMessages.rows ↔
      row ∈ db.smsMessages.rows ∧ ¬ takesAway row.deviceId row.id call := by
  have hsame {after : Db} (h : after.smsMessages = db.smsMessages) :
      row ∈ after.smsMessages.rows ↔ row ∈ db.smsMessages.rows ∧ ¬ (false = true) := by
    simp [h]
  cases call with
  | onNotification _ deviceId env => exact hsame (smsMessages_warned db rfl)
  | onNotificationDismissed _ deviceId env => exact hsame (smsMessages_warned db rfl)
  | onSmsReceived _ deviceId env =>
    rw [takesAway, decide_eq_true_eq]
    exact mem_onSmsReceived db deviceId env hout
  | onSmsSendResult _ deviceId env => exact hsame rfl
  | onCallState _ deviceId env => exact hsame (smsMessages_insertCall db _)
  | onCallIncoming _ deviceId env => exact hsame (smsMessages_insertCall db _)
  | onCallHistory _ deviceId env =>
    exact hsame (Unwinding.view_foldl_of_ignored (fun db : Db ↦ db.smsMessages)
      (fun db entry ↦ smsMessages_insertCall db _) db env.entries)
  | onSmsListResult _ deviceId env =>
    rw [takesAway, decide_eq_true_eq]
    exact mem_onSmsListResult db deviceId env.messages hout
  | onHello _ deviceId env =>
    apply hsame
    change (CenterSink.onHello stamp deviceId db env).smsMessages = _
    rw [CenterSink.onHello, smsMessages_audit, smsMessages_touchDevice, smsMessages_upsertDevice]
  | onUnpair _ deviceId env =>
    rw [takesAway, decide_eq_true_eq]
    change row ∈ (CenterSink.onUnpair stamp deviceId db env).smsMessages.rows ↔ _
    rw [CenterSink.onUnpair, Db.removeDevice, warned_commit (constraints_deleteDevice _ deviceId),
      mem_deleteDevice, smsMessages_audit]
  | onDisconnect deviceId =>
    apply hsame
    change (CenterSink.onDisconnect stamp deviceId db).smsMessages = _
    rw [CenterSink.onDisconnect, smsMessages_audit, smsMessages_touchDevice]

end Rows

section Handlers

variable {ctx : WsContext} {dbMessage : DbError → String}

/-- What a step of a connection handler leaves of the outgoing rows. -/
theorem mem_hubStep {hub next : Hub DeskStore} {label : HubLabel}
    (hstep : hub.step ctx displaySink label = some next) {row : SmsRow}
    (hout : row.direction = "out") :
    row ∈ next.center.store.db.smsMessages.rows ↔ row ∈ hub.center.store.db.smsMessages.rows ∧
      ¬ ∃ made ∈ hub.sinkCallOf label, takesAway row.deviceId row.id made.2 := by
  rw [Hub.store_of_step hstep]
  cases hub.sinkCallOf label with
  | none => simp
  | some made =>
    simp only [Option.mem_some_iff, exists_eq_left']
    exact mem_centerSink hub.center.store.db made.1 made.2 hout

variable (draws : Draws) (center : Center DeskStore)

/-- Neither marking a notification nor dismissing it touches the messages. -/
theorem smsMessages_markNotificationRead {db after : Db} {deviceId : Uuid} {id : String}
    (h : db.markNotificationRead deviceId id = .ok after) :
    after.smsMessages = db.smsMessages := by
  obtain ⟨marked, hmarked, honly⟩ := Desk.markNotificationRead_eq db deviceId id
  cases h.symm.trans hmarked
  have hothers := congrArg Tables.smsMessages honly.others
  exact hothers

theorem smsMessages_dismissNotification {db after : Db} {deviceId : Uuid} {id : String}
    {row : Option String} (h : db.dismissNotification deviceId id = .ok (row, after)) :
    after.smsMessages = db.smsMessages := by
  cases hmarked : db.markNotificationRead deviceId id with
  | error e => simp [Db.dismissNotification, hmarked, bind, Except.bind] at h
  | ok marked =>
    simp only [Db.dismissNotification, hmarked, bind, Except.bind, pure, Except.pure,
      Except.ok.injEq, Prod.mk.injEq] at h
    rw [← h.2]
    exact smsMessages_markNotificationRead hmarked

theorem smsMessages_sendToPhone {now : Int64} {action : DisplayAction} {env : Envelope}
    {sent : Center DeskStore → Center DeskStore}
    (hsent : ∀ registry, (sent { center with registry }).store.db.smsMessages =
      center.store.db.smsMessages) :
    (sendToPhone now action env center sent).store.db.smsMessages =
      center.store.db.smsMessages := by
  unfold sendToPhone
  split
  · rfl
  · exact hsent _

/-- No action of a display touches the messages. -/
theorem smsMessages_handleDisplayAction (action : DisplayAction) :
    (handleDisplayAction ctx dbMessage draws action center).store.db.smsMessages =
      center.store.db.smsMessages := by
  unfold handleDisplayAction
  split
  · rfl
  split
  · unfold doSmsReply
    split
    · rfl
    split
    · rfl
    · exact smsMessages_sendToPhone center fun registry ↦ smsMessages_warned _ rfl
  · unfold doNotificationRead
    split
    · rfl
    · next hmarked => exact smsMessages_markNotificationRead hmarked
  · apply smsMessages_sendToPhone center
    intro registry
    cases hdismissed : center.store.db.dismissNotification action.deviceId
        action.envelopeId.toText with
    | error e => rfl
    | ok result => exact smsMessages_dismissNotification hdismissed
  · exact smsMessages_sendToPhone center fun registry ↦ rfl
  · exact smsMessages_sendToPhone center fun registry ↦ rfl
  · rfl

/-- Nor does any other handler but `send_sms` and the connections. -/
theorem smsMessages_senderStep {hub next : Hub DeskStore} {label : SenderLabel}
    (hstep : Sender.step ctx dbMessage hub label = some next) :
    match label with
    | .connection _ | .sendSms .. | .action .. => True
    | _ => next.center.store.db.smsMessages = hub.center.store.db.smsMessages := by
  cases label with
  | connection _ => trivial
  | sendSms _ _ _ => trivial
  | action _ _ => trivial
  | pairStart draws deviceId =>
    cases hstep
    dsimp only
    rw [store_pairStart]
  | pairAccept draws dummy deviceId code =>
    cases hstep
    dsimp only
    rw [pairAccept_eq]
  | pairReject draws dummy deviceId reason =>
    cases hstep
    dsimp only
    rw [pairReject_eq]
  | incomingAccept draws deviceId =>
    cases hstep
    dsimp only
    rw [store_incomingAccept]
  | incomingReject draws deviceId =>
    cases hstep
    dsimp only
    rw [store_incomingReject]
  | dismissNotification draws deviceId id =>
    cases hstep
    dsimp only
    unfold dismissNotification
    split
    · rfl
    · next db hdismissed => exact smsMessages_dismissNotification hdismissed
    · next row db hdismissed => exact smsMessages_dismissNotification hdismissed
  | dial draws req =>
    cases hstep
    dsimp only
    unfold dial
    split
    · rfl
    split
    · rfl
    · exact smsMessages_warned _ rfl

/-- A deletion that is executed takes the messages of the device along. -/
theorem mem_removeDeskDevice (auditOutage deleteOutage : Outage)
    (statementMessage : StatementError → String) (now : Int64) (deviceId : Uuid) (row : SmsRow) :
    row ∈ (removeDeskDevice auditOutage deleteOutage statementMessage now deviceId
        center).store.db.smsMessages.rows ↔ row ∈ center.store.db.smsMessages.rows ∧
      ¬ (deleteOutage = none ∧ deviceId = row.deviceId) := by
  let app : AppState := {
    hub := {
      center := {
        sessions := center.sessions
        registry := center.registry
        store := center.store.db }
      connections := .empty }
    pinStore := .empty }
  have haudited : (app.audited auditOutage now deviceId).smsMessages =
      center.store.db.smsMessages := by
    cases auditOutage with
    | some message => rfl
    | none =>
      rw [AppState.audited_none]
      exact smsMessages_warned center.store.db rfl
  change row ∈ (app.removeDeviceUnder auditOutage deleteOutage statementMessage now
    deviceId).2.hub.center.store.smsMessages.rows ↔ _
  cases deleteOutage with
  | some message =>
    rw [(app.removeDeviceUnder_some auditOutage statementMessage now deviceId message).2]
    change row ∈ (app.audited auditOutage now deviceId).smsMessages.rows ↔ _
    simp [haudited]
  | none =>
    obtain ⟨store, hresult, htables⟩ :=
      app.removeDeviceUnder_executed auditOutage statementMessage now deviceId
    rw [hresult]
    change row ∈ store.smsMessages.rows ↔ _
    rw [htables, mem_deleteDevice, haudited]
    simp

end Handlers

end PhoneBridge.MessageCenter
