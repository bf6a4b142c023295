import PhoneBridge.MessageCenter.Redelivery
import PhoneBridge.MessageCenter.SmsRows

/-!
# The history of outgoing messages

The history is complete when every queued request has its row and every outgoing row its request. A
reply of a display is never recorded, a row is lost with the call that was to insert it, a message
that the phone reports under the id of a row takes its place, and the row goes with its device.
-/

namespace PhoneBridge.MessageCenter

open Library Proto Net Storage

namespace SmsDesk

/-- Every request that has been queued has its row, exactly one, unless its call is still to insert
it; and every outgoing row has its request. -/
structure Complete (s : SmsDesk) : Prop where
  recorded : ∀ request ∈ s.requests, (∃ row ∈ s.inserting, RowOf request row) ∨
    s.db.smsMessages.rows.countP (RowOf request ·) = 1
  requested : ∀ row ∈ s.db.smsMessages.rows, row.direction = "out" →
    ∃ request ∈ s.requests, RowOf request row

/-- The row of the request is still to be inserted. -/
def InFlight (s : SmsDesk) (request : SmsRequest) : Prop :=
  ∃ row ∈ s.inserting, RowOf request row

/-- The row of the request is in the database. -/
def Stored (s : SmsDesk) (request : SmsRequest) : Prop :=
  ∃ row ∈ s.db.smsMessages.rows, RowOf request row

/-! ## What keeps the history complete -/

/-- A step keeps the history. A reply of a display is queued only if its row happens to be there; a
row is inserted, without taking the place of another request's; a message that comes in, an
unpairing, a removal and a stop leave the rows of the requests alone. -/
def Keeps (ctx : WsContext) (s : SmsDesk) : SmsLabel → Prop
  | .handler (.connection label) => ∀ request ∈ s.requests,
      (∃ made ∈ s.hub.sinkCallOf label,
        takesAway request.deviceId request.id.toText made.2) → s.InFlight request
  | .handler (.action draws action) =>
    ∀ request ∈ s.replyRequest ctx draws action, s.InFlight request ∨ s.Stored request
  | .handler _ => True
  | .insertSms row outage => row ∈ s.inserting → ∀ request ∈ s.requests,
      if outage = none ∧ row.deviceId ∈ s.db.deviceIds then
        row.deviceId = request.deviceId → row.id = request.id.toText →
          RowOf request row ∨ ∃ other ∈ s.inserting.erase row, RowOf request other
      else RowOf request row →
        s.Stored request ∨ ∃ other ∈ s.inserting.erase row, RowOf request other
  | .removeDevice _ deleteOutage _ deviceId => ∀ request ∈ s.requests,
      deleteOutage = none ∧ deviceId = request.deviceId → s.InFlight request
  | .restart => ∀ request ∈ s.requests, s.InFlight request → s.Stored request

/-- The rows that wait for their insertion belong to requests. -/
def Waiting (s : SmsDesk) : Prop :=
  ∀ row ∈ s.inserting, ∃ request ∈ s.requests, RowOf request row

section Completeness

variable {s next : SmsDesk}

/-- A row is stored at most once. -/
theorem stored_iff (s : SmsDesk) (request : SmsRequest) :
    s.db.smsMessages.rows.countP (RowOf request ·) = 1 ↔ s.Stored request := by
  rw [s.db.smsMessages.countP_eq_one_iff (request.id.toText, request.deviceId)]
  · simp only [Stored, decide_eq_true_eq]
  · intro row _ hrow
    have hrow : RowOf request row := by simpa using hrow
    rw [hrow.2.1, hrow.2.2.1]

theorem complete_iff (s : SmsDesk) : s.Complete ↔
    (∀ request ∈ s.requests, s.InFlight request ∨ s.Stored request) ∧
      ∀ row ∈ s.db.smsMessages.rows, row.direction = "out" →
        ∃ request ∈ s.requests, RowOf request row := by
  constructor
  · intro h
    exact ⟨fun request hrequest ↦ (h.recorded request hrequest).imp_right
      (s.stored_iff request).mp, h.requested⟩
  · intro h
    exact ⟨fun request hrequest ↦ (h.1 request hrequest).imp_right (s.stored_iff request).mpr, h.2⟩

/-- Where outgoing rows are only taken away, the history stays complete if they are those of calls
in progress. -/
theorem complete_of_taken (next : SmsDesk) (taken : Uuid → String → Prop) (h : s.Complete)
    (hrequests : next.requests = s.requests) (hinserting : next.inserting = s.inserting)
    (hrows : ∀ row, row.direction = "out" → (row ∈ next.db.smsMessages.rows ↔
      row ∈ s.db.smsMessages.rows ∧ ¬ taken row.deviceId row.id)) :
    next.Complete ↔ ∀ request ∈ s.requests,
      taken request.deviceId request.id.toText → s.InFlight request := by
  rw [complete_iff] at h ⊢
  have hstored (request : SmsRequest) : next.Stored request ↔
      s.Stored request ∧ ¬ taken request.deviceId request.id.toText := by
    constructor
    · rintro ⟨row, hrow, hrequest⟩
      have hleft := (hrows row hrequest.1).mp hrow
      rw [hrequest.2.1, hrequest.2.2.1] at hleft
      exact ⟨⟨row, hleft.1, hrequest⟩, hleft.2⟩
    · rintro ⟨⟨row, hrow, hrequest⟩, hleft⟩
      rw [← hrequest.2.1, ← hrequest.2.2.1] at hleft
      exact ⟨row, (hrows row hrequest.1).mpr ⟨hrow, hleft⟩, hrequest⟩
  have hinflight (request : SmsRequest) : next.InFlight request ↔ s.InFlight request := by
    rw [InFlight, hinserting, InFlight]
  simp only [hrequests, hstored, hinflight]
  constructor
  · intro hnext request hrequest htaken
    exact (hnext.1 request hrequest).resolve_right fun hstays ↦ hstays.2 htaken
  · intro hkeeps
    constructor
    · intro request hrequest
      by_cases htaken : taken request.deviceId request.id.toText
      · exact .inl (hkeeps request hrequest htaken)
      · exact (h.1 request hrequest).imp_right fun hstays ↦ ⟨hstays, htaken⟩
    · intro row hrow hout
      exact h.2 row ((hrows row hout).mp hrow).1 hout

/-- A step that leaves requests, rows and calls alone keeps the history. -/
theorem complete_of_same (h : s.Complete) (hrequests : next.requests = s.requests)
    (hinserting : next.inserting = s.inserting)
    (hrows : next.db.smsMessages = s.db.smsMessages) : next.Complete := by
  rw [complete_iff] at h ⊢
  simpa only [InFlight, Stored, hrequests, hinserting, hrows] using h

variable (ctx : WsContext) (statementMessage : StatementError → String)

theorem complete_sendSms (h : s.Complete) (draws : Draws) (requestId : Uuid)
    (req : SendSmsRequest) : (s.sendSms ctx draws requestId req).Complete := by
  rcases s.sendSms_cases ctx draws requestId req with hsame | ⟨hdb, hinserting, hrequests⟩
  · rw [hsame]
    exact h
  rw [complete_iff] at h ⊢
  simp only [InFlight, Stored, hdb, hinserting, hrequests, List.mem_cons, forall_eq_or_imp,
    exists_eq_or_imp]
  refine ⟨⟨.inl (.inl (rowOf_sentRow ..)), ?_⟩, ?_⟩
  · intro request hrequest
    exact (h.1 request hrequest).imp_left .inr
  · intro row hrow hout
    exact .inr (h.2 row hrow hout)

/-- A reply of a display is not recorded. -/
theorem complete_action_iff (h : s.Complete) (draws : Draws) (action : DisplayAction)
    (hstep : step ctx statementMessage s (.handler (.action draws action)) = some next) :
    next.Complete ↔ ∀ request ∈ s.replyRequest ctx draws action,
      s.InFlight request ∨ s.Stored request := by
  cases hstep
  rw [complete_iff] at h ⊢
  have hrows : (handleDisplayAction ctx (fun e ↦ statementMessage (.constraint e)) draws action
      s.hub.center).store.db.smsMessages = s.db.smsMessages :=
    smsMessages_handleDisplayAction draws s.hub.center action
  simp only [InFlight, Stored, db, setCenter, List.mem_append, Option.mem_toList] at h hrows ⊢
  rw [hrows]
  constructor
  · intro hnext request hrequest
    exact hnext.1 request (.inl hrequest)
  · intro hreply
    constructor
    · intro request hrequest
      exact hrequest.elim (hreply request) (h.1 request)
    · intro row hrow hout
      obtain ⟨request, hrequest, hrowOf⟩ := h.2 row hrow hout
      exact ⟨request, .inr hrequest, hrowOf⟩

/-- A stop loses the rows that wait for their insertion. -/
theorem complete_restart_iff (h : s.Complete)
    (hstep : step ctx statementMessage s .restart = some next) :
    next.Complete ↔ ∀ request ∈ s.requests, s.InFlight request → s.Stored request := by
  cases hstep
  rw [complete_iff] at h ⊢
  simp only [InFlight, Stored, db, Hub.start, List.not_mem_nil, false_and, exists_false, false_or]
    at h ⊢
  constructor
  · intro hnext request hrequest _
    exact hnext.1 request hrequest
  · intro hstored
    exact ⟨fun request hrequest ↦ (h.1 request hrequest).elim (hstored request hrequest) id, h.2⟩

section Insertion

variable {row : SmsRow} (hrow : row ∈ s.inserting)
  (hinserting : next.inserting = s.inserting.erase row) (hrequests : next.requests = s.requests)

include hrow hinserting

/-- A call in progress is the one that inserts its row, or another one. -/
theorem inFlight_iff (request : SmsRequest) :
    s.InFlight request ↔ RowOf request row ∨ next.InFlight request := by
  simp only [InFlight, hinserting, (List.perm_cons_erase hrow).mem_iff, List.mem_cons,
    exists_eq_or_imp]

include hrequests

/-- A row that is not inserted is lost, unless there is another one like it. -/
theorem complete_of_not_inserted (h : s.Complete)
    (hrows : next.db.smsMessages = s.db.smsMessages) :
    next.Complete ↔ ∀ request ∈ s.requests, RowOf request row →
      s.Stored request ∨ next.InFlight request := by
  rw [complete_iff] at h ⊢
  have hstored (request : SmsRequest) : next.Stored request ↔ s.Stored request := by
    rw [Stored, hrows, Stored]
  simp only [hrequests, hstored, hrows]
  constructor
  · intro hnext request hrequest _
    exact (hnext.1 request hrequest).symm
  · intro hkeeps
    refine ⟨fun request hrequest ↦ ?_, h.2⟩
    rcases h.1 request hrequest with hflight | hrequeststored
    · rcases (inFlight_iff hrow hinserting request).mp hflight with hrowOf | hother
      · exact (hkeeps request hrequest hrowOf).symm
      · exact .inl hother
    · exact .inr hrequeststored

/-- A row that is inserted takes the place of the one under its key. -/
theorem complete_of_inserted (h : s.Complete) (hwaiting : s.Waiting)
    (hrows : next.db.smsMessages = s.db.smsMessages.insertOrReplace row) :
    next.Complete ↔ ∀ request ∈ s.requests, row.deviceId = request.deviceId →
      row.id = request.id.toText → RowOf request row ∨ next.InFlight request := by
  rw [complete_iff] at h ⊢
  have hmem (other : SmsRow) : other ∈ next.db.smsMessages.rows ↔
      other ∈ s.db.smsMessages.rows ∧ ¬ (row.deviceId = other.deviceId ∧ row.id = other.id) ∨
        other = row := by
    rw [hrows]
    simp only [KeyedTable.rows_insertOrReplace, List.mem_append, List.mem_filter,
      List.mem_singleton, decide_eq_true_eq]
    grind
  have hstored (request : SmsRequest) : next.Stored request ↔ s.Stored request ∧
      ¬ (row.deviceId = request.deviceId ∧ row.id = request.id.toText) ∨ RowOf request row := by
    simp only [Stored, hmem]
    constructor
    · rintro ⟨other, ⟨hother, hkey⟩ | rfl, hrowOf⟩
      · rw [hrowOf.2.1, hrowOf.2.2.1] at hkey
        exact .inl ⟨⟨other, hother, hrowOf⟩, hkey⟩
      · exact .inr hrowOf
    · rintro (⟨⟨other, hother, hrowOf⟩, hkey⟩ | hrowOf)
      · rw [← hrowOf.2.1, ← hrowOf.2.2.1] at hkey
        exact ⟨other, .inl ⟨hother, hkey⟩, hrowOf⟩
      · exact ⟨row, .inr rfl, hrowOf⟩
  simp only [hrequests, hstored]
  constructor
  · intro hnext request hrequest hdevice hid
    rcases hnext.1 request hrequest with hflight | ⟨-, hkey⟩ | hrowOf
    · exact .inr hflight
    · exact absurd ⟨hdevice, hid⟩ hkey
    · exact .inl hrowOf
  · intro hkeeps
    constructor
    · intro request hrequest
      by_cases hkey : row.deviceId = request.deviceId ∧ row.id = request.id.toText
      · exact (hkeeps request hrequest hkey.1 hkey.2).elim (fun hrowOf ↦ .inr (.inr hrowOf)) .inl
      · rcases h.1 request hrequest with hflight | hrequeststored
        · rcases (inFlight_iff hrow hinserting request).mp hflight with hrowOf | hother
          · exact .inr (.inr hrowOf)
          · exact .inl hother
        · exact .inr (.inl ⟨hrequeststored, hkey⟩)
    · intro other hother hout
      rcases (hmem other).mp hother with ⟨hbefore, -⟩ | rfl
      · exact h.2 other hbefore hout
      · exact hwaiting other hrow

end Insertion

/-- The exact condition for one step. -/
theorem complete_step_iff (h : s.Complete) (hwaiting : s.Waiting) {label : SmsLabel}
    (hstep : step ctx statementMessage s label = some next) :
    next.Complete ↔ s.Keeps ctx label := by
  cases label with
  | insertSms row outage =>
    by_cases hrow : row ∈ s.inserting
    · simp only [step, hrow, if_true, Option.some.injEq] at hstep
      subst hstep
      have hmessages := smsMessages_insertSms s.db outage row
      simp only [Keeps, hrow, true_imp_iff]
      by_cases hexecuted : outage = none ∧ row.deviceId ∈ s.db.deviceIds
      · rw [if_pos hexecuted] at hmessages
        simp only [if_pos hexecuted]
        exact complete_of_inserted hrow rfl rfl h hwaiting hmessages
      · rw [if_neg hexecuted] at hmessages
        simp only [if_neg hexecuted]
        exact complete_of_not_inserted hrow rfl rfl h hmessages
    · simp [step, hrow] at hstep
  | removeDevice auditOutage deleteOutage now deviceId =>
    cases hstep
    apply complete_of_taken (s.setCenter (removeDeskDevice auditOutage deleteOutage statementMessage
      now deviceId s.hub.center)) (fun device _ ↦ deleteOutage = none ∧ deviceId = device) h rfl rfl
    intro row _
    exact mem_removeDeskDevice s.hub.center auditOutage deleteOutage statementMessage now deviceId
      row
  | restart => exact complete_restart_iff ctx statementMessage h hstep
  | handler label =>
    cases label with
    | sendSms draws requestId req =>
      cases hstep
      exact iff_true_intro (complete_sendSms ctx h draws requestId req)
    | action draws action => exact complete_action_iff ctx statementMessage h draws action hstep
    | connection label =>
      obtain ⟨hub, hhub, rfl⟩ := Option.map_eq_some_iff.mp hstep
      apply complete_of_taken { s with hub } (fun device id ↦ ∃ made ∈ s.hub.sinkCallOf label,
        takesAway device id made.2) h rfl rfl
      intro row hout
      exact mem_hubStep hhub hout
    | _ =>
      rw [step_other ctx statementMessage s trivial] at hstep
      obtain ⟨hub, hhub, rfl⟩ := Option.map_eq_some_iff.mp hstep
      exact iff_true_intro (complete_of_same h rfl rfl (smsMessages_senderStep hhub))

/-- The rows that wait for their insertion always belong to requests. -/
theorem waiting_step (h : s.Waiting) {label : SmsLabel}
    (hstep : step ctx statementMessage s label = some next) : next.Waiting := by
  cases label with
  | insertSms row outage =>
    by_cases hrow : row ∈ s.inserting
    · simp only [step, hrow, if_true, Option.some.injEq] at hstep
      subst hstep
      exact fun other hother ↦ h other (List.mem_of_mem_erase hother)
    · simp [step, hrow] at hstep
  | removeDevice auditOutage deleteOutage now deviceId =>
    cases hstep
    exact h
  | restart =>
    cases hstep
    exact fun row hrow ↦ absurd hrow List.not_mem_nil
  | handler label =>
    cases label with
    | sendSms draws requestId req =>
      cases hstep
      rcases s.sendSms_cases ctx draws requestId req with hsame | ⟨-, hinserting, hrequests⟩
      · rw [hsame]
        exact h
      · simp only [Waiting, hinserting, hrequests, List.mem_cons, forall_eq_or_imp,
          exists_eq_or_imp]
        exact ⟨.inl (rowOf_sentRow ..), fun row hrow ↦ .inr (h row hrow)⟩
    | action draws action =>
      cases hstep
      intro row hrow
      obtain ⟨request, hrequest, hrowOf⟩ := h row hrow
      exact ⟨request, List.mem_append_right _ hrequest, hrowOf⟩
    | _ =>
      rw [step_other ctx statementMessage s trivial] at hstep
      obtain ⟨hub, hhub, rfl⟩ := Option.map_eq_some_iff.mp hstep
      exact h

/-- A step that cannot be taken keeps the history. -/
theorem keeps_of_disabled {label : SmsLabel} (h : step ctx statementMessage s label = none) :
    s.Keeps ctx label := by
  cases label with
  | insertSms row outage =>
    intro hrow
    simp [step, hrow] at h
  | removeDevice auditOutage deleteOutage now deviceId => cases h
  | restart => cases h
  | handler label =>
    cases label with
    | connection label =>
      rintro request - ⟨made, hmade, -⟩
      rw [step_other ctx statementMessage s trivial, Option.map_eq_none_iff] at h
      rw [Hub.sinkCallOf_of_disabled h] at hmade
      cases hmade
    | sendSms draws requestId req => trivial
    | action draws action => cases h
    | _ => trivial

end Completeness

/-- In every run the history of outgoing messages is complete as long as every step keeps it, and
only as long. -/
theorem history_complete_iff (ctx : WsContext) (statementMessage : StatementError → String)
    (hub : Hub DeskStore)
    (hstart : ∀ row ∈ hub.center.store.db.smsMessages.rows, row.direction ≠ "out")
    (labels : List SmsLabel) :
    Run.Always (step ctx statementMessage) Complete (start hub) labels ↔
      Run.Throughout (step ctx statementMessage) (Keeps ctx) (start hub) labels := by
  apply Run.always_iff_throughout fun s ↦ s.Complete ∧ s.Waiting
  · exact fun _ h ↦ h.1
  · intro s label next h hkeeps hstep
    exact ⟨(complete_step_iff ctx statementMessage h.1 h.2 hstep).mpr hkeeps,
      waiting_step ctx statementMessage h.2 hstep⟩
  · intro s label h hkeeps
    cases hstep : step ctx statementMessage s label with
    | none => exact absurd (keeps_of_disabled ctx statementMessage hstep) hkeeps
    | some next =>
      exact ⟨next, rfl, fun hnext ↦
        hkeeps ((complete_step_iff ctx statementMessage h.1 h.2 hstep).mp hnext)⟩
  · refine ⟨⟨?_, ?_⟩, ?_⟩
    · intro request hrequest
      cases hrequest
    · intro row hrow hout
      exact absurd hout (hstart row hrow)
    · intro row hrow
      cases hrow

/-! ## Samples -/

/-- The phone 1 is connected, and nothing is stored but its row. -/
def samplePhoneDesk : Hub DeskStore where
  center := {
    sessions := .empty
    registry := {
      inner := KeyMap.empty.insert ⟨1⟩ 0
      outboxes := fun _ ↦ .new }
    store := {
      db := samplePhone
      displayBus := [] } }
  connections := .empty

/-- The user answers an SMS on a display. -/
def sampleReply : DisplayAction where
  kind := "sms.reply"
  envelopeId := ⟨5⟩
  deviceId := ⟨1⟩
  recipient := some "10010"
  body := some "hi"

/-- The user writes an SMS in the web console. -/
def sampleSms : SendSmsRequest where
  deviceId := ⟨1⟩
  recipient := "10010"
  body := "hi"

theorem replyRequest_sampleReply :
    (start samplePhoneDesk).replyRequest sampleContext Net.sampleDraws sampleReply =
      some (sentRequest Net.sampleDraws.freshId sampleSms) := rfl

/-- An SMS of the web console is recorded. -/
theorem console_sms_is_recorded : Run.Always (step sampleContext fun _ ↦ "") Complete
    (start samplePhoneDesk) [
      .handler (.sendSms Net.sampleDraws ⟨9⟩ sampleSms),
      .insertSms (sentRow ⟨9⟩ sampleSms Net.sampleDraws.now) none] := by
  apply (history_complete_iff sampleContext (fun _ ↦ "") samplePhoneDesk ?_ _).mpr
  · refine ⟨trivial, fun s hs ↦ ⟨?_, fun _ _ ↦ trivial⟩⟩
    cases hs
    intro _ request hrequest
    have hone : request ∈ [sentRequest ⟨9⟩ sampleSms] := hrequest
    obtain rfl := List.mem_singleton.mp hone
    rw [if_pos ⟨rfl, List.mem_singleton_self _⟩]
    exact fun _ _ ↦ .inl (rowOf_sentRow ..)
  · intro row hrow
    cases hrow

/-- A quick reply of a display is queued and not recorded. -/
theorem quick_reply_is_not_recorded :
    ¬ ∀ (ctx : WsContext) (statementMessage : StatementError → String) (hub : Hub DeskStore)
      (labels : List SmsLabel),
      (∀ row ∈ hub.center.store.db.smsMessages.rows, row.direction ≠ "out") →
      Run.Always (step ctx statementMessage) Complete (start hub) labels := by
  intro h
  have hcomplete := ((h sampleContext (fun _ ↦ "") samplePhoneDesk
    [.handler (.action Net.sampleDraws sampleReply)] (fun row hrow ↦ by cases hrow)).2 _ rfl).first
  have hrequest : sentRequest Net.sampleDraws.freshId sampleSms ∈
      ((start samplePhoneDesk).replyRequest sampleContext Net.sampleDraws sampleReply).toList ++
        [] := by
    rw [replyRequest_sampleReply]
    exact List.mem_singleton_self _
  obtain ⟨row, hrow, -⟩ | hone := hcomplete.recorded _ hrequest
  · cases hrow
  · obtain ⟨row, hrow, -⟩ := (stored_iff _ _).mp hone
    change row ∈ (handleDisplayAction _ _ _ _ _).store.db.smsMessages.rows at hrow
    rw [smsMessages_handleDisplayAction] at hrow
    cases hrow

end SmsDesk

end PhoneBridge.MessageCenter
