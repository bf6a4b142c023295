import PhoneBridge.MessageCenter.DisplayResults

/-!
# Actions that are refused as bad requests

With the phone connected, an action is answered with `bad_request` exactly when its kind is unknown
or it is a reply without a recipient or without a text. No other failure is reported under that code.
-/

namespace PhoneBridge.MessageCenter

open Library Proto Net Storage

namespace DisplayTask

/-- The message of a result, as a display reads it. -/
def messageOf (event : DisplayEvent) : Option String :=
  (event.payload.get "message").bind Json.asStr

/-- The result says `bad_request`. -/
def SaysBadRequest (event : DisplayEvent) : Prop :=
  ∃ message, messageOf event = some message ∧ "bad_request".toList <+: message.toList

/-- The action has a known kind and all that its kind requires. -/
def WellFormed (action : DisplayAction) : Prop :=
  action.kind = "notification.read" ∨ (actionRequest action).isSome

section Codes

variable (action : DisplayAction) (ok : Bool) (now : Int64)

theorem messageOf_resultEvent (code message : String) :
    messageOf (resultEvent action ok (some code) (some message) now) =
      some (code ++ ": " ++ message) := rfl

theorem saysBadRequest_bad_request (message : String) :
    SaysBadRequest (resultEvent action ok (some "bad_request") (some message) now) := by
  refine ⟨_, messageOf_resultEvent action ok now _ message, ?_⟩
  rw [String.append_assoc, String.toList_append]
  exact List.prefix_append _ _

/-- Another code is not taken for `bad_request`. -/
theorem not_saysBadRequest {code : String} (message : String)
    (hcode : ∀ rest, ¬ "bad_request".toList <+: code.toList ++ rest) :
    ¬ SaysBadRequest (resultEvent action ok (some code) (some message) now) := by
  rintro ⟨text, htext, hprefix⟩
  rw [messageOf_resultEvent] at htext
  cases htext
  rw [String.append_assoc, String.toList_append] at hprefix
  exact hcode _ hprefix

theorem not_saysBadRequest_success :
    ¬ SaysBadRequest (resultEvent action ok none none now) := by
  rintro ⟨text, htext, -⟩
  cases htext

end Codes

/-- Every event that the task publishes has the property. -/
abbrev Publishes {α : Type} (task : Task α) (good : DisplayEvent → Prop) : Prop :=
  Leaves task fun _ effects ↦ ∀ event ∈ publishedOf effects, good event

section Publishing

variable {α β : Type} {good : DisplayEvent → Prop} (script : Nat → DisplayMoment)

theorem Publishes.bind {task : Task α} {next : α → Task β} (h : Publishes task good)
    (hnext : ∀ a, Publishes (next a) good) : Publishes (task >>= next) good := by
  apply Emits.bind h
  intro a first hfirst
  apply (hnext a).mono
  intro _ second hsecond event hevent
  rw [publishedOf, List.filterMap_append, List.mem_append] at hevent
  exact hevent.elim (hfirst event) (hsecond event)

theorem publishes_of_nothing {task : Task α}
    (h : Leaves task fun _ effects ↦ publishedOf effects = []) : Publishes task good :=
  h.mono fun _ effects hnone event hevent ↦ by simp [hnone] at hevent

theorem publishes_pure (a : α) : Publishes (pure a : Task α) good :=
  Emits.pure fun _ hevent ↦ by cases hevent

theorem publishes_statement (query : Int64 → Db → Except DbError (α × Db)) :
    Publishes (statement script query) good := by
  apply publishes_of_nothing
  apply (leaves_statement script query).mono
  rintro _ _ ⟨⟨updates, rfl⟩, -⟩
  simp [publishedOf]

theorem publishes_trySend (deviceId : Uuid) (env : Envelope) :
    Publishes (trySend script deviceId env) good := by
  apply publishes_of_nothing
  apply (leaves_trySend script deviceId env).mono
  rintro sent _ ⟨looked, htried⟩
  cases sent with
  | error e => rw [htried]; rfl
  | ok =>
    obtain ⟨conn, before, -, -, rfl⟩ := htried
    rfl

theorem publishes_newEnvelope (ctx : WsContext) (messageType : MessageType) (payload : Json) :
    Publishes (newEnvelope script ctx messageType payload) good :=
  publishes_of_nothing ((leaves_newEnvelope script ctx messageType payload).mono
    fun _ _ h ↦ by rw [h.1]; rfl)

theorem publishes_result {action : DisplayAction} {ok : Bool} {code message : Option String}
    (h : ∀ now, good (resultEvent action ok code message now)) :
    Publishes (publishActionResult script action ok code message) good := by
  apply (leaves_publish script _).mono
  rintro _ _ ⟨now, rfl⟩ event hevent
  obtain rfl : event = _ := List.mem_singleton.mp hevent
  exact h now

end Publishing

section Handlers

variable (ctx : WsContext) (statementMessage : StatementError → String)
  (script : Nat → DisplayMoment) (action : DisplayAction)

/-- A delivery may fail, but not as a bad request. -/
theorem deliver_never_bad_request (messageType : MessageType) (payload : Json) {sent : Task Unit}
    (hsent : ∀ good, Publishes sent good) :
    Publishes (deliver ctx script action messageType payload sent) fun event ↦
      ¬ SaysBadRequest event := by
  apply (publishes_newEnvelope script ctx messageType payload).bind
  intro built
  cases built with
  | error e =>
    exact publishes_result script fun now ↦ not_saysBadRequest action false now _ (by simp)
  | ok env =>
    apply (publishes_trySend script action.deviceId env).bind
    intro sent
    cases sent with
    | error e =>
      exact publishes_result script fun now ↦ not_saysBadRequest action false now _ (by simp)
    | ok =>
      apply (hsent _).bind
      intro _
      exact publishes_result script fun now ↦ not_saysBadRequest_success action true now

/-- An action with all that its kind requires is not refused as a bad request. -/
theorem dispatch_never_bad_request (hwell : WellFormed action) :
    Publishes (dispatch ctx statementMessage script action) fun event ↦
      ¬ SaysBadRequest event := by
  unfold dispatch
  split
  next hkind =>
    have hrequest : (actionRequest action).isSome := by
      rcases hwell with hread | hrequest
      · rw [hkind] at hread
        exact absurd hread (by decide)
      · exact hrequest
    simp only [actionRequest, hkind] at hrequest
    unfold doSmsReply
    cases hrecipient : action.recipient.filter (· ≠ "") with
    | none =>
      rw [hrecipient] at hrequest
      cases hrequest
    | some recipient =>
      cases hbody : action.body.filter (· ≠ "") with
      | none =>
        rw [hrecipient, hbody] at hrequest
        cases hrequest
      | some body =>
        apply deliver_never_bad_request
        intro good
        exact (publishes_statement script _).bind fun _ ↦ publishes_pure ()
  next hkind =>
    apply (publishes_statement script _).bind
    intro marked
    cases marked with
    | error e =>
      exact publishes_result script fun now ↦ not_saysBadRequest action false now _ (by simp)
    | ok => exact publishes_result script fun now ↦ not_saysBadRequest_success action true now
  next hkind =>
    apply deliver_never_bad_request
    intro good
    exact (publishes_statement script _).bind fun _ ↦ publishes_pure ()
  next hkind => exact deliver_never_bad_request ctx script action _ _ fun _ ↦ publishes_pure ()
  next hkind => exact deliver_never_bad_request ctx script action _ _ fun _ ↦ publishes_pure ()
  next hreply hread hdismiss hanswer hend =>
    exfalso
    rcases hwell with hkind | hrequest
    · exact hread hkind
    · unfold actionRequest at hrequest
      split at hrequest
      next hkind => exact hreply hkind
      next hkind => exact hdismiss hkind
      next hkind => exact hanswer hkind
      next hkind => exact hend hkind
      next => cases hrequest

/-- An action that lacks something, or is of an unknown kind, is refused as a bad request. -/
theorem dispatch_bad_request (hill : ¬ WellFormed action) :
    Publishes (dispatch ctx statementMessage script action) SaysBadRequest := by
  have hread : action.kind ≠ "notification.read" := fun h ↦ hill (.inl h)
  have hrequest : actionRequest action = none := by
    by_contra h
    exact hill (.inr (Option.isSome_iff_ne_none.mpr h))
  unfold dispatch
  split
  next hkind =>
    simp only [actionRequest, hkind] at hrequest
    unfold doSmsReply
    cases hrecipient : action.recipient.filter (· ≠ "") with
    | none => exact publishes_result script fun now ↦ saysBadRequest_bad_request action false now _
    | some recipient =>
      cases hbody : action.body.filter (· ≠ "") with
      | none =>
        exact publishes_result script fun now ↦ saysBadRequest_bad_request action false now _
      | some body =>
        rw [hrecipient, hbody] at hrequest
        cases hrequest
  next hkind => exact absurd hkind hread
  next hkind => simp [actionRequest, hkind] at hrequest
  next hkind => simp [actionRequest, hkind] at hrequest
  next hkind => simp [actionRequest, hkind] at hrequest
  next => exact publishes_result script fun now ↦ saysBadRequest_bad_request action false now _

end Handlers

/-- No run that finds the phone connected answers the action with a bad request. -/
def NeverBadRequest (ctx : WsContext) (statementMessage : StatementError → String)
    (action : DisplayAction) : Prop :=
  ∀ (script : Nat → DisplayMoment) (world : DisplayWorld) (effects : List DisplayEffect),
    ((handleDisplayAction ctx statementMessage script action).run world).2.trace =
      world.trace ++ effects →
    (∀ registry ∈ checksOf effects, registry.isConnected action.deviceId = true) →
    ∀ event ∈ publishedOf effects, ¬ SaysBadRequest event

/-- A run that finds the phone connected publishes one result, and that result says whether the
action is well-formed. -/
theorem result_of_connected (ctx : WsContext) (statementMessage : StatementError → String)
    (script : Nat → DisplayMoment) (action : DisplayAction) :
    Leaves (handleDisplayAction ctx statementMessage script action) fun _ effects ↦
      (∀ registry ∈ checksOf effects, registry.isConnected action.deviceId = true) →
      ∃ result, publishedOf effects = [result] ∧ (SaysBadRequest result ↔ ¬ WellFormed action) := by
  apply (leaves_isConnected script action.deviceId).bind
  rintro connected _ ⟨registry, hconnected, rfl⟩
  cases connected with
  | false =>
    apply (leaves_publishPhoneOffline script action).mono
    intro _ effects _ hall
    have hregistered := hall registry (by simp [checksOf])
    rw [hconnected] at hregistered
    cases hregistered
  | true =>
    have hsettled := settled_dispatch ctx statementMessage script action
    by_cases hwell : WellFormed action
    · have hnever := dispatch_never_bad_request ctx statementMessage script action hwell
      apply (hsettled.and hnever).mono
      rintro _ effects ⟨⟨-, ok, result, hpublished, -⟩, hnever⟩ -
      have hresult := hnever result (by simp [hpublished])
      exact ⟨result, hpublished, iff_of_false hresult (not_not.mpr hwell)⟩
    · apply (hsettled.and (dispatch_bad_request ctx statementMessage script action hwell)).mono
      rintro _ effects ⟨⟨-, ok, result, hpublished, -⟩, hbad⟩ -
      have hresult := hbad result (by simp [hpublished])
      exact ⟨result, hpublished, iff_of_true hresult hwell⟩

/-- The phone says hello before every operation. -/
def phoneStays (deviceId : Uuid) (_moment : Nat) : DisplayMoment where
  meanwhile center := { center with registry := center.registry.register deviceId 0 }
  now := 0
  freshId := .nil
  outage := none
  buildFailure := none

theorem connected_of_phoneStays (ctx : WsContext) (statementMessage : StatementError → String)
    (action : DisplayAction) :
    Leaves (handleDisplayAction ctx statementMessage (phoneStays action.deviceId) action)
      fun _ effects ↦
        ∀ registry ∈ checksOf effects, registry.isConnected action.deviceId = true := by
  have hchecked : Leaves (isConnected (phoneStays action.deviceId) action.deviceId)
      fun connected effects ↦ connected = true ∧ ∃ registry : DeviceRegistry,
        registry.isConnected action.deviceId = true ∧ effects = [.checked registry] := by
    intro world
    have hconnected : (world.center.registry.register action.deviceId 0).isConnected
        action.deviceId = true := by
      simp [DeviceRegistry.isConnected]
    exact ⟨_, rfl, hconnected, _, hconnected, rfl⟩
  apply hchecked.bind
  rintro connected _ ⟨rfl, registry, hconnected, rfl⟩
  apply (settled_dispatch ctx statementMessage _ action).mono
  rintro _ effects ⟨hchecks, -⟩ other hother
  have hsame : other = registry := by
    simpa [checksOf, show effects.filterMap _ = [] from hchecks] using hother
  rw [hsame]
  exact hconnected

/-- An action is never refused as a bad request exactly when it is well-formed. -/
theorem neverBadRequest_iff (ctx : WsContext) (statementMessage : StatementError → String)
    (action : DisplayAction) :
    NeverBadRequest ctx statementMessage action ↔ WellFormed action := by
  constructor
  · intro hnever
    by_contra hill
    let world : DisplayWorld := {
      center := {
        sessions := .empty
        registry := { inner := .empty, outboxes := fun _ ↦ .new }
        store := { db := .empty, displayBus := [] } }
      moment := 0
      trace := [] }
    obtain ⟨effects, htrace, hconnected, hresult⟩ :=
      (connected_of_phoneStays ctx statementMessage action).and
        (result_of_connected ctx statementMessage (phoneStays action.deviceId) action) world
    obtain ⟨result, hpublished, hdenotes⟩ := hresult hconnected
    exact hnever _ world effects htrace hconnected result (by simp [hpublished]) (hdenotes.mpr hill)
  · intro hwell script world effects htrace hconnected event hevent hbad
    obtain ⟨effects', htrace', hresult⟩ :=
      result_of_connected ctx statementMessage script action world
    obtain rfl : effects' = effects := List.append_cancel_left (htrace'.symm.trans htrace)
    obtain ⟨result, hpublished, hdenotes⟩ := hresult hconnected
    rw [hpublished, List.mem_singleton] at hevent
    subst hevent
    exact hdenotes.mp hbad hwell

end DisplayTask

end PhoneBridge.MessageCenter
